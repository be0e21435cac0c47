import OAuthClient.Handle
import OAuthClient.Proofs.Act

/-!
# Calls on a handle

What a call on a handle comes to. It depends on the store of the handle alone, and whatever state it runs on stays as it is.
-/

namespace OAuthClient.Handle

variable {σ α : Type}

/-- A result in which a failure of the library is kept as a value. Other faults stay faults. -/
def keepFailure : Except Fault α → Except Fault (Except Failure α)
  | .ok a => .ok (.ok a)
  | .error (.failure f) => .ok (.error f)
  | .error fault => .error fault

/-- The page for the browser that is built from a store, with a failure of the library kept in the request. -/
def browserOutcome (g : Grant) (s : Store Token) : Except Fault Request :=
  (keepFailure (Store.authorizationUrl g s).result).map .browser

/-- The form for a phase that is built from a store, with a failure of the library kept in the request. -/
def formOutcome (g : Grant) (nonblocking : Bool) (s : Store Token) (ph : Phase) : Except Fault Request :=
  (keepFailure (Store.formRequest g ph s).result).map (.form nonblocking)

/-- What a call gives that builds from a store. -/
def outcome (g : Grant) (nonblocking : Bool) (s : Store Token) : Call → Except Fault Answer
  | .url => (Store.authorizationUrl g s).result.map .url
  | .authorizationUrl => (Store.authorizationUrl g s).result.map .url
  | .browserAuthorization => (browserOutcome g s).map .request
  | .accessToken => (formOutcome g nonblocking s .accessToken).map .request
  | .refreshToken => (formOutcome g nonblocking s .refreshToken).map .request
  | .authorization => (formOutcome g nonblocking s .authorization).map .request

/-- Keeping the failure of an act on a copy. -/
theorem attempt_onCopy (h : Handle) (act : Act (Store Token) α) (t : σ) :
    Act.attempt (h.onCopy act) t = ⟨keepFailure (act h.store).result, t, (act h.store).records⟩ := by
  unfold Act.attempt onCopy
  dsimp only
  split <;> rename_i hr <;> rw [hr]
  · rfl
  · rfl
  · next hfault =>
    rename_i fault
    cases fault with
    | failure f => exact absurd rfl (hfault f)
    | _ => rfl

/-- What the log is told about a request that could not be built. -/
def notBuilt (message : Failure → String) : Except Fault (Except Failure α) → List Log.Record
  | .ok (.error f) => [⟨.debug, Log.requestLogger, message f⟩]
  | _ => []

/-- Building a request from a copy, when all that is done with a failure is to tell the log and to keep it in the request. -/
theorem build_apply (h : Handle) (act : Act (Store Token) α) {next : Except Failure α → Act σ Request}
    {make : Except Failure α → Request} {message : Failure → String}
    (hok : ∀ a t, next (.ok a) t = ⟨.ok (make (.ok a)), t, []⟩)
    (herror : ∀ f t, next (.error f) t = ⟨.ok (make (.error f)), t, [⟨.debug, Log.requestLogger, message f⟩]⟩) (t : σ) :
    (Act.attempt (h.onCopy act) >>= next) t =
      ⟨(keepFailure (act h.store).result).map make, t,
        (act h.store).records ++ notBuilt message (keepFailure (act h.store).result)⟩ := by
  have hattempt := attempt_onCopy h act t
  cases hr : keepFailure (act h.store).result with
  | error fault =>
    rw [hr] at hattempt
    rw [Act.bind_of_error hattempt]
    simp [notBuilt, Except.map]
  | ok target =>
    rw [hr] at hattempt
    rw [Act.bind_of_ok hattempt]
    cases target with
    | ok a => rw [hok]; rfl
    | error f => rw [herror]; rfl

/-- Building a page for the browser. -/
theorem browserRequest_apply (h : Handle) :
    ∃ records, ∀ t : σ, h.browserRequest t = ⟨browserOutcome h.grant h.store, t, records⟩ :=
  ⟨_, build_apply h (Store.authorizationUrl h.grant) (fun _ _ => rfl) (fun _ _ => rfl)⟩

/-- Building a form for a phase. -/
theorem formRequest_apply (h : Handle) (ph : Phase) :
    ∃ records, ∀ t : σ, h.formRequest ph t = ⟨formOutcome h.grant h.nonblocking h.store ph, t, records⟩ :=
  ⟨_, build_apply h (Store.formRequest h.grant ph) (fun _ _ => rfl) (fun _ _ => rfl)⟩

/-- A call that a handle offers gives what is built from its store, tells the log the same wherever it is made, and leaves the state
it is made on as it is. -/
theorem call_apply (h : Handle) {c : Call} (hc : h.offers c = true) :
    ∃ records, ∀ t : σ, h.call c t = ⟨outcome h.grant h.nonblocking h.store c, t, records⟩ := by
  -- an answer that is made of what another act gives
  have hanswer : ∀ {β : Type} {act : Act σ β} {result : Except Fault β} (make : β → Answer),
      (∃ records, ∀ t, act t = ⟨result, t, records⟩) →
      ∃ records, ∀ t, (act >>= fun b => Act.pure (make b)) t = ⟨result.map make, t, records⟩ := by
    rintro β act result make ⟨records, hact⟩
    refine ⟨records, fun t => ?_⟩
    rw [Act.bind_pure_apply, hact]
  have hurl := hanswer .url ⟨_, fun t => Eq.refl (h.authorizationUrl t)⟩
  unfold call
  simp only [hc, if_true]
  cases c with
  | url => exact hurl
  | authorizationUrl => exact hurl
  | browserAuthorization => exact hanswer .request h.browserRequest_apply
  | accessToken => exact hanswer .request (h.formRequest_apply .accessToken)
  | refreshToken => exact hanswer .request (h.formRequest_apply .refreshToken)
  | authorization => exact hanswer .request (h.formRequest_apply .authorization)

/-- A call that a handle does not offer fails and leaves the state as it is. -/
theorem call_of_not_offers (h : Handle) {c : Call} (hc : h.offers c = false) (t : σ) :
    h.call c t = ⟨.error .unknownOperation, t, []⟩ := by
  unfold call
  rw [hc]
  rfl

/-! ## The handle for a grant -/

/-- The name of the choice that a store offers for a grant. -/
def choiceFor (g : Grant) : String :=
  ((choices.find? fun c => c.2.2 = g).map (·.1)).getD ""

/-- A store offers a handle for every grant. -/
theorem select?_choiceFor (g : Grant) (nonblocking : Bool) (s : Store Token) :
    ∃ family, select? (choiceFor g) nonblocking s = some ⟨family, nonblocking, g, s⟩ := by
  cases g <;> exact ⟨_, rfl⟩

/-- A handle that was chosen is the one for its grant. -/
theorem of_select? {choice : String} {nonblocking : Bool} {s : Store Token} {h : Handle}
    (hh : select? choice nonblocking s = some h) :
    choice = choiceFor h.grant ∧ h.nonblocking = nonblocking ∧ h.store = s ∧
      (h.family = .browserOnly → (h.grant.rules .accessToken).supported = false ∧ (h.grant.rules .refreshToken).supported = false) := by
  have htable : ∀ c ∈ choices, c.1 = choiceFor c.2.2 ∧ (c.2.1 = .browserOnly →
      (c.2.2.rules .accessToken).supported = false ∧ (c.2.2.rules .refreshToken).supported = false) := by
    decide
  unfold select? at hh
  rw [Option.map_eq_some_iff] at hh
  obtain ⟨⟨family, grant⟩, hlookup, rfl⟩ := hh
  obtain ⟨before, after, hchoices, _⟩ := List.lookup_eq_some_iff.mp hlookup
  have hmem : (choice, family, grant) ∈ choices := by
    rw [hchoices]
    simp
  obtain ⟨hchoice, hfamily⟩ := htable _ hmem
  exact ⟨hchoice, rfl, rfl, hfamily⟩

/-- The call that asks for the form of a phase. -/
def Call.forPhase : Phase → Call
  | .authorization => .authorization
  | .accessToken => .accessToken
  | .refreshToken => .refreshToken

/-- A handle that was chosen offers the form for the token endpoint in every phase that its grant has. -/
theorem offers_forPhase {choice : String} {nonblocking : Bool} {s : Store Token} {h : Handle}
    (hh : select? choice nonblocking s = some h) {ph : Phase} (hph : ph ≠ .authorization)
    (hsup : (h.grant.rules ph).supported = true) : h.offers (.forPhase ph) = true := by
  obtain ⟨_, _, _, hbrowser⟩ := of_select? hh
  have hfamily : h.family ≠ .browserOnly := by
    intro he
    cases ph with
    | authorization => exact hph rfl
    | accessToken => exact Bool.noConfusion (hsup.symm.trans (hbrowser he).1)
    | refreshToken => exact Bool.noConfusion (hsup.symm.trans (hbrowser he).2)
  cases ph with
  | authorization => exact absurd rfl hph
  | accessToken => exact decide_eq_true hfamily
  | refreshToken => exact decide_eq_true hfamily

/-- Asking a handle for a form that can be built gives a request with the form. -/
theorem call_form {h : Handle} {ph : Phase} {r : FormRequest} (hoffers : h.offers (.forPhase ph) = true)
    (hr : (Store.formRequest h.grant ph h.store).result = .ok r) (t : σ) :
    (h.call (.forPhase ph) t).result = .ok (.request (.form h.nonblocking (.ok r))) := by
  obtain ⟨records, hrun⟩ := h.call_apply (σ := σ) hoffers
  have hform : formOutcome h.grant h.nonblocking h.store ph = .ok (.form h.nonblocking (.ok r)) := by
    rw [formOutcome, hr]
    rfl
  rw [hrun]
  cases ph <;> exact congrArg (Except.map Answer.request) hform

end OAuthClient.Handle
