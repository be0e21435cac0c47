import OAuthClient.Proofs.Session.Run
import OAuthClient.Proofs.Store.Outcome

/-!
# When a handle gives a request

A call that builds a request gives one that was built, as it was encoded, or one that is empty and keeps the failure. There is one
exception: a page for the browser whose endpoint cannot be cut into parts, which a URL that was taken as an endpoint may be.
-/

namespace OAuthClient

/-- A request is as it was encoded: it has the URL and the fields, or it keeps the failure and is empty. -/
def Request.Carries (r : Request) : Except Failure (String × Option (List (String × String))) → Prop
  | .ok target => r.failure? = none ∧ r.uri = target.1 ∧ r.params? = target.2
  | .error f => r.failure? = some f ∧ r.uri = "" ∧ r.params?.getD [] = []

namespace Handle

variable {σ : Type}

/-- What a call that builds a request encodes from a store: the URL, and the fields where it is a form. -/
def encoded? (g : Grant) (s : Store Token) : Call → Option (Except Fault (String × Option (List (String × String))))
  | .url => none
  | .authorizationUrl => none
  | .browserAuthorization => some ((Store.authorizationUrl g s).result.map fun u => (u, none))
  | .accessToken => form .accessToken
  | .refreshToken => form .refreshToken
  | .authorization => form .authorization
where
  form (ph : Phase) : Option (Except Fault (String × Option (List (String × String)))) :=
    some ((Store.formRequest g ph s).result.map fun r => (r.uri, some r.params))

/-- A request that is built from a result carries it, unless the result is a fault that is no failure of the library. -/
theorem build_cases {α : Type} (result : Except Fault α) (make : Except Failure α → Request)
    (target : α → String × Option (List (String × String))) (hok : ∀ a, (make (.ok a)).Carries (.ok (target a)))
    (herror : ∀ f, (make (.error f)).Carries (.error f)) :
    (∃ fault, result = .error fault ∧ (∀ f, fault ≠ .failure f) ∧
      ((keepFailure result).map make).map Answer.request = .error fault) ∨
    ∃ r kept, keepFailure (result.map target) = .ok kept ∧
      ((keepFailure result).map make).map Answer.request = .ok (.request r) ∧ r.Carries kept := by
  cases result with
  | ok a => exact Or.inr ⟨make (.ok a), .ok (target a), rfl, rfl, hok a⟩
  | error fault =>
    cases fault with
    | failure f => exact Or.inr ⟨make (.error f), .error f, rfl, rfl, herror f⟩
    | _ => exact Or.inl ⟨_, rfl, fun _ => Fault.noConfusion, rfl⟩

/-- A form is always given, built or with the failure that it keeps. -/
theorem formOutcome_ok (g : Grant) (nonblocking : Bool) (s : Store Token) (ph : Phase) :
    ∃ r kept, (encoded?.form g s ph).map keepFailure = some (.ok kept) ∧
      (formOutcome g nonblocking s ph).map Answer.request = .ok (.request r) ∧ r.Carries kept := by
  rcases build_cases (Store.formRequest g ph s).result (.form nonblocking) (fun r => (r.uri, some r.params))
      (fun _ => ⟨rfl, rfl, rfl⟩) (fun _ => ⟨rfl, rfl, rfl⟩) with
    ⟨fault, hfault, hnot, _⟩ | ⟨r, kept, hkept, hresult, hcarries⟩
  · obtain ⟨f, rfl⟩ := Store.formRequest_fault hfault
    exact absurd rfl (hnot f)
  · exact ⟨r, kept, congrArg some hkept, hresult, hcarries⟩

/-- A page for the browser is given unless the store is blocked, and then the flaw of its endpoint comes up. -/
theorem browserOutcome_cases (g : Grant) (s : Store Token) :
    (∃ flaw, Store.Blocked g flaw s ∧ (browserOutcome g s).map Answer.request = .error (.uri flaw)) ∨
    (∀ flaw, ¬ Store.Blocked g flaw s) ∧
      ∃ r kept, keepFailure ((Store.authorizationUrl g s).result.map fun u => (u, none)) = .ok kept ∧
        (browserOutcome g s).map Answer.request = .ok (.request r) ∧ r.Carries kept := by
  rcases build_cases (Store.authorizationUrl g s).result .browser (fun u => (u, none))
      (fun _ => ⟨rfl, rfl, rfl⟩) (fun _ => ⟨rfl, rfl, rfl⟩) with
    ⟨fault, hfault, hnot, hresult⟩ | ⟨r, kept, hkept, hresult, hcarries⟩
  · rcases Store.authorizationUrl_fault hfault with ⟨f, rfl⟩ | ⟨flaw, rfl, hblocked⟩
    · exact absurd rfl (hnot f)
    · exact Or.inl ⟨flaw, hblocked, hresult⟩
  · refine Or.inr ⟨?_, r, kept, hkept, hresult, hcarries⟩
    intro flaw hblocked
    rw [Store.authorizationUrl_uri_iff.mpr hblocked] at hkept
    cases hkept

/-- The result of a call that builds a request is right: it is a fault only where a page for the browser is built from a blocked
store, and then the flaw of the endpoint, and in all other cases it is a request that is as it was encoded. -/
structure Builds (g : Grant) (s : Store Token) (c : Call) (encoded : Except Fault (String × Option (List (String × String))))
    (result : Except Fault Answer) : Prop where
  fails : ∀ fault, result = .error fault ↔
    c = .browserAuthorization ∧ ∃ flaw, fault = .uri flaw ∧ Store.Blocked g flaw s
  gives : ¬ (c = .browserAuthorization ∧ ∃ flaw, Store.Blocked g flaw s) →
    ∃ r kept, keepFailure encoded = .ok kept ∧ result = .ok (.request r) ∧ r.Carries kept

variable {g : Grant} {s : Store Token} {c : Call} {encoded : Except Fault (String × Option (List (String × String)))}

/-- A result that is a request of another kind than a page for the browser is right. -/
theorem Builds.of_form {nonblocking : Bool} {ph : Phase} (hc : c ≠ .browserAuthorization)
    (henc : encoded?.form g s ph = some encoded) : Builds g s c encoded ((formOutcome g nonblocking s ph).map .request) := by
  obtain ⟨r, kept, hkept, hresult, hcarries⟩ := formOutcome_ok g nonblocking s ph
  rw [henc, Option.map_some, Option.some.injEq] at hkept
  rw [hresult]
  constructor
  · intro fault
    simp [hc]
  · intro _
    exact ⟨r, kept, hkept, rfl, hcarries⟩

/-- A page for the browser is right. -/
theorem Builds.of_browser (g : Grant) (s : Store Token) :
    Builds g s .browserAuthorization ((Store.authorizationUrl g s).result.map fun u => (u, none))
      ((browserOutcome g s).map .request) := by
  rcases browserOutcome_cases g s with ⟨flaw, hblocked, hresult⟩ | ⟨hfree, r, kept, hkept, hresult, hcarries⟩
  · rw [hresult]
    constructor
    · intro fault
      constructor
      · intro he
        cases he
        exact ⟨rfl, flaw, rfl, hblocked⟩
      · rintro ⟨_, flaw', rfl, hblocked'⟩
        rw [Store.blocked_unique hblocked hblocked']
    · intro hfree
      exact absurd ⟨rfl, flaw, hblocked⟩ hfree
  · rw [hresult]
    constructor
    · intro fault
      constructor
      · intro he
        cases he
      · rintro ⟨_, flaw, _, hblocked⟩
        exact absurd hblocked (hfree flaw)
    · intro _
      exact ⟨r, kept, hkept, rfl, hcarries⟩

/-- Every call that builds a request, on every handle that offers it and wherever it is made, gives what it should, unless it is for
a page and the store of the handle is blocked. -/
theorem call_builds (h : Handle) (hoffers : h.offers c = true) (henc : encoded? h.grant h.store c = some encoded) (t : σ) :
    Builds h.grant h.store c encoded (h.call c t).result := by
  obtain ⟨records, hrun⟩ := h.call_apply (σ := σ) hoffers
  rw [hrun]
  cases c with
  | url => cases henc
  | authorizationUrl => cases henc
  | browserAuthorization =>
    cases henc
    exact Builds.of_browser h.grant h.store
  | accessToken => exact Builds.of_form (by decide) henc
  | refreshToken => exact Builds.of_form (by decide) henc
  | authorization => exact Builds.of_form (by decide) henc

set_option maxRecDepth 10000 in
/-- An endpoint with a bracket that has no partner is taken, and blocks the store that has taken it. -/
theorem blocked_ofClient :
    (StoreSession.ofClient "app" "https://[").resolved.values .authorizationUrl = some "https://[" ∧
      Store.Blocked .tokenFlow .brackets (StoreSession.ofClient "app" "https://[").resolved := by
  refine ⟨by rfl, ?_⟩
  have hbuilds := call_builds (c := .browserAuthorization)
    ⟨.browserOnly, false, .tokenFlow, (StoreSession.ofClient "app" "https://[").resolved⟩ rfl rfl ()
  obtain ⟨_, flaw, he, hblocked⟩ := (hbuilds.fails (.uri .brackets)).mp (by rfl)
  cases he
  exact hblocked

set_option maxRecDepth 10000 in
/-- Not every call that builds a request gives one, even on a handle that was just made in a reachable session. -/
theorem not_every_call_gives_a_request :
    ¬ ∀ f : StoreSession, f.Reachable → ∀ choice nonblocking h, select? choice nonblocking f.resolved = some h →
      ∀ c, h.offers c = true → (encoded? h.grant h.store c).isSome = true → ∃ r, (h.call c f).result = .ok (.request r) := by
  intro hall
  obtain ⟨r, hr⟩ := hall (StoreSession.ofClient "app" "https://[") (StoreSession.reachable_ofClient _ _) "token_flow" false _ rfl
    .browserAuthorization rfl rfl
  have hfails : (call (⟨.browserOnly, false, .tokenFlow, (StoreSession.ofClient "app" "https://[").resolved⟩ : Handle)
      .browserAuthorization (StoreSession.ofClient "app" "https://[")).result = .error (.uri .brackets) := by rfl
  rw [hfails] at hr
  cases hr

end Handle

end OAuthClient
