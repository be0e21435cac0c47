import OAuthClient.Proofs.Session.Step

/-!
# The lifetime of a session's token

Steps are done on a token and the clock moves as it likes, forwards and backwards. A step either starts a lifetime or leaves lifetime
and times alone, apart from the two attributes by which a caller sets a time directly. So, whatever happened, the times of a token are
those of the last start, and the only step that ends at the end of the calendar is one that starts a lifetime which does not fit. All
this is so as long as the caller puts nothing in the place of a method: without the one that takes the time a lifetime can be set and
not be started.
-/

namespace OAuthClient.TokenSession

open OAuthClient.Clock OAuthClient.Token

/-! ## Runs -/

/-- What happens to a session. -/
inductive Event where
  /-- A step is done, whatever comes of it. -/
  | step (s : Step)
  /-- The clock shows another time. -/
  | clock (now : Instant)

/-- The session after an event. -/
def Event.apply (f : TokenSession) : Event → TokenSession
  | .step s => (perform s f).state
  | .clock now => { f with now := now }

/-- The session after some events. -/
def play (f : TokenSession) (events : List Event) : TokenSession :=
  events.foldl Event.apply f

/-- A step that starts a lifetime when it succeeds: it makes a token, sets the lifetime or takes the time anew. -/
def Step.starts : Step → Bool
  | .new .. | .construct _ | .ofJson _ | .ofSource .. | .ofResponse .. | .setLifetime _ | .stamp => true
  | .setAttribute name _ => name = "expires_in"
  | _ => false

/-- A step that sets one of the two times directly. -/
def Step.setsTime : Step → Bool
  | .setAttribute name _ => name = "timestamp" || name = "expires_on"
  | _ => false

/-- An event that sets one of the two times directly. -/
def Event.setsTime : Event → Bool
  | .step s => s.setsTime
  | .clock _ => false

/-- An event that puts something in the place of an attribute of the class. -/
def Event.overrides : Event → Bool
  | .step s => s.overrides
  | .clock _ => false

/-- The reading of the clock at an event that starts a lifetime and succeeds. -/
def Event.start? (f : TokenSession) : Event → Option Instant
  | .step s => if s.starts && (perform s f).result.isOk then some f.now else none
  | .clock _ => none

/-- The reading of the clock at the last of some events that starts a lifetime and succeeds. -/
def lastStart? (f : TokenSession) : List Event → Option Instant
  | [] => none
  | e :: rest => (lastStart? (e.apply f) rest).or (e.start? f)

/-- No step of a run ends at the end of the calendar. -/
def StaysInCalendar (f : TokenSession) : List Event → Prop
  | [] => True
  | .step s :: rest => (perform s f).result ≠ .error .beyondCalendar ∧ StaysInCalendar (perform s f).state rest
  | .clock now :: rest => StaysInCalendar { f with now := now } rest

/-- The token at hand, where there is one that has a method. -/
def having (f : TokenSession) (method : String) : Option Token :=
  f.token.filter (·.Has method)

/-- The token whose lifetime a step starts, before it is issued: one that was read, or the token at hand with the lifetime that is
to start, where the token has the methods for that. -/
def Step.started? (f : TokenSession) : Step → Option Token
  | .new tokenType lifetime accessToken scopes => (draftOfValues tokenType lifetime accessToken scopes).toOption
  | .construct members => (draft members).toOption
  | .ofJson data => (draftOfJson data).toOption
  | .ofSource source room => (draftOfSource source room).toOption
  | .ofResponse response room => (draftOfResponse response room).toOption
  | .setLifetime v => (f.having "with_expires_in").bind fun _ => relived v
  | .setAttribute name v => if name = "expires_in" then relived v else none
  | .stamp => f.having "gen_timestamp"
  | _ => none
where
  /-- The token at hand with a lifetime, where there is a token and the lifetime can be read. -/
  relived (v : Json) : Option Token :=
    (f.having "gen_timestamp").bind fun t => (lifetimeOf v).toOption.map fun n => { t with expiresIn := n }

/-- A session has the same reading of the clock and a token with the same lifetime and times, where it has a token. -/
structure SameTimes (f g : TokenSession) : Prop where
  now : g.now = f.now
  token : Option.Rel Token.SameTimes f.token g.token

/-! ## One step -/

/-- What a step does to the lifetime of the token: it starts one, it fails to start one that ends beyond the calendar, it leaves
lifetime and times alone, or it sets the lifetime of a token that has no method to start it. -/
inductive Outcome (step : Step) (f : TokenSession) : Prop where
  | started (t : Token) (answer : Answer) (h : step.started? f = some t) (hin : InCalendar (f.now + t.expiresIn * perSecond))
      (hresult : (perform step f).result = .ok answer)
      (hstate : (perform step f).state = { f with token := some (t.issuedAt f.now) })
  | beyond (t : Token) (h : step.started? f = some t) (hout : ¬ InCalendar (f.now + t.expiresIn * perSecond))
      (hresult : (perform step f).result = .error .beyondCalendar)
  | left (h : step.started? f = none) (hresult : (perform step f).result ≠ .error .beyondCalendar)
      (hstarts : step.starts = true → f.token ≠ none → (perform step f).result.isOk = false)
      (hstate : f.SameTimes (perform step f).state)
  | unstamped (t : Token) (htoken : f.token = some t) (hhas : ¬ t.Has "gen_timestamp") (h : step.started? f = none)
      (hstarts : step.starts = true) (hresult : (perform step f).result ≠ .error .beyondCalendar)

/-- A session has the times it has. -/
theorem SameTimes.refl (f : TokenSession) : f.SameTimes f := by
  refine ⟨rfl, ?_⟩
  cases f.token with
  | none => exact .none
  | some t => exact .some ⟨rfl, rfl, rfl⟩

/-- Making a token: what was read is issued, and where nothing can be read the session stays as it is. -/
theorem outcome_of_make {step : Step} {f : TokenSession} {make : Act TokenSession Token} {read : Except Fault Token}
    {records : List Log.Record} (hperform : perform step f = (make >>= replace) f)
    (hmake : make f = ⟨read.bind (issue f.now), f, records⟩) (hread : step.started? f = read.toOption)
    (hne : read ≠ .error .beyondCalendar) : Outcome step f := by
  cases read with
  | error fault =>
    have hrun : perform step f = ⟨.error fault, f, records⟩ := hperform.trans (Act.bind_of_error hmake _)
    refine .left hread ?_ ?_ ?_
    · rw [hrun]
      intro h
      exact hne (congrArg _ (Except.error.inj h))
    · intro _ _
      rw [hrun]
      rfl
    · rw [hrun]
      exact SameTimes.refl f
  | ok t =>
    by_cases hin : InCalendar (f.now + t.expiresIn * perSecond)
    · rw [Except.bind, issue_eq, if_pos hin] at hmake
      have hrun := hperform.trans (Act.bind_of_ok hmake replace)
      exact .started t .nothing hread hin (by rw [hrun]; rfl) (by rw [hrun]; rfl)
    · rw [Except.bind, issue_eq, if_neg hin] at hmake
      have hrun := hperform.trans (Act.bind_of_error hmake replace)
      exact .beyond t hread hin (by rw [hrun])

section

variable {step : Step} {f : TokenSession} (act : Instant → Act Token Answer)

/-- A step on the token where there is none. -/
theorem outcome_of_none (hperform : perform step f = onToken act f) (htoken : f.token = none) (hstarted : step.started? f = none) :
    Outcome step f := by
  have hrun : perform step f = ⟨.ok .noToken, f, []⟩ := by rw [hperform, onToken_none htoken]
  refine .left hstarted ?_ ?_ ?_
  · rw [hrun]
    exact nofun
  · intro _ hsome
    exact absurd htoken hsome
  · rw [hrun]
    exact SameTimes.refl f

/-- A step on the token that leaves its times alone and does not fail at the end of the calendar. -/
theorem outcome_of_left {t : Token} (hperform : perform step f = onToken act f) (htoken : f.token = some t)
    (hstarted : step.started? f = none) (hsame : t.SameTimes (act f.now t).state)
    (hresult : (act f.now t).result ≠ .error .beyondCalendar)
    (hstarts : step.starts = true → (act f.now t).result.isOk = false) : Outcome step f := by
  have hrun := onToken_some htoken act
  rw [← hperform] at hrun
  refine .left hstarted ?_ ?_ ?_
  · rw [hrun]
    exact hresult
  · intro hstart _
    rw [hrun]
    exact hstarts hstart
  · rw [hrun]
    refine ⟨rfl, ?_⟩
    rw [htoken]
    exact .some hsame

/-- A step on the token that fails for another reason than the calendar before anything changes. -/
theorem outcome_of_failed {t : Token} {fault : Fault} (hperform : perform step f = onToken act f) (htoken : f.token = some t)
    (hstarted : step.started? f = none) (hact : act f.now t = ⟨.error fault, t, []⟩) (hne : fault ≠ .beyondCalendar) :
    Outcome step f := by
  refine outcome_of_left act hperform htoken hstarted ?_ ?_ ?_
  · rw [hact]
    exact ⟨rfl, rfl, rfl⟩
  · rw [hact]
    exact fun he => hne (Except.error.inj he)
  · intro _
    rw [hact]
    rfl

/-- A step on the token that has nothing to do with its times. -/
theorem outcome_of_timeless (hperform : perform step f = onToken act f) (hstarted : step.started? f = none)
    (hstarts : step.starts = false) (hact : ∀ now, Timeless (act now)) : Outcome step f := by
  cases htoken : f.token with
  | none => exact outcome_of_none _ hperform htoken hstarted
  | some t =>
    obtain ⟨hsame, hresult⟩ := hact f.now t
    refine outcome_of_left act hperform htoken hstarted hsame hresult ?_
    rw [hstarts]
    exact nofun

/-- A step on the token that takes the time anew. -/
theorem outcome_of_stamp {t u : Token} (answer : Answer) (hperform : perform step f = onToken act f) (htoken : f.token = some t)
    (hstarted : step.started? f = some u)
    (hact : act f.now t =
      ⟨(stamp f.now u).result.map fun _ => answer, (stamp f.now u).state, (stamp f.now u).records⟩) :
    Outcome step f := by
  have hrun := onToken_some htoken act
  rw [← hperform, hact] at hrun
  by_cases hin : InCalendar (f.now + u.expiresIn * perSecond)
  · rw [stamp_of_inCalendar hin] at hrun
    exact .started u answer hstarted hin (by rw [hrun]; rfl) (by rw [hrun])
  · rw [stamp_of_beyond hin] at hrun
    exact .beyond u hstarted hin (by rw [hrun]; rfl)

end

/-- Without a token there is none that has a method. -/
theorem having_of_none {f : TokenSession} (htoken : f.token = none) (method : String) : f.having method = none := by
  rw [having, htoken]
  rfl

/-- The token at hand has a method. -/
theorem having_of_has {f : TokenSession} {t : Token} {method : String} (htoken : f.token = some t) (h : t.Has method) :
    f.having method = some t := by
  rw [having, htoken]
  exact Option.filter_some_pos (decide_eq_true h)

/-- The token at hand does not have a method. -/
theorem having_of_not_has {f : TokenSession} {t : Token} {method : String} (htoken : f.token = some t) (h : ¬ t.Has method) :
    f.having method = none := by
  rw [having, htoken]
  exact Option.filter_some_neg (by simpa using h)

/-- A method that is called and then answered for, on a token that does not have it. -/
theorem exists_of_not_has {method : String} {t : Token} (h : ¬ t.Has method) (act : Act Token Unit) (answer : Answer) :
    ∃ kind, (call method act >>= fun _ => Act.pure answer) t = ⟨.error (.operands (.call kind)), t, []⟩ := by
  obtain ⟨kind, hcall⟩ := call_of_not_has (α := Unit) h
  exact ⟨kind, Act.bind_of_error (hcall act) _⟩

/-- Setting the lifetime, as an attribute or by its own step where the token has the method for it. -/
theorem outcome_of_setLifetime {step : Step} {f : TokenSession} {v : Json} (answer : Answer)
    (hperform : perform step f = onToken (fun now => setLifetime now v >>= fun _ => Act.pure answer) f)
    (hstarted : step.started? f = Step.started?.relived f v) (hstarts : step.starts = true) : Outcome step f := by
  cases htoken : f.token with
  | none =>
    rw [Step.started?.relived, having_of_none htoken] at hstarted
    exact outcome_of_none _ hperform htoken hstarted
  | some t =>
    rw [Step.started?.relived] at hstarted
    have hact := Act.bind_pure_apply (setLifetime f.now v) (fun _ => answer) t
    cases hn : lifetimeOf v with
    | ok n =>
      rw [hn] at hstarted
      rw [setLifetime_of_ok hn] at hact
      by_cases hhas : t.Has "gen_timestamp"
      · rw [having_of_has htoken hhas] at hstarted
        rw [call_of_has (t := { t with expiresIn := n }) hhas] at hact
        exact outcome_of_stamp _ answer hperform htoken hstarted hact
      · rw [having_of_not_has htoken hhas] at hstarted
        obtain ⟨kind, hcall⟩ := call_of_not_has (α := Unit) (t := { t with expiresIn := n }) hhas
        rw [hcall] at hact
        refine .unstamped t htoken hhas hstarted hstarts ?_
        rw [hperform, onToken_some htoken, hact]
        exact nofun
    | error fault =>
      have hnone : step.started? f = none := by
        rw [hstarted, hn]
        exact Option.bind_fun_none _
      rw [setLifetime_of_error hn] at hact
      exact outcome_of_failed _ hperform htoken hnone hact fun he => lifetimeOf_ne_beyondCalendar v (hn.trans (congrArg _ he))

/-- Setting the lifetime by its own step. -/
theorem outcome_setLifetime (v : Json) (f : TokenSession) : Outcome (.setLifetime v) f := by
  have hperform : perform (.setLifetime v) =
      onToken fun now => call "with_expires_in" (setLifetime now v) >>= fun _ => Act.pure Answer.itself := rfl
  have hstarted : Step.started? f (.setLifetime v) = (f.having "with_expires_in").bind fun _ => Step.started?.relived f v := rfl
  cases htoken : f.token with
  | none =>
    rw [having_of_none htoken] at hstarted
    exact outcome_of_none _ (congrFun hperform f) htoken hstarted
  | some t =>
    by_cases hhas : t.Has "with_expires_in"
    · rw [having_of_has htoken hhas] at hstarted
      refine outcome_of_setLifetime .itself ?_ hstarted rfl
      rw [hperform, onToken_some htoken, onToken_some htoken, Act.bind_pure_apply, Act.bind_pure_apply, call_of_has hhas]
    · rw [having_of_not_has htoken hhas] at hstarted
      obtain ⟨kind, hact⟩ := exists_of_not_has hhas (setLifetime f.now v) .itself
      exact outcome_of_failed _ (congrFun hperform f) htoken hstarted hact nofun

/-- Taking the time anew by its own step. -/
theorem outcome_stamp (f : TokenSession) : Outcome .stamp f := by
  have hperform : perform .stamp = onToken fun now => call "gen_timestamp" (stamp now) >>= fun _ => Act.pure Answer.nothing := rfl
  have hstarted : Step.started? f .stamp = f.having "gen_timestamp" := rfl
  cases htoken : f.token with
  | none =>
    rw [having_of_none htoken] at hstarted
    exact outcome_of_none _ (congrFun hperform f) htoken hstarted
  | some t =>
    by_cases hhas : t.Has "gen_timestamp"
    · rw [having_of_has htoken hhas] at hstarted
      refine outcome_of_stamp _ .nothing (congrFun hperform f) htoken hstarted ?_
      rw [Act.bind_pure_apply, call_of_has hhas]
    · rw [having_of_not_has htoken hhas] at hstarted
      obtain ⟨kind, hact⟩ := exists_of_not_has hhas (stamp f.now) .nothing
      exact outcome_of_failed _ (congrFun hperform f) htoken hstarted hact nofun

/-- A look at the token that does not fail at the end of the calendar. -/
theorem outcome_of_look {step : Step} {f : TokenSession} (read : Instant → Token → Except Fault Answer)
    (hperform : perform step = look read) (hstarted : step.started? f = none) (hstarts : step.starts = false)
    (hread : ∀ now t, read now t ≠ .error .beyondCalendar) : Outcome step f :=
  outcome_of_timeless _ (congrFun hperform f) hstarted hstarts fun now => Timeless.get.bind fun t => Timeless.ofExcept (hread now t)

/-- A look at the token by one of its methods that does not fail at the end of the calendar. -/
theorem outcome_of_ask {step : Step} {f : TokenSession} {method : String} (read : Instant → Token → Except Fault Answer)
    (hperform : perform step = ask method read) (hstarted : step.started? f = none) (hstarts : step.starts = false)
    (hread : ∀ now t, read now t ≠ .error .beyondCalendar) : Outcome step f :=
  outcome_of_timeless _ (congrFun hperform f) hstarted hstarts fun now =>
    (Timeless.get.bind fun t => Timeless.ofExcept (hread now t)).call method

/-- A change of the token that has nothing to do with its times. -/
theorem outcome_of_change {step : Step} {f : TokenSession} (act : Act Token Unit) (answer : Answer)
    (hperform : perform step = onToken fun _ => act >>= fun _ => Act.pure answer) (hstarted : step.started? f = none)
    (hstarts : step.starts = false) (hact : Timeless act) : Outcome step f :=
  outcome_of_timeless _ (congrFun hperform f) hstarted hstarts fun _ => hact.bind fun _ => Timeless.pure answer

/-- Setting an attribute that is neither of the two times. -/
theorem outcome_of_setAttribute {name : String} {v : Json} (hsets : (Step.setAttribute name v).setsTime = false)
    (f : TokenSession) : Outcome (.setAttribute name v) f := by
  have hperform : perform (.setAttribute name v) = onToken fun now => setAttribute now name v >>= fun _ => Act.pure Answer.nothing :=
    rfl
  by_cases hname : name = "expires_in"
  · have hset (now : Instant) : setAttribute now name v = setLifetime now v := if_pos hname
    simp only [hset] at hperform
    exact outcome_of_setLifetime .nothing (congrFun hperform f) (if_pos hname) (decide_eq_true hname)
  · have htimes : ¬ (name = "timestamp" ∨ name = "expires_on") := by
      simpa [Step.setsTime] using hsets
    rw [not_or] at htimes
    refine outcome_of_timeless _ (congrFun hperform f) (if_neg hname) (decide_eq_false hname) fun now => ?_
    exact (timeless_setAttribute hname htimes.1 htimes.2 now v).bind fun _ => Timeless.pure _

/-- Every step that sets no time directly starts a lifetime, fails to start one that ends beyond the calendar, leaves lifetime and
times alone, or sets the lifetime of a token that has no method to start it. -/
theorem outcome (step : Step) (hsets : step.setsTime = false) (f : TokenSession) : Outcome step f := by
  cases step with
  | new tokenType lifetime accessToken scopes =>
    exact outcome_of_make rfl (congrArg (Run.mk · f []) (new_eq f.now tokenType lifetime accessToken scopes)) rfl
      (draftOfValues_ne_beyondCalendar _ _ _ _)
  | construct members =>
    exact outcome_of_make rfl (congrArg (Run.mk · f []) (construct_eq f.now members)) rfl (draft_ne_beyondCalendar _)
  | ofJson data =>
    exact outcome_of_make rfl (congrArg (Run.mk · f []) (ofJson_eq f.now data)) rfl (draftOfJson_ne_beyondCalendar _)
  | ofSource source room =>
    exact outcome_of_make rfl (congrArg (Run.mk · f []) (ofSource_eq f.now source room)) rfl (draftOfSource_ne_beyondCalendar _ _)
  | ofResponse response room =>
    obtain ⟨records, hmake⟩ := @ofResponse_eq TokenSession f.now response room
    exact outcome_of_make rfl (hmake f) rfl (draftOfResponse_ne_beyondCalendar _ _)
  | oauthError response room =>
    have hrun := perform_oauthError response room f
    refine .left rfl ?_ nofun ?_
    · rw [hrun]
      exact map_ne_beyondCalendar (oauthError_ne_beyondCalendar response room)
    · rw [hrun]
      exact SameTimes.refl f
  | setLifetime value => exact outcome_setLifetime value f
  | setAttribute name value => exact outcome_of_setAttribute hsets f
  | stamp => exact outcome_stamp f
  | setField field value =>
    refine outcome_of_change (call _ (Act.modify (setField field value))) .itself rfl rfl rfl ?_
    refine Timeless.call (Timeless.modify fun _ => ?_) _
    exact ⟨rfl, rfl, rfl⟩
  | setScopes value =>
    refine outcome_of_change (call _ do
      let items ← Session.lift (itemsOf value)
      Act.modify (Token.setField .scope (.arr items))) .itself rfl rfl rfl ?_
    refine Timeless.call ((Timeless.ofExcept (itemsOf_ne_beyondCalendar value)).bind fun _ => ?_) _
    exact Timeless.modify fun _ => ⟨rfl, rfl, rfl⟩
  | setIdToken source room =>
    refine outcome_of_change (do
      let t ← Session.lift (IdToken.ofSource source room)
      call "with_id_token" (Act.modify (Token.setField .idToken (.str t.idToken)))) .itself rfl rfl rfl ?_
    refine (Timeless.ofExcept (idToken_ne_beyondCalendar source room)).bind fun _ => Timeless.call (Timeless.modify fun _ => ?_) _
    exact ⟨rfl, rfl, rfl⟩
  | showSecrets shown =>
    refine outcome_of_change (call _ (Act.modify fun t => { t with showSecrets := shown })) .nothing rfl rfl rfl ?_
    refine Timeless.call (Timeless.modify fun _ => ?_) _
    exact ⟨rfl, rfl, rfl⟩
  | isExpired =>
    exact outcome_of_ask (fun now t => (t.isExpired now).map .flag) rfl rfl rfl fun now t =>
      map_ne_beyondCalendar (isExpired_ne_beyondCalendar now t)
  | elapsed =>
    exact outcome_of_ask (fun _ t => t.elapsed.map .duration) rfl rfl rfl fun _ t =>
      map_ne_beyondCalendar (elapsed_ne_beyondCalendar t)
  | timeLeft =>
    exact outcome_of_ask (fun now t => (t.timeLeft now).map .duration) rfl rfl rfl fun now t =>
      map_ne_beyondCalendar (timeLeft_ne_beyondCalendar now t)
  | readIdToken room =>
    exact outcome_of_ask (fun _ t => (t.readIdToken room).map .idToken) rfl rfl rfl fun _ t =>
      map_ne_beyondCalendar (readIdToken_ne_beyondCalendar t room)
  | bearerToken => exact outcome_of_ask (fun _ t => .ok (.value (t.values .accessToken))) rfl rfl rfl fun _ _ => nofun
  | describe => exact outcome_of_look (fun _ t => .ok (.text t.describe)) rfl rfl rfl fun _ _ => nofun
  | summary => exact outcome_of_look (fun _ t => .ok (.text t.summary)) rfl rfl rfl fun _ _ => nofun
  | copy => exact outcome_of_look (fun _ _ => .ok .nothing) rfl rfl rfl fun _ _ => nofun

/-- A step that starts no lifetime even when it succeeds has no token whose lifetime it starts. -/
theorem started?_eq_none {step : Step} (h : step.starts = false) (f : TokenSession) : step.started? f = none := by
  cases step with
  | setAttribute name value => exact if_neg (of_decide_eq_false h)
  | _ => first | rfl | cases h

/-- Setting a time directly starts no lifetime. -/
theorem starts_of_setsTime {step : Step} (h : step.setsTime = true) : step.starts = false := by
  cases step with
  | setAttribute name value =>
    have hname : name = "timestamp" ∨ name = "expires_on" := by simpa [Step.setsTime] using h
    rcases hname with rfl | rfl <;> rfl
  | _ => cases h

/-- Setting a time directly does not end at the end of the calendar. -/
theorem ne_beyondCalendar_of_setsTime {step : Step} (h : step.setsTime = true) (f : TokenSession) :
    (perform step f).result ≠ .error .beyondCalendar := by
  cases step with
  | setAttribute name value =>
    have hname : name = "timestamp" ∨ name = "expires_on" := by simpa [Step.setsTime] using h
    have hperform :
      perform (.setAttribute name value) = onToken fun now => setAttribute now name value >>= fun _ => Act.pure Answer.nothing :=
      rfl
    rw [hperform]
    cases htoken : f.token with
    | none => rw [onToken_none htoken]; exact nofun
    | some t =>
      rw [onToken_some htoken]
      rcases hname with rfl | rfl <;> exact nofun
  | _ => cases h

/-- A step ends at the end of the calendar exactly when it starts a lifetime that ends beyond it. -/
theorem beyondCalendar_iff (step : Step) (f : TokenSession) :
    (perform step f).result = .error .beyondCalendar ↔
      ∃ t, step.started? f = some t ∧ ¬ InCalendar (f.now + t.expiresIn * perSecond) := by
  cases hsets : step.setsTime with
  | true =>
    have hnone := started?_eq_none (starts_of_setsTime hsets) f
    refine ⟨fun h => absurd h (ne_beyondCalendar_of_setsTime hsets f), ?_⟩
    rintro ⟨t, ht, -⟩
    rw [hnone] at ht
    cases ht
  | false =>
    cases outcome step hsets f with
    | started t answer h hin hresult hstate =>
      rw [hresult, h]
      refine ⟨nofun, ?_⟩
      rintro ⟨t', ht, hout⟩
      cases ht
      exact absurd hin hout
    | beyond t h hout hresult => exact ⟨fun _ => ⟨t, h, hout⟩, fun _ => hresult⟩
    | left h hresult _ _ | unstamped _ _ _ h _ hresult =>
      refine ⟨fun he => absurd he hresult, ?_⟩
      rintro ⟨t, ht, -⟩
      rw [h] at ht
      cases ht

/-- A step that starts no lifetime does not end at the end of the calendar. -/
theorem ne_beyondCalendar_of_not_started {step : Step} {f : TokenSession} (h : step.started? f = none) :
    (perform step f).result ≠ .error .beyondCalendar := by
  intro he
  obtain ⟨t, ht, -⟩ := (beyondCalendar_iff step f).mp he
  rw [h] at ht
  cases ht

/-- A lifetime that is started where the calendar reaches gives the token its times, uncut. -/
theorem token_of_started {step : Step} {f : TokenSession} {t : Token} (h : step.started? f = some t)
    (hresult : (perform step f).result ≠ .error .beyondCalendar) :
    (perform step f).state = { f with token := some (t.issuedAt f.now) } := by
  have hsets : step.setsTime = false := by
    cases htrue : step.setsTime with
    | false => rfl
    | true =>
      rw [started?_eq_none (starts_of_setsTime htrue) f] at h
      cases h
  cases outcome step hsets f with
  | started t' answer h' hin _ hstate =>
    rw [h] at h'
    cases h'
    exact hstate
  | beyond t' h' hout hbeyond => exact absurd hbeyond hresult
  | left h' _ _ _ | unstamped _ _ _ h' _ _ =>
    rw [h] at h'
    cases h'

/-- A step that starts no lifetime and sets no time directly leaves lifetime and times alone. -/
theorem sameTimes_of_not_starts {step : Step} (hstarts : step.starts = false) (hsets : step.setsTime = false) (f : TokenSession) :
    f.SameTimes (perform step f).state := by
  have hnone := started?_eq_none hstarts f
  cases outcome step hsets f with
  | started t _ h _ _ _ =>
    rw [hnone] at h
    cases h
  | beyond t h _ _ =>
    rw [hnone] at h
    cases h
  | left _ _ _ hstate => exact hstate
  | unstamped _ _ _ _ hstarts' _ =>
    rw [hstarts] at hstarts'
    cases hstarts'

/-! ## What is overridden -/

/-- Nothing is overridden of the token of a session, where there is one. -/
def Bare (f : TokenSession) : Prop :=
  ∀ t, f.token = some t → t.overridden = []

/-- A step that puts nothing in the place of an attribute of the class leaves nothing overridden. -/
theorem Bare.perform {f : TokenSession} (h : f.Bare) {step : Step} (hstep : step.overrides = false) : (perform step f).state.Bare := by
  cases hmakes : step.makes with
  | true =>
    have hmade := makes_perform hmakes f
    generalize TokenSession.perform step f = run at hmade ⊢
    cases hmade with
    | made t records hfresh =>
      intro t' ht'
      cases ht'
      exact hfresh.bare
    | failed fault records => exact h
  | false =>
    have hleaves := map_token_perform hmakes indifferent_overridden (fun _ _ _ => rfl)
      (fun hoverrides => absurd (hstep.symm.trans hoverrides) Bool.false_ne_true) f
    intro t' ht'
    rw [ht'] at hleaves
    obtain ⟨t, ht, hsame⟩ := Option.map_eq_some_iff.mp hleaves.symm
    exact hsame.symm.trans (h t ht)

/-! ## Runs of steps -/

/-- The token of a session, where there is one, was issued at an instant that is known. -/
def IssuedWhen (f : TokenSession) (start : Option Instant) : Prop :=
  ∀ t, f.token = some t → ∃ u, start = some u ∧ t.IssuedAt u

/-- With the same times the token was issued when it was. -/
theorem IssuedWhen.of_sameTimes {f g : TokenSession} {start : Option Instant} (h : f.IssuedWhen start) (hsame : f.SameTimes g) :
    g.IssuedWhen start := by
  intro t ht
  have hrel := hsame.token
  rw [ht] at hrel
  cases hf : f.token with
  | none =>
    rw [hf] at hrel
    cases hrel
  | some t₀ =>
    rw [hf] at hrel
    cases hrel with
    | some hst =>
      obtain ⟨u, hu, hissued⟩ := h t₀ hf
      exact ⟨u, hu, hissued.of_sameTimes hst⟩

/-- One step keeps track of when the token was issued. -/
theorem IssuedWhen.perform {f : TokenSession} {start : Option Instant} (h : f.IssuedWhen start) (hbare : f.Bare) {step : Step}
    (hsets : step.setsTime = false) (hresult : (perform step f).result ≠ .error .beyondCalendar) :
    (perform step f).state.IssuedWhen ((Event.start? f (.step step)).or start) := by
  cases outcome step hsets f with
  | started t answer hstarted _ hok hstate =>
    have hstarts : step.starts = true := by
      cases hfalse : step.starts with
      | true => rfl
      | false =>
        rw [started?_eq_none hfalse f] at hstarted
        cases hstarted
    have hstart : Event.start? f (.step step) = some f.now := by
      rw [Event.start?, hstarts, hok]
      rfl
    rw [hstart, hstate]
    intro t' ht'
    cases ht'
    exact ⟨f.now, rfl, issuedAt_spec f.now t⟩
  | beyond t _ _ hbeyond => exact absurd hbeyond hresult
  | left hstarted _ hfails hstate =>
    by_cases hstart : (step.starts && (TokenSession.perform step f).result.isOk) = true
    · -- The step succeeded without starting a lifetime, so there was no token and there is none now.
      rw [Bool.and_eq_true] at hstart
      intro t ht
      have hrel := hstate.token
      cases hf : f.token with
      | none =>
        rw [hf, ht] at hrel
        cases hrel
      | some t₀ =>
        rw [hfails hstart.1 (by rw [hf]; exact nofun)] at hstart
        cases hstart.2
    · rw [Event.start?, if_neg hstart]
      exact h.of_sameTimes hstate
  | unstamped t htoken hhas _ _ _ => exact absurd (has_of_overridden (hbare t htoken) _) hhas

/-- A run keeps track of when the token was issued. -/
theorem IssuedWhen.play {f : TokenSession} {start : Option Instant} (h : f.IssuedWhen start) (hbare : f.Bare) {events : List Event}
    (hsets : ∀ e ∈ events, e.setsTime = false ∧ e.overrides = false) (hin : f.StaysInCalendar events) :
    (f.play events).IssuedWhen ((f.lastStart? events).or start) := by
  induction events generalizing f start with
  | nil => exact h
  | cons e events ih =>
    have hrest : ∀ e' ∈ events, e'.setsTime = false ∧ e'.overrides = false := fun e' he' => hsets e' (List.mem_cons_of_mem _ he')
    obtain ⟨hset, hoverride⟩ := hsets e List.mem_cons_self
    show ((e.apply f).play events).IssuedWhen (((lastStart? (e.apply f) events).or (e.start? f)).or start)
    rw [Option.or_assoc]
    cases e with
    | step step => exact ih (h.perform hbare hset hin.1) (hbare.perform hoverride) hrest hin.2
    | clock now => exact ih h hbare hrest hin

/-- What the clock says about a token that was issued at an instant. -/
structure Follows (t : Token) (u now : Instant) : Prop where
  /-- The time of issue is the instant. -/
  timestamp : t.timestamp = .instant u
  /-- It expires when its lifetime has passed. -/
  expiresOn : t.expiresOn = .instant (u + t.expiresIn * perSecond)
  /-- The whole lifetime is the lifetime. -/
  elapsed : t.elapsed = .ok (some (t.expiresIn * perSecond))
  /-- It is expired when the clock is past the time of expiry. -/
  isExpired : t.isExpired now = .ok (decide (now > u + t.expiresIn * perSecond))
  /-- It is expired when the time left is negative. -/
  timeLeft : ∃ d, t.timeLeft now = .ok (some d) ∧ (t.isExpired now = .ok true ↔ d < 0)

/-- What the clock says about a token follows from when it was issued. -/
theorem follows_of_issuedAt {t : Token} {u : Instant} (h : t.IssuedAt u) (now : Instant) : Follows t u now := by
  refine ⟨h.timestamp, h.expiresOn, h.elapsed, h.isExpired now, _, h.timeLeft now, ?_⟩
  have hiff (a b : Int) : a < b ↔ a - b < 0 := by omega
  rw [h.isExpired now, Except.ok.injEq, decide_eq_true_eq]
  exact hiff _ _

/-- The times of a token follow the clock, in four parts.
1. Whatever steps are done and however the clock moves, as long as no time is set directly, nothing is put in the place of an attribute
of the class and no step ends at the end of the calendar, every token has the times of the last event that started a lifetime.
2. From any session, a step that neither starts a lifetime nor sets a time directly leaves lifetime and times alone.
3. From any session whose clock shows an instant of the calendar, a step ends at the end of the calendar exactly when it starts a
lifetime that is no length of time or that ends beyond the calendar.
4. Where it does not, the token has the lifetime that was started, from the reading of the clock on. -/
theorem lifetime_follows_clock :
    (∀ (f : TokenSession) (events : List Event), f.token = none →
      (∀ e ∈ events, e.setsTime = false ∧ e.overrides = false) → f.StaysInCalendar events → ∀ t, (f.play events).token = some t →
      ∃ u, f.lastStart? events = some u ∧ Follows t u (f.play events).now) ∧
    (∀ (g : TokenSession) (step : Step), step.starts = false → step.setsTime = false → g.SameTimes (perform step g).state) ∧
    (∀ (g : TokenSession) (step : Step), InCalendar g.now →
      ((perform step g).result = .error .beyondCalendar ↔
        ∃ t, step.started? g = some t ∧ (¬ IsLength t.expiresIn ∨ ¬ InCalendar (g.now + t.expiresIn * perSecond)))) ∧
    (∀ (g : TokenSession) (step : Step) (t : Token), step.started? g = some t →
      (perform step g).result ≠ .error .beyondCalendar →
      (perform step g).state = { g with token := some (t.issuedAt g.now) }) := by
  refine ⟨?_, fun g step hstarts hsets => sameTimes_of_not_starts hstarts hsets g, ?_, fun g step t h => token_of_started h⟩
  · intro f events hnone hsets hin t ht
    have hstart : f.IssuedWhen none := fun t ht => absurd ht (by rw [hnone]; exact nofun)
    have hbare : f.Bare := fun t ht => absurd ht (by rw [hnone]; exact nofun)
    obtain ⟨u, hu, hissued⟩ := hstart.play hbare hsets hin t ht
    rw [Option.or_none] at hu
    exact ⟨u, hu, follows_of_issuedAt hissued _⟩
  · intro g step hnow
    rw [beyondCalendar_iff]
    constructor
    · rintro ⟨t, ht, hout⟩
      exact ⟨t, ht, .inr hout⟩
    · rintro ⟨t, ht, hlength | hout⟩
      · exact ⟨t, ht, fun hin => hlength (isLength_of_inCalendar hnow hin)⟩
      · exact ⟨t, ht, hout⟩

/-- A token is made for a minute, the lifetime is set to half a minute when the minute is over, and some seconds pass. -/
def renewal : List Event :=
  [.step (.construct [("access_token", .str "t"), ("token_type", .str "Bearer"), ("expires_in", .int 60)]),
    .clock 90000000, .step (.setLifetime (.str " 30 ")), .step (.setField .state (.str "s")), .clock 119000000]

/-- After a renewal the token has the times of the renewal, and a lifetime of a million million seconds is refused. -/
theorem lifetime_after_renewal :
    (∃ t, (play { now := 0 } renewal).token = some t ∧ Follows t 90000000 119000000) ∧
    (perform (.setLifetime (.int 1000000000000)) (play { now := 0 } renewal)).result = .error .beyondCalendar := by
  have hrun : ∃ t, (play { now := 0 } renewal).token = some t := ⟨_, rfl⟩
  obtain ⟨t, ht⟩ := hrun
  have hsets : ∀ e ∈ renewal, e.setsTime = false ∧ e.overrides = false := by decide
  obtain ⟨u, hu, hfollows⟩ := lifetime_follows_clock.1 { now := 0 } renewal rfl hsets ⟨nofun, nofun, nofun, trivial⟩ t ht
  cases hu
  refine ⟨⟨t, ht, hfollows⟩, ?_⟩
  rw [lifetime_follows_clock.2.2.1 _ _ (by decide)]
  exact ⟨_, rfl, .inr (by decide)⟩

/-- A token is made for ten seconds, its method that takes the time is overridden, and the lifetime is set to twenty seconds. -/
def stopped : List Event :=
  [.step (.new (.str "Bearer") (.int 10) (.str "a") .null), .step (.setAttribute "gen_timestamp" .null),
    .step (.setAttribute "expires_in" (.int 20))]

/-- The times of a token do not always follow the clock: a lifetime that is set behind an overridden method is not started. -/
theorem not_every_lifetime_follows_clock :
    ¬ ∀ (f : TokenSession) (events : List Event), f.token = none → (∀ e ∈ events, e.setsTime = false) → f.StaysInCalendar events →
      ∀ t, (f.play events).token = some t → ∃ u, f.lastStart? events = some u ∧ Follows t u (f.play events).now := by
  intro hall
  have hstopped : (play { now := 0 } stopped).token.map (fun t => (t.expiresIn, t.expiresOn)) = some (20, .instant 10000000) := by
    decide +kernel
  obtain ⟨t, ht, hend⟩ := Option.map_eq_some_iff.mp hstopped
  obtain ⟨hlifetime, hexpiry⟩ := Prod.mk.inj hend
  have hin : StaysInCalendar { now := 0 } stopped := by
    refine ⟨nofun, ne_beyondCalendar_of_not_started rfl, ne_beyondCalendar_of_not_started ?_, trivial⟩
    exact Option.isNone_iff_eq_none.mp (by decide +kernel)
  have hstart : lastStart? { now := 0 } stopped = some 0 := by decide +kernel
  obtain ⟨u, hu, hfollows⟩ := hall { now := 0 } stopped rfl (by decide) hin t ht
  obtain rfl : 0 = u := Option.some.inj (hstart.symm.trans hu)
  have hfollowed := hfollows.expiresOn
  rw [hexpiry, hlifetime] at hfollowed
  revert hfollowed
  decide

end OAuthClient.TokenSession
