import OAuthClient.Proofs.Session.Lifetime

/-!
# Refused lifetimes

A change of the lifetime is refused for one of two reasons. A value that is no lifetime is refused before anything is written. A
lifetime that ends beyond the calendar is refused only when the time of expiry is worked out, and by then the lifetime and the time of
issue are written: the token keeps a time of expiry that belongs to neither. Where a caller put something in the place of a method that
the change calls, it fails when it gets there.
-/

namespace OAuthClient

open OAuthClient.Clock

namespace Token

/-- The token with a lifetime and a time of issue, whose time of expiry is the one it had. -/
def begun (now : Instant) (n : Int) (t : Token) : Token :=
  { t with expiresIn := n, timestamp := .instant now }

/-- A token that was issued and has begun a lifetime that ends beyond the calendar has the times of no issue any more: it still
expires inside the calendar. -/
theorem not_issuedAt_begun {t : Token} {u now : Instant} {n : Int} (h : t.IssuedAt u)
    (hin : InCalendar (u + t.expiresIn * perSecond)) (hout : ¬ InCalendar (now + n * perSecond)) (u' : Instant) :
    ¬ (t.begun now n).IssuedAt u' := by
  rintro ⟨htimestamp, hexpiry⟩
  have hnow : now = u' := Moment.instant.inj htimestamp
  have hend : u + t.expiresIn * perSecond = u' + n * perSecond := Moment.instant.inj (h.expiresOn.symm.trans hexpiry)
  rw [hend, ← hnow] at hin
  exact hout hin

end Token

namespace TokenSession

open OAuthClient.Token

variable {f : TokenSession} {step : Step} {v : Json}

/-! ## Setting the lifetime -/

/-- The value that a step sets the lifetime to, where it does. -/
def Step.lifetime? : Step → Option Json
  | .setLifetime v => some v
  | .setAttribute name v => if name = "expires_in" then some v else none
  | _ => none

/-- The token has the method by which a step sets the lifetime. Setting the attribute takes none. -/
def Step.IsThere (step : Step) (t : Token) : Prop :=
  match step with
  | .setLifetime _ => t.Has "with_expires_in"
  | _ => True

/-- What comes of setting the lifetime of a session's token to a value. -/
inductive Relived (step : Step) (v : Json) (f : TokenSession) : Run TokenSession Answer → Prop
  /-- There is no token. -/
  | absent (htoken : f.token = none) : Relived step v f ⟨.ok .noToken, f, []⟩
  /-- The token does not have the method of the step. -/
  | uncalled (t : Token) (kind : String) (htoken : f.token = some t) (hthere : ¬ step.IsThere t) :
      Relived step v f ⟨.error (.operands (.call kind)), f, []⟩
  /-- The value is no lifetime. -/
  | unread (t : Token) (fault : Fault) (htoken : f.token = some t) (h : lifetimeOf v = .error fault) :
      Relived step v f ⟨.error fault, f, []⟩
  /-- The token does not have the method that takes the time. -/
  | unstamped (t : Token) (n : Int) (kind : String) (htoken : f.token = some t) (h : lifetimeOf v = .ok n)
      (hhas : ¬ t.Has "gen_timestamp") :
      Relived step v f ⟨.error (.operands (.call kind)), { f with token := some { t with expiresIn := n } }, []⟩
  /-- The lifetime ends beyond the calendar. -/
  | beyond (t : Token) (n : Int) (htoken : f.token = some t) (h : lifetimeOf v = .ok n)
      (hout : ¬ InCalendar (f.now + n * perSecond)) :
      Relived step v f ⟨.error .beyondCalendar, { f with token := some (t.begun f.now n) }, []⟩
  /-- The lifetime is started. -/
  | started (t : Token) (n : Int) (answer : Answer) (htoken : f.token = some t) (hthere : step.IsThere t) (h : lifetimeOf v = .ok n)
      (hhas : t.Has "gen_timestamp") (hin : InCalendar (f.now + n * perSecond)) :
      Relived step v f ⟨.ok answer, { f with token := some ({ t with expiresIn := n }.issuedAt f.now) }, []⟩

/-- A step that sets the lifetime does so on a token that has its method, and answers. -/
theorem perform_of_lifetime (hstep : step.lifetime? = some v) {t : Token} (htoken : f.token = some t) (hthere : step.IsThere t) :
    ∃ answer, perform step f = onToken (fun now => setLifetime now v >>= fun _ => Act.pure answer) f := by
  cases step with
  | setLifetime value =>
    cases hstep
    refine ⟨.itself, ?_⟩
    have hperform : perform (.setLifetime v) =
        onToken fun now => call "with_expires_in" (setLifetime now v) >>= fun _ => Act.pure Answer.itself := rfl
    rw [hperform, onToken_some htoken, onToken_some htoken, Act.bind_pure_apply, Act.bind_pure_apply, call_of_has hthere]
  | setAttribute name value =>
    by_cases hname : name = "expires_in"
    · rw [Step.lifetime?, if_pos hname] at hstep
      cases hstep
      have hset (now : Instant) : setAttribute now name v = setLifetime now v := if_pos hname
      refine ⟨.nothing, ?_⟩
      show onToken (fun now => setAttribute now name v >>= fun _ => Act.pure Answer.nothing) f = _
      simp only [hset]
    · rw [Step.lifetime?, if_neg hname] at hstep
      cases hstep
  | _ => cases hstep

/-- A step that sets the lifetime by a method fails on a token that does not have it. -/
theorem perform_of_not_there (hstep : step.lifetime? = some v) {t : Token} (htoken : f.token = some t) (hthere : ¬ step.IsThere t) :
    ∃ kind, perform step f = ⟨.error (.operands (.call kind)), f, []⟩ := by
  cases step with
  | setLifetime value =>
    obtain ⟨kind, hact⟩ := exists_of_not_has hthere (setLifetime f.now value) Answer.itself
    refine ⟨kind, ?_⟩
    have hperform : perform (.setLifetime value) =
        onToken fun now => call "with_expires_in" (setLifetime now value) >>= fun _ => Act.pure Answer.itself := rfl
    rw [hperform, onToken_some htoken, hact]
    show (⟨_, { f with token := some t }, []⟩ : Run TokenSession Answer) = _
    rw [← htoken]
  | setAttribute name value => exact absurd trivial hthere
  | _ => cases hstep

/-- A step that sets the lifetime comes to one of the six. -/
theorem relived_of_lifetime (hstep : step.lifetime? = some v) (f : TokenSession) : Relived step v f (perform step f) := by
  cases htoken : f.token with
  | none =>
    have hperform : perform step f = ⟨.ok .noToken, f, []⟩ := by
      cases step with
      | setLifetime value =>
        exact onToken_none htoken fun now => call "with_expires_in" (setLifetime now value) >>= fun _ => Act.pure Answer.itself
      | setAttribute name value =>
        exact onToken_none htoken fun now => setAttribute now name value >>= fun _ => Act.pure Answer.nothing
      | _ => cases hstep
    rw [hperform]
    exact .absent htoken
  | some t =>
    by_cases hthere : step.IsThere t
    · obtain ⟨answer, hperform⟩ := perform_of_lifetime hstep htoken hthere
      rw [hperform, onToken_some htoken, Act.bind_pure_apply]
      -- the value is read before anything is written, and the calendar is asked when all but the expiry is
      cases h : lifetimeOf v with
      | error fault =>
        rw [setLifetime_of_error h]
        have hleft : { f with token := some t } = f := by rw [← htoken]
        show Relived step v f ⟨.error fault, { f with token := some t }, []⟩
        rw [hleft]
        exact .unread t fault htoken h
      | ok n =>
        rw [setLifetime_of_ok h]
        by_cases hhas : t.Has "gen_timestamp"
        · rw [call_of_has (t := { t with expiresIn := n }) hhas]
          by_cases hin : InCalendar (f.now + n * perSecond)
          · rw [stamp_of_inCalendar (t := { t with expiresIn := n }) hin]
            exact .started t n answer htoken hthere h hhas hin
          · rw [stamp_of_beyond (t := { t with expiresIn := n }) hin]
            exact .beyond t n htoken h hin
        · obtain ⟨kind, hcall⟩ := call_of_not_has (α := Unit) (t := { t with expiresIn := n }) hhas
          rw [hcall]
          exact .unstamped t n kind htoken h hhas
    · obtain ⟨kind, hperform⟩ := perform_of_not_there hstep htoken hthere
      rw [hperform]
      exact .uncalled t kind htoken hthere

/-! ## What a refusal leaves -/

/-- Setting the lifetime fails exactly when there is a token, and it does not have the method for that, or the value is no lifetime, or
the token does not have the method that takes the time, or the lifetime ends beyond the calendar. -/
theorem lifetime_fails_iff (hstep : step.lifetime? = some v) :
    (∃ fault, (perform step f).result = .error fault) ↔ ∃ t, f.token = some t ∧
      (step.IsThere t → ∀ n, lifetimeOf v = .ok n → t.Has "gen_timestamp" → ¬ InCalendar (f.now + n * perSecond)) := by
  have hrelived := relived_of_lifetime hstep f
  generalize perform step f = run at hrelived
  cases hrelived with
  | absent htoken =>
    refine ⟨fun ⟨_, h⟩ => (by cases h), ?_⟩
    rintro ⟨t, ht, -⟩
    rw [htoken] at ht
    cases ht
  | uncalled t kind htoken hthere => exact ⟨fun _ => ⟨t, htoken, fun h => absurd h hthere⟩, fun _ => ⟨_, rfl⟩⟩
  | unread t fault htoken hread =>
    refine ⟨fun _ => ⟨t, htoken, fun _ n hn => ?_⟩, fun _ => ⟨fault, rfl⟩⟩
    rw [hread] at hn
    cases hn
  | unstamped t n kind htoken hread hhas => exact ⟨fun _ => ⟨t, htoken, fun _ _ _ h => absurd h hhas⟩, fun _ => ⟨_, rfl⟩⟩
  | beyond t n htoken hread hout =>
    refine ⟨fun _ => ⟨t, htoken, fun _ n' hn' _ => ?_⟩, fun _ => ⟨.beyondCalendar, rfl⟩⟩
    rw [hread] at hn'
    cases hn'
    exact hout
  | started t n answer htoken hthere hread hhas hin =>
    refine ⟨fun ⟨_, h⟩ => (by cases h), ?_⟩
    rintro ⟨t', ht', hout⟩
    rw [htoken] at ht'
    cases ht'
    exact absurd hin (hout hthere n hread hhas)

/-- Setting the lifetime to a value that is none, or by a method that is not there, leaves the session as it was. Without the method that
takes the time it leaves the lifetime behind. -/
theorem state_of_refused {fault : Fault} (hstep : step.lifetime? = some v) (h : (perform step f).result = .error fault)
    (hne : fault ≠ .beyondCalendar) : (perform step f).state = f ∨
      ∃ t n, f.token = some t ∧ ¬ t.Has "gen_timestamp" ∧ lifetimeOf v = .ok n ∧
        (perform step f).state = { f with token := some { t with expiresIn := n } } := by
  have hrelived := relived_of_lifetime hstep f
  generalize perform step f = run at hrelived h
  cases hrelived with
  | absent htoken => cases h
  | uncalled t kind htoken hthere => exact Or.inl rfl
  | unread t fault' htoken hread => exact Or.inl rfl
  | unstamped t n kind htoken hread hhas => exact Or.inr ⟨t, n, htoken, hhas, hread, rfl⟩
  | beyond t n htoken hread hout =>
    cases h
    exact absurd rfl hne
  | started t n answer htoken hthere hread hhas hin => cases h

/-- Setting a lifetime that ends beyond the calendar begins it. -/
theorem state_of_beyond (hstep : step.lifetime? = some v) (h : (perform step f).result = .error .beyondCalendar) :
    ∃ t n, f.token = some t ∧ lifetimeOf v = .ok n ∧ ¬ InCalendar (f.now + n * perSecond) ∧
      (perform step f).state = { f with token := some (t.begun f.now n) } := by
  have hrelived := relived_of_lifetime hstep f
  generalize perform step f = run at hrelived h
  cases hrelived with
  | unread t fault htoken hread =>
    cases h
    exact absurd hread (lifetimeOf_ne_beyondCalendar v)
  | beyond t n htoken hread hout => exact ⟨t, n, htoken, hread, hout, rfl⟩
  | _ => cases h

/-- Setting the lifetime of any session's token, in three parts.
1. It fails exactly when there is a token and the value is no lifetime, or one that ends beyond the calendar, or the token does not have
the methods that are called.
2. When it fails for another reason than the calendar, the session is as it was, unless the token does not have the method that takes the
time: then it may have the lifetime and is otherwise as it was.
3. When it fails at the end of the calendar, the token has begun the lifetime, and all but the lifetime and the time of issue is as it
was. A token that was issued has then the times of no issue any more. -/
theorem refused_lifetime (f : TokenSession) (step : Step) {v : Json} (hstep : step.lifetime? = some v) :
    ((∃ fault, (perform step f).result = .error fault) ↔ ∃ t, f.token = some t ∧
      (step.IsThere t → ∀ n, lifetimeOf v = .ok n → t.Has "gen_timestamp" → ¬ InCalendar (f.now + n * perSecond))) ∧
    (∀ fault, (perform step f).result = .error fault → fault ≠ .beyondCalendar → (perform step f).state = f ∨
      ∃ t n, f.token = some t ∧ ¬ t.Has "gen_timestamp" ∧ lifetimeOf v = .ok n ∧
        (perform step f).state = { f with token := some { t with expiresIn := n } }) ∧
    ((perform step f).result = .error .beyondCalendar → ∃ t n, f.token = some t ∧ lifetimeOf v = .ok n ∧
      (perform step f).state = { f with token := some (t.begun f.now n) } ∧
      ∀ u, t.IssuedAt u → InCalendar (u + t.expiresIn * perSecond) → ∀ u', ¬ (t.begun f.now n).IssuedAt u') := by
  refine ⟨lifetime_fails_iff hstep, fun fault h hne => state_of_refused hstep h hne, fun h => ?_⟩
  obtain ⟨t, n, htoken, hread, hout, hstate⟩ := state_of_beyond hstep h
  exact ⟨t, n, htoken, hread, hstate, fun u hissued hin => not_issuedAt_begun hissued hin hout⟩

/-- A token is made for a minute. -/
def minute : List Event :=
  [.step (.construct [("access_token", .str "t"), ("token_type", .str "Bearer"), ("expires_in", .int 60)])]

/-- A text that is no number leaves the token as it was, and a lifetime of a million million seconds leaves it with the times of no
issue. -/
theorem refused_lifetime_of_minute :
    (perform (.setLifetime (.str "soon")) (play { now := 0 } minute)).state = play { now := 0 } minute ∧
    ∃ t, (perform (.setAttribute "expires_in" (.int 1000000000000)) (play { now := 0 } minute)).state.token = some t ∧
      t.expiresIn = 1000000000000 ∧ ∀ u, ¬ t.IssuedAt u := by
  obtain ⟨-, hunread, -⟩ := refused_lifetime (play { now := 0 } minute) (.setLifetime (.str "soon")) rfl
  obtain ⟨-, -, hbeyond⟩ := refused_lifetime (play { now := 0 } minute) (.setAttribute "expires_in" (.int 1000000000000)) rfl
  refine ⟨(hunread _ rfl nofun).resolve_right ?_, ?_⟩
  · rintro ⟨t, n, -, -, hread, -⟩
    cases hread
  obtain ⟨t, n, htoken, hread, hstate, htimes⟩ := hbeyond rfl
  cases htoken
  cases hread
  rw [hstate]
  exact ⟨_, rfl, rfl, htimes 0 ⟨rfl, rfl⟩ (by decide)⟩

/-- A refused lifetime does not always leave the session as it was. -/
theorem not_every_refused_lifetime_leaves_session :
    ¬ ∀ (start : Instant) (events : List Event) (step : Step) (v : Json) (fault : Fault), step.lifetime? = some v →
      (perform step (play { now := start } events)).result = .error fault →
      (perform step (play { now := start } events)).state = play { now := start } events := by
  intro hall
  have hleft := hall 0 minute (.setLifetime (.int 1000000000000)) (.int 1000000000000) .beyondCalendar rfl rfl
  have hlifetime := congrArg (fun g : TokenSession => g.token.map Token.expiresIn) hleft
  revert hlifetime
  decide

end TokenSession

end OAuthClient
