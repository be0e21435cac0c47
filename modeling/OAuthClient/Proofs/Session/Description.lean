import OAuthClient.Proofs.Session.Lifetime
import OAuthClient.Proofs.Token.Description

/-!
# Descriptions of a session's token

The switch that shows the secrets of a token is off when a token is made. After that only two steps turn it, when they succeed: the one
that is there for it, and setting the attribute that is the switch. So, whatever happened, the token of a session shows its secrets
exactly when the last of these steps turned the switch on, and until then two runs that differ in secrets only end in the same
descriptions.
-/

namespace OAuthClient.TokenSession

open OAuthClient.Token

/-! ## The switch -/

/-- A step that sets a secret of the token. -/
def Step.setsSecret : Step → Bool
  | .setField field _ => field.isSecret
  | .setIdToken .. => true
  | .setAttribute name _ => (Field.ofName? name).any Field.isSecret
  | _ => false

/-- What an event asks the switch to be, when it succeeds. -/
def Event.asked? (f : TokenSession) : Event → Option Bool
  | .step s => if (perform s f).result.isOk then s.asked? else none
  | .clock _ => none

/-- What an event turns the switch to when it succeeds: off where it makes a token, and otherwise to what it asks. -/
def Event.switch? (f : TokenSession) : Event → Option Bool
  | .step s => if (perform s f).result.isOk then if s.makes then some false else s.asked? else none
  | .clock _ => none

/-- What the last of some events that asks asks the switch to be. -/
def lastAsked? (f : TokenSession) : List Event → Option Bool
  | [] => none
  | e :: rest => (lastAsked? (e.apply f) rest).or (e.asked? f)

/-- What the last of some events that turns the switch turns it to. -/
def lastSwitch? (f : TokenSession) : List Event → Option Bool
  | [] => none
  | e :: rest => (lastSwitch? (e.apply f) rest).or (e.switch? f)

/-- Whether the token of a session shows its secrets, where there is a token. -/
def shown? (f : TokenSession) : Option Bool :=
  f.token.map Token.showSecrets

variable {f : TokenSession} {step : Step} {e : Event} {events : List Event} {t : Token}

/-! ## One step -/

/-- What a step does to the switch when it succeeds: off where a token is made, and otherwise what the step asks where there is a
token. A step that fails leaves the switch. -/
def Turns (step : Step) (f : TokenSession) : Prop :=
  (perform step f).state.shown? =
    if (perform step f).result.isOk then if step.makes then some false else f.shown?.map (step.asked?.getD ·) else f.shown?

/-- Where nothing is asked nothing is turned. -/
theorem map_none_getD (shown : Option Bool) : (shown.map fun b => (none : Option Bool).getD b) = shown := by
  cases shown <;> rfl

/-- A step that makes a token turns the switch off when it succeeds. -/
theorem turns_of_makes (hmakes : step.makes = true) (f : TokenSession) : Turns step f := by
  have hmade := makes_perform hmakes f
  unfold Turns
  rw [hmakes]
  generalize perform step f = run at hmade ⊢
  cases hmade with
  | made t records hfresh =>
    rw [if_pos (by rfl), if_pos rfl]
    exact congrArg some hfresh.hides
  | failed fault records => rw [if_neg (by exact Bool.false_ne_true)]

/-- A step on the token that turns the switch to what it asks, or leaves it. -/
theorem turns_of_onToken (act : Instant → Act Token Answer) (hmakes : step.makes = false) (hperform : perform step = onToken act)
    (hact : ∀ now t, (act now t).state.showSecrets =
      if (act now t).result.isOk then step.asked?.getD t.showSecrets else t.showSecrets) : Turns step f := by
  unfold Turns
  rw [hmakes, hperform, if_neg Bool.false_ne_true]
  cases htoken : f.token with
  | none =>
    rw [onToken_none htoken, shown?, htoken, if_pos (by rfl)]
    rfl
  | some t =>
    rw [onToken_some htoken, shown?, shown?, htoken]
    dsimp only [Option.map_some]
    rw [hact f.now t]
    split <;> rfl

/-- A step that makes no token and asks nothing of the switch leaves it. -/
theorem turns_of_leaves (hmakes : step.makes = false) (hasked : step.asked? = none) (f : TokenSession) : Turns step f := by
  have hshown : (perform step f).state.shown? = f.shown? := by
    refine map_token_perform hmakes indifferent_showSecrets (fun hsome => ?_) (fun _ _ _ => rfl) f
    rw [hasked] at hsome
    cases hsome
  rw [Turns, hshown, hmakes, hasked, map_none_getD, if_neg Bool.false_ne_true, ite_self]

/-- What every step does to the switch. -/
theorem turns (step : Step) (f : TokenSession) : Turns step f := by
  cases hmakes : step.makes with
  | true => exact turns_of_makes hmakes f
  | false =>
    cases step with
    | showSecrets shown =>
      let act : Act Token Unit := Act.modify fun t => { t with showSecrets := shown }
      refine turns_of_onToken (fun _ => call "enable_pii_logging" act >>= fun _ => Act.pure .nothing) rfl rfl fun now t => ?_
      rw [Act.bind_pure_apply]
      by_cases hhas : t.Has "enable_pii_logging"
      · rw [call_of_has hhas]
        rfl
      · obtain ⟨kind, hcall⟩ := call_of_not_has (α := Unit) hhas
        rw [hcall]
        rfl
    | setAttribute name v =>
      by_cases hname : name = "_log_pii"
      · subst hname
        refine turns_of_onToken (fun now => setAttribute now "_log_pii" v >>= fun _ => Act.pure .nothing) rfl rfl fun now t => ?_
        rw [Act.bind_of_ok (setAttribute_switch now v t)]
        rfl
      · refine turns_of_leaves rfl ?_ f
        exact if_neg hname
    | _ => exact turns_of_leaves hmakes rfl f

/-- A token that a step makes hides its secrets. -/
theorem hides_of_makes (hmakes : step.makes = true) (hok : (perform step f).result.isOk = true) :
    ∃ t, (perform step f).state.token = some t ∧ t.showSecrets = false := by
  have hturns := turns step f
  rw [Turns, hmakes, hok, if_pos rfl, if_pos rfl, shown?] at hturns
  exact Option.map_eq_some_iff.mp hturns

/-- A step that asks nothing leaves no token that shows its secrets, unless there was one. -/
theorem shown?_of_asked? (hasked : step.asked? = none) (h : (perform step f).state.shown? = some true) : f.shown? = some true := by
  rw [turns step f, hasked, map_none_getD] at h
  split at h
  · split at h
    · cases h
    · exact h
  · exact h

/-! ## Replacing secrets by steps -/

/-- A step that sets a secret makes no token and asks nothing of the switch. -/
theorem asked?_of_setsSecret (h : step.setsSecret = true) : step.makes = false ∧ step.asked? = none := by
  cases step with
  | setAttribute name v =>
    refine ⟨rfl, if_neg ?_⟩
    rintro rfl
    exact Bool.false_ne_true h
  | _ => first | exact ⟨rfl, rfl⟩ | cases h

/-- A change of the token that is the same but for its secrets, or fails before it changes anything. -/
theorem exists_of_change (act : Act Token Unit) {answer : Answer} (htoken : f.token = some t)
    (hperform : perform step = onToken fun _ => act >>= fun _ => Act.pure answer) (hact : SameButSecrets t (act t).state) :
    ∃ t', (perform step f).state.token = some t' ∧ SameButSecrets t t' := by
  refine ⟨(act t).state, ?_, hact⟩
  rw [hperform, onToken_some htoken, Act.bind_pure_apply]

/-- Calling a method leaves a token that is the same but for its secrets when the method does. -/
theorem sameButSecrets_call {a : Act Token Unit} (h : SameButSecrets t (a t).state) (method : String) :
    SameButSecrets t (call method a t).state := by
  by_cases hhas : t.Has method
  · rwa [call_of_has hhas]
  · obtain ⟨kind, hcall⟩ := call_of_not_has (α := Unit) hhas
    rw [hcall]
    exact SameButSecrets.refl t

/-- A step that sets a secret leaves a token that is the same but for its secrets. -/
theorem sameButSecrets_perform (h : step.setsSecret = true) (htoken : f.token = some t) :
    ∃ t', (perform step f).state.token = some t' ∧ SameButSecrets t t' := by
  cases step with
  | setField field v => exact exists_of_change _ htoken rfl (sameButSecrets_call (sameButSecrets_setField h v t) _)
  | setIdToken source room =>
    refine exists_of_change (do
      let t ← Session.lift (IdToken.ofSource source room)
      call "with_id_token" (Act.modify (Token.setField .idToken (.str t.idToken)))) htoken rfl ?_
    cases hsource : IdToken.ofSource source room with
    | ok idToken =>
      have hset := sameButSecrets_setField (f := .idToken) rfl (.str idToken.idToken) t
      exact sameButSecrets_call (a := Act.modify (setField .idToken (.str idToken.idToken))) hset "with_id_token"
    | error fault => exact SameButSecrets.refl t
  | setAttribute name v =>
    have h : (Field.ofName? name).any Field.isSecret = true := h
    obtain ⟨field, hfield⟩ : ∃ field, Field.ofName? name = some field := by
      cases hfield : Field.ofName? name with
      | none =>
        rw [hfield] at h
        cases h
      | some field => exact ⟨field, rfl⟩
    obtain rfl : field.name = name := of_decide_eq_true (List.find?_some hfield :)
    have hsecret : field.isSecret = true := by rwa [hfield] at h
    have hperform : perform (.setAttribute field.name v) =
        onToken fun now => setAttribute now field.name v >>= fun _ => Act.pure Answer.nothing := rfl
    simp only [setAttribute_field] at hperform
    exact exists_of_change _ htoken hperform (sameButSecrets_setField hsecret v t)
  | _ => cases h

/-- A step that sets a secret of a token that hides its secrets leaves one that does. -/
theorem hides_of_setsSecret {t' : Token} (h : step.setsSecret = true) (htoken : f.token = some t) (hhides : t.showSecrets = false)
    (ht' : (perform step f).state.token = some t') : t'.showSecrets = false := by
  obtain ⟨hmakes, hasked⟩ := asked?_of_setsSecret h
  have hturns := turns step f
  rw [Turns, hmakes, hasked, map_none_getD, if_neg Bool.false_ne_true, ite_self, shown?, shown?, ht', htoken] at hturns
  exact (Option.some.inj hturns).trans hhides

/-! ## Runs -/

/-- What a step turns the switch to, as an event. -/
theorem switch?_step (step : Step) (f : TokenSession) : (Event.step step).switch? f =
    if (perform step f).result.isOk then if step.makes then some false else step.asked? else none := rfl

/-- What an event leaves of the switch is what it turns it to, or what was there. -/
theorem shown?_apply {b : Bool} (h : (e.apply f).shown? = some b) : (e.switch? f).or f.shown? = some b := by
  cases e with
  | clock now => exact h
  | step step =>
    have hturns : (perform step f).state.shown? = some b := h
    rw [turns step f] at hturns
    rw [switch?_step]
    split
    · next hok =>
      rw [if_pos hok] at hturns
      split
      · next hmakes => rwa [if_pos hmakes] at hturns
      · next hmakes =>
        rw [if_neg hmakes] at hturns
        cases hasked : step.asked? with
        | none => rwa [hasked, map_none_getD] at hturns
        | some asked =>
          rw [hasked, Option.map_eq_some_iff] at hturns
          obtain ⟨_, -, rfl⟩ := hturns
          rfl
    · next hfailed => rwa [if_neg hfailed] at hturns

/-- What a run leaves of the switch is what the last event that turns it turns it to, or what was there. -/
theorem shown?_play {b : Bool} (h : (f.play events).shown? = some b) : (f.lastSwitch? events).or f.shown? = some b := by
  induction events generalizing f with
  | nil => exact h
  | cons e events ih =>
    have hrest := ih (f := e.apply f) h
    rw [lastSwitch?, Option.or_assoc]
    cases hlast : lastSwitch? (e.apply f) events with
    | some asked =>
      rw [hlast] at hrest
      exact hrest
    | none =>
      rw [hlast, Option.none_or] at hrest
      rw [Option.none_or]
      exact shown?_apply hrest

/-- The switch was turned last to what was asked last, unless it was turned off by making a token. -/
theorem lastSwitch?_eq (f : TokenSession) (events : List Event) :
    f.lastSwitch? events = f.lastAsked? events ∨ f.lastSwitch? events = some false := by
  induction events generalizing f with
  | nil => exact Or.inl rfl
  | cons e events ih =>
    have hevent : e.switch? f = e.asked? f ∨ e.switch? f = some false := by
      cases e with
      | clock now => exact Or.inl rfl
      | step step =>
        rw [switch?_step, Event.asked?]
        split
        · split
          · exact Or.inr rfl
          · exact Or.inl rfl
        · exact Or.inl rfl
    rw [lastSwitch?, lastAsked?]
    rcases ih (e.apply f) with hrest | hrest
    · rw [hrest]
      cases lastAsked? (e.apply f) events with
      | some asked => exact Or.inl rfl
      | none => exact hevent
    · rw [hrest]
      exact Or.inr rfl

/-- A token hides its secrets when the last event that asks anything of the switch does not ask it to be on. -/
theorem hides_play (hnone : f.token = none) (hasked : f.lastAsked? events ≠ some true) (ht : (f.play events).token = some t) :
    t.showSecrets = false := by
  have hshown : (f.play events).shown? = some t.showSecrets := by rw [shown?, ht]; rfl
  have hlast := shown?_play hshown
  rw [shown?, hnone, Option.map_none, Option.or_none] at hlast
  rcases lastSwitch?_eq f events with heq | heq
  · rw [← heq, hlast, ne_eq, Option.some.injEq, Bool.not_eq_true] at hasked
    exact hasked
  · rw [hlast] at heq
    exact Option.some.inj heq

/-- A token of which the secrets were asked for shows them, as long as nothing turns the switch after that. -/
theorem shows_play {later : List Event} (hok : (perform (.showSecrets true) (f.play events)).result.isOk = true)
    (hlater : lastSwitch? (f.play (events ++ [.step (.showSecrets true)])) later = none)
    (ht : (f.play (events ++ .step (.showSecrets true) :: later)).token = some t) : t.showSecrets = true := by
  have hplay : f.play (events ++ .step (.showSecrets true) :: later) = (f.play (events ++ [.step (.showSecrets true)])).play later := by
    rw [play, play, play, ← List.foldl_append, List.append_assoc]
    rfl
  have hshown : ((f.play (events ++ [.step (.showSecrets true)])).play later).shown? = some t.showSecrets := by
    rw [← hplay, shown?, ht]
    rfl
  have hbefore := shown?_play hshown
  rw [hlater, Option.none_or, play, List.foldl_append] at hbefore
  have hasked : (Event.apply (f.play events) (.step (.showSecrets true))).shown? = some t.showSecrets := hbefore
  have hswitch := shown?_apply hasked
  rw [switch?_step, if_pos hok] at hswitch
  exact (Option.some.inj hswitch).symm

/-- The descriptions of a token follow its switch, in six parts.
1. Whatever events there were, the token of a session shows its secrets as the last event that turned the switch says, where making a
token turns it off.
2. When the last event that asks anything of the switch, and succeeds, does not ask it to be on, the description and the summary of the
token stay the same when its secrets are replaced by any values, at once or by steps that set one of them.
3. Two such runs that end in tokens which are the same but for their secrets end in the same description and the same summary.
4. When the switch was asked to be on and nothing turned it since, every field is listed as it is stored.
5. Every token that is made hides its secrets.
6. A step that asks nothing of the switch leaves no token that shows its secrets unless there was one. -/
theorem descriptions_follow_switch :
    (∀ (f : TokenSession) (events : List Event) (t : Token), f.token = none → (f.play events).token = some t →
      f.lastSwitch? events = some t.showSecrets) ∧
    (∀ (f : TokenSession) (events : List Event) (t : Token), f.token = none → f.lastAsked? events ≠ some true →
      (f.play events).token = some t →
      (∀ accessToken refreshToken idToken, (t.withSecrets accessToken refreshToken idToken).describe = t.describe ∧
        (t.withSecrets accessToken refreshToken idToken).summary = t.summary) ∧
      ∀ step : Step, step.setsSecret = true →
        ∃ t', (perform step (f.play events)).state.token = some t' ∧ t'.describe = t.describe ∧ t'.summary = t.summary) ∧
    (∀ (f f' : TokenSession) (events events' : List Event) (t t' : Token), f.token = none → f'.token = none →
      f.lastAsked? events ≠ some true → f'.lastAsked? events' ≠ some true → (f.play events).token = some t →
      (f'.play events').token = some t' → SameButSecrets t t' → t.describe = t'.describe ∧ t.summary = t'.summary) ∧
    (∀ (f : TokenSession) (events later : List Event) (t : Token),
      (perform (.showSecrets true) (f.play events)).result.isOk = true →
      lastSwitch? (f.play (events ++ [.step (.showSecrets true)])) later = none →
      (f.play (events ++ .step (.showSecrets true) :: later)).token = some t →
      ∃ fields, t.Lists fields ∧ ∀ field : Field, fields.lookup field.name = some (t.values field).inspect) ∧
    (∀ (f : TokenSession) (step : Step), step.makes = true → (perform step f).result.isOk = true →
      ∃ t, (perform step f).state.token = some t ∧ t.showSecrets = false) ∧
    ∀ (f : TokenSession) (step : Step), step.asked? = none → (perform step f).state.shown? = some true → f.shown? = some true := by
  refine ⟨?_, ?_, ?_, ?_, fun f step => hides_of_makes, fun f step => shown?_of_asked?⟩
  · intro f events t hnone ht
    have hshown : (f.play events).shown? = some t.showSecrets := by rw [shown?, ht]; rfl
    have hlast := shown?_play hshown
    rwa [shown?, hnone, Option.map_none, Option.or_none] at hlast
  · intro f events t hnone hasked ht
    have hhides := hides_play hnone hasked ht
    refine ⟨fun accessToken refreshToken idToken => ?_, fun step hsets => ?_⟩
    · have hsame := sameButSecrets_withSecrets accessToken refreshToken idToken t
      obtain ⟨hdescribe, hsummary⟩ := hsame.described hhides hhides
      exact ⟨hdescribe.symm, hsummary.symm⟩
    · obtain ⟨t', ht', hsame⟩ := sameButSecrets_perform hsets ht
      obtain ⟨hdescribe, hsummary⟩ := hsame.described hhides (hides_of_setsSecret hsets ht hhides ht')
      exact ⟨t', ht', hdescribe.symm, hsummary.symm⟩
  · intro f f' events events' t t' hnone hnone' hasked hasked' ht ht' hsame
    exact hsame.described (hides_play hnone hasked ht) (hides_play hnone' hasked' ht')
  · intro f events later t hok hlater ht
    exact ⟨t.shownFields, t.lists_shownFields, lookup_of_showSecrets (shows_play hok hlater ht)⟩

/-- A response with a member that has the name of the switch. -/
def switchedOn : Json :=
  .obj [("access_token", .str "a"), ("token_type", .str "Bearer"), ("expires_in", .int 3600), ("_log_pii", .bool true)]

/-- A token is made from the response, and its refresh token is set. -/
def renewed (refreshToken : Json) : List Event :=
  [.step (.ofJson switchedOn), .step (.setField .refreshToken refreshToken)]

/-- The token that is made from the response is described alike with every refresh token, until it is asked to show its secrets. -/
theorem descriptions_follow_switch_renewed :
    (∃ t t', (play { now := 0 } (renewed (.str "r"))).token = some t ∧ (play { now := 0 } (renewed .null)).token = some t' ∧
      t.showSecrets = false ∧ t.describe = t'.describe ∧ (t.withSecrets (.str "b") .null (.str "i")).describe = t.describe) ∧
    ∃ t fields, (play { now := 0 } (renewed (.str "r") ++ .step (.showSecrets true) :: [.clock 1])).token = some t ∧ t.Lists fields ∧
      fields.lookup "refresh_token" = some (Json.str "r").inspect := by
  obtain ⟨hexact, hreplaced, hruns, hshows, -, -⟩ := descriptions_follow_switch
  have hmade : (perform (.ofJson switchedOn) { now := 0 }).state.token.isSome = true := by decide +kernel
  obtain ⟨u, hu⟩ := Option.isSome_iff_exists.mp hmade
  have hnone : Bare { now := 0 } := fun _ h => nomatch h
  have hbare : ∀ m, u.Has m := has_of_overridden (hnone.perform rfl u hu)
  have hplay (v : Json) : (play { now := 0 } (renewed v)).token = some (setField .refreshToken v u) := by
    have hperform : perform (.setField .refreshToken v) =
      onToken fun _ => call "with_refresh_token" (Act.modify (setField .refreshToken v)) >>= fun _ => Act.pure Answer.itself := rfl
    show (perform (.setField .refreshToken v) (perform (.ofJson switchedOn) { now := 0 }).state).state.token = _
    rw [hperform, onToken_some hu, Act.bind_pure_apply, call_of_has (hbare _)]
    rfl
  have hsame : SameButSecrets (setField .refreshToken (.str "r") u) (setField .refreshToken .null u) := by
    refine ⟨fun f hf => ?_, rfl, rfl, rfl, rfl⟩
    cases f <;> first | rfl | cases hf
  constructor
  · refine ⟨_, _, hplay (.str "r"), hplay .null, ?_, ?_, ?_⟩
    · have hlast : lastSwitch? { now := 0 } (renewed (.str "r")) = some false := by decide +kernel
      rw [hexact _ _ _ rfl (hplay (.str "r"))] at hlast
      exact Option.some.inj hlast
    · exact (hruns _ _ _ _ _ _ rfl rfl (by decide +kernel) (by decide +kernel) (hplay (.str "r")) (hplay .null) hsame).1
    · exact ((hreplaced _ _ _ rfl (by decide +kernel) (hplay (.str "r"))).1 _ _ _).1
  · have hrun := onToken_some (hplay (.str "r")) fun _ =>
      call "enable_pii_logging" (Act.modify fun t => { t with showSecrets := true }) >>= fun _ => Act.pure Answer.nothing
    have hhas : (setField .refreshToken (.str "r") u).Has "enable_pii_logging" := hbare _
    rw [Act.bind_pure_apply, call_of_has hhas] at hrun
    have hshown : (play { now := 0 } (renewed (.str "r") ++ .step (.showSecrets true) :: [.clock 1])).token =
        some { setField .refreshToken (.str "r") u with showSecrets := true } := congrArg (fun run => run.state.token) hrun
    have hok : (perform (.showSecrets true) (play { now := 0 } (renewed (.str "r")))).result.isOk = true :=
      congrArg (fun run => run.result.isOk) hrun
    obtain ⟨fields, hlists, hlookup⟩ := hshows _ _ [.clock 1] _ hok rfl hshown
    exact ⟨_, fields, hshown, hlists, hlookup .refreshToken⟩

end OAuthClient.TokenSession
