import OAuthClient.Proofs.Token.Description
import OAuthClient.Session.Token

/-!
# What the steps of a session do to its token

A step either makes a token, which takes the place of the one there was when it can be made, or it is an act on the token at hand that is
put together from a few parts. So what can be read off a token and is left by those parts is left by the step.
-/

namespace OAuthClient.TokenSession

open OAuthClient.Token

/-! ## Making a token -/

/-- A step that makes a token when it succeeds. -/
def Step.makes : Step → Bool
  | .new .. | .construct _ | .ofJson _ | .ofSource .. | .ofResponse .. => true
  | _ => false

/-- What comes of making a token: a fresh one takes the place of the one there was, or the session stays as it is. -/
inductive Makes (f : TokenSession) : Run TokenSession Answer → Prop
  | made (t : Token) (records : List Log.Record) (h : t.Fresh) : Makes f ⟨.ok .nothing, { f with token := some t }, records⟩
  | failed (fault : Fault) (records : List Log.Record) : Makes f ⟨.error fault, f, records⟩

/-- A token that is made of what was read takes the place of the one there was. -/
theorem Makes.of_make {f : TokenSession} {make : Act TokenSession Token} {result : Except Fault Token} {records : List Log.Record}
    (hmake : make f = ⟨result, f, records⟩) (hfresh : IsFresh result) : Makes f ((make >>= replace) f) := by
  cases result with
  | error fault =>
    rw [Act.bind_of_error hmake]
    exact .failed fault records
  | ok t =>
    rw [Act.bind_of_ok hmake]
    exact .made t _ (hfresh t rfl)

/-- What comes of every step that makes a token. -/
theorem makes_perform {step : Step} (hmakes : step.makes = true) (f : TokenSession) : Makes f (perform step f) := by
  cases step with
  | new tokenType lifetime accessToken scopes =>
    refine .of_make (congrArg (Run.mk · f []) (new_eq f.now tokenType lifetime accessToken scopes)) ?_
    exact (isFresh_draftOfValues _ _ _ _).issued f.now
  | construct members => exact .of_make (congrArg (Run.mk · f []) (construct_eq f.now members)) ((isFresh_draft _).issued f.now)
  | ofJson data => exact .of_make (congrArg (Run.mk · f []) (ofJson_eq f.now data)) ((isFresh_draftOfJson _).issued f.now)
  | ofSource source room =>
    exact .of_make (congrArg (Run.mk · f []) (ofSource_eq f.now source room)) ((isFresh_draftOfSource _ _).issued f.now)
  | ofResponse response room =>
    obtain ⟨records, hmake⟩ := @ofResponse_eq TokenSession f.now response room
    exact .of_make (hmake f) ((isFresh_draftOfResponse _ _).issued f.now)
  | _ => cases hmakes

/-! ## Acts on the token -/

/-- What a step asks the switch of the token to be. -/
def Step.asked? : Step → Option Bool
  | .showSecrets shown => some shown
  | .setAttribute name v => if name = "_log_pii" then some v.truthy else none
  | _ => none

/-- A step that puts something in the place of an attribute of the class. -/
def Step.overrides : Step → Bool
  | .setAttribute name _ => isClassAttribute name
  | _ => false

variable {β : Type} {view : Token → β} {step : Step} {method : String}

/-- A step is an act on the token that leaves what is read off it. -/
def ActsOn (view : Token → β) (step : Step) : Prop :=
  ∃ act, perform step = onToken act ∧ ∀ now b, (act now).Preserves fun t => view t = b

/-- A look at the token leaves everything. -/
theorem ActsOn.look (read : Instant → Token → Except Fault Answer) (hperform : perform step = TokenSession.look read) :
    ActsOn view step :=
  ⟨_, hperform, fun _ _ => Act.Preserves.get.bind fun _ => Act.Preserves.ofExcept _⟩

/-- A look at the token by one of its methods leaves everything. -/
theorem ActsOn.ask (read : Instant → Token → Except Fault Answer) (hperform : perform step = TokenSession.ask method read) :
    ActsOn view step :=
  ⟨_, hperform, fun _ _ => preserves_call (Act.Preserves.get.bind fun _ => Act.Preserves.ofExcept _) _⟩

/-- A change of the token leaves what the change does. -/
theorem ActsOn.change (act : Instant → Act Token Unit) {answer : Answer}
    (hperform : perform step = onToken fun now => act now >>= fun _ => Act.pure answer)
    (hact : ∀ now b, (act now).Preserves fun t => view t = b) : ActsOn view step :=
  ⟨_, hperform, fun now b => (hact now b).bind fun _ => Act.Preserves.pure _⟩

/-- A change of the token by one of its methods leaves what the method does. -/
theorem ActsOn.changeBy (act : Instant → Act Token Unit) {answer : Answer}
    (hperform : perform step = onToken fun now => call method (act now) >>= fun _ => Act.pure answer)
    (hact : ∀ now b, (act now).Preserves fun t => view t = b) : ActsOn view step :=
  .change _ hperform fun now b => preserves_call (hact now b) _

/-- An act on the token leaves it where it leaves what is read off it, and makes none. -/
theorem ActsOn.map_token (h : ActsOn view step) (f : TokenSession) : (perform step f).state.token.map view = f.token.map view := by
  obtain ⟨act, hperform, hact⟩ := h
  rw [hperform]
  cases htoken : f.token with
  | none => rw [onToken_none htoken, htoken]
  | some t =>
    rw [onToken_some htoken]
    exact congrArg some (hact f.now (view t) t rfl)

/-- A step that makes no token leaves the session as it is, or is an act on the token that leaves what has to do neither with fields nor
with times. When it sets the switch or puts something in the place of an attribute of the class, that must be nothing to it, either. -/
theorem left_or_actsOn (hmakes : step.makes = false) (h : Indifferent view)
    (hswitch : step.asked?.isSome = true → ∀ shown (t : Token), view { t with showSecrets := shown } = view t)
    (hoverride : step.overrides = true → ∀ members (t : Token), view { t with overridden := members } = view t) :
    (∀ f, (perform step f).state = f) ∨ ActsOn view step := by
  cases step with
  | new | construct | ofJson | ofSource | ofResponse => cases hmakes
  | oauthError response room => exact Or.inl fun f => by rw [perform_oauthError]
  | setField field v =>
    refine Or.inr (.changeBy (fun _ => Act.modify (setField field v)) rfl fun _ _ => ?_)
    exact Act.Preserves.modify fun t => (h.field field v t).trans
  | setLifetime v => exact Or.inr (.changeBy (fun now => setLifetime now v) rfl fun now => h.setLifetime now v)
  | setScopes v =>
    refine Or.inr (.changeBy (fun _ => do
      let items ← Session.lift (itemsOf v)
      Act.modify (Token.setField .scope (.arr items))) rfl fun _ _ => (Act.Preserves.ofExcept _).bind fun items => ?_)
    exact Act.Preserves.modify fun t => (h.field .scope (.arr items) t).trans
  | setIdToken source room =>
    refine Or.inr (.change (fun _ => do
      let t ← Session.lift (IdToken.ofSource source room)
      call "with_id_token" (Act.modify (Token.setField .idToken (.str t.idToken)))) rfl fun _ _ =>
        (Act.Preserves.ofExcept _).bind fun x => preserves_call ?_ _)
    exact Act.Preserves.modify fun t => (h.field .idToken (.str x.idToken) t).trans
  | setAttribute name v =>
    refine Or.inr (.change (fun now => setAttribute now name v) rfl fun now => h.setAttribute (fun hname => ?_) hoverride now v)
    exact hswitch (by rw [Step.asked?, if_pos hname]; rfl)
  | stamp => exact Or.inr (.changeBy stamp rfl h.stamp)
  | showSecrets shown =>
    refine Or.inr (.changeBy (fun _ => Act.modify fun t => { t with showSecrets := shown }) rfl fun _ _ => ?_)
    exact Act.Preserves.modify fun t => (hswitch rfl shown t).trans
  | isExpired => exact Or.inr (.ask (fun now t => (t.isExpired now).map .flag) rfl)
  | elapsed => exact Or.inr (.ask (fun _ t => t.elapsed.map .duration) rfl)
  | timeLeft => exact Or.inr (.ask (fun now t => (t.timeLeft now).map .duration) rfl)
  | bearerToken => exact Or.inr (.ask (fun _ t => .ok (.value (t.values .accessToken))) rfl)
  | readIdToken room => exact Or.inr (.ask (fun _ t => (t.readIdToken room).map .idToken) rfl)
  | describe => exact Or.inr (.look (fun _ t => .ok (.text t.describe)) rfl)
  | summary => exact Or.inr (.look (fun _ t => .ok (.text t.summary)) rfl)
  | copy => exact Or.inr (.look (fun _ _ => .ok .nothing) rfl)

/-- A step that makes no token leaves what has nothing to do with what it changes. -/
theorem map_token_perform (hmakes : step.makes = false) (h : Indifferent view)
    (hswitch : step.asked?.isSome = true → ∀ shown (t : Token), view { t with showSecrets := shown } = view t)
    (hoverride : step.overrides = true → ∀ members (t : Token), view { t with overridden := members } = view t) (f : TokenSession) :
    (perform step f).state.token.map view = f.token.map view := by
  rcases left_or_actsOn hmakes h hswitch hoverride with hleft | hacts
  · rw [hleft f]
  · exact hacts.map_token f

end OAuthClient.TokenSession
