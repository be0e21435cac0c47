import OAuthClient.Proofs.Credential.Draft
import OAuthClient.Proofs.Pkce
import OAuthClient.Proofs.Session.Pkce

/-!
# The latest draw

A session draws a verifier as often as it is asked to, from octets that differ from draw to draw. The verifier, the challenge and the
method that it keeps are always those of one draw, the latest one, however many draws there were and whatever else happened between
them. This holds for the current store of a session on stores and for the draft of a session on credentials.
-/

namespace OAuthClient

/-! ## What was given last -/

namespace Session

section

variable {σ ε α : Type} (apply : σ → ε → σ) (given? : σ → ε → Option α)

/-- The last thing that some events give, each in the state that it finds. -/
def lastGiven? (s : σ) : List ε → Option α
  | [] => none
  | e :: events => (lastGiven? (apply s e) events).or (given? s e)

variable {apply given?} {I : σ → Prop} {P : α → σ → Prop}

/-- What holds of a thing behind the event that gives it, and is kept by the events that give nothing, holds of the last thing that was
given. -/
theorem holds_of_lastGiven? {events : List ε} (hI : ∀ e ∈ events, ∀ s, I s → I (apply s e))
    (hgiven : ∀ e ∈ events, ∀ s, I s → ∀ a, given? s e = some a → P a (apply s e))
    (hkept : ∀ e ∈ events, ∀ s, I s → given? s e = none → ∀ a, P a s → P a (apply s e)) {s : σ} (hs : I s) {a : α}
    (h : lastGiven? apply given? s events = some a) : P a (events.foldl apply s) := by
  -- the induction needs the thing that was given before the events, too
  have hseed : ∀ seed : Option α, (∀ a, seed = some a → P a s) → (lastGiven? apply given? s events).or seed = some a →
      P a (events.foldl apply s) := by
    clear h
    induction events generalizing s with
    | nil => exact fun seed hseed hlast => hseed a hlast
    | cons e events ih =>
      intro seed hseed hlast
      rw [lastGiven?, Option.or_assoc] at hlast
      refine ih (fun e he => hI e (List.mem_cons_of_mem _ he)) (fun e he => hgiven e (List.mem_cons_of_mem _ he))
        (fun e he => hkept e (List.mem_cons_of_mem _ he)) (hI e (by simp) s hs) _ (fun a ha => ?_) hlast
      cases hgive : given? s e with
      | some b =>
        rw [hgive, Option.some_or, Option.some.injEq] at ha
        exact hgiven e (by simp) s hs a (ha ▸ hgive)
      | none =>
        rw [hgive, Option.none_or] at ha
        exact hkept e (by simp) s hs hgive a (hseed a ha)
  exact hseed none nofun (by rw [h, Option.some_or])

variable (apply given?) in
/-- Something is given last where some event gives something in every state. -/
theorem exists_lastGiven? {events : List ε} {e : ε} (he : e ∈ events) (hgives : ∀ s, ∃ a, given? s e = some a) (s : σ) :
    ∃ a, lastGiven? apply given? s events = some a := by
  induction events generalizing s with
  | nil => cases he
  | cons e' events ih =>
    rw [lastGiven?]
    rcases List.mem_cons.mp he with rfl | hmem
    · obtain ⟨a, ha⟩ := hgives s
      cases lastGiven? apply given? (apply s e) events with
      | some b => exact ⟨b, rfl⟩
      | none => exact ⟨a, ha⟩
    · obtain ⟨a, ha⟩ := ih hmem (apply s e')
      exact ⟨a, by rw [ha, Option.some_or]⟩

/-- Giving random octets again and again takes them from one draw after another. -/
theorem lastGiven?_replicate (supply : σ → Supply) {given? : σ → ε → Option (List UInt8)} {e : ε}
    (hI : ∀ s, I s → I (apply s e)) (hgives : ∀ s, given? s e = some ((supply s).random (supply s).draws))
    (hdraw : ∀ s, I s → supply (apply s e) = { supply s with draws := (supply s).draws + 1 }) (n : Nat) {s : σ} (hs : I s) :
    lastGiven? apply given? s (List.replicate (n + 1) e) = some ((supply s).random ((supply s).draws + n)) := by
  induction n generalizing s with
  | zero => exact hgives s
  | succ n ih =>
    rw [List.replicate_succ, lastGiven?, ih (hI s hs), hdraw s hs, Option.some_or, Nat.add_right_comm, Nat.add_assoc]

end

end Session

/-! ## Sessions on stores -/

namespace StoreSession

/-- The octets that an event draws for a verifier. -/
def Event.draw? (f : StoreSession) : Event → Option (List UInt8)
  | .step .generatePkce => some (f.supply.random f.supply.draws)
  | _ => none

/-- The octets that some events draw last for a verifier. -/
def lastDraw? (f : StoreSession) (events : List Event) : Option (List UInt8) :=
  Session.lastGiven? Event.apply Event.draw? f events

/-- An event draws a verifier, or it leaves the verifier, its challenge and the method alone. -/
def Event.DrawsOrSpares (e : Event) : Prop :=
  e = .step .generatePkce ∨ e.Spares Store.pkceParameters

/-- What a session has after some events of which one draws a verifier: the pair of the octets that were drawn last. -/
theorem hasPkce_of_lastDraw {f : StoreSession} (hf : f.Reachable) {events : List Event} (he : ∀ e ∈ events, e.DrawsOrSpares)
    {octets : List UInt8} (h : f.lastDraw? events = some octets) : (f.play events).resolved.HasPkce (.ofOctets octets) := by
  refine Session.holds_of_lastGiven? (I := Reachable) (P := fun octets f => f.resolved.HasPkce (.ofOctets octets))
    (fun e _ f hf => hf.play [e]) ?_ ?_ hf h
  · intro e _ f hf octets hdraw
    unfold Event.draw? at hdraw
    split at hdraw
    · cases hdraw
      exact hasPkce_generatePkce hf.wellFormed.current
    · cases hdraw
  · intro e hmem f hf hdraw octets hpkce
    rcases he e hmem with rfl | hspares
    · cases hdraw
    · have hone : ∀ e' ∈ [e], e'.Spares Store.pkceParameters := by simpa using hspares
      exact hasPkce_of_spares hf.wellFormed.current hpkce hone

/-- Drawing again and again, a session takes the octets of one draw after another. -/
theorem lastDraw?_replicate (f : StoreSession) (n : Nat) :
    f.lastDraw? (List.replicate (n + 1) (.step .generatePkce)) = some (f.supply.random (f.supply.draws + n)) :=
  Session.lastGiven?_replicate (I := fun _ => True) supply (fun _ _ => trivial) (fun _ => rfl) (fun _ _ => rfl) n trivial

end StoreSession

/-! ## Sessions on credentials -/

/-- An authorization URL that has a verifier, its challenge and the method between them. -/
structure CodeUrl.HasPkce (pair : Pkce) (u : CodeUrl) : Prop where
  verifier : u.codeVerifier = some pair.verifier
  challenge : u.codeChallenge = some pair.challenge
  method : u.codeChallengeMethod = some Pkce.method

/-- The three values of a pair are set together. -/
theorem CodeUrl.hasPkce_setPkce (pair : Pkce) (u : CodeUrl) : (u.setPkce pair).HasPkce pair :=
  ⟨rfl, rfl, rfl⟩

namespace Draft

/-- Setting another field keeps the three values. -/
theorem hasPkce_setCodeUrlField {field : String} {v : Json} {u u' : CodeUrl} {pair : Pkce} (h : u.HasPkce pair)
    (hfield : field ∉ ["code_verifier", "code_challenge", "code_challenge_method"]) (hset : setCodeUrlField field v u = .ok u') :
    u'.HasPkce pair := by
  have hother : u'.codeVerifier = u.codeVerifier ∧ u'.codeChallenge = u.codeChallenge ∧
      u'.codeChallengeMethod = u.codeChallengeMethod := by
    unfold setCodeUrlField at hset
    split at hset
    case h_8 | h_9 =>
      obtain ⟨_, _, rfl⟩ := Act.exists_of_map_ok hset
      exact ⟨rfl, rfl, rfl⟩
    case h_12 | h_13 | h_14 => simp at hfield
    case h_15 => cases hset
    all_goals
      cases hset
      exact ⟨rfl, rfl, rfl⟩
  obtain ⟨hverifier, hchallenge, hmethod⟩ := hother
  exact ⟨hverifier.trans h.verifier, hchallenge.trans h.challenge, hmethod.trans h.method⟩

/-- The fields of an authorization URL of the code grant that have a setter: none is the verifier, and only two are the challenge and
the method. -/
theorem fieldOf_notMem {u : CodeUrl} {setter : String} (h : (Draft.codeUrl u).hasSetter setter)
    (hsetter : setter ∉ ["code_challenge", "code_challenge_method"]) :
    fieldOf setter ∉ ["code_verifier", "code_challenge", "code_challenge_method"] := by
  simp only [hasSetter, List.contains_eq_mem, decide_eq_true_eq] at h
  revert hsetter
  revert setter
  decide

/-- A setter of an authorization URL of the code grant sets one of its fields. -/
theorem setValue_codeUrl {setter : String} {v : Json} {u : CodeUrl} {d : Draft} (h : (Draft.codeUrl u).setValue setter v = .ok d) :
    ∃ field w u', setCodeUrlField field w u = .ok u' ∧ d = .codeUrl u' ∧
      (setter ∉ ["code_challenge", "code_challenge_method"] →
        field ∉ ["code_verifier", "code_challenge", "code_challenge_method"]) := by
  have hset : ∀ field w, (Draft.codeUrl u).setField field w = .ok d → ∃ u', setCodeUrlField field w u = .ok u' ∧ d = .codeUrl u' := by
    intro field w hfield
    obtain ⟨u', hu', rfl⟩ := Act.exists_of_map_ok hfield
    exact ⟨u', hu', rfl⟩
  unfold setValue at h
  split at h
  · next hsetter =>
    split at h
    · next heq => cases heq
    · next heq => cases heq
    · cases hchoice : Session.choice "ResponseType" ResponseType.ofWireName? v with
      | error fault =>
        rw [hchoice] at h
        cases h
      | ok t =>
        rw [hchoice] at h
        obtain ⟨u', hu', hd⟩ := hset "response_type" (.str t.wireName) h
        exact ⟨_, _, u', hu', hd, fun _ => by decide⟩
    · obtain ⟨u', hu', hd⟩ := hset _ _ h
      exact ⟨_, _, u', hu', hd, fieldOf_notMem hsetter⟩
  · cases h

end Draft

namespace CredentialSession

/-- The octets that an event draws for a verifier, in a session on an authorization URL of the code grant. -/
def Event.draw? (f : CredentialSession) : Event → Option (List UInt8)
  | .step .setPkce => some (f.supply.random f.supply.draws)
  | _ => none

/-- The octets that some events draw last for a verifier. -/
def lastDraw? (f : CredentialSession) (events : List Event) : Option (List UInt8) :=
  Session.lastGiven? Event.apply Event.draw? f events

/-- An event sets neither a challenge nor a method by its own setter. -/
def Event.SparesPkce (e : Event) : Prop :=
  ∀ setter v, e = .step (.set setter v) → setter ∉ ["code_challenge", "code_challenge_method"]

/-- The draft of a session is an authorization URL of the code grant. -/
def OnCodeUrl (f : CredentialSession) : Prop :=
  ∃ u, f.draft = .codeUrl u

/-- The draft of a session is an authorization URL of the code grant that has a pair. -/
def HasPkce (pair : Pkce) (f : CredentialSession) : Prop :=
  ∃ u, f.draft = .codeUrl u ∧ u.HasPkce pair

/-- A session on an authorization URL is one with such a draft. -/
theorem exists_of_onCodeUrl {f : CredentialSession} (h : f.OnCodeUrl) :
    ∃ u, f = { f with draft := .codeUrl u } := by
  obtain ⟨u, hu⟩ := h
  exact ⟨u, by rw [← hu]⟩

/-- Whatever happens, the draft stays one of the same kind. -/
theorem OnCodeUrl.apply {f : CredentialSession} (h : f.OnCodeUrl) (e : Event) : (e.apply f).OnCodeUrl := by
  obtain ⟨u, hu⟩ := h
  cases e with
  | clock now => exact ⟨u, hu⟩
  | step step =>
    cases change step f with
    | set setter v d _ hset hdraft =>
      rw [hu] at hset
      obtain ⟨_, _, u', _, rfl, _⟩ := Draft.setValue_codeUrl hset
      exact ⟨u', hdraft⟩
    | pkce u' _ _ hdraft => exact ⟨_, hdraft⟩
    | scope u' _ hfrom _ =>
      rw [hu] at hfrom
      cases hfrom
    | none hdraft => exact ⟨u, hdraft.trans hu⟩

/-- A session that draws a verifier has it, with its challenge and the method. -/
theorem hasPkce_setPkce {f : CredentialSession} (h : f.OnCodeUrl) :
    HasPkce (.ofOctets (f.supply.random f.supply.draws)) (perform .setPkce f).state := by
  obtain ⟨u, hf⟩ := exists_of_onCodeUrl h
  rw [hf]
  exact ⟨_, rfl, u.hasPkce_setPkce _⟩

/-- An event that neither draws a verifier nor sets one of the values keeps them. -/
theorem HasPkce.apply {f : CredentialSession} {pair : Pkce} (h : HasPkce pair f) {e : Event} (he : e.SparesPkce)
    (hdraw : e.draw? f = none) : HasPkce pair (e.apply f) := by
  obtain ⟨u, hu, hpkce⟩ := h
  cases e with
  | clock now => exact ⟨u, hu, hpkce⟩
  | step step =>
    cases change step f with
    | set setter v d hstep hset hdraft =>
      rw [hu] at hset
      obtain ⟨field, w, u', hfield, rfl, hother⟩ := Draft.setValue_codeUrl hset
      exact ⟨u', hdraft, Draft.hasPkce_setCodeUrlField hpkce (hother (he setter v (congrArg _ hstep))) hfield⟩
    | pkce u' hstep _ _ =>
      subst hstep
      cases hdraw
    | scope u' _ hfrom _ =>
      rw [hu] at hfrom
      cases hfrom
    | none hdraft => exact ⟨u, hdraft.trans hu, hpkce⟩

/-- What the draft has after some events of which one draws a verifier: the pair of the octets that were drawn last. -/
theorem hasPkce_of_lastDraw {f : CredentialSession} (hf : f.OnCodeUrl) {events : List Event} (he : ∀ e ∈ events, e.SparesPkce)
    {octets : List UInt8} (h : f.lastDraw? events = some octets) : HasPkce (.ofOctets octets) (f.play events) := by
  refine Session.holds_of_lastGiven? (I := OnCodeUrl) (P := fun octets f => HasPkce (.ofOctets octets) f)
    (fun e _ f hf => hf.apply e) ?_ ?_ hf h
  · intro e _ f hf octets hdraw
    unfold Event.draw? at hdraw
    split at hdraw
    · cases hdraw
      exact hasPkce_setPkce hf
    · cases hdraw
  · intro e hmem f hf hdraw octets hpkce
    exact hpkce.apply (he e hmem) hdraw

/-- Drawing again and again, a session takes the octets of one draw after another. -/
theorem lastDraw?_replicate {f : CredentialSession} (hf : f.OnCodeUrl) (n : Nat) :
    f.lastDraw? (List.replicate (n + 1) (.step .setPkce)) = some (f.supply.random (f.supply.draws + n)) := by
  refine Session.lastGiven?_replicate (I := OnCodeUrl) supply (fun f hf => hf.apply _) (fun _ => rfl) ?_ n hf
  intro f hf
  obtain ⟨u, hu⟩ := exists_of_onCodeUrl hf
  rw [hu]
  rfl

end CredentialSession

/-! ## Pairs and draws -/

/-- The pair of 32 octets is valid, and the octets can be read back, so pairs of different octets differ. What sessions keep is always
the pair of the octets that were drawn last: after any events of which one draws and the others leave the three values alone, and so
after any number of draws in a row. -/
theorem pkce_of_latest_draw :
    (∀ octets : List UInt8, octets.length = 32 → Pkce.BelongsTo octets (.ofOctets octets)) ∧
    (∀ octets octets', (Pkce.ofOctets octets).verifier = (Pkce.ofOctets octets').verifier → octets = octets') ∧
    (∀ f : StoreSession, f.Reachable → ∀ events, (∀ e ∈ events, e.DrawsOrSpares) → .step .generatePkce ∈ events →
      ∃ octets, f.lastDraw? events = some octets ∧ (f.play events).resolved.HasPkce (.ofOctets octets)) ∧
    (∀ f : StoreSession, f.Reachable → ∀ n, (f.play (List.replicate (n + 1) (.step .generatePkce))).resolved.HasPkce
      (.ofOctets (f.supply.random (f.supply.draws + n)))) ∧
    (∀ f : CredentialSession, f.OnCodeUrl → ∀ events, (∀ e ∈ events, e.SparesPkce) → .step .setPkce ∈ events →
      ∃ octets, f.lastDraw? events = some octets ∧ (f.play events).HasPkce (.ofOctets octets)) ∧
    (∀ f : CredentialSession, f.OnCodeUrl → ∀ n, (f.play (List.replicate (n + 1) (.step .setPkce))).HasPkce
      (.ofOctets (f.supply.random (f.supply.draws + n)))) := by
  refine ⟨fun _ h => Pkce.belongsTo_ofOctets h, fun _ _ h => Pkce.verifier_injective h, ?_, ?_, ?_, ?_⟩
  · intro f hf events he hmem
    obtain ⟨octets, hlast⟩ := Session.exists_lastGiven? StoreSession.Event.apply StoreSession.Event.draw? hmem (fun f => ⟨_, rfl⟩) f
    exact ⟨octets, hlast, StoreSession.hasPkce_of_lastDraw hf he hlast⟩
  · intro f hf n
    refine StoreSession.hasPkce_of_lastDraw hf (fun e he => Or.inl ?_) (f.lastDraw?_replicate n)
    exact List.eq_of_mem_replicate he
  · intro f hf events he hmem
    obtain ⟨octets, hlast⟩ := Session.exists_lastGiven? CredentialSession.Event.apply CredentialSession.Event.draw? hmem
      (fun f => ⟨_, rfl⟩) f
    exact ⟨octets, hlast, CredentialSession.hasPkce_of_lastDraw hf he hlast⟩
  · intro f hf n
    refine CredentialSession.hasPkce_of_lastDraw hf (fun e he setter v hset => ?_) (CredentialSession.lastDraw?_replicate hf n)
    rw [List.eq_of_mem_replicate he] at hset
    cases hset

/-- A supply whose draws all differ: the octets of a draw are its number. -/
def numberedSupply : Session.Supply where
  now := 0
  random := fun n => List.replicate 32 (UInt8.ofNat n)

set_option maxRecDepth 10000 in
/-- Two draws with something else between them: the verifier is that of the second, in a store and in an authorization URL. -/
theorem pkce_of_latest_draw_second :
    Pkce.BelongsTo (List.replicate 32 1) (.ofOctets (List.replicate 32 1)) ∧
      (Pkce.ofOctets (List.replicate 32 1)).verifier = "AQEBAQEBAQEBAQEBAQEBAQEBAQEBAQEBAQEBAQEBAQE" ∧
      (StoreSession.play { supply := numberedSupply }
        [.step .generatePkce, .step (.set "state" (.str "x")), .step .generatePkce, .clock 5]).resolved.HasPkce
          (.ofOctets (List.replicate 32 1)) ∧
      (CredentialSession.play { draft := .codeUrl {}, supply := numberedSupply }
        [.step .setPkce, .step (.set "state" (.str "x")), .step .setPkce, .clock 5]).HasPkce
          (.ofOctets (List.replicate 32 1)) := by
  obtain ⟨hvalid, -, hstore, -, hdraft, -⟩ := pkce_of_latest_draw
  refine ⟨hvalid _ rfl, by rfl, ?_, ?_⟩
  · have hevents : ∀ e ∈ [.step .generatePkce, .step (.set "state" (.str "x")), .step .generatePkce, .clock 5],
        StoreSession.Event.DrawsOrSpares e := by
      simp only [List.forall_mem_cons]
      exact ⟨Or.inl rfl, Or.inr ⟨by decide, fun _ => nofun⟩, Or.inl rfl, Or.inr ⟨by decide, fun _ => nofun⟩, nofun⟩
    obtain ⟨octets, hlast, hpkce⟩ := hstore { supply := numberedSupply } ⟨_, [], .empty _, rfl⟩ _ hevents (by simp)
    cases hlast
    exact hpkce
  · have hevents : ∀ e ∈ [.step .setPkce, .step (.set "state" (.str "x")), .step .setPkce, .clock 5],
        CredentialSession.Event.SparesPkce e := by
      simp [CredentialSession.Event.SparesPkce]
    obtain ⟨octets, hlast, hpkce⟩ := hdraft { draft := .codeUrl {}, supply := numberedSupply } ⟨_, rfl⟩ _ hevents (by simp)
    cases hlast
    exact hpkce

end OAuthClient
