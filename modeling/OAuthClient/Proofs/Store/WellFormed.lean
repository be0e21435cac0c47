import OAuthClient.Proofs.Store.Defaults
import OAuthClient.Settings.Store
import OAuthClient.Store.Encode

/-!
# Well-formed stores

What holds of every store: the scope has no value of its own, and every URL has passed the check. The operations on a store only
ever set a value that its parameter takes, take a value away, change the scopes or keep a token, so a property that these four keep
is kept by all of them. A property that not every write keeps is still kept by the operations that leave alone what it is about:
those that replace or take away other values only, and fill in others only.
-/

namespace OAuthClient.Store

variable {τ : Type} {p : Parameter} {v : String}

/-- A store whose values are where they belong. -/
structure WellFormed (s : Store τ) : Prop where
  /-- The scope has no value beside the scopes. -/
  scope : s.values .scope = none
  /-- Every value is one that its parameter takes. -/
  accepts : ∀ p v, s.values p = some v → Accepts p v

/-- A property of stores that is kept by everything that an operation can do to a store, as long as it replaces and takes away no
values but those of certain parameters and fills in none but those of certain parameters. A token brings its refresh token with it,
so it is kept only where that may be replaced. -/
structure Invariant (written filled : Parameter → Prop) (J : Store τ → Prop) : Prop where
  setValue : ∀ {s : Store τ} {p : Parameter} {v : String}, p ≠ .scope → Accepts p v → s.values p = none ∧ filled p ∨ written p →
    J s → J (s.setValue p v)
  unsetValue : ∀ {s : Store τ} {p : Parameter}, written p → J s → J (s.unsetValue p)
  scopes : ∀ {s : Store τ} (scopes : Scopes), J s → J { s with scopes := scopes }
  token : ∀ {s : Store τ} (token : τ), written .refreshToken → J s → J { s with token := some token }

/-- The parameters that pointing a store at endpoints sets. -/
def endpointParameters : List Parameter := [.authorizationUrl, .accessTokenUrl, .refreshTokenUrl]

/-- The parameters that a verifier sets. -/
def pkceParameters : List Parameter := [.codeVerifier, .codeChallenge, .codeChallengeMethod]

/-- The parameters that may be replaced by what came back from a sign-in. A state is not, it is only filled in. -/
def signInParameters : List Parameter := [.authorizationCode, .sessionState, .idToken]

/-- The parameters that a store takes over from settings. -/
def settingParameters : List Parameter := [.clientId, .clientSecret, .redirectUri] ++ endpointParameters

/-- The parameters that a phase may fill in with a fixed value. -/
def fixedParameters : List Parameter := [.responseType, .responseMode, .grantType]

/-- A phase has fixed values for these parameters only. -/
theorem mem_fixedParameters (g : Grant) (ph : Phase) : ∀ d ∈ (g.rules ph).defaults, d.1 ∈ fixedParameters := by
  cases g <;> cases ph <;> decide

/-- Fixed values for these parameters only have none for another. -/
theorem lookup_of_notMem_fixedParameters {fixed : List (Parameter × String)} (hfixed : ∀ d ∈ fixed, d.1 ∈ fixedParameters)
    (h : p ∉ fixedParameters) : fixed.lookup p = none := by
  rw [List.lookup_eq_none_iff]
  intro d hd
  rw [bne_iff_ne]
  rintro rfl
  exact h (hfixed d hd)

/-- A phase leaves every other parameter as it is. -/
theorem withDefaults_values_of_notMem (g : Grant) (ph : Phase) (h : p ∉ fixedParameters) (s : Store τ) :
    (s.withDefaults (g.rules ph).defaults).values p = s.values p := by
  rw [withDefaults_values, lookup_of_notMem_fixedParameters (mem_fixedParameters g ph) h, Option.or_none]

/-- The empty store is well-formed. -/
theorem wellFormed_empty : (empty : Store τ).WellFormed := by
  constructor
  · rfl
  · intro p v h
    cases h

/-- A store is well-formed whatever its token is. -/
theorem WellFormed.withToken {υ : Type} {s : Store τ} (h : s.WellFormed) (scopes : Scopes) (token : Option υ) :
    WellFormed { values := s.values, scopes := scopes, token := token } :=
  ⟨h.scope, h.accepts⟩

/-- Whatever an operation does to a store, it stays well-formed. -/
theorem invariant_wellFormed : Invariant (fun _ => True) (fun _ => True) (WellFormed (τ := τ)) where
  setValue := by
    intro s p v hscope haccepts _ h
    constructor
    · rw [setValue]
      dsimp only
      rw [if_neg (Ne.symm hscope)]
      exact h.scope
    · intro q w hq
      rw [setValue] at hq
      dsimp only at hq
      split at hq
      · next he =>
        cases hq
        rwa [he]
      · exact h.accepts q w hq
  unsetValue := by
    intro s p _ h
    constructor
    · rw [unsetValue]
      dsimp only
      split
      · rfl
      · exact h.scope
    · intro q w hq
      rw [unsetValue] at hq
      dsimp only at hq
      split at hq
      · cases hq
      · exact h.accepts q w hq
  scopes scopes h := h.withToken scopes _
  token token _ h := h.withToken _ (some token)

/-- An operation that leaves a parameter alone keeps the value that the parameter has. -/
theorem invariant_value (p : Parameter) (v : String) :
    Invariant (· ≠ p) (fun _ => True) fun s : Store τ => s.values p = some v where
  setValue := by
    intro s q w _ _ hq h
    have hne : p ≠ q := by
      rintro rfl
      rcases hq with ⟨hnone, _⟩ | hne
      · rw [h] at hnone
        cases hnone
      · exact hne rfl
    exact (if_neg hne).trans h
  unsetValue hne h := (if_neg hne.symm).trans h
  scopes _ h := h
  token _ _ h := h

namespace Invariant

variable {written filled : Parameter → Prop} {J : Store τ → Prop} (hJ : Invariant written filled J)

include hJ

/-! ## Writes -/

/-- Setting a parameter that may be written keeps an invariant. -/
theorem insert (hp : written p) (v : String) : (Store.insert p v : Act (Store τ) Unit).Preserves J := by
  intro s hs
  rcases insert_cases p v s with ⟨_, h⟩ | ⟨hscope, haccepts, h⟩ | ⟨f, _, h⟩
  · rw [h]
    exact hJ.scopes _ hs
  · rw [h]
    exact hJ.setValue hscope haccepts (Or.inr hp) hs
  · rw [h]
    exact hs

/-- Filling in a parameter that may be filled in keeps an invariant. -/
theorem entryWith (hp : filled p) (v : String) : (Store.entryWith p v : Act (Store τ) String).Preserves J := by
  intro s hs
  cases hc : s.contains p with
  | true =>
    rw [entryWith_of_contains hc]
    exact hs
  | false =>
    rw [entryWith_of_not_contains hc]
    rcases insert_cases p v s with ⟨_, h⟩ | ⟨hscope, haccepts, h⟩ | ⟨f, _, h⟩
    · rw [Act.bind_of_ok h]
      exact hJ.scopes _ hs
    · have hnone : s.values p = none := by
        rw [contains, get?, if_neg hscope] at hc
        exact Option.isNone_iff_eq_none.mp (Option.isSome_eq_false_iff.mp hc)
      rw [Act.bind_of_ok h]
      exact hJ.setValue hscope haccepts (Or.inl ⟨hnone, hp⟩) hs
    · rw [Act.bind_of_error h]
      exact hs

/-- Changing the scopes keeps an invariant. -/
theorem changeScopes (f : Scopes → Scopes) : (Store.changeScopes f : Act (Store τ) Unit).Preserves J :=
  Act.Preserves.modify fun _ hs => hJ.scopes _ hs

/-- Taking away the value of a parameter that may be written keeps an invariant. -/
theorem remove (hp : written p) : (Store.remove p : Act (Store τ) Unit).Preserves J := by
  unfold Store.remove
  split
  · exact hJ.changeScopes _
  · exact Act.Preserves.modify fun _ hs => hJ.unsetValue hp hs

/-- A row of writes to parameters that may be written keeps an invariant. -/
theorem extend {pairs : List (Parameter × String)} (h : ∀ d ∈ pairs, written d.1) :
    (Store.extend pairs : Act (Store τ) Unit).Preserves J :=
  Act.Preserves.each fun d hd => hJ.insert (h d hd) d.2

/-- Pointing a store at endpoints keeps an invariant. -/
theorem setEndpoints (h : ∀ p ∈ endpointParameters, written p) (e : Endpoints) :
    (Store.setEndpoints e : Act (Store τ) Unit).Preserves J :=
  hJ.extend fun _ hd => h _ (List.mem_map_of_mem hd)

/-- Setting the values for a proof of possession keeps an invariant. -/
theorem setPkce (h : ∀ p ∈ pkceParameters, written p) (pair : Pkce) :
    (Store.setPkce pair : Act (Store τ) Unit).Preserves J :=
  hJ.extend fun _ hd => h _ (List.mem_map_of_mem hd)

/-- Taking over what came back from a sign-in keeps an invariant. -/
theorem acceptIdToken (h : ∀ p ∈ signInParameters, written p) (hstate : filled .state) (t : IdToken) :
    (Store.acceptIdToken t : Act (Store τ) Unit).Preserves J := by
  unfold Store.acceptIdToken
  refine Act.Preserves.given (hJ.insert (h .authorizationCode (by simp [signInParameters]))) ?_
  refine Act.Preserves.given (hJ.entryWith hstate) ?_
  exact Act.Preserves.given (hJ.insert (h .sessionState (by simp [signInParameters])))
    (hJ.insert (h .idToken (by simp [signInParameters])) t.idToken)

/-- Keeping a token keeps an invariant. -/
theorem acceptToken (h : written .refreshToken) (token : τ) (refresh : Option String) :
    (Store.acceptToken token refresh : Act (Store τ) Unit).Preserves J := by
  have hkeep : (Act.modify fun s : Store τ => { s with token := some token }).Preserves J :=
    Act.Preserves.modify fun _ hs => hJ.token _ h hs
  unfold Store.acceptToken
  cases refresh with
  | some v => exact (hJ.insert h v).bind fun _ => hkeep
  | none => exact (Act.Preserves.pure ()).bind fun _ => hkeep

/-- Setting what settings give keeps an invariant. -/
theorem settings (h : ∀ p ∈ settingParameters, written p) (s : Settings) : (s.apply : Act (Store τ) Unit).Preserves J := by
  have hgiven : ∀ p ∈ settingParameters, ∀ v, (Settings.insertGiven p v : Act (Store τ) Unit).Preserves J := by
    intro p hp v
    unfold Settings.insertGiven
    split
    · split
      · exact Act.Preserves.pure ()
      · exact hJ.insert (h p hp) _
    · exact Act.Preserves.pure ()
  unfold Settings.apply
  exact (hgiven .clientId (by decide) _).bind fun _ => (hgiven .clientSecret (by decide) _).bind fun _ =>
    (hgiven .redirectUri (by decide) _).bind fun _ => hJ.setEndpoints (fun p hp => h p (List.mem_append_right _ hp)) _

end Invariant

namespace Invariant

/-! ## Requests -/

variable {written filled : Parameter → Prop} {J : Store Token → Prop} (hJ : Invariant written filled J)
  (hfixed : ∀ p ∈ fixedParameters, filled p)

include hJ hfixed

/-- Filling in the fixed values of a phase keeps an invariant. -/
theorem prepare (g : Grant) (ph : Phase) : (Store.prepare g ph).Preserves J := by
  unfold Store.prepare
  dsimp only
  split
  · exact Act.Preserves.fail _
  · refine Act.Preserves.bind (Act.Preserves.each ?_) fun _ => Act.Preserves.pure _
    intro d hd
    exact (hJ.entryWith (hfixed d.1 (mem_fixedParameters g ph d hd)) d.2).bind fun _ => Act.Preserves.pure ()

/-- Building an authorization URL keeps an invariant. -/
theorem authorizationUrl (g : Grant) : (Store.authorizationUrl g).Preserves J :=
  Act.Preserves.bind (hJ.prepare hfixed g .authorization) fun _ => Act.Preserves.bind Act.Preserves.get fun _ =>
    Act.Preserves.bind (Act.Preserves.ofExcept _) fun _ => Act.Preserves.bind (Act.Preserves.ofExcept _) fun _ =>
      Act.Preserves.ofExcept _

/-- Building a form keeps an invariant. -/
theorem formRequest (g : Grant) (ph : Phase) : (Store.formRequest g ph).Preserves J :=
  Act.Preserves.bind (hJ.prepare hfixed g ph) fun _ => Act.Preserves.bind Act.Preserves.get fun _ =>
    Act.Preserves.bind (Act.Preserves.ofExcept _) fun _ => Act.Preserves.bind (Act.Preserves.ofExcept _) fun _ =>
      Act.Preserves.pure _

/-- Building the text of a request keeps an invariant. -/
theorem encodeUri (g : Grant) (ph : Phase) : (Store.encodeUri g ph).Preserves J := by
  unfold Store.encodeUri
  split
  · exact hJ.authorizationUrl hfixed g
  · exact Act.Preserves.bind (hJ.formRequest hfixed g ph) fun _ => Act.Preserves.pure _

end Invariant

end OAuthClient.Store
