import OAuthClient.Proofs.Store.Defaults

/-!
# Building a request again

Preparing a phase fills in its fixed values before anything can fail, and what is built behind it only reads. So building a request
leaves the same store whatever comes of it, and building it again, from the store that it left, finds nothing to fill in and comes to
the same.
-/

namespace OAuthClient

/-- With different names, the value under a name is the one that is listed with it. -/
theorem lookup_eq_some_iff_mem {α β : Type} [BEq α] [LawfulBEq α] {l : List (α × β)} (h : (l.map (·.1)).Nodup) {a : α} {b : β} :
    l.lookup a = some b ↔ (a, b) ∈ l := by
  induction l with
  | nil => exact iff_of_false nofun List.not_mem_nil
  | cons d l ih =>
    obtain ⟨k, w⟩ := d
    rw [List.map_cons, List.nodup_cons] at h
    rw [List.lookup_cons, List.mem_cons, Prod.mk.injEq]
    by_cases hk : a = k
    · subst hk
      -- the name is not listed again
      have hnot : (a, b) ∉ l := fun hmem => h.1 (List.mem_map.mpr ⟨_, hmem, rfl⟩)
      simp [hnot, eq_comm]
    · rw [beq_eq_false_iff_ne.mpr hk]
      simp [hk, ih h.2]

/-- A row of the table gives a parameter one fixed value. -/
theorem Grant.defaults_nodup (g : Grant) (ph : Phase) : ((g.rules ph).defaults.map (·.1)).Nodup := by
  cases g <;> cases ph <;> decide

namespace Store

variable {α β : Type} {g : Grant} {ph : Phase} {s : Store Token}

/-- The store that is left when a phase has been prepared. -/
def preparedFor (g : Grant) (ph : Phase) (s : Store Token) : Store Token :=
  if (g.rules ph).supported then s.withDefaults (g.rules ph).defaults else s

/-- A phase is prepared once. -/
theorem preparedFor_preparedFor (g : Grant) (ph : Phase) (s : Store Token) :
    preparedFor g ph (preparedFor g ph s) = preparedFor g ph s := by
  unfold preparedFor
  split
  · exact withDefaults_withDefaults _ s
  · rfl

/-- Only values are filled in. -/
theorem preparedFor_scopes (g : Grant) (ph : Phase) (s : Store Token) : (preparedFor g ph s).scopes = s.scopes := by
  unfold preparedFor
  split <;> rfl

/-- The token response stays. -/
theorem preparedFor_token (g : Grant) (ph : Phase) (s : Store Token) : (preparedFor g ph s).token = s.token := by
  unfold preparedFor
  split <;> rfl

/-- The values of a prepared store are those that were there, and the fixed values of the phase where there was none. -/
theorem preparedFor_values {p : Parameter} {v : String} : (preparedFor g ph s).values p = some v ↔
    s.values p = some v ∨ (g.rules ph).supported = true ∧ s.values p = none ∧ (p, v) ∈ (g.rules ph).defaults := by
  rw [← lookup_eq_some_iff_mem (g.defaults_nodup ph)]
  unfold preparedFor
  split
  · next hsup =>
    rw [withDefaults_values, Option.or_eq_some_iff]
    simp [hsup]
  · next hsup => simp [hsup]

/-! ## Acts behind a prepared phase -/

/-- An act prepares a phase and changes nothing else, and it comes to the same when the phase has been prepared before. -/
structure Prepares (g : Grant) (ph : Phase) (act : Act (Store Token) α) : Prop where
  state : ∀ s, (act s).state = preparedFor g ph s
  result : ∀ s, (act (preparedFor g ph s)).result = (act s).result

/-- Whatever only reads may come behind a phase that is prepared. -/
theorem Prepares.bind {next : Rules → Act (Store Token) α} (hnext : ∀ rules t, (next rules).Preserves (· = t)) :
    Prepares g ph (prepare g ph >>= next) where
  state := state_prepare_bind hnext
  result s := by
    cases hsup : (g.rules ph).unsupported with
    | some reason =>
      have hprepared : preparedFor g ph s = s := by rw [preparedFor, Rules.supported, hsup]; rfl
      rw [hprepared]
    | none =>
      have hprepared : preparedFor g ph s = s.withDefaults (g.rules ph).defaults := by
        rw [preparedFor, Rules.supported, hsup]
        rfl
      obtain ⟨_, hfirst⟩ := prepare_of_supported hsup s
      obtain ⟨_, hagain⟩ := prepare_of_supported hsup (s.withDefaults (g.rules ph).defaults)
      rw [withDefaults_withDefaults] at hagain
      rw [hprepared, Act.bind_of_ok hfirst, Act.bind_of_ok hagain]

/-- What is made of the result of an act does not matter. -/
theorem Prepares.map {act : Act (Store Token) α} (h : Prepares g ph act) (f : α → β) :
    Prepares g ph (act >>= fun a => Act.pure (f a)) where
  state s := by rw [Act.bind_pure_apply, h.state]
  result s := by rw [Act.bind_pure_apply, Act.bind_pure_apply, h.result]

theorem prepares_prepare (g : Grant) (ph : Phase) : Prepares g ph (prepare g ph) := by
  have hbind : Prepares g ph (prepare g ph >>= fun rules => Act.pure rules) := .bind fun _ _ => .pure _
  rwa [show (prepare g ph >>= fun rules => Act.pure rules) = prepare g ph from bind_pure (prepare g ph)] at hbind

theorem prepares_authorizationUrl (g : Grant) : Prepares g .authorization (authorizationUrl g) :=
  .bind fun _ _ => .bind .get fun _ => .bind (.ofExcept _) fun _ => .bind (.ofExcept _) fun _ => .ofExcept _

theorem prepares_formRequest (g : Grant) (ph : Phase) : Prepares g ph (formRequest g ph) :=
  .bind fun _ _ => .bind .get fun _ => .bind (.ofExcept _) fun _ => .bind (.ofExcept _) fun _ => .pure _

theorem prepares_encodeUri (g : Grant) (ph : Phase) : Prepares g ph (encodeUri g ph) := by
  unfold encodeUri
  split
  · next hph =>
    subst hph
    exact prepares_authorizationUrl g
  · exact (prepares_formRequest g ph).map fun request => Form.encode .percent request.params

/-! ## Once and again -/

/-- All that an act for a phase does to a store, whatever its result is: it fills in what was absent, and then it is done. -/
structure FillsInOnce (g : Grant) (ph : Phase) (s : Store Token) (act : Act (Store Token) α) : Prop where
  /-- The scopes are unchanged. -/
  scopes : (act s).state.scopes = s.scopes
  /-- The token response is unchanged. -/
  token : (act s).state.token = s.token
  /-- The values are the previous ones, and the fixed values of a phase that the grant has where there was none. -/
  values : ∀ p v, (act s).state.values p = some v ↔
    s.values p = some v ∨ (g.rules ph).supported = true ∧ s.values p = none ∧ (p, v) ∈ (g.rules ph).defaults
  /-- A phase that the grant does not have changes nothing. -/
  refused : (g.rules ph).supported = false → (act s).state = s
  /-- The act comes to the same when it is repeated. -/
  again : (act (act s).state).result = (act s).result
  /-- The act changes nothing when it is repeated. -/
  unchanged : (act (act s).state).state = (act s).state

/-- An act that prepares a phase fills in once. -/
theorem Prepares.fillsInOnce {act : Act (Store Token) α} (h : Prepares g ph act) (s : Store Token) : FillsInOnce g ph s act where
  scopes := by rw [h.state, preparedFor_scopes]
  token := by rw [h.state, preparedFor_token]
  values p v := by rw [h.state, preparedFor_values]
  refused hsup := by rw [h.state, preparedFor, hsup]; rfl
  again := by rw [h.state, h.result]
  unchanged := by rw [h.state, h.state, preparedFor_preparedFor]

/-- Preparing a phase, building an authorization URL, building a form and building the text of a request only fill in fixed values where
there are none, on every store and whatever comes of it; and doing the same again comes to the same and changes nothing more. -/
theorem requests_fill_in_once (g : Grant) (ph : Phase) (s : Store Token) :
    FillsInOnce g ph s (prepare g ph) ∧ FillsInOnce g .authorization s (authorizationUrl g) ∧
    FillsInOnce g ph s (formRequest g ph) ∧ FillsInOnce g ph s (encodeUri g ph) :=
  ⟨(prepares_prepare g ph).fillsInOnce s, (prepares_authorizationUrl g).fillsInOnce s, (prepares_formRequest g ph).fillsInOnce s,
    (prepares_encodeUri g ph).fillsInOnce s⟩

end Store

end OAuthClient
