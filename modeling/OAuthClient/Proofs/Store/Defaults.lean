import OAuthClient.Proofs.Grant.Table
import OAuthClient.Proofs.Store.Insert
import OAuthClient.Store.Encode

/-!
# Filling in fixed values

What `prepare` does to a store: nothing when the grant has no such phase, and otherwise every fixed value of the phase is filled
in where the store has none.
-/

namespace OAuthClient.Store

variable {τ : Type} {p : Parameter}

/-- The store with values filled in where it has none. Of two values for one parameter the first counts. -/
def withDefaults (defaults : List (Parameter × String)) (s : Store τ) : Store τ :=
  { s with values := fun p => (s.values p).or (defaults.lookup p) }

@[simp] theorem withDefaults_values (defaults : List (Parameter × String)) (s : Store τ) (p : Parameter) :
    (s.withDefaults defaults).values p = (s.values p).or (defaults.lookup p) := rfl

@[simp] theorem withDefaults_scopes (defaults : List (Parameter × String)) (s : Store τ) :
    (s.withDefaults defaults).scopes = s.scopes := rfl

@[simp] theorem withDefaults_token (defaults : List (Parameter × String)) (s : Store τ) :
    (s.withDefaults defaults).token = s.token := rfl

/-- Without values to fill in the store stays as it is. -/
@[simp] theorem withDefaults_nil (s : Store τ) : s.withDefaults [] = s := by
  simp [withDefaults]

/-- Values are filled in one after another. -/
theorem withDefaults_cons (d : Parameter × String) (defaults : List (Parameter × String)) (s : Store τ) :
    s.withDefaults (d :: defaults) = (s.withDefaults [d]).withDefaults defaults := by
  simp only [withDefaults, Store.mk.injEq, and_true]
  funext p
  cases hp : s.values p with
  | some v => simp
  | none =>
    rw [List.lookup_cons, List.lookup_cons]
    cases p == d.1 <;> simp

/-- Values are filled in in two rounds as they are in one. -/
theorem withDefaults_append (first rest : List (Parameter × String)) (s : Store τ) :
    s.withDefaults (first ++ rest) = (s.withDefaults first).withDefaults rest := by
  induction first generalizing s with
  | nil => rw [List.nil_append, withDefaults_nil]
  | cons d first ih => rw [List.cons_append, withDefaults_cons, ih, ← withDefaults_cons]

/-- Values are filled in once. -/
@[simp] theorem withDefaults_withDefaults (defaults : List (Parameter × String)) (s : Store τ) :
    (s.withDefaults defaults).withDefaults defaults = s.withDefaults defaults := by
  simp only [withDefaults, Store.mk.injEq, and_true]
  funext p
  cases s.values p with
  | some v => rfl
  | none => cases defaults.lookup p <;> rfl

/-- Filling in a value where there is one changes nothing. -/
theorem withDefaults_of_some {s : Store τ} {w : String} (h : s.values p = some w) (v : String) :
    s.withDefaults [(p, v)] = s := by
  obtain ⟨values, scopes, token⟩ := s
  simp only [withDefaults, Store.mk.injEq, and_true]
  funext q
  by_cases hq : q = p
  · subst hq
    simp only at h
    simp [h]
  · have hne : (q == p) = false := beq_eq_false_iff_ne.mpr hq
    simp [List.lookup_cons, hne]

/-- Filling in a value where there is none sets it. -/
theorem withDefaults_of_none {s : Store τ} (h : s.values p = none) (v : String) :
    s.withDefaults [(p, v)] = s.setValue p v := by
  simp only [withDefaults, setValue, Store.mk.injEq, and_true]
  funext q
  by_cases hq : q = p
  · subst hq
    simp [h]
  · have hne : (q == p) = false := beq_eq_false_iff_ne.mpr hq
    simp [List.lookup_cons, hne, hq]

/-- A parameter that takes any text is filled in, and the log is told when it had no value. -/
theorem entryWith_plain (hscope : p ≠ .scope) (hurl : p.isUrl = false) (v : String) (s : Store τ) :
    ∃ w records, entryWith p v s = ⟨.ok w, s.withDefaults [(p, v)], records⟩ := by
  have hget : s.get? p = s.values p := by rw [get?, if_neg hscope]
  cases hp : s.values p with
  | some w =>
    have hcontains : s.contains p = true := by rw [contains, hget, hp]; rfl
    rw [entryWith_of_contains hcontains, withDefaults_of_some hp]
    exact ⟨_, _, rfl⟩
  | none =>
    have hcontains : s.contains p = false := by rw [contains, hget, hp]; rfl
    rw [entryWith_of_not_contains hcontains, withDefaults_of_none hp,
      Act.bind_of_ok (insert_of_accepts hscope (accepts_of_not_isUrl hurl v) s)]
    exact ⟨_, _, rfl⟩

/-- A row of parameters that take any text is filled in. -/
theorem each_entryWith {defaults : List (Parameter × String)} (h : ∀ d ∈ defaults, d.1 ≠ .scope ∧ d.1.isUrl = false)
    (s : Store τ) :
    ∃ records, Act.each (fun (p, v) => do let _ ← entryWith p v) defaults s =
      ⟨.ok (), s.withDefaults defaults, records⟩ := by
  induction defaults generalizing s with
  | nil => exact ⟨[], by rw [withDefaults_nil]; rfl⟩
  | cons d defaults ih =>
    obtain ⟨p, v⟩ := d
    obtain ⟨hscope, hurl⟩ := h (p, v) (by simp)
    obtain ⟨w, first, hentry⟩ := entryWith_plain hscope hurl v s
    obtain ⟨rest, hrest⟩ := ih (fun e he => h e (List.mem_cons_of_mem _ he)) (s.withDefaults [(p, v)])
    refine ⟨first ++ [] ++ rest, ?_⟩
    rw [withDefaults_cons, Act.each_cons_of_ok (Act.bind_of_ok hentry _)]
    simp only [Act.return_apply, hrest]

/-! ## Preparing a phase -/

variable {g : Grant} {ph : Phase}

/-- A phase that the grant does not have is refused, and the store stays as it is. -/
theorem prepare_of_unsupported {reason : String} (h : (g.rules ph).unsupported = some reason) (s : Store Token) :
    prepare g ph s = ⟨.error (.failure (.unsupported g.name ph.name reason)), s, []⟩ := by
  rw [prepare, h]
  rfl

/-- A phase that the grant has gives its rules, and its fixed values are filled in. -/
theorem prepare_of_supported (h : (g.rules ph).unsupported = none) (s : Store Token) :
    ∃ records, prepare g ph s = ⟨.ok (g.rules ph), s.withDefaults (g.rules ph).defaults, records⟩ := by
  obtain ⟨records, hrun⟩ := each_entryWith (g.rules_wellFormed ph).defaults_plain s
  refine ⟨records ++ [], ?_⟩
  rw [prepare, h]
  exact Act.bind_of_ok hrun _

/-- What runs behind the fixed values of a phase and only reads leaves them in the store, where the grant has the phase. -/
theorem state_prepare_bind {α : Type} {next : Rules → Act (Store Token) α} (hnext : ∀ rules t, (next rules).Preserves (· = t))
    (s : Store Token) :
    ((prepare g ph >>= next) s).state = if (g.rules ph).supported then s.withDefaults (g.rules ph).defaults else s := by
  cases hsup : (g.rules ph).unsupported with
  | some reason =>
    rw [Act.bind_of_error (prepare_of_unsupported hsup s), Rules.supported, hsup]
    rfl
  | none =>
    obtain ⟨records, hprepare⟩ := prepare_of_supported hsup s
    rw [Act.bind_of_ok hprepare, Rules.supported, hsup]
    exact hnext _ _ _ rfl

end OAuthClient.Store
