import OAuthClient.Proofs.Act

/-!
# Acts that are all or nothing

An atomic act that fails leaves the state as it was and has told the log nothing. A row of atomic acts is not atomic: it stops at the
first one that fails, and what is left then is what the ones before it have left.
-/

namespace OAuthClient.Act

variable {σ α β : Type}

/-- An act that fails leaves everything as it was. -/
def Atomic (act : Act σ α) : Prop :=
  ∀ s fault, (act s).result = .error fault → act s = ⟨.error fault, s, []⟩

/-- A computation that may fail can stand in front of an atomic act. -/
theorem Atomic.behind {result : Except Fault α} {next : α → Act σ β} (h : ∀ a, result = .ok a → (next a).Atomic) :
    (ofExcept result >>= next).Atomic := by
  intro s fault hfault
  cases result with
  | error f =>
    cases hfault
    rfl
  | ok a =>
    have hrun : (ofExcept (.ok a) >>= next) s = next a s := bind_of_ok (ofExcept_apply (.ok a) s) next
    rw [hrun] at hfault ⊢
    exact h a rfl s fault hfault

/-- What never fails can stand behind an atomic act. -/
theorem Atomic.then {act : Act σ α} (h : act.Atomic) {next : α → Act σ β} (hnext : ∀ a s, ∃ b, (next a s).result = .ok b) :
    (act >>= next).Atomic := by
  intro s fault hfault
  rcases error_of_bind hfault with hact | ⟨a, -, hrest⟩
  · exact bind_of_error (h s fault hact) next
  · obtain ⟨b, hb⟩ := hnext a (act s).state
    rw [hb] at hrest
    cases hrest

/-- Acts are done one after another, each on what the ones before it have left, and none of them fails. -/
inductive Done (f : α → Act σ Unit) : σ → List α → σ → Prop
  | nil (s : σ) : Done f s [] s
  | cons {a : α} {l : List α} {s s' : σ} (hfirst : (f a s).result = .ok ()) (hrest : Done f (f a s).state l s') : Done f s (a :: l) s'

variable {f : α → Act σ Unit} {s s' : σ} {a : α} {l before : List α} {fault : Fault}

/-- A row whose first act succeeds comes to what the rest comes to. -/
theorem each_cons_outcome (h : (f a s).result = .ok ()) (l : List α) :
    (each f (a :: l) s).result = (each f l (f a s).state).result ∧ (each f (a :: l) s).state = (each f l (f a s).state).state := by
  rcases hrun : f a s with ⟨result, s', records⟩
  rw [hrun] at h
  cases h
  rw [each_cons_of_ok hrun]
  exact ⟨rfl, rfl⟩

/-- A row of acts that can all be done does them. -/
theorem Done.each (h : Done f s l s') : (each f l s).result = .ok () ∧ (each f l s).state = s' := by
  induction h with
  | nil s => exact ⟨rfl, rfl⟩
  | cons hfirst _ ih =>
    obtain ⟨hresult, hstate⟩ := each_cons_outcome hfirst _
    rw [hresult, hstate]
    exact ih

/-- A row of atomic acts stops at the first one that fails, with its fault, and leaves what the ones before it have left. -/
theorem Done.stop (hf : (f a).Atomic) (h : Done f s before s') (hfault : (f a s').result = .error fault) (after : List α) :
    (Act.each f (before ++ a :: after) s).result = .error fault ∧ (Act.each f (before ++ a :: after) s).state = s' := by
  induction h with
  | nil s =>
    rw [List.nil_append, each_cons, bind_of_error (hf s fault hfault)]
    exact ⟨rfl, rfl⟩
  | cons hfirst _ ih =>
    obtain ⟨hresult, hstate⟩ := each_cons_outcome hfirst _
    rw [List.cons_append, hresult, hstate]
    exact ih hfault

/-- Either all acts of a row can be done, or there is a first one that fails. -/
theorem done_or_stop (f : α → Act σ Unit) (l : List α) (s : σ) :
    (∃ s', Done f s l s') ∨
      ∃ before a after s' fault, l = before ++ a :: after ∧ Done f s before s' ∧ (f a s').result = .error fault := by
  induction l generalizing s with
  | nil => exact Or.inl ⟨s, .nil s⟩
  | cons a l ih =>
    cases hfirst : (f a s).result with
    | error fault => exact Or.inr ⟨[], a, l, s, fault, rfl, .nil s, hfirst⟩
    | ok u =>
      rcases ih (f a s).state with ⟨s', hdone⟩ | ⟨before, b, after, s', fault, rfl, hdone, hfault⟩
      · exact Or.inl ⟨s', .cons hfirst hdone⟩
      · exact Or.inr ⟨a :: before, b, after, s', fault, rfl, .cons hfirst hdone, hfault⟩

end OAuthClient.Act
