import OAuthClient.Text.Blank

/-!
# Scopes

A set of scopes, kept as the list of its members in increasing order of their code points, so that a set has one form.
-/

namespace OAuthClient

/-- A set of scopes. -/
structure Scopes where
  /-- The scopes of the set, in increasing order. -/
  toList : List String
  /-- The order is strict, so no scope occurs twice. -/
  increasing : toList.Pairwise (· < ·)
  deriving DecidableEq

namespace Scopes

/-- The set without scopes. -/
def empty : Scopes := ⟨[], .nil⟩

instance : Inhabited Scopes := ⟨empty⟩

instance : EmptyCollection Scopes := ⟨empty⟩

instance : Membership String Scopes := ⟨fun scopes s => s ∈ scopes.toList⟩

/-- A scope put at its place in an increasing list. -/
def insertInto (s : String) : List String → List String
  | [] => [s]
  | t :: rest => if s < t then s :: t :: rest else if s = t then t :: rest else t :: insertInto s rest

theorem mem_insertInto {s x : String} {l : List String} : x ∈ insertInto s l ↔ x = s ∨ x ∈ l := by
  induction l with
  | nil => simp [insertInto]
  | cons t rest ih =>
    rw [insertInto]
    split
    · simp
    · split
      · next h => subst h; simp
      · simp only [List.mem_cons, ih]
        grind

theorem pairwise_insertInto {s : String} {l : List String} (h : l.Pairwise (· < ·)) : (insertInto s l).Pairwise (· < ·) := by
  induction l with
  | nil => simp [insertInto]
  | cons t rest ih =>
    rw [insertInto]
    split
    · next hlt =>
      refine List.pairwise_cons.mpr ⟨fun x hx => ?_, h⟩
      rcases List.mem_cons.mp hx with rfl | hx
      · exact hlt
      · exact String.lt_trans hlt ((List.pairwise_cons.mp h).1 x hx)
    · split
      · exact h
      · next hlt hne =>
        refine List.pairwise_cons.mpr ⟨fun x hx => ?_, ih (List.pairwise_cons.mp h).2⟩
        rcases mem_insertInto.mp hx with rfl | hx
        · grind
        · exact (List.pairwise_cons.mp h).1 x hx

/-- The set with a scope added. -/
def insert (s : String) (scopes : Scopes) : Scopes :=
  ⟨insertInto s scopes.toList, pairwise_insertInto scopes.increasing⟩

/-- The set with a scope taken away. -/
def erase (s : String) (scopes : Scopes) : Scopes :=
  ⟨scopes.toList.filter (· ≠ s), scopes.increasing.filter _⟩

/-- The set with all scopes of a list added. -/
def insertAll (list : List String) (scopes : Scopes) : Scopes :=
  list.foldl (fun acc s => acc.insert s) scopes

/-- Whether a scope is in the set. -/
def contains (scopes : Scopes) (s : String) : Bool :=
  scopes.toList.contains s

/-- Whether the set has no scope. -/
def isEmpty (scopes : Scopes) : Bool :=
  scopes.toList.isEmpty

/-- The scopes of the set in order, with a separator between neighbours. -/
def join (scopes : Scopes) (sep : String) : String :=
  sep.intercalate scopes.toList

end Scopes

end OAuthClient
