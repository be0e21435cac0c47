import Mathlib.Data.List.Nodup
import OAuthClient.Store.Scopes

/-!
# Scopes as a set

What is in a set of scopes decides the set, and its list is what any listing of its members is once it is sorted. So it does not
matter in which order scopes are added, nor how often.
-/

namespace OAuthClient

/-- Things that are listed in any order, no two under one text, are in increasing order of their texts once they are sorted. -/
theorem mergeSort_eq_of_increasing {α : Type} (text : α → String) {list sorted : List α} (hnodup : (list.map text).Nodup)
    (hsorted : (sorted.map text).Pairwise (· < ·)) (hmem : ∀ a, a ∈ list ↔ a ∈ sorted) :
    list.mergeSort (fun a b => decide (text a ≤ text b)) = sorted := by
  have hincreasing : sorted.Pairwise fun a b => text a < text b := List.pairwise_map.mp hsorted
  have hdistinct : sorted.Nodup := List.nodup_iff_pairwise_ne.mpr (hincreasing.imp fun hlt he => Std.ne_of_lt hlt (congrArg text he))
  have hperm : (list.mergeSort fun a b => decide (text a ≤ text b)).Perm sorted :=
    (List.mergeSort_perm list _).trans ((List.perm_ext_iff_of_nodup hnodup.of_map hdistinct).mpr hmem)
  have hpairwise : (list.mergeSort fun a b => decide (text a ≤ text b)).Pairwise fun a b => text a ≤ text b := by
    refine (List.pairwise_mergeSort ?_ ?_ list).imp of_decide_eq_true
    · intro a b c hab hbc
      exact decide_eq_true (String.le_trans (of_decide_eq_true hab) (of_decide_eq_true hbc))
    · intro a b
      rcases String.le_total (text a) (text b) with h | h
      · rw [decide_eq_true h, Bool.true_or]
      · rw [decide_eq_true h, Bool.or_true]
  refine List.Perm.eq_of_pairwise ?_ hpairwise (hincreasing.imp Std.le_of_lt) hperm
  intro a b ha hb hab hba
  have hb' : b ∈ list := (hmem b).mpr hb
  exact List.inj_on_of_nodup_map hnodup (List.mem_mergeSort.mp ha) hb' (String.le_antisymm hab hba)

namespace Scopes

variable {a b : Scopes} {x y : String}

/-- A set with a scope added has this scope and those it had. -/
theorem mem_insert : x ∈ (a.insert y).toList ↔ x = y ∨ x ∈ a.toList := mem_insertInto

/-- A set with scopes added has these and those it had. -/
theorem mem_insertAll {list : List String} : x ∈ (a.insertAll list).toList ↔ x ∈ list ∨ x ∈ a.toList := by
  rw [insertAll]
  induction list generalizing a with
  | nil => simp
  | cons y list ih =>
    rw [List.foldl_cons, ih, mem_insert, List.mem_cons, or_left_comm, or_assoc]

/-- The set without scopes has no scope. -/
theorem not_mem_empty : x ∉ (∅ : Scopes).toList := List.not_mem_nil

/-- A scope is in a set once. -/
theorem nodup (a : Scopes) : a.toList.Nodup :=
  List.nodup_iff_pairwise_ne.mpr (a.increasing.imp Std.ne_of_lt)

/-- The scopes of a set, listed once each in any order, are the list of the set once they are sorted. -/
theorem mergeSort_eq {list : List String} (hnodup : list.Nodup) (hmem : ∀ x, x ∈ list ↔ x ∈ a.toList) :
    list.mergeSort (fun x y => decide (x ≤ y)) = a.toList :=
  mergeSort_eq_of_increasing id (by rwa [List.map_id]) (by rw [List.map_id]; exact a.increasing) hmem

/-- Sets with the same scopes are the same. -/
theorem ext_of_mem (h : ∀ x, x ∈ a.toList ↔ x ∈ b.toList) : a = b := by
  have hlist : a.toList = b.toList := (mergeSort_eq a.nodup fun _ => Iff.rfl).symm.trans (mergeSort_eq a.nodup h)
  cases a
  cases b
  cases hlist
  rfl

/-- The scopes of a set, added to no scopes, are this set. -/
theorem insertAll_toList (a : Scopes) : (∅ : Scopes).insertAll a.toList = a := by
  apply ext_of_mem
  intro x
  rw [mem_insertAll]
  exact or_iff_left not_mem_empty

/-- Two lists of scopes can be added in either order. -/
theorem insertAll_comm (a : Scopes) (list list' : List String) :
    (a.insertAll list).insertAll list' = (a.insertAll list').insertAll list := by
  apply ext_of_mem
  intro x
  rw [mem_insertAll, mem_insertAll, mem_insertAll, mem_insertAll]
  exact or_left_comm

end Scopes

end OAuthClient
