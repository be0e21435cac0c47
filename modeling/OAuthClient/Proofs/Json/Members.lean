import Mathlib.Data.List.Induction
import OAuthClient.Json.Basic

/-!
# Members of an object

Statements about `put` and `collect`, which keep a name once.
-/

namespace OAuthClient.Json

/-- Writing a member that is not there puts it at the end. -/
theorem put_of_notMem {α : Type} {name : String} {members : List (String × α)} (h : name ∉ members.map (·.1)) (v : α) :
    put name v members = members ++ [(name, v)] := by
  induction members with
  | nil => rfl
  | cons m members ih =>
    rw [List.map_cons, List.mem_cons, not_or] at h
    rw [put, if_neg (Ne.symm h.1), ih h.2, List.cons_append]

/-- Writing a member that is there leaves the names as they are. -/
theorem names_put_of_mem {α : Type} {name : String} {members : List (String × α)} (h : name ∈ members.map (·.1)) (v : α) :
    (put name v members).map (·.1) = members.map (·.1) := by
  induction members with
  | nil => cases h
  | cons m members ih =>
    rw [put]
    split
    · next hname => rw [List.map_cons, List.map_cons, hname]
    · next hname =>
      rw [List.map_cons, List.mem_cons] at h
      rw [List.map_cons, List.map_cons, ih (h.resolve_left (Ne.symm hname))]

/-- Writing a member keeps the names different. -/
theorem nodup_put {α : Type} {members : List (String × α)} (h : (members.map (·.1)).Nodup) (name : String) (v : α) :
    ((put name v members).map (·.1)).Nodup := by
  by_cases hname : name ∈ members.map (·.1)
  · rwa [names_put_of_mem hname]
  · rw [put_of_notMem hname, List.map_append, List.nodup_append]
    refine ⟨h, by simp, fun n hn n' hn' he => ?_⟩
    have hn'' : n = name := he.trans (List.mem_singleton.mp hn')
    rw [hn''] at hn
    exact hname hn

/-- Among members with different names the value under a name is the one of the member with the name. -/
theorem find?_eq_some_iff {α : Type} {members : List (String × α)} (h : (members.map (·.1)).Nodup) {name : String} {v : α} :
    find? name members = some v ↔ (name, v) ∈ members := by
  induction members with
  | nil => simp [find?]
  | cons m members ih =>
    obtain ⟨u, x⟩ := m
    rw [List.map_cons, List.nodup_cons] at h
    rw [find?, List.mem_cons, Prod.mk.injEq]
    split
    · next hname =>
      subst hname
      constructor
      · intro he
        exact Or.inl ⟨rfl, (Option.some.inj he).symm⟩
      · rintro (⟨_, rfl⟩ | hmem)
        · rfl
        · exact absurd (List.mem_map_of_mem (f := (·.1)) hmem) h.1
    · next hname =>
      rw [ih h.2]
      exact ⟨Or.inr, fun hmem => hmem.resolve_left fun hold => hname hold.1.symm⟩

/-- The name of a member that was written has its value, and the other names have theirs. -/
theorem find?_put {α : Type} (name n : String) (v : α) (members : List (String × α)) :
    find? n (put name v members) = if n = name then some v else find? n members := by
  induction members with
  | nil =>
    rw [put, find?, find?]
    exact if_congr eq_comm rfl rfl
  | cons m members ih =>
    rw [put]
    split
    · next hname =>
      rw [find?, find?, hname]
      by_cases hn : n = name
      · rw [if_pos hn.symm, if_pos hn]
      · rw [if_neg (Ne.symm hn), if_neg hn, if_neg (Ne.symm hn)]
    · next hname =>
      rw [find?, find?, ih]
      by_cases hn : m.1 = n
      · rw [if_pos hn, if_pos hn, if_neg fun he => hname (hn.trans he)]
      · rw [if_neg hn, if_neg hn]

/-- What stands under a name in the first of two rows of members is found first. -/
theorem find?_append {α : Type} (name : String) (members others : List (String × α)) :
    find? name (members ++ others) = (find? name members).or (find? name others) := by
  induction members with
  | nil => rfl
  | cons m members ih =>
    rw [List.cons_append, find?, find?, ih]
    split <;> rfl

/-- A member whose name passes is found among the members whose names pass as it is among all, and one whose name does not pass is not
found. -/
theorem find?_filter {α : Type} (passes : String → Bool) (name : String) (members : List (String × α)) :
    find? name (members.filter fun m => passes m.1) = if passes name then find? name members else none := by
  induction members with
  | nil => simp [find?]
  | cons m members ih =>
    rw [List.filter_cons, find?]
    by_cases hname : m.1 = name
    · rw [hname, if_pos rfl]
      split
      · rw [find?, if_pos hname]
      · next hpasses => rw [ih, if_neg hpasses]
    · rw [if_neg hname]
      split
      · rw [find?, if_neg hname, ih]
      · exact ih

/-- After writing a member its name has the new value, and the others have what they had. -/
theorem mem_put {α : Type} {members : List (String × α)} (h : (members.map (·.1)).Nodup) {name n : String} {v w : α} :
    (n, w) ∈ put name v members ↔ n = name ∧ w = v ∨ n ≠ name ∧ (n, w) ∈ members := by
  rw [← find?_eq_some_iff (nodup_put h name v), find?_put, ← find?_eq_some_iff h]
  split
  · next hname => simp [hname, eq_comm]
  · next hname => simp [hname]

/-! ## What pairs leave -/

section

variable {α β : Type}

/-- One pair more is written into the members that the pairs before it leave. -/
theorem collect_concat (pairs : List (String × α)) (p : String × α) :
    collect (pairs ++ [p]) = put p.1 p.2 (collect pairs) := by
  rw [collect, List.foldl_append, collect]
  rfl

/-- Pairs with different names are the members they leave. -/
theorem collect_of_nodup {pairs : List (String × α)} (h : (pairs.map (·.1)).Nodup) : collect pairs = pairs := by
  induction pairs using List.reverseRecOn with
  | nil => rfl
  | append_singleton pairs p ih =>
    rw [List.map_append, List.nodup_append] at h
    have hp : p.1 ∉ pairs.map (·.1) := fun hmem => h.2.2 p.1 hmem p.1 (by simp) rfl
    rw [collect_concat, ih h.1, put_of_notMem hp]

/-- Under a name stands the value of the last pair with it. -/
theorem find?_collect (name : String) (pairs : List (String × α)) : find? name (collect pairs) = pairs.reverse.lookup name := by
  induction pairs using List.reverseRecOn with
  | nil => rfl
  | append_singleton pairs p ih =>
    rw [collect_concat, find?_put, ih, List.reverse_append, List.reverse_singleton, List.singleton_append, List.lookup_cons]
    by_cases hname : name = p.1
    · rw [if_pos hname, hname, beq_self_eq_true]
    · rw [if_neg hname, beq_false_of_ne hname]

/-- The names of the members are the names of the pairs in the order in which they come up first. -/
theorem names_collect (pairs : List (String × α)) : (collect pairs).map (·.1) = (pairs.map (·.1)).eraseDups := by
  induction pairs using List.reverseRecOn with
  | nil => rfl
  | append_singleton pairs p ih =>
    have hmem : p.1 ∈ (collect pairs).map (·.1) ↔ p.1 ∈ pairs.map (·.1) := by rw [ih, List.mem_eraseDups]
    rw [collect_concat, List.map_append, List.eraseDups_append, List.map_singleton]
    by_cases hname : p.1 ∈ pairs.map (·.1)
    · rw [names_put_of_mem (hmem.mpr hname), ih, List.removeAll, List.filter_cons_of_neg (by simpa using hname)]
      simp
    · rw [put_of_notMem (fun h => hname (hmem.mp h)), List.map_append, ih, List.removeAll,
        List.filter_cons_of_pos (by simpa using hname)]
      rfl

/-- The pairs leave no name twice. -/
theorem nodup_collect (pairs : List (String × α)) : ((collect pairs).map (·.1)).Nodup := by
  induction pairs using List.reverseRecOn with
  | nil => exact List.nodup_nil
  | append_singleton pairs p ih => exact collect_concat pairs p ▸ nodup_put ih p.1 p.2

/-- Changing the values of members changes what stands under a name. -/
theorem find?_map (f : α → β) (name : String) (members : List (String × α)) :
    find? name (members.map fun m => (m.1, f m.2)) = (find? name members).map f := by
  induction members with
  | nil => rfl
  | cons m members ih =>
    rw [List.map_cons, find?, find?, ih]
    split <;> rfl

/-- Changing the values of members and then writing one more is writing it and then changing the values. -/
theorem put_map (f : α → β) (name : String) (v : α) (members : List (String × α)) :
    put name (f v) (members.map fun m => (m.1, f m.2)) = (put name v members).map fun m => (m.1, f m.2) := by
  induction members with
  | nil => rfl
  | cons m members ih =>
    rw [List.map_cons, put, put, ih]
    split <;> rfl

/-- Changing the values of pairs changes those of the members they leave. -/
theorem collect_map (f : α → β) (pairs : List (String × α)) :
    collect (pairs.map fun p => (p.1, f p.2)) = (collect pairs).map fun m => (m.1, f m.2) := by
  induction pairs using List.reverseRecOn with
  | nil => rfl
  | append_singleton pairs p ih =>
    rw [List.map_append, List.map_singleton, collect_concat, collect_concat, ih]
    exact put_map f p.1 p.2 (collect pairs)

/-- Members with different names are their names, each with what stands under it. -/
theorem eq_map_names {members : List (String × α)} (h : (members.map (·.1)).Nodup) (default : α) :
    members = (members.map (·.1)).map fun n => (n, (find? n members).getD default) := by
  rw [List.map_map]
  conv_lhs => rw [← List.map_id members]
  refine List.map_congr_left fun m hm => ?_
  have hfound : find? m.1 members = some m.2 := (find?_eq_some_iff h).mpr hm
  simp [hfound]

end

end OAuthClient.Json
