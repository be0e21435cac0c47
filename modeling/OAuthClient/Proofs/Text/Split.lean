import OAuthClient.Text.Split

/-!
# Cutting and joining

Statements about `pieces`, `cut` and `trim`. Cutting at a separator distributes over a separator in the middle, and undoes the joining
of pieces that do not hold the separator.
-/

namespace OAuthClient.Text

variable {α : Type} [BEq α] {sep : α}

/-! ## Pieces -/

/-- There is always a piece. -/
theorem pieces_ne_nil (sep : α) (cs : List α) : pieces sep cs ≠ [] := by
  cases cs with
  | nil => simp [pieces, piecesBy]
  | cons c cs =>
    rw [pieces, piecesBy]
    split
    · simp
    · split <;> simp

section

variable [LawfulBEq α]

/-- The pieces around a separator are those before it and those behind it. -/
theorem pieces_append_cons (a b : List α) : pieces sep (a ++ sep :: b) = pieces sep a ++ pieces sep b := by
  induction a with
  | nil => simp [pieces, piecesBy]
  | cons c a ih =>
    simp only [pieces] at ih
    simp only [pieces, List.cons_append, piecesBy, ih]
    by_cases hc : (c == sep) = true
    · simp [hc]
    · cases hp : piecesBy (· == sep) a with
      | nil => exact absurd hp (pieces_ne_nil sep a)
      | cons w ws => simp [hc]

/-- A text without the separator is one piece. -/
theorem pieces_of_notMem {cs : List α} (h : sep ∉ cs) : pieces sep cs = [cs] := by
  induction cs with
  | nil => rfl
  | cons c cs ih =>
    rw [List.mem_cons, not_or] at h
    have hc : (c == sep) = false := beq_eq_false_iff_ne.mpr (Ne.symm h.1)
    have hcs : piecesBy (· == sep) cs = [cs] := ih h.2
    simp [pieces, piecesBy, hc, hcs]

/-- The pieces of joined texts that do not hold the separator are those texts. -/
theorem pieces_join {ws : List (List α)} (hne : ws ≠ []) (h : ∀ w ∈ ws, sep ∉ w) : pieces sep (join [sep] ws) = ws := by
  induction ws with
  | nil => exact absurd rfl hne
  | cons w ws ih =>
    cases ws with
    | nil => exact pieces_of_notMem (h w (by simp))
    | cons w' ws =>
      rw [join, List.append_assoc, List.singleton_append, pieces_append_cons, pieces_of_notMem (h w (by simp)),
        ih (by simp) (fun x hx => h x (List.mem_cons_of_mem _ hx)), List.singleton_append]
      simp

/-- What stands in joined pieces is a separator or stands in one of them. -/
theorem mem_join {β : Type} {x sep : β} {ws : List (List β)} (h : x ∈ join [sep] ws) : x = sep ∨ ∃ w ∈ ws, x ∈ w := by
  induction ws with
  | nil => cases h
  | cons w ws ih =>
    cases ws with
    | nil => exact Or.inr ⟨w, List.mem_cons_self, h⟩
    | cons w' ws =>
      simp only [join, List.mem_append, List.mem_singleton] at h
      rcases h with (hw | hsep) | hrest
      · exact Or.inr ⟨w, List.mem_cons_self, hw⟩
      · exact Or.inl hsep
      · rcases ih hrest with hsep | ⟨v, hv, hx⟩
        · exact Or.inl hsep
        · exact Or.inr ⟨v, List.mem_cons_of_mem _ hv, hx⟩

/-! ## The first separator -/

/-- Cutting a text without the separator. -/
theorem cut_of_notMem {cs : List α} (h : sep ∉ cs) : cut sep cs = (cs, none) := by
  induction cs with
  | nil => rfl
  | cons c cs ih =>
    rw [List.mem_cons, not_or] at h
    rw [cut, if_neg (by simpa using Ne.symm h.1), ih h.2]

/-- Cutting at a separator that comes first in what follows. -/
theorem cut_append_cons {a : List α} (h : sep ∉ a) (b : List α) : cut sep (a ++ sep :: b) = (a, some b) := by
  induction a with
  | nil => simp [cut]
  | cons c a ih =>
    rw [List.mem_cons, not_or] at h
    rw [List.cons_append, cut, if_neg (by simpa using Ne.symm h.1), ih h.2]

/-- What stands before the first separator may be cut off and put back. -/
theorem cut_append_of_notMem {a : List α} (h : sep ∉ a) (b : List α) :
    cut sep (a ++ b) = (a ++ (cut sep b).1, (cut sep b).2) := by
  induction a with
  | nil => rfl
  | cons c a ih =>
    rw [List.mem_cons, not_or] at h
    rw [List.cons_append, cut, if_neg (by simpa using Ne.symm h.1), ih h.2, List.cons_append]

/-! ## The last separator -/

/-- Cutting a text without the separator at the last one. -/
theorem cutLast_of_notMem {cs : List α} (h : sep ∉ cs) : cutLast sep cs = none := by
  rw [cutLast, cut_of_notMem (by simpa using h)]

/-- Cutting at a separator that comes last. -/
theorem cutLast_append_cons {b : List α} (h : sep ∉ b) (a : List α) : cutLast sep (a ++ sep :: b) = some (a, b) := by
  have hreverse : (a ++ sep :: b).reverse = b.reverse ++ sep :: a.reverse := by simp
  rw [cutLast, hreverse, cut_append_cons (by simpa using h)]
  simp

end

/-! ## Ends -/

section

variable {α : Type} {p : α → Bool} {t core : List α}

/-- An element of a list stands in it for a last time. -/
theorem exists_last_of_mem {x : α} {l : List α} (h : x ∈ l) : ∃ a b, l = a ++ x :: b ∧ x ∉ b := by
  obtain ⟨b, a, hreverse, hb⟩ := List.eq_append_cons_of_mem (List.mem_reverse.mpr h)
  refine ⟨a.reverse, b.reverse, ?_, by simpa using hb⟩
  rw [← List.reverse_reverse l, hreverse]
  simp

/-- Leading elements are dropped from what stands in front of a list of which none would be dropped. -/
theorem dropWhile_append_of_stop (h : t.dropWhile p = t) (a : List α) : (a ++ t).dropWhile p = a.dropWhile p ++ t := by
  rw [List.dropWhile_append, h]
  split
  · next hempty => rw [List.isEmpty_iff.mp hempty, List.nil_append]
  · rfl

/-- Leading elements are taken from what stands in front of a list of which none would be taken. -/
theorem takeWhile_append_of_stop (h : t.takeWhile p = []) (a : List α) : (a ++ t).takeWhile p = a.takeWhile p := by
  rw [List.takeWhile_append, h, List.append_nil]
  split
  · next hall =>
    exact ((List.takeWhile_prefix p).eq_of_length hall).symm
  · rfl

/-- A list that is neither dropped at its start nor at its end is what is left of it when elements to drop stand around it. -/
theorem trim_append {a b : List α} (ha : ∀ x ∈ a, p x = true) (hb : ∀ x ∈ b, p x = true) (hfirst : core.dropWhile p = core)
    (hlast : core.reverse.dropWhile p = core.reverse) (hcore : core ≠ []) : trim p (a ++ core ++ b) = core := by
  have hstart : (core ++ b).dropWhile p = core ++ b := by
    rw [List.dropWhile_append, hfirst, if_neg (by simpa using hcore)]
  rw [trim, List.append_assoc, List.dropWhile_append_of_pos ha, hstart, dropEndWhile, List.reverse_append,
    List.dropWhile_append_of_pos fun x hx => hb x (List.mem_reverse.mp hx), hlast, List.reverse_reverse]

end

end OAuthClient.Text
