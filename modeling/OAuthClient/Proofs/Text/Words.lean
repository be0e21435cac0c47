import Mathlib.Data.List.TakeWhile
import OAuthClient.Text.Split

/-!
# Words

What the words of a text are, said without cutting it: characters between which the text is cut are passed over, and whatever stands
between them without a break is a word. The pieces of the text that are not empty are its words.
-/

namespace OAuthClient.Text

variable {α : Type} {p : α → Bool} {cs : List α} {ws : List (List α)}

/-! ## Elements up to a cut -/

/-- Elements in front of the first one that passes a test do not pass it. -/
theorem not_of_mem_takeWhile {c : α} (h : c ∈ cs.takeWhile (!p ·)) : p c = false := by
  simpa using List.mem_takeWhile_imp h

/-- What is left behind such elements is empty or begins with one that passes the test. -/
theorem of_mem_head?_dropWhile {c : α} (h : c ∈ (cs.dropWhile (!p ·)).head?) : p c = true := by
  have hhead := List.head?_dropWhile_not (!p ·) cs
  rw [Option.mem_def.mp h] at hhead
  simpa using hhead

/-- Elements that do not pass a test are taken up to where one passes it. -/
theorem takeWhile_run {w : List α} (hw : ∀ c ∈ w, p c = false) (hends : ∀ c ∈ cs.head?, p c = true) :
    (w ++ cs).takeWhile (!p ·) = w := by
  rw [List.takeWhile_append_of_pos fun c hc => by simp [hw c hc]]
  cases cs with
  | nil => simp
  | cons c cs => simp [hends c rfl]

/-- Elements that do not pass a test are dropped up to where one passes it. -/
theorem dropWhile_run {w : List α} (hw : ∀ c ∈ w, p c = false) (hends : ∀ c ∈ cs.head?, p c = true) :
    (w ++ cs).dropWhile (!p ·) = cs := by
  rw [List.dropWhile_append_of_pos fun c hc => by simp [hw c hc]]
  cases cs with
  | nil => rfl
  | cons c cs => simp [hends c rfl]

/-! ## Words -/

/-- A list has some words, in order, between the elements that satisfy a test. -/
inductive HasWords (p : α → Bool) : List α → List (List α) → Prop
  | nil : HasWords p [] []
  /-- An element between words is passed over. -/
  | skip {c : α} {cs : List α} {ws : List (List α)} (h : p c = true) (hrest : HasWords p cs ws) : HasWords p (c :: cs) ws
  /-- A word goes on as far as it can. -/
  | word {w cs : List α} {ws : List (List α)} (hne : w ≠ []) (hw : ∀ c ∈ w, p c = false) (hends : ∀ c ∈ cs.head?, p c = true)
      (hrest : HasWords p cs ws) : HasWords p (w ++ cs) (w :: ws)

/-- The pieces of a list that are not empty. -/
def fullPieces (p : α → Bool) (cs : List α) : List (List α) :=
  (piecesBy p cs).filter (!·.isEmpty)

/-- An element that is passed over leaves no piece that is not empty. -/
theorem fullPieces_skip {c : α} (h : p c = true) (cs : List α) : fullPieces p (c :: cs) = fullPieces p cs := by
  rw [fullPieces, piecesBy, if_pos h]
  rfl

/-- A beginning without a cut belongs to the first piece. -/
theorem piecesBy_append {w : List α} (hw : ∀ c ∈ w, p c = false) (cs : List α) :
    ∃ first rest, piecesBy p cs = first :: rest ∧ piecesBy p (w ++ cs) = (w ++ first) :: rest := by
  induction w with
  | nil =>
    cases h : piecesBy p cs with
    | cons first rest => exact ⟨first, rest, rfl, h⟩
    | nil =>
      cases cs with
      | nil => cases h
      | cons c cs =>
        rw [piecesBy] at h
        split at h
        · cases h
        · split at h <;> cases h
  | cons c w ih =>
    obtain ⟨first, rest, hcs, hpieces⟩ := ih fun d hd => hw d (List.mem_cons_of_mem _ hd)
    refine ⟨first, rest, hcs, ?_⟩
    rw [List.cons_append, piecesBy, hw c List.mem_cons_self, if_neg Bool.false_ne_true, hpieces]
    rfl

/-- A word in front of a cut is a piece that is not empty. -/
theorem fullPieces_word {w : List α} (hne : w ≠ []) (hw : ∀ c ∈ w, p c = false) (hends : ∀ c ∈ cs.head?, p c = true) :
    fullPieces p (w ++ cs) = w :: fullPieces p cs := by
  obtain ⟨first, rest, hcs, hpieces⟩ := piecesBy_append hw cs
  have hfirst : first = [] := by
    cases cs with
    | nil =>
      cases hcs
      rfl
    | cons c cs =>
      rw [piecesBy, if_pos (hends c rfl)] at hcs
      exact (List.cons.inj hcs).1.symm
  subst hfirst
  rw [fullPieces, fullPieces, hpieces, hcs, List.append_nil, List.filter_cons_of_pos (by simpa using hne)]
  rfl

/-- The pieces of a list that are not empty are its words. -/
theorem hasWords_fullPieces (p : α → Bool) (cs : List α) : HasWords p cs (fullPieces p cs) := by
  -- a word is taken off at once, so the induction is on the length
  generalize hn : cs.length = n
  induction n using Nat.strongRecOn generalizing cs with
  | ind n ih =>
    cases cs with
    | nil => exact .nil
    | cons c cs =>
      cases hc : p c with
      | true =>
        rw [fullPieces_skip hc]
        exact .skip hc (ih cs.length (by rw [← hn]; exact Nat.lt_succ_self _) cs rfl)
      | false =>
        have hw : ∀ d ∈ c :: cs.takeWhile (!p ·), p d = false := by
          intro d hd
          rcases List.mem_cons.mp hd with rfl | hd
          · exact hc
          · exact not_of_mem_takeWhile hd
        have hends : ∀ d ∈ (cs.dropWhile (!p ·)).head?, p d = true := fun d hd => of_mem_head?_dropWhile hd
        have hlength : (cs.dropWhile (!p ·)).length < n := by
          rw [← hn]
          exact Nat.lt_succ_of_le (List.dropWhile_sublist (!p ·)).length_le
        have hsplit : c :: cs = (c :: cs.takeWhile (!p ·)) ++ cs.dropWhile (!p ·) := by
          rw [List.cons_append, List.takeWhile_append_dropWhile]
        rw [hsplit, fullPieces_word (List.cons_ne_nil _ _) hw hends]
        exact .word (List.cons_ne_nil _ _) hw hends (ih _ hlength _ rfl)

/-- A list has no other words than its pieces that are not empty. -/
theorem HasWords.eq_fullPieces (h : HasWords p cs ws) : ws = fullPieces p cs := by
  induction h with
  | nil => rfl
  | skip h _ ih => rw [fullPieces_skip h, ih]
  | word hne hw hends _ ih => rw [fullPieces_word hne hw hends, ih]

/-- A word is not empty and holds nothing that is passed over. -/
theorem HasWords.of_mem (h : HasWords p cs ws) {w : List α} (hmem : w ∈ ws) : w ≠ [] ∧ ∀ c ∈ w, p c = false := by
  induction h with
  | nil => cases hmem
  | skip _ _ ih => exact ih hmem
  | word hne hw _ _ ih =>
    rcases List.mem_cons.mp hmem with rfl | hmem
    · exact ⟨hne, hw⟩
    · exact ih hmem

/-- Words with something that is passed over between neighbours are the pieces that are not empty. -/
theorem fullPieces_intercalate {sep : α} (hsep : p sep = true) (hws : ∀ w ∈ ws, w ≠ [] ∧ ∀ c ∈ w, p c = false) :
    fullPieces p ([sep].intercalate ws) = ws := by
  induction ws with
  | nil => rfl
  | cons w ws ih =>
    obtain ⟨hne, hw⟩ := hws w List.mem_cons_self
    have hrest := ih fun x hx => hws x (List.mem_cons_of_mem _ hx)
    cases ws with
    | nil =>
      have hlast : fullPieces p (w ++ []) = [w] := fullPieces_word hne hw (by rintro c ⟨⟩)
      rw [List.append_nil] at hlast
      rw [List.intercalate_singleton, hlast]
    | cons w' ws =>
      have hends : ∀ c ∈ (sep :: [sep].intercalate (w' :: ws)).head?, p c = true := by
        rintro c ⟨⟩
        exact hsep
      rw [List.intercalate_cons_cons, List.append_assoc, List.singleton_append, fullPieces_word hne hw hends, fullPieces_skip hsep, hrest]

end OAuthClient.Text
