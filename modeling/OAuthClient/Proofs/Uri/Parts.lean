import Mathlib.Data.List.TakeWhile
import OAuthClient.Proofs.Text.Split
import OAuthClient.Uri.Reference

/-!
# The parts of a URL, one after another

Statements about `split` for texts without controls. The scheme, the authority and the path of a text are those of what stands before
its query and its fragment: nothing behind the first question mark or number sign has a part in them, nor in whether they can be cut.
-/

namespace OAuthClient.Uri

open OAuthClient.Text

/-- What stands behind the first number sign of a text. -/
def fragmentOf (cs : List Char) : List Char :=
  (cut '#' cs).2.getD []

/-- What stands behind the first question mark of a text and before its first number sign. -/
def queryOf (cs : List Char) : List Char :=
  (cut '?' (cut '#' cs).1).2.getD []

/-- What stands before the first question mark and the first number sign of a text. -/
def stem (cs : List Char) : List Char :=
  (cut '?' (cut '#' cs).1).1

/-- A text is empty or begins with a question mark or a number sign. -/
def Trails (t : List Char) : Prop :=
  ∀ c, t.head? = some c → c = '?' ∨ c = '#'

/-- A text with neither a question mark nor a number sign. -/
def Plain (a : List Char) : Prop :=
  '?' ∉ a ∧ '#' ∉ a

variable {a b t : List Char}

/-! ## Cutting off the query and the fragment -/

/-- Part of a plain text is plain. -/
theorem Plain.of_append_right (h : Plain (b ++ a)) : Plain a :=
  ⟨fun hmem => h.1 (List.mem_append_right _ hmem), fun hmem => h.2 (List.mem_append_right _ hmem)⟩

/-- A plain text before the query and the fragment has no part in them. -/
theorem queryOf_append (h : Plain a) (t : List Char) : queryOf (a ++ t) = queryOf t := by
  rw [queryOf, cut_append_of_notMem h.2, cut_append_of_notMem h.1, queryOf]

/-- A plain text before the fragment has no part in it. -/
theorem fragmentOf_append (h : Plain a) (t : List Char) : fragmentOf (a ++ t) = fragmentOf t := by
  rw [fragmentOf, cut_append_of_notMem h.2, fragmentOf]

/-- What stands before the query and the fragment of a plain text and what follows it. -/
theorem stem_append (h : Plain a) (t : List Char) : stem (a ++ t) = a ++ stem t := by
  rw [stem, cut_append_of_notMem h.2, cut_append_of_notMem h.1, stem]

/-- A slash stands before the query and the fragment. -/
theorem stem_slash (t : List Char) : stem ('/' :: t) = '/' :: stem t := by
  have hplain : Plain ['/'] := ⟨by decide, by decide⟩
  exact stem_append hplain t

/-- Nothing stands before the query and the fragment of a text that begins with them. -/
theorem stem_of_trails (h : Trails t) : stem t = [] := by
  cases t with
  | nil => rfl
  | cons c t =>
    rcases h c rfl with rfl | rfl
    · simp [stem, cut]
    · simp [stem, cut]

/-- A text is plain up to its query or its fragment. -/
theorem exists_stem (cs : List Char) : ∃ t, cs = stem cs ++ t ∧ Plain (stem cs) ∧ Trails t := by
  induction cs with
  | nil => exact ⟨[], rfl, ⟨List.not_mem_nil, List.not_mem_nil⟩, nofun⟩
  | cons c cs ih =>
    by_cases hc : c = '?' ∨ c = '#'
    · have htrails : Trails (c :: cs) := fun d hd => Option.some.inj hd ▸ hc
      rw [stem_of_trails htrails]
      exact ⟨c :: cs, rfl, ⟨List.not_mem_nil, List.not_mem_nil⟩, htrails⟩
    · obtain ⟨t, hcs, hplain, htrails⟩ := ih
      rw [not_or] at hc
      have hone : Plain [c] := ⟨by simpa using Ne.symm hc.1, by simpa using Ne.symm hc.2⟩
      have hstem : stem (c :: cs) = c :: stem cs := stem_append hone cs
      rw [hstem]
      refine ⟨t, congrArg (c :: ·) hcs, ?_, htrails⟩
      simp only [Plain, List.mem_cons, not_or]
      exact ⟨⟨Ne.symm hc.1, hplain.1⟩, Ne.symm hc.2, hplain.2⟩

/-! ## Cutting off what stands before -/

/-- No character of a test is taken or dropped from a query or a fragment when the test fails for their marks. -/
theorem stop_of_trails {p : Char → Bool} (h : Trails t) (hmark : p '?' = false) (hsign : p '#' = false) :
    t.takeWhile p = [] ∧ t.dropWhile p = t := by
  cases t with
  | nil => exact ⟨rfl, rfl⟩
  | cons c t =>
    have hc : p c = false := by
      rcases h c rfl with rfl | rfl
      · exact hmark
      · exact hsign
    simp [hc]

/-- No tab and no line end is taken away from a text without controls. -/
theorem filter_of_not_isControl {cs : List Char} (h : ∀ c ∈ cs, isControl c = false) :
    cs.filter (fun c => c != '\t' && c != '\r' && c != '\n') = cs := by
  rw [List.filter_eq_self]
  intro c hc
  have hne (d : Char) (hd : isControl d = true) : (c != d) = true := by
    rw [bne_iff_ne]
    rintro rfl
    rw [h c hc] at hd
    cases hd
  rw [hne '\t' (by decide), hne '\r' (by decide), hne '\n' (by decide)]
  rfl

/-- Cleaning a text without controls takes away blanks at its start, and none of its query and its fragment. -/
theorem cleaned_append (h : Trails t) (hcontrol : ∀ c ∈ a ++ t, isControl c = false) : cleaned (a ++ t) = cleaned a ++ t := by
  rw [cleaned, dropWhile_append_of_stop (stop_of_trails h (by decide) (by decide)).2, List.filter_append,
    filter_of_not_isControl fun c hc => hcontrol c (List.mem_append_right _ hc), cleaned]

/-- A text that may stand before the colon of a scheme. -/
def isSchemeName : List Char → Bool
  | [] => false
  | c :: scheme => isAsciiLetter c && scheme.all isSchemeChar

/-- A text without a colon has no scheme. -/
theorem cutScheme_of_notMem {cs : List Char} (h : ':' ∉ cs) : cutScheme cs = ([], cs) := by
  unfold cutScheme
  rw [cut_of_notMem h]
  split
  · next hcut => cases hcut
  · rfl

/-- What stands before the first colon of a text is its scheme when it may be one. -/
theorem cutScheme_colon (h : ':' ∉ a) (b : List Char) :
    cutScheme (a ++ ':' :: b) = if isSchemeName a then (asciiLower a, b) else ([], a ++ ':' :: b) := by
  unfold cutScheme
  rw [cut_append_cons h]
  cases a with
  | nil => rfl
  | cons c scheme => rfl

/-- A scheme is not empty. -/
theorem isEmpty_of_isSchemeName (h : isSchemeName a = true) : a.isEmpty = false := by
  cases a with
  | nil => cases h
  | cons c scheme => rfl

/-- Every character of a scheme is one that may stand there. -/
theorem isSchemeChar_of_mem (h : isSchemeName a = true) {c : Char} (hc : c ∈ a) : isSchemeChar c = true := by
  cases a with
  | nil => cases h
  | cons d scheme =>
    rw [isSchemeName, Bool.and_eq_true, List.all_eq_true] at h
    rcases List.mem_cons.mp hc with rfl | hmem
    · rw [isSchemeChar, h.1]
      rfl
    · exact h.2 c hmem

/-- No other character stands in a scheme. -/
theorem notMem_of_isSchemeName (h : isSchemeName a = true) {c : Char} (hc : isSchemeChar c = false) : c ∉ a := fun hmem =>
  Bool.false_ne_true (hc.symm.trans (isSchemeChar_of_mem h hmem))

/-- Neither a question mark nor a number sign stands in a scheme. -/
theorem plain_of_isSchemeName (h : isSchemeName a = true) : Plain a :=
  ⟨notMem_of_isSchemeName h (by decide), notMem_of_isSchemeName h (by decide)⟩

/-- A scheme is cut off in front of the query and the fragment. -/
theorem cutScheme_append (h : Trails t) (a : List Char) : cutScheme (a ++ t) = ((cutScheme a).1, (cutScheme a).2 ++ t) := by
  by_cases ha : ':' ∈ a
  · obtain ⟨x, y, rfl, hx⟩ := List.eq_append_cons_of_mem ha
    rw [List.append_assoc, List.cons_append, cutScheme_colon hx, cutScheme_colon hx]
    split
    · rfl
    · rw [List.append_assoc, List.cons_append]
  rw [cutScheme_of_notMem ha]
  by_cases ht : ':' ∈ t
  · -- what stands before the colon holds the mark with which the query or the fragment begins
    obtain ⟨x, y, rfl, hx⟩ := List.eq_append_cons_of_mem ht
    have hname : isSchemeName (a ++ x) = false := by
      rw [Bool.eq_false_iff]
      intro hscheme
      have hplain := (plain_of_isSchemeName hscheme).of_append_right
      cases x with
      | nil => exact absurd (h ':' rfl) (by decide)
      | cons c x =>
        rcases h c rfl with rfl | rfl
        · exact hplain.1 List.mem_cons_self
        · exact hplain.2 List.mem_cons_self
    rw [← List.append_assoc, cutScheme_colon (by simp [ha, hx]), hname, if_neg Bool.false_ne_true]
  · exact cutScheme_of_notMem (by simp [ha, ht])

/-- Two slashes that begin a text stand in front of its query and its fragment. -/
theorem exists_slashes {rest : List Char} (h : Trails t) (hrest : a ++ t = '/' :: '/' :: rest) :
    ∃ b, a = '/' :: '/' :: b := by
  have hslash (c : Char) (hc : t.head? = some c) : c ≠ '/' := by
    rcases h c hc with rfl | rfl <;> decide
  match a with
  | [] => exact absurd rfl (hslash '/' (congrArg List.head? hrest))
  | [c] => exact absurd rfl (hslash '/' (congrArg List.head? (List.cons.inj hrest).2))
  | c :: d :: b =>
    obtain ⟨rfl, htail⟩ := List.cons.inj hrest
    obtain ⟨rfl, -⟩ := List.cons.inj htail
    exact ⟨b, rfl⟩

/-- Behind two slashes stands an authority. -/
theorem cutAuthority_slashes (a : List Char) :
    cutAuthority ('/' :: '/' :: a) = (some (a.takeWhile (!endsAuthority ·)), a.dropWhile (!endsAuthority ·)) := rfl

/-- A text that does not begin with two slashes has no authority. -/
theorem cutAuthority_of_not_slashes {cs : List Char} (h : ∀ rest, cs ≠ '/' :: '/' :: rest) : cutAuthority cs = (none, cs) := by
  unfold cutAuthority
  split
  · next rest => exact absurd rfl (h rest)
  · rfl

/-- An authority is cut off in front of the query and the fragment. -/
theorem cutAuthority_append_trails (h : Trails t) (a : List Char) :
    cutAuthority (a ++ t) = ((cutAuthority a).1, (cutAuthority a).2 ++ t) := by
  obtain ⟨htake, hdrop⟩ := stop_of_trails (p := (!endsAuthority ·)) h (by decide) (by decide)
  by_cases hslashes : ∃ b, a = '/' :: '/' :: b
  · obtain ⟨b, rfl⟩ := hslashes
    rw [List.cons_append, List.cons_append, cutAuthority_slashes, cutAuthority_slashes, takeWhile_append_of_stop htake,
      dropWhile_append_of_stop hdrop]
  · rw [cutAuthority_of_not_slashes fun rest he => hslashes (exists_slashes h he),
      cutAuthority_of_not_slashes fun rest he => hslashes ⟨rest, he⟩]

/-- What is left behind the scheme and the authority of a plain text is plain. -/
theorem plain_rest (h : Plain a) : Plain (cutAuthority (cutScheme (cleaned a)).2).2 := by
  have hauthority (cs : List Char) : ∀ c ∈ (cutAuthority cs).2, c ∈ cs := by
    by_cases hslashes : ∃ b, cs = '/' :: '/' :: b
    · obtain ⟨b, rfl⟩ := hslashes
      intro c hc
      exact List.mem_cons_of_mem _ (List.mem_cons_of_mem _ ((List.dropWhile_sublist _).subset hc))
    · rw [cutAuthority_of_not_slashes fun rest he => hslashes ⟨rest, he⟩]
      exact fun c hc => hc
  have hscheme (cs : List Char) : ∀ c ∈ (cutScheme cs).2, c ∈ cs := by
    by_cases hcolon : ':' ∈ cs
    · obtain ⟨x, y, rfl, hx⟩ := List.eq_append_cons_of_mem hcolon
      rw [cutScheme_colon hx]
      split
      · exact fun c hc => List.mem_append_right _ (List.mem_cons_of_mem _ hc)
      · exact fun c hc => hc
    · rw [cutScheme_of_notMem hcolon]
      exact fun c hc => hc
  have hrest : ∀ c ∈ (cutAuthority (cutScheme (cleaned a)).2).2, c ∈ a := fun c hc =>
    (List.dropWhile_sublist _).subset (List.filter_sublist.subset (hscheme _ c (hauthority _ c hc)))
  exact ⟨fun hmem => h.1 (hrest _ hmem), fun hmem => h.2 (hrest _ hmem)⟩

/-! ## Splitting -/

/-- A text without controls is split as what stands before its query and its fragment, and has these. -/
theorem split_append (ha : Plain a) (ht : Trails t) (hcontrol : ∀ c ∈ a ++ t, isControl c = false) :
    split (String.ofList (a ++ t)) =
      (split (String.ofList a)).map fun parts => { parts with query := queryOf t, fragment := fragmentOf t } := by
  have hrest := plain_rest ha
  have hstem : (cut '?' (cut '#' t).1).1 = [] := stem_of_trails ht
  unfold split
  rw [String.toList_ofList, String.toList_ofList, cleaned_append ht hcontrol, cutScheme_append ht]
  dsimp only
  rw [cutAuthority_append_trails ht]
  dsimp only
  generalize (cutAuthority (cutScheme (cleaned a)).2).2 = rest at hrest
  rw [cut_append_of_notMem hrest.2, cut_of_notMem hrest.2]
  dsimp only
  rw [cut_append_of_notMem hrest.1, cut_of_notMem hrest.1, hstem, List.append_nil]
  dsimp only
  cases checkBrackets ((cutAuthority (cutScheme (cleaned a)).2).1.getD []) with
  | error flaw => rfl
  | ok u =>
    simp only [bind, Except.bind]
    split <;> rfl

/-- A text without controls is split as its stem is, and has its own query and its own fragment. -/
theorem split_eq {s : String} (hcontrol : ∀ c ∈ s.toList, isControl c = false) :
    split s = (split (String.ofList (stem s.toList))).map fun parts =>
      { parts with query := queryOf s.toList, fragment := fragmentOf s.toList } := by
  obtain ⟨t, hs, hplain, htrails⟩ := exists_stem s.toList
  have hquery : queryOf s.toList = queryOf t := by rw [hs, queryOf_append hplain]
  have hfragment : fragmentOf s.toList = fragmentOf t := by rw [hs, fragmentOf_append hplain]
  rw [hquery, hfragment, ← split_append hplain htrails (by rwa [← hs]), ← hs, String.ofList_toList]

end OAuthClient.Uri
