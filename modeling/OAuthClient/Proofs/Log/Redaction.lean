import OAuthClient.Log.Redaction

/-!
# How secrets are replaced

Statements about `redactFrom`. A separator that is part of no secret name cuts a text in two: what is found before it does not depend
on what stands behind it, and a value that runs into it either ends there or goes on to the first end of a value behind it. So two
texts that agree up to a separator are replaced alike when what stands behind it is replaced alike, from its start and from its first
end of a value.
-/

namespace OAuthClient.Log

open OAuthClient.Text

/-! ## Beginnings -/

/-- What follows a beginning that does not hold a separator, in a text with the separator. -/
theorem after?_append_cons {w : List Char} {sep : Char} (h : sep ∉ w) (x q : List Char) :
    after? w (x ++ sep :: q) = (after? w x).map (· ++ sep :: q) := by
  induction w generalizing x with
  | nil => rfl
  | cons a w ih =>
    rw [List.mem_cons, not_or] at h
    cases x with
    | nil =>
      have hne : (a == sep) = false := beq_eq_false_iff_ne.mpr (Ne.symm h.1)
      simp [after?, hne]
    | cons c x =>
      rw [List.cons_append, after?, after?]
      split
      · exact ih h.2 x
      · rfl

/-- A name with an equals sign begins a text with another name and an equals sign only when the names are the same. -/
theorem after?_name {name other : List Char} (h : '=' ∉ name) (h' : '=' ∉ other) (rest : List Char) :
    after? (other ++ ['=']) (name ++ '=' :: rest) = if other = name then some rest else none := by
  induction other generalizing name with
  | nil =>
    cases name with
    | nil => rfl
    | cons c name =>
      rw [List.mem_cons, not_or] at h
      rw [List.nil_append, List.cons_append, after?, if_neg (by simpa using h.1), if_neg (List.cons_ne_nil _ _).symm]
  | cons a other ih =>
    rw [List.mem_cons, not_or] at h'
    cases name with
    | nil => rw [List.nil_append, List.cons_append, after?, if_neg (by simpa using Ne.symm h'.1), if_neg (List.cons_ne_nil _ _)]
    | cons c name =>
      rw [List.mem_cons, not_or] at h
      rw [List.cons_append, List.cons_append, after?, ih h.2 h'.2]
      by_cases hac : a = c
      · subst hac
        simp
      · simp [hac]

/-! ## Secrets -/

/-- The secret with a given name at the start of a text. -/
def secretNamed? (wireName : String) (cs : List Char) : Option (String × List Char) :=
  match after? (wireName.toList ++ ['=']) cs with
  | some (c :: rest) => if endsValue c then none else some (wireName, rest.dropWhile (!endsValue ·))
  | _ => none

/-- The secret at the start of a text is the one with the first name that fits. -/
theorem secretAt?_eq (cs : List Char) : secretAt? cs = Parameter.secretWireNames.findSome? (secretNamed? · cs) := rfl

/-- No name of a secret holds an equals sign. -/
theorem equals_notMem_secret {wireName : String} (h : wireName ∈ Parameter.secretWireNames) : '=' ∉ wireName.toList := by
  revert wireName
  decide

/-- A name of a secret with a value is that secret. -/
theorem secretAt?_of_name {wireName : String} (h : wireName ∈ Parameter.secretWireNames) {c : Char} (hc : endsValue c = false)
    (rest : List Char) :
    secretAt? (wireName.toList ++ '=' :: c :: rest) = some (wireName, rest.dropWhile (!endsValue ·)) := by
  have hnamed {other : String} (hother : other ∈ Parameter.secretWireNames) :
      secretNamed? other (wireName.toList ++ '=' :: c :: rest) =
        if other = wireName then some (wireName, rest.dropWhile (!endsValue ·)) else none := by
    rw [secretNamed?, after?_name (equals_notMem_secret h) (equals_notMem_secret hother)]
    by_cases he : other = wireName
    · simp [he, hc]
    · rw [if_neg (fun hlist => he (String.toList_inj.mp hlist)), if_neg he]
  rw [secretAt?_eq]
  cases hfound : Parameter.secretWireNames.findSome? (secretNamed? · (wireName.toList ++ '=' :: c :: rest)) with
  | none =>
    have hnone := List.findSome?_eq_none_iff.mp hfound wireName h
    rw [hnamed h, if_pos rfl] at hnone
    cases hnone
  | some found =>
    obtain ⟨other, hother, he⟩ := List.exists_of_findSome?_eq_some hfound
    rw [hnamed hother] at he
    split at he
    · exact he.symm
    · cases he

/-- What is found at the start of a text up to a separator, whatever stands behind the separator: nothing, a secret whose value ends
before the separator or at it, or a secret whose value goes on behind the separator. -/
inductive Found (x : List Char) (sep : Char) (find : List Char → Option (String × List Char)) : Prop where
  | nothing (h : ∀ q, find (x ++ sep :: q) = none)
  | before (wireName : String) (y : List Char) (hy : y.length < x.length)
      (h : ∀ q, find (x ++ sep :: q) = some (wireName, y ++ sep :: q))
  | through (wireName : String) (h : ∀ q, find (x ++ sep :: q) = some (wireName, q.dropWhile (!endsValue ·)))

/-- Looking for one name finds the same whatever stands behind a separator that the name does not hold. -/
theorem found_secretNamed? {wireName : String} {sep : Char} (hsep : sep ∉ wireName.toList ++ ['=']) (x : List Char) :
    Found x sep (secretNamed? wireName) := by
  have hafter := after?_append_cons hsep x
  cases hx : after? (wireName.toList ++ ['=']) x with
  | none =>
    refine .nothing fun q => ?_
    rw [secretNamed?, hafter, hx]
    rfl
  | some rest =>
    have hlength := length_le_of_after? hx
    cases rest with
    | nil =>
      cases hend : endsValue sep with
      | true =>
        refine .nothing fun q => ?_
        rw [secretNamed?, hafter, hx]
        simp [hend]
      | false =>
        refine .through wireName fun q => ?_
        rw [secretNamed?, hafter, hx]
        simp [hend]
    | cons c rest =>
      cases hc : endsValue c with
      | true =>
        refine .nothing fun q => ?_
        rw [secretNamed?, hafter, hx]
        simp [hc]
      | false =>
        have hfound (q : List Char) : secretNamed? wireName (x ++ sep :: q) =
            some (wireName, (rest ++ sep :: q).dropWhile (!endsValue ·)) := by
          rw [secretNamed?, hafter, hx]
          simp [hc]
        cases hdrop : rest.dropWhile (!endsValue ·) with
        | nil =>
          have hrest : ∀ q, (rest ++ sep :: q).dropWhile (!endsValue ·) = (sep :: q).dropWhile (!endsValue ·) := by
            intro q
            rw [List.dropWhile_append, hdrop]
            rfl
          cases hend : endsValue sep with
          | true =>
            refine .before wireName [] (Nat.lt_of_lt_of_le (Nat.succ_pos _) hlength) fun q => ?_
            rw [hfound, hrest]
            simp [hend]
          | false =>
            refine .through wireName fun q => ?_
            rw [hfound, hrest]
            simp [hend]
        | cons d y =>
          have hle := (List.dropWhile_sublist (!endsValue ·) (l := rest)).length_le
          rw [hdrop] at hle
          refine .before wireName (d :: y) (Nat.lt_of_lt_of_le (Nat.lt_succ_of_le hle) hlength) fun q => ?_
          rw [hfound, List.dropWhile_append, hdrop]
          rfl

/-- A character that is part of no name of a secret with its equals sign. -/
def separates (sep : Char) : Prop :=
  ∀ wireName ∈ Parameter.secretWireNames, sep ∉ wireName.toList ++ ['=']

/-- An ampersand is part of no name. -/
theorem separates_ampersand : separates '&' := by
  unfold separates
  decide

/-- A question mark is part of no name. -/
theorem separates_questionMark : separates '?' := by
  unfold separates
  decide

/-- Looking for any secret finds the same whatever stands behind a separator. -/
theorem found_secretAt? {sep : Char} (hsep : separates sep) (x : List Char) : Found x sep secretAt? := by
  have hnames (names : List String) (h : ∀ wireName ∈ names, sep ∉ wireName.toList ++ ['=']) :
      Found x sep fun cs => names.findSome? (secretNamed? · cs) := by
    induction names with
    | nil => exact .nothing fun _ => rfl
    | cons name names ih =>
      have hrest := ih fun other hother => h other (List.mem_cons_of_mem _ hother)
      cases found_secretNamed? (h name List.mem_cons_self) x with
      | nothing hname =>
        cases hrest with
        | nothing h => exact .nothing fun q => by rw [List.findSome?_cons, hname]; exact h q
        | before other y hy h => exact .before other y hy fun q => by rw [List.findSome?_cons, hname]; exact h q
        | through other h => exact .through other fun q => by rw [List.findSome?_cons, hname]; exact h q
      | before found y hy hname => exact .before found y hy fun q => by rw [List.findSome?_cons, hname]
      | through found hname => exact .through found fun q => by rw [List.findSome?_cons, hname]
  exact hnames _ hsep

/-! ## Replacing -/

/-- Nothing is replaced in an empty text. -/
@[simp] theorem redactFrom_nil (afterWord : Bool) : redactFrom afterWord [] = [] := by
  rw [redactFrom]

/-- A character where no secret begins stays. -/
theorem redactFrom_of_none {afterWord : Bool} {c : Char} {rest : List Char}
    (h : secretBehind? afterWord (c :: rest) = none) :
    redactFrom afterWord (c :: rest) = c :: redactFrom (isWordChar c) rest := by
  rw [redactFrom]
  split
  · next hsome =>
    rw [h] at hsome
    cases hsome
  · rfl

/-- A secret loses its value. -/
theorem redactFrom_of_some {afterWord : Bool} {cs tail : List Char} {wireName : String}
    (h : secretBehind? afterWord cs = some (wireName, tail)) :
    redactFrom afterWord cs = wireName.toList ++ '=' :: redactedPlaceholder.toList ++ redactFrom false tail := by
  cases cs with
  | nil => exact absurd (length_lt_of_secretBehind? h) (Nat.not_lt_zero _)
  | cons c rest =>
    rw [redactFrom]
    split
    · next hsome =>
      rw [h] at hsome
      cases hsome
      rfl
    · next hnone =>
      rw [h] at hnone
      cases hnone

/-- Two texts are replaced alike: from their start and from their first end of a value on. -/
structure RedactedAlike (q q' : List Char) : Prop where
  start : redactFrom false q = redactFrom false q'
  tail : redactFrom false (q.dropWhile (!endsValue ·)) = redactFrom false (q'.dropWhile (!endsValue ·))

/-- A text is replaced as it is. -/
theorem RedactedAlike.refl (q : List Char) : RedactedAlike q q := ⟨rfl, rfl⟩

/-- Behind the same text and a separator that is part of no word, texts that are replaced alike are replaced alike. -/
theorem RedactedAlike.redactFrom_append {q q' : List Char} (h : RedactedAlike q q') {sep : Char} (hsep : separates sep)
    (hword : isWordChar sep = false) (afterWord : Bool) (x : List Char) :
    redactFrom afterWord (x ++ sep :: q) = redactFrom afterWord (x ++ sep :: q') := by
  -- a secret before the separator may end anywhere, so the induction is on the length of what stands before it
  generalize hn : x.length = n
  induction n using Nat.strongRecOn generalizing x afterWord with
  | ind n ih =>
    have hstay {p : List Char} (hnone : ∀ p, secretBehind? afterWord (x ++ sep :: p) = none) :
        redactFrom afterWord (x ++ sep :: p) = match x with
          | [] => sep :: redactFrom false p
          | c :: y => c :: redactFrom (isWordChar c) (y ++ sep :: p) := by
      cases x with
      | nil => rw [List.nil_append, redactFrom_of_none (hnone p), hword]
      | cons c y => exact redactFrom_of_none (hnone p)
    have hnothing (hnone : ∀ p, secretBehind? afterWord (x ++ sep :: p) = none) :
        redactFrom afterWord (x ++ sep :: q) = redactFrom afterWord (x ++ sep :: q') := by
      rw [hstay hnone, hstay hnone]
      cases x with
      | nil => exact congrArg _ h.start
      | cons c y => exact congrArg _ (ih y.length (by rw [← hn]; exact Nat.lt_succ_self _) _ y rfl)
    cases afterWord with
    | true => exact hnothing fun _ => rfl
    | false =>
      cases found_secretAt? hsep x with
      | nothing hnone => exact hnothing hnone
      | before wireName y hy hfound =>
        have hbehind (p : List Char) : secretBehind? false (x ++ sep :: p) = some (wireName, y ++ sep :: p) := hfound p
        rw [redactFrom_of_some (hbehind q), redactFrom_of_some (hbehind q'), ih y.length (by rw [← hn]; exact hy) false y rfl]
      | through wireName hfound =>
        have hbehind (p : List Char) :
          secretBehind? false (x ++ sep :: p) = some (wireName, p.dropWhile (!endsValue ·)) := hfound p
        rw [redactFrom_of_some (hbehind q), redactFrom_of_some (hbehind q'), h.tail]

/-- The text of a message with its secrets replaced is the text with its secrets replaced. -/
theorem Message.text_redacted {m : Message} {s : String} (h : m.text = .ok s) :
    ∃ r, m.redacted = .ok r ∧ r.text = .ok (redact s) := by
  refine ⟨if redact s = s then m else ofText (redact s), ?_, ?_⟩
  · rw [redacted, h]
    rfl
  · split
    · next hsame => rw [h, hsame]
    · rfl

end OAuthClient.Log
