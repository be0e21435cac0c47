import OAuthClient.Proofs.Log.Redaction
import OAuthClient.Proofs.Text.Words

/-!
# Redaction as a rewriting of texts

What the replacing of secrets does to a text, said without the scan that does it: where a secret occurs is a matter of the text and of
the character before it, and the replaced text is what comes of replacing the leftmost occurrences one after another. Replacing leaves
nothing to replace. An occurrence does not depend on which value it has, so the value of a secret is lost even where an earlier name
takes the whole pair for its own value.
-/

namespace OAuthClient.Log

open OAuthClient.Text

/-! ## Occurrences -/

/-- A value: at least one character, and none that ends a value. -/
structure IsValue (v : List Char) : Prop where
  ne_nil : v ≠ []
  goesOn : ∀ c ∈ v, endsValue c = false

/-- No value goes on in a text: it is empty or begins with a character that ends a value. -/
def EndsValue (cs : List Char) : Prop :=
  ∀ c ∈ cs.head?, endsValue c = true

/-- A word may begin behind a text: it is empty or its last character belongs to no word. -/
def EndsOutsideWord (cs : List Char) : Prop :=
  ∀ c ∈ cs.getLast?, isWordChar c = false

-- The instances say how to look through the text: a quantifier over characters alone would be decided by going through all of them.

instance (v : List Char) : Decidable (IsValue v) :=
  decidable_of_iff (v.isEmpty = false ∧ v.any endsValue = false)
    ⟨fun h => ⟨by simpa using h.1, by simpa using h.2⟩, fun h => ⟨by simpa using h.ne_nil, by simpa using h.goesOn⟩⟩

instance (cs : List Char) : Decidable (EndsValue cs) :=
  decidable_of_iff (cs.head?.all endsValue = true) (Option.all_eq_true _ _)

instance (cs : List Char) : Decidable (EndsOutsideWord cs) :=
  decidable_of_iff ((cs.getLast?.all fun c => !isWordChar c) = true) (by simp [EndsOutsideWord, Option.all_eq_true])

/-- A secret with a value occurs at the start of a text: no word goes on there, the name, an equals sign and the value stand there, and
the value goes on as far as it can. -/
structure Occurs (before : Option Char) (cs : List Char) (name : String) (value rest : List Char) : Prop where
  begins : ∀ c ∈ before, isWordChar c = false
  secret : name ∈ Parameter.secretWireNames
  written : cs = name.toList ++ '=' :: (value ++ rest)
  value : IsValue value
  ends : EndsValue rest

/-- A text behind a character becomes another one when its leftmost occurrences of secrets are replaced, one after another. -/
inductive Rewrites : Option Char → List Char → List Char → Prop
  /-- The text is at its end. -/
  | done (before : Option Char) : Rewrites before [] []
  /-- No secret occurs here, and the character stays. -/
  | keep {before : Option Char} {c : Char} {cs ds : List Char} (h : ∀ name value rest, ¬ Occurs before (c :: cs) name value rest)
      (hrest : Rewrites (some c) cs ds) : Rewrites before (c :: cs) (c :: ds)
  /-- A secret occurs here, and its value is replaced. -/
  | replace {before : Option Char} {cs ds : List Char} {name : String} {value rest : List Char}
      (h : Occurs before cs name value rest) (hrest : Rewrites value.getLast? rest ds) :
      Rewrites before cs (name.toList ++ '=' :: (redactedPlaceholder.toList ++ ds))

/-- The name of a secret is a word, and no character of it ends a value. -/
theorem of_mem_secret {name : String} (h : name ∈ Parameter.secretWireNames) :
    name.toList ≠ [] ∧ ∀ c ∈ name.toList, isWordChar c = true ∧ endsValue c = false := by
  have hall : Parameter.secretWireNames.all (fun name =>
      !name.toList.isEmpty && name.toList.all fun c => isWordChar c && !endsValue c) = true := by decide
  simpa using List.all_eq_true.mp hall name h

/-- What follows a beginning of a text is the rest of the text. -/
theorem after?_eq_some_iff {s cs rest : List Char} : after? s cs = some rest ↔ cs = s ++ rest := by
  induction s generalizing cs with
  | nil => simp [after?]
  | cons a s ih =>
    cases cs with
    | nil => simp [after?]
    | cons c cs =>
      rw [after?, List.cons_append, List.cons.injEq]
      by_cases hac : a = c
      · simp [hac, ih]
      · simp [hac, Ne.symm hac]

/-- A value and what follows it are determined by the text that they make. -/
theorem value_append_inj {v v' rest rest' : List Char} (hv : ∀ c ∈ v, endsValue c = false) (hv' : ∀ c ∈ v', endsValue c = false)
    (hrest : EndsValue rest) (hrest' : EndsValue rest') (h : v ++ rest = v' ++ rest') : v = v' ∧ rest = rest' := by
  have hr : rest = rest' := by rw [← dropWhile_run hv hrest, h, dropWhile_run hv' hrest']
  subst hr
  exact ⟨List.append_cancel_right h, rfl⟩

/-- A word goes on behind the character before a text, where there is one. -/
def inWord (before : Option Char) : Bool :=
  before.any isWordChar

/-- The scan finds a secret exactly where one occurs. -/
theorem secretBehind?_eq_some_iff {before : Option Char} {cs rest : List Char} {name : String} :
    secretBehind? (inWord before) cs = some (name, rest) ↔ ∃ value, Occurs before cs name value rest := by
  have hbegins : inWord before = false ↔ ∀ c ∈ before, isWordChar c = false := by
    cases before <;> simp [inWord]
  constructor
  · intro h
    unfold secretBehind? at h
    split at h
    · cases h
    · next hword =>
      rw [secretAt?_eq] at h
      obtain ⟨other, hother, hfound⟩ := List.exists_of_findSome?_eq_some h
      unfold secretNamed? at hfound
      split at hfound
      · next c tail hafter =>
        split at hfound
        · cases hfound
        · next hc =>
          cases hfound
          refine ⟨c :: tail.takeWhile (!endsValue ·), hbegins.mp (by simpa using hword), hother, ?_, ⟨by simp, ?_⟩,
            fun d hd => of_mem_head?_dropWhile hd⟩
          · rw [after?_eq_some_iff] at hafter
            simp [hafter]
          · intro d hd
            rcases List.mem_cons.mp hd with rfl | hd
            · simpa using hc
            · exact not_of_mem_takeWhile hd
      · cases hfound
  · rintro ⟨value, h⟩
    obtain ⟨c, v, rfl⟩ := List.exists_cons_of_ne_nil h.value.ne_nil
    rw [secretBehind?, if_neg (by simp [hbegins.mpr h.begins]), h.written]
    show secretAt? (name.toList ++ '=' :: c :: (v ++ rest)) = _
    rw [secretAt?_of_name h.secret (h.value.goesOn c (by simp)),
      dropWhile_run (fun d hd => h.value.goesOn d (List.mem_cons_of_mem _ hd)) h.ends]

/-- The scan finds nothing exactly where no secret occurs. -/
theorem secretBehind?_eq_none_iff {before : Option Char} {cs : List Char} :
    secretBehind? (inWord before) cs = none ↔ ∀ name value rest, ¬ Occurs before cs name value rest := by
  rw [Option.eq_none_iff_forall_ne_some]
  constructor
  · intro h name value rest hoccurs
    exact h _ (secretBehind?_eq_some_iff.mpr ⟨value, hoccurs⟩)
  · rintro h ⟨name, rest⟩ hfound
    obtain ⟨value, hoccurs⟩ := secretBehind?_eq_some_iff.mp hfound
    exact h name value rest hoccurs

/-! ## The scan is the rewriting -/

/-- Where no value goes on no secret begins. -/
theorem secretBehind?_of_endsValue {afterWord : Bool} {cs : List Char} (h : EndsValue cs) : secretBehind? afterWord cs = none := by
  cases afterWord with
  | true => rfl
  | false =>
    refine (@secretBehind?_eq_none_iff none _).mpr fun name value rest hoccurs => ?_
    obtain ⟨hne, hchars⟩ := of_mem_secret hoccurs.secret
    obtain ⟨c, w, hname⟩ := List.exists_cons_of_ne_nil hne
    have hc := (hchars c (by simp [hname])).2
    rw [h c (by simp [hoccurs.written, hname])] at hc
    cases hc

/-- Where no value goes on the character before does not matter. -/
theorem redactFrom_of_endsValue {cs : List Char} (h : EndsValue cs) (afterWord afterWord' : Bool) :
    redactFrom afterWord cs = redactFrom afterWord' cs := by
  cases cs with
  | nil => rw [redactFrom_nil, redactFrom_nil]
  | cons c cs => rw [redactFrom_of_none (secretBehind?_of_endsValue h), redactFrom_of_none (secretBehind?_of_endsValue h)]

/-- The scan replaces the leftmost occurrences. -/
theorem rewrites_redactFrom (before : Option Char) (cs : List Char) : Rewrites before cs (redactFrom (inWord before) cs) := by
  -- an occurrence takes a whole value at once, so the induction is on the length
  generalize hn : cs.length = n
  induction n using Nat.strongRecOn generalizing before cs with
  | ind n ih =>
    cases cs with
    | nil =>
      rw [redactFrom_nil]
      exact .done before
    | cons c rest =>
      cases hfound : secretBehind? (inWord before) (c :: rest) with
      | none =>
        rw [redactFrom_of_none hfound]
        exact .keep (secretBehind?_eq_none_iff.mp hfound)
          (ih rest.length (by rw [← hn]; exact Nat.lt_succ_self _) (some c) rest rfl)
      | some found =>
        obtain ⟨name, tail⟩ := found
        obtain ⟨value, hoccurs⟩ := secretBehind?_eq_some_iff.mp hfound
        have htail := ih tail.length (by rw [← hn]; exact length_lt_of_secretBehind? hfound) value.getLast? tail rfl
        rw [redactFrom_of_endsValue hoccurs.ends _ false] at htail
        rw [redactFrom_of_some hfound, List.append_assoc, List.cons_append]
        exact .replace hoccurs htail

/-- A text becomes nothing else than what the scan makes of it. -/
theorem Rewrites.eq_redactFrom {before : Option Char} {cs ds : List Char} (h : Rewrites before cs ds) :
    ds = redactFrom (inWord before) cs := by
  induction h with
  | done before => rw [redactFrom_nil]
  | keep h _ ih =>
    rw [redactFrom_of_none (secretBehind?_eq_none_iff.mpr h), ih]
    rfl
  | replace h _ ih =>
    rw [redactFrom_of_some (secretBehind?_eq_some_iff.mpr ⟨_, h⟩), ih, redactFrom_of_endsValue h.ends _ false, List.append_assoc,
      List.cons_append]

/-- A text with its secrets replaced is the one that replacing the leftmost occurrences gives. -/
theorem rewrites_iff {s t : String} : Rewrites none s.toList t.toList ↔ t = redact s := by
  constructor
  · intro h
    rw [redact, ← String.toList_inj, String.toList_ofList, h.eq_redactFrom]
    rfl
  · rintro rfl
    rw [redact, String.toList_ofList]
    exact rewrites_redactFrom none s.toList

/-! ## Replacing again -/

/-- Replacing keeps the first character of a text. -/
theorem head?_redactFrom (afterWord : Bool) (cs : List Char) : (redactFrom afterWord cs).head? = cs.head? := by
  cases cs with
  | nil => rw [redactFrom_nil]
  | cons c rest =>
    cases hfound : secretBehind? afterWord (c :: rest) with
    | none => rw [redactFrom_of_none hfound, List.head?_cons, List.head?_cons]
    | some found =>
      obtain ⟨name, tail⟩ := found
      cases afterWord with
      | true => cases hfound
      | false =>
        obtain ⟨value, hoccurs⟩ := (@secretBehind?_eq_some_iff none _ _ _).mp hfound
        obtain ⟨d, w, hname⟩ := List.exists_cons_of_ne_nil (of_mem_secret hoccurs.secret).1
        rw [redactFrom_of_some hfound, hoccurs.written, hname]
        rfl

/-- A word with an equals sign and a value behind it, in the middle of a longer word, was there before replacing. -/
theorem of_redactFrom_word {w cs more : List Char} {d : Char} (hw : ∀ c ∈ w, isWordChar c = true) (hd : endsValue d = false)
    (h : redactFrom true cs = w ++ '=' :: d :: more) : ∃ d' more', cs = w ++ '=' :: d' :: more' ∧ endsValue d' = false := by
  induction w generalizing cs with
  | nil =>
    cases cs with
    | nil =>
      rw [redactFrom_nil] at h
      cases h
    | cons c rest =>
      rw [redactFrom_of_none rfl] at h
      obtain ⟨rfl, hrest⟩ := List.cons.inj h
      have hhead := head?_redactFrom (isWordChar '=') rest
      rw [hrest] at hhead
      cases rest with
      | nil => cases hhead
      | cons d' more' =>
        cases hhead
        exact ⟨d, more', rfl, hd⟩
  | cons a w ih =>
    cases cs with
    | nil =>
      rw [redactFrom_nil] at h
      cases h
    | cons c rest =>
      rw [redactFrom_of_none rfl] at h
      obtain ⟨rfl, hrest⟩ := List.cons.inj h
      rw [hw c List.mem_cons_self] at hrest
      obtain ⟨d', more', rfl, hd'⟩ := ih (fun b hb => hw b (List.mem_cons_of_mem _ hb)) hrest
      exact ⟨d', more', rfl, hd'⟩

/-- Where no secret begins none begins after replacing what follows. -/
theorem secretBehind?_cons_redactFrom {afterWord : Bool} {c : Char} {rest : List Char}
    (h : secretBehind? afterWord (c :: rest) = none) :
    secretBehind? afterWord (c :: redactFrom (isWordChar c) rest) = none := by
  cases afterWord with
  | true => rfl
  | false =>
    refine (@secretBehind?_eq_none_iff none _).mpr fun name value tail hoccurs => ?_
    obtain ⟨hne, hchars⟩ := of_mem_secret hoccurs.secret
    obtain ⟨a, w, hname⟩ := List.exists_cons_of_ne_nil hne
    obtain ⟨d, v, hvalue⟩ := List.exists_cons_of_ne_nil hoccurs.value.ne_nil
    have hwritten := hoccurs.written
    rw [hname, hvalue] at hwritten
    obtain ⟨rfl, hrest⟩ := List.cons.inj hwritten
    rw [(hchars c (by simp [hname])).1] at hrest
    obtain ⟨d', more, rfl, hd'⟩ := of_redactFrom_word (fun b hb => (hchars b (by simp [hname, hb])).1)
      (hoccurs.value.goesOn d (by simp [hvalue])) hrest
    have hfound := secretAt?_of_name hoccurs.secret hd' more
    rw [hname] at hfound
    rw [secretBehind?, if_neg Bool.false_ne_true] at h
    exact nomatch hfound.symm.trans h

/-- The placeholder is a value. -/
theorem isValue_placeholder : IsValue redactedPlaceholder.toList := by
  decide

/-- Replacing leaves nothing to replace. -/
theorem redactFrom_redactFrom (afterWord : Bool) (cs : List Char) :
    redactFrom afterWord (redactFrom afterWord cs) = redactFrom afterWord cs := by
  generalize hn : cs.length = n
  induction n using Nat.strongRecOn generalizing afterWord cs with
  | ind n ih =>
    cases cs with
    | nil => rw [redactFrom_nil, redactFrom_nil]
    | cons c rest =>
      cases hfound : secretBehind? afterWord (c :: rest) with
      | none =>
        rw [redactFrom_of_none hfound, redactFrom_of_none (secretBehind?_cons_redactFrom hfound),
          ih rest.length (by rw [← hn]; exact Nat.lt_succ_self _) _ rest rfl]
      | some found =>
        obtain ⟨name, tail⟩ := found
        cases afterWord with
        | true => cases hfound
        | false =>
          obtain ⟨value, hoccurs⟩ := (@secretBehind?_eq_some_iff none _ _ _).mp hfound
          -- the placeholder now stands where the value stood, and ends where it ended
          have hagain : Occurs none (name.toList ++ '=' :: redactedPlaceholder.toList ++ redactFrom false tail) name
              redactedPlaceholder.toList (redactFrom false tail) := by
            refine ⟨nofun, hoccurs.secret, by simp, isValue_placeholder, ?_⟩
            unfold EndsValue
            rw [head?_redactFrom]
            exact hoccurs.ends
          have hstill := secretBehind?_eq_some_iff.mpr ⟨_, hagain⟩
          rw [redactFrom_of_some hfound]
          exact (redactFrom_of_some hstill).trans
            (by rw [ih tail.length (by rw [← hn]; exact length_lt_of_secretBehind? hfound) false tail rfl])

/-- Replacing secrets twice is replacing them once. -/
theorem redact_redact (s : String) : redact (redact s) = redact s := by
  rw [redact, redact, String.toList_ofList, redactFrom_redactFrom]

end OAuthClient.Log
