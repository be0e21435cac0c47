import OAuthClient.Json.Reader
import OAuthClient.Json.Writer
import OAuthClient.Proofs.Json.Members

/-!
# The grammar of objects

All the ways to write an object of texts in JSON: a character of a name or a value stands for itself or is escaped, by a letter, by
its code or as a pair of surrogates, and blanks may stand between the parts. The writer picks one of these texts, and the reader takes
every one of them for the object, when the stack has room for a level. It does so for an object of values of any kind, too, each written
in a way that the reader takes for the value. Whatever else begins with a brace is read as an object, or not at all.
-/

namespace OAuthClient.Json

open OAuthClient.Text

variable {room : Nat}

/-! ## The grammar -/

/-- The ways to escape a character, as they stand behind a backslash. -/
inductive SpellsEscape : Char → List Char → Prop
  | letter {c d : Char} (h : letterEscape? d = some c) : SpellsEscape c [d]
  | code {c p q r s : Char} (h : codeUnit? p q r s = some c.toNat) : SpellsEscape c ['u', p, q, r, s]
  /-- A character beyond the first plane as a high surrogate and a low one. -/
  | pair {c p q r s p' q' r' s' : Char} {high low : Nat} (hhigh : codeUnit? p q r s = some high)
      (hlow : codeUnit? p' q' r' s' = some low) (hrange : 0xd800 ≤ high ∧ high < 0xdc00) (hrange' : 0xdc00 ≤ low ∧ low < 0xe000)
      (hc : c.toNat = 0x10000 + (high - 0xd800) * 0x400 + (low - 0xdc00)) :
      SpellsEscape c ['u', p, q, r, s, '\\', 'u', p', q', r', s']

/-- The ways to write a character between the quotes of a text. -/
inductive SpellsChar : Char → List Char → Prop
  | plain {c : Char} (hquote : c ≠ '"') (hslash : c ≠ '\\') (hcontrol : 0x20 ≤ c.toNat) : SpellsChar c [c]
  | escaped {c : Char} {w : List Char} (h : SpellsEscape c w) : SpellsChar c ('\\' :: w)

/-- The ways to write characters between the quotes of a text. -/
inductive SpellsChars : List Char → List Char → Prop
  | nil : SpellsChars [] []
  | cons {c : Char} {cs w ws : List Char} (hc : SpellsChar c w) (hcs : SpellsChars cs ws) : SpellsChars (c :: cs) (w ++ ws)

/-- Blanks between the parts of a JSON text. -/
def Gap (g : List Char) : Prop :=
  g.all isGap = true

instance (g : List Char) : Decidable (Gap g) :=
  inferInstanceAs (Decidable (g.all isGap = true))

/-- The blanks. -/
theorem isGap_iff {c : Char} : isGap c = true ↔ c = ' ' ∨ c = '\t' ∨ c = '\n' ∨ c = '\r' := by
  simp only [isGap, Bool.or_eq_true, beq_iff_eq, or_assoc]

/-- The ways to write a member with a text. -/
inductive SpellsMember : String × String → List Char → Prop
  | mk {name value : String} {w x : List Char} (g g' : List Char) (hname : SpellsChars name.toList w) (hg : Gap g) (hg' : Gap g')
      (hvalue : SpellsChars value.toList x) :
      SpellsMember (name, value) ('"' :: (w ++ '"' :: (g ++ ':' :: (g' ++ '"' :: (x ++ ['"'])))))

/-- The ways to write members with texts and the brace behind them. -/
inductive SpellsMembers : List (String × String) → List Char → Prop
  | last {m : String × String} {w : List Char} (g : List Char) (hm : SpellsMember m w) (hg : Gap g) :
      SpellsMembers [m] (w ++ (g ++ ['\x7d']))
  | more {m : String × String} {ms : List (String × String)} {w ws : List Char} (g g' : List Char) (hm : SpellsMember m w)
      (hg : Gap g) (hg' : Gap g') (hms : SpellsMembers ms ws) : SpellsMembers (m :: ms) (w ++ (g ++ ',' :: (g' ++ ws)))

/-- The ways to write an object of texts that is not empty. -/
inductive SpellsObject : List (String × String) → List Char → Prop
  | mk {ms : List (String × String)} {ws : List Char} (g : List Char) (hg : Gap g) (hms : SpellsMembers ms ws) :
      SpellsObject ms ('\x7b' :: (g ++ ws))

/-! ## Code points -/

/-- The code points of a text. -/
def codesOf (s : String) : List Nat :=
  s.toList.map Char.toNat

/-- No character is half of a surrogate pair. -/
theorem isHalf_toNat (c : Char) : isHalf c.toNat = false := by
  rw [isHalf, Bool.and_eq_false_iff, decide_eq_false_iff_not, decide_eq_false_iff_not]
  rcases c.valid with h | h
  · exact Or.inl (Nat.not_le.mpr h)
  · exact Or.inr (Nat.not_lt.mpr (Nat.succ_le_of_lt h.1))

/-- A character is the character of its code point. -/
theorem charOf_toNat (c : Char) : charOf c.toNat = c := by
  rw [charOf, isHalf_toNat, if_neg (by decide), Char.ofNat_toNat]

/-- No code point of a text is half of a surrogate pair. -/
theorem any_isHalf_codesOf (s : String) : (codesOf s).any isHalf = false := by
  rw [codesOf, List.any_map, List.any_eq_false]
  exact fun c _ => by simp [isHalf_toNat]

/-- A text is the text of its code points. -/
theorem textOf_codesOf (s : String) : textOf (codesOf s) = s := by
  have hid : charOf ∘ Char.toNat = id := funext charOf_toNat
  rw [textOf, codesOf, List.map_map, hid, List.map_id, String.ofList_toList]

/-- The value of the code points of a text is the text. -/
theorem ofCodes_codesOf (s : String) : ofCodes (codesOf s) = .str s := by
  rw [ofCodes, any_isHalf_codesOf, if_neg (by decide), textOf_codesOf]

/-! ## Reading texts -/

/-- An escaped character is read. -/
theorem readEscape_of_spells {c : Char} {w t : List Char} (h : SpellsEscape c w) (ht : t ≠ []) (opening : List Char) :
    readEscape opening (w ++ t) = .ok (c.toNat, t) := by
  obtain ⟨e, rest, rfl⟩ := List.exists_cons_of_ne_nil ht
  cases h with
  | letter h =>
    unfold letterEscape? at h
    split at h <;> cases h <;> rfl
  | code h =>
    have hhalf := isHalf_toNat c
    rw [isHalf, Bool.and_eq_false_iff, decide_eq_false_iff_not, decide_eq_false_iff_not] at hhalf
    have hhigh : ¬ (0xd800 ≤ c.toNat ∧ c.toNat < 0xdc00) := by omega
    simp [readEscape, h, readUnit, hhigh]
  | pair hhigh hlow hrange hrange' hc => simp [readEscape, hhigh, readUnit, hrange, hlow, hrange', hc]

/-- Where there are no halves a character stands for itself. -/
theorem codeAt_noHalves (c : Char) (cs : List Char) : codeAt noHalves c cs = c.toNat := by
  rw [codeAt, noHalves, Option.getD_none, ite_self]

/-- One character of a text is read, and then the rest. -/
theorem readString_of_spellsChar {c : Char} {w t : List Char} (h : SpellsChar c w) (ht : t ≠ []) (opening : List Char) (fuel : Nat) :
    readString noHalves opening (fuel + 1) (w ++ t) = (readString noHalves opening fuel t).map fun r => (c.toNat :: r.1, r.2) := by
  cases h with
  | plain hquote hslash hcontrol =>
    rw [List.singleton_append, readString, if_neg (by simpa using hquote), if_neg (by simpa using hslash),
      if_neg (Nat.not_lt.mpr hcontrol), codeAt_noHalves]
    cases readString noHalves opening fuel t <;> rfl
  | escaped h =>
    rw [List.cons_append, readString, if_neg (by decide), if_pos (by decide), readEscape_of_spells h ht]
    dsimp only [bind, Except.bind]
    cases readString noHalves opening fuel t <;> rfl

/-- What stands before the closing quote is read as the characters that it writes. -/
theorem readString_of_spellsChars {cs w : List Char} (h : SpellsChars cs w) (t opening : List Char) {fuel : Nat}
    (hfuel : cs.length < fuel) : readString noHalves opening fuel (w ++ '"' :: t) = .ok (cs.map Char.toNat, t) := by
  induction h generalizing fuel with
  | nil =>
    obtain ⟨fuel, rfl⟩ := Nat.exists_eq_add_one_of_ne_zero (Nat.ne_of_gt hfuel)
    rfl
  | @cons c cs w ws hc _ ih =>
    obtain ⟨fuel, rfl⟩ := Nat.exists_eq_add_one_of_ne_zero (Nat.ne_of_gt (Nat.zero_lt_of_lt hfuel))
    rw [List.append_assoc, readString_of_spellsChar hc (by simp), ih (Nat.lt_of_succ_lt_succ hfuel)]
    rfl

/-- A text is never longer than what is written for it. -/
theorem length_le_of_spellsChars {cs w : List Char} (h : SpellsChars cs w) : cs.length ≤ w.length := by
  induction h with
  | nil => exact Nat.le_refl 0
  | cons hc _ ih =>
    rw [List.length_append, List.length_cons, Nat.add_comm]
    refine Nat.add_le_add ?_ ih
    cases hc with
    | plain => exact Nat.le_refl 1
    | escaped => exact Nat.succ_le_succ (Nat.zero_le _)

/-- A text in quotes is read to its end, when the fuel is the length of what is left. -/
theorem readString_of_quoted {s : String} {w : List Char} (h : SpellsChars s.toList w) (t opening : List Char) :
    readString noHalves opening ((w ++ '"' :: t).length + 1) (w ++ '"' :: t) = .ok (codesOf s, t) :=
  readString_of_spellsChars h t opening <| by
    have hlength := length_le_of_spellsChars h
    rw [List.length_append]
    omega

/-! ## Reading objects -/

/-- The blanks before a character that is none are skipped. -/
theorem skipGap_append {g : List Char} (hg : Gap g) {c : Char} (hc : isGap c = false) (t : List Char) :
    skipGap (g ++ c :: t) = c :: t := by
  rw [skipGap, List.dropWhile_append_of_pos (List.all_eq_true.mp hg), List.dropWhile_cons_of_neg (by simp [hc])]

/-- Behind a value nothing goes on that could belong to it: there is nothing, or a blank, a comma or a closing bracket comes first. -/
def Ends (t : List Char) : Prop :=
  ∀ c ∈ t.head?, isGap c = true ∨ c ∈ [',', '\x7d', ']']

/-- A text writes a value: it begins with no blank, and the reader takes the value off it with so much room and leaves what stands
behind. -/
structure Writes (room : Nat) (v : Json) (w : List Char) : Prop where
  start : ∃ c rest, w = c :: rest ∧ isGap c = false
  read : ∀ t fuel, Ends t → w.length < fuel → readValue noHalves room fuel (w ++ t) = .ok (v, t)

/-- The ways to write a member with a value of any kind. -/
inductive WritesMember (room : Nat) : String × Json → List Char → Prop
  | mk {name : String} {v : Json} {w x : List Char} (g g' : List Char) (hname : SpellsChars name.toList w) (hg : Gap g)
      (hg' : Gap g') (hvalue : Writes room v x) : WritesMember room (name, v) ('"' :: (w ++ '"' :: (g ++ ':' :: (g' ++ x))))

/-- The ways to write members and the brace behind them. -/
inductive WritesMembers (room : Nat) : List (String × Json) → List Char → Prop
  | last {m : String × Json} {w : List Char} (g : List Char) (hm : WritesMember room m w) (hg : Gap g) :
      WritesMembers room [m] (w ++ (g ++ ['\x7d']))
  | more {m : String × Json} {ms : List (String × Json)} {w ws : List Char} (g g' : List Char) (hm : WritesMember room m w)
      (hg : Gap g) (hg' : Gap g') (hms : WritesMembers room ms ws) : WritesMembers room (m :: ms) (w ++ (g ++ ',' :: (g' ++ ws)))

/-- The ways to write an object that is not empty. It takes a level more than its members. -/
inductive WritesObject : Nat → List (String × Json) → List Char → Prop
  | mk {room : Nat} {ms : List (String × Json)} {ws : List Char} (g : List Char) (hg : Gap g) (hms : WritesMembers room ms ws) :
      WritesObject (room + 1) ms ('\x7b' :: (g ++ ws))

/-- Blanks may stand between a value and what ends it. -/
theorem ends_append {g : List Char} (hg : Gap g) {c : Char} (hc : c ∈ [',', '\x7d', ']']) (t : List Char) : Ends (g ++ c :: t) := by
  intro d hd
  cases g with
  | nil =>
    obtain rfl : c = d := Option.some.inj hd
    exact Or.inr hc
  | cons b g =>
    obtain rfl : b = d := Option.some.inj hd
    exact Or.inl (List.all_eq_true.mp hg b (by simp))

/-- A text in quotes writes it. -/
theorem writes_of_quoted {s : String} {w : List Char} (h : SpellsChars s.toList w) : Writes room (.str s) ('"' :: (w ++ ['"'])) where
  start := ⟨_, _, rfl, by decide⟩
  read t fuel _ hfuel := by
    obtain ⟨fuel, rfl⟩ := Nat.exists_eq_add_one_of_ne_zero (Nat.ne_of_gt (Nat.zero_lt_of_lt hfuel))
    rw [List.cons_append, List.append_assoc, List.singleton_append, readValue, if_pos (by decide), readString_of_quoted h]
    dsimp only [bind, Except.bind, pure, Except.pure]
    rw [ofCodes_codesOf]

/-- A member is read, and what stands behind it tells whether it is the last. -/
theorem readMembers_of_writesMember {m : String × Json} {w t : List Char} {fuel : Nat} (hm : WritesMember room m w) (ht : Ends t)
    (hfuel : w.length ≤ fuel) : readMembers noHalves room (fuel + 1) (w ++ t) = match skipGap t with
      | '\x7d' :: rest => .ok ([(codesOf m.1, m.2)], rest)
      | ',' :: rest => (readMembers noHalves room fuel (skipGap rest)).map fun r => ((codesOf m.1, m.2) :: r.1, r.2)
      | rest => .error ⟨.comma, rest⟩ := by
  obtain ⟨_, _, hname, hcolon, hgap, hvalue⟩ := hm
  simp only [List.length_cons, List.length_append] at hfuel
  have hread := hvalue.read t fuel ht (by omega)
  obtain ⟨c, rest, rfl, hc⟩ := hvalue.start
  simp only [List.cons_append, List.append_assoc] at hread ⊢
  rw [readMembers]
  simp only [readString_of_quoted hname, skipGap_append hcolon (show isGap ':' = false by decide), skipGap_append hgap hc, hread,
    bind, Except.bind, pure, Except.pure]
  generalize skipGap t = behind
  split
  · rfl
  · next rest =>
    show _ = (readMembers noHalves room fuel (skipGap rest)).map _
    cases readMembers noHalves room fuel (skipGap rest) <;> rfl
  · simp only

/-- Members begin with a quote. -/
theorem exists_quote_of_writes {ms : List (String × Json)} {w : List Char} (h : WritesMembers room ms w) : ∃ t, w = '"' :: t := by
  cases h with
  | last _ hm => cases hm; exact ⟨_, rfl⟩
  | more _ _ hm => cases hm; exact ⟨_, rfl⟩

/-- Members of an object are read up to the brace behind them. -/
theorem readMembers_of_writes {ms : List (String × Json)} {w : List Char} (h : WritesMembers room ms w) (t : List Char) {fuel : Nat}
    (hfuel : w.length < fuel) : readMembers noHalves room fuel (w ++ t) = .ok (ms.map fun m => (codesOf m.1, m.2), t) := by
  induction h generalizing fuel with
  | last g hm hg =>
    obtain ⟨fuel, rfl⟩ := Nat.exists_eq_add_one_of_ne_zero (Nat.ne_of_gt (Nat.zero_lt_of_lt hfuel))
    simp only [List.length_append] at hfuel
    have hbrace : skipGap (g ++ '\x7d' :: t) = '\x7d' :: t := skipGap_append hg (by decide) t
    rw [List.append_assoc, List.append_assoc]
    refine (readMembers_of_writesMember hm (ends_append hg (by decide) t) (by omega)).trans ?_
    rw [hbrace]
    rfl
  | @more _ ms _ ws g g' hm hg hg' hms ih =>
    obtain ⟨fuel, rfl⟩ := Nat.exists_eq_add_one_of_ne_zero (Nat.ne_of_gt (Nat.zero_lt_of_lt hfuel))
    simp only [List.length_append, List.length_cons] at hfuel
    have hskip : skipGap (g' ++ ws ++ t) = ws ++ t := by
      obtain ⟨rest, rfl⟩ := exists_quote_of_writes hms
      rw [List.append_assoc]
      exact skipGap_append hg' (by decide) (rest ++ t)
    have hcomma : skipGap (g ++ ',' :: (g' ++ ws ++ t)) = ',' :: (g' ++ ws ++ t) := skipGap_append hg (by decide) _
    rw [List.append_assoc, List.append_assoc, List.cons_append]
    refine (readMembers_of_writesMember hm (ends_append hg (by decide) _) (by omega)).trans ?_
    rw [hcomma]
    show (readMembers noHalves room fuel (skipGap (g' ++ ws ++ t))).map _ = _
    rw [hskip, ih (by omega)]
    rfl

/-- An object with texts for names keeps of every name the last value. -/
theorem ofMembers_codesOf (ms : List (String × Json)) : ofMembers (ms.map fun m => (codesOf m.1, m.2)) = .obj (collect ms) := by
  have hnames : (ms.map fun m => (codesOf m.1, m.2)).any (·.1.any isHalf) = false := by
    rw [List.any_map, List.any_eq_false]
    exact fun m _ => by simp [any_isHalf_codesOf]
  rw [ofMembers, hnames, if_neg (by decide), List.map_map]
  simp only [Function.comp_def, textOf_codesOf, Prod.eta, List.map_id']

/-- A way to write an object writes it. -/
theorem writes_of_object {ms : List (String × Json)} {w : List Char} (h : WritesObject room ms w) :
    Writes room (.obj (collect ms)) w := by
  cases h with
  | @mk room _ ws g hg hms =>
    refine ⟨⟨_, _, rfl, by decide⟩, fun t fuel _ hfuel => ?_⟩
    obtain ⟨fuel, rfl⟩ := Nat.exists_eq_add_one_of_ne_zero (Nat.ne_of_gt (Nat.zero_lt_of_lt hfuel))
    simp only [List.length_append, List.length_cons] at hfuel
    have hread := readMembers_of_writes hms t (show ws.length < fuel by omega)
    obtain ⟨rest, rfl⟩ := exists_quote_of_writes hms
    have hskip : skipGap (g ++ '"' :: rest ++ t) = '"' :: rest ++ t := by
      rw [List.append_assoc]
      exact skipGap_append hg (by decide) _
    rw [List.cons_append, readValue, if_neg (by decide), if_pos (by decide)]
    rw [descend, hskip, List.cons_append]
    dsimp only
    split
    · next he => exact absurd (List.cons.inj he).1 (by decide)
    · rw [← List.cons_append, hread]
      dsimp only [bind, Except.bind, pure, Except.pure]
      rw [ofMembers_codesOf]

/-- A text that begins with no mark is read as a value with nothing but blanks around it. -/
theorem read_of_unmarked {cs : List Char} (h : cs.head? ≠ some '\uFEFF') (room : Nat) : read cs room =
    (readValue noHalves room (2 * cs.length + 2) (skipGap cs)).bind fun r =>
      match skipGap r.2 with
      | [] => .ok r.1
      | rest => .error ⟨.extra, rest⟩ := by
  rw [read, readText]
  · rfl
  · rintro rest rfl
    exact h rfl

/-- Nothing is left of blanks. -/
theorem skipGap_of_gap {g : List Char} (hg : Gap g) : skipGap g = [] := by
  have hdrop : (g ++ []).dropWhile isGap = [].dropWhile isGap := List.dropWhile_append_of_pos (List.all_eq_true.mp hg)
  rwa [List.append_nil] at hdrop

/-- A way to write an object, with blanks around it, is read as the object. -/
theorem read_of_writesObject {ms : List (String × Json)} {w g g' : List Char} (h : WritesObject room ms w) (hg : Gap g) (hg' : Gap g') :
    read (g ++ (w ++ g')) room = .ok (.obj (collect ms)) := by
  have hends : Ends g' := fun c hc => Or.inl (List.all_eq_true.mp hg' c (List.mem_of_mem_head? hc))
  have hread := (writes_of_object h).read g' (2 * (g ++ (w ++ g')).length + 2) hends (by simp only [List.length_append]; omega)
  cases h with
  | @mk room _ ws gap hgap hms =>
    have hunmarked : (g ++ ('\x7b' :: (gap ++ ws) ++ g')).head? ≠ some '\uFEFF' := by
      cases g with
      | nil => simp
      | cons c g =>
        have hc : isGap c = true := List.all_eq_true.mp hg c (by simp)
        rintro he
        obtain rfl : c = '\uFEFF' := Option.some.inj he
        exact absurd hc (by decide)
    have hskip : skipGap (g ++ ('\x7b' :: (gap ++ ws) ++ g')) = '\x7b' :: (gap ++ ws) ++ g' := skipGap_append hg (by decide) _
    rw [read_of_unmarked hunmarked, hskip, hread]
    simp only [Except.bind, skipGap_of_gap hg']

/-- Code points of characters are read as the characters. -/
theorem readCodes_map_toNat (cs : List Char) (room : Nat) : readCodes (cs.map Char.toNat) room = read cs room := by
  have hhalves : halvesOf (cs.map Char.toNat) = noHalves := by
    funext left
    rw [halvesOf, List.getElem?_map]
    cases cs[(cs.map Char.toNat).length - left]? with
    | none => rfl
    | some c => exact Option.filter_some_neg (by simp [isHalf_toNat])
  have hid : charOf ∘ Char.toNat = id := funext charOf_toNat
  rw [readCodes, hhalves, List.map_map, hid, List.map_id, read]

/-- A way to write a member with a text is one to write a member. -/
theorem writesMember_of_spells {m : String × String} {w : List Char} (h : SpellsMember m w) : WritesMember room (m.1, .str m.2) w := by
  cases h with
  | mk g g' hname hg hg' hvalue => exact .mk g g' hname hg hg' (writes_of_quoted hvalue)

/-- A way to write an object of texts is one to write an object. -/
theorem writesObject_of_spells {ms : List (String × String)} {w : List Char} (h : SpellsObject ms w) :
    WritesObject (room + 1) (ms.map fun m => (m.1, .str m.2)) w := by
  cases h with
  | mk g hg hms =>
    refine .mk g hg ?_
    induction hms with
    | last g hm hg => exact .last g (writesMember_of_spells hm) hg
    | more g g' hm hg hg' _ ih => exact .more g g' (writesMember_of_spells hm) hg hg' ih

/-- Whatever way an object of texts is written in, it is read as its members. -/
theorem read_of_spellsObject {ms : List (String × String)} {w : List Char} (h : SpellsObject ms w) (room : Nat) :
    read w (room + 1) = .ok (.obj (collect (ms.map fun m => (m.1, .str m.2)))) := by
  have hblank : Gap [] := rfl
  have hread := read_of_writesObject (@writesObject_of_spells room _ _ h) hblank hblank
  rwa [List.nil_append, List.append_nil] at hread

/-- A value is an object. -/
def IsObject (v : Json) : Prop :=
  (∃ members, v = .obj members) ∨ ∃ members, v = .illNamed members

/-- A control character is written by its code. -/
theorem codeUnit?_paddedDigits : ∀ n < 0x20, ∃ p q r s, Text.paddedDigits 16 4 n = [p, q, r, s] ∧ codeUnit? p q r s = some n := by
  intro n hn
  refine ⟨_, _, _, _, rfl, ?_⟩
  revert n
  decide

/-- The writer writes a character in one of the ways to write it. -/
theorem spells_writeChar (c : Char) : SpellsChar c (writeChar c) := by
  unfold writeChar
  split
  · next h =>
    rw [Bool.or_eq_true, beq_iff_eq, beq_iff_eq] at h
    exact .escaped (.letter (by rcases h with rfl | rfl <;> rfl))
  · next h =>
    rw [Bool.or_eq_true, beq_iff_eq, beq_iff_eq, not_or] at h
    split
    · next hcontrol =>
      obtain ⟨p, q, r, s, hdigits, hcode⟩ := codeUnit?_paddedDigits c.toNat hcontrol
      rw [hdigits]
      exact .escaped (.code hcode)
    · next hcontrol => exact .plain h.1 h.2 (Nat.not_lt.mp hcontrol)

/-- The writer writes characters in one of the ways to write them. -/
theorem spells_flatMap_writeChar (cs : List Char) : SpellsChars cs (cs.flatMap writeChar) := by
  induction cs with
  | nil => exact .nil
  | cons c cs ih => exact .cons (spells_writeChar c) ih

/-- The writer writes a member in one of the ways to write it. -/
theorem spells_writeMember (m : String × String) : SpellsMember m (writeString m.1 ++ ':' :: writeChars (.str m.2)) := by
  have hmember := SpellsMember.mk [] [] (spells_flatMap_writeChar m.1.toList) rfl rfl
    (spells_flatMap_writeChar m.2.toList)
  simpa [writeString, writeChars] using hmember

/-- The writer writes an object of texts in one of the ways to write it. -/
theorem spells_writeChars {ms : List (String × String)} (hne : ms ≠ []) :
    SpellsObject ms (writeChars (.obj (ms.map fun m => (m.1, .str m.2)))) := by
  have hmembers (m : String × String) (ms : List (String × String)) :
      SpellsMembers (m :: ms) (writeMembers ((m :: ms).map fun m => (m.1, .str m.2)) ++ ['\x7d']) := by
    induction ms generalizing m with
    | nil => exact .last [] (spells_writeMember m) rfl
    | cons m' ms ih =>
      have hrest := SpellsMembers.more [] [] (spells_writeMember m) rfl rfl (ih m')
      simpa [writeMembers] using hrest
  obtain ⟨m, ms, rfl⟩ := List.exists_cons_of_ne_nil hne
  exact .mk [] rfl (hmembers m ms)

end OAuthClient.Json
