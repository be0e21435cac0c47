import OAuthClient.Proofs.Text.Split
import OAuthClient.Proofs.Uri.Percent
import OAuthClient.Uri.Form

/-!
# Reading back forms

Statements about `encode` and `decodeLenient`. A name or a value is read back from its encoded form in either style, which holds
none of the separators, so the fields of a form are read back from its text, alone or behind the fields of another text.
-/

namespace OAuthClient.Form

open OAuthClient.Text

/-! ## Names and values -/

/-- The characters that a style leaves in place, once plus signs are read as blanks. -/
def Style.keeps (style : Style) (c : Char) : Bool :=
  match style with
  | .percent => Percent.isUnreserved c
  | .plus => c == ' ' || Percent.isUnreserved c

/-- No style leaves a percent sign in place. -/
theorem Style.keeps_percent (style : Style) : style.keeps '%' = false := by
  cases style <;> decide

/-- A plus sign is no character that stands for itself. -/
theorem ne_plus_of_isUnreserved {c : Char} (h : c = '%' ∨ Percent.isUnreserved c = true) : (c == '+') = false := by
  rcases h with rfl | h
  · decide
  · rw [beq_eq_false_iff_ne]
    rintro rfl
    exact absurd h (by decide)

/-- In an encoded character no plus sign stands for a blank. -/
theorem map_blank_encodeChar (c : Char) :
    (Percent.encodeChar Percent.isUnreserved c).map (fun d => if d == '+' then ' ' else d) =
      Percent.encodeChar Percent.isUnreserved c := by
  rw [List.map_congr_left (g := id), List.map_id]
  intro d hd
  have hplus : (d == '+') = false := by
    rcases Percent.mem_encodeChar hd with h | h
    · exact ne_plus_of_isUnreserved (Or.inr h)
    · exact ne_plus_of_isUnreserved h
  rw [hplus]
  rfl

/-- An encoded text with its plus signs read as blanks is the percent form of the text. -/
theorem map_blank_encode (style : Style) (cs : List Char) :
    (style.encode cs).map (fun d => if d == '+' then ' ' else d) = Percent.encodeExcept style.keeps cs := by
  induction cs with
  | nil => cases style <;> rfl
  | cons c cs ih =>
    cases style with
    | percent =>
      simp only [Style.encode, Percent.encode, Percent.encodeExcept, List.flatMap_cons, List.map_append] at ih ⊢
      rw [ih, map_blank_encodeChar]
      rfl
    | plus =>
      simp only [Style.encode, Percent.encodeExcept, List.flatMap_cons, List.map_append] at ih ⊢
      rw [ih]
      congr 1
      by_cases hc : (c == ' ') = true
      · rw [if_pos hc, Percent.encodeChar, if_pos (by simp [Style.keeps, hc]), beq_iff_eq.mp hc]
        rfl
      · rw [if_neg hc, map_blank_encodeChar]
        simp [Percent.encodeChar, Style.keeps, hc]

/-- A name or a value is read back from its encoded form. -/
theorem decodePart_encode (style : Style) (cs : List Char) : decodePart (style.encode cs) = String.ofList cs := by
  rw [decodePart, map_blank_encode, Percent.decode_encodeExcept style.keeps_percent]

/-- An encoded name or value is made of characters that stand for themselves, percent signs and, where a blank is one, plus signs. -/
theorem Style.of_mem {style : Style} {cs : List Char} {c : Char} (h : c ∈ style.encode cs) :
    Percent.isUnreserved c = true ∨ c = '%' ∨ style = .plus ∧ c = '+' := by
  have hchar {d : Char} (hd : c ∈ Percent.encodeChar Percent.isUnreserved d) : Percent.isUnreserved c = true ∨ c = '%' := by
    rcases Percent.mem_encodeChar hd with hkept | hpercent | hkept
    · exact Or.inl hkept
    · exact Or.inr hpercent
    · exact Or.inl hkept
  cases style with
  | percent =>
    obtain ⟨d, _, hd⟩ := List.mem_flatMap.mp h
    exact (hchar hd).imp_right Or.inl
  | plus =>
    obtain ⟨d, _, hd⟩ := List.mem_flatMap.mp h
    split at hd
    · exact Or.inr (Or.inr ⟨rfl, List.mem_singleton.mp hd⟩)
    · exact (hchar hd).imp_right Or.inl

/-- A separator is neither kept by a style nor part of a percent form. -/
theorem notMem_encode {c : Char} (style : Style) (cs : List Char) (plus : c ≠ '+') (percent : c ≠ '%')
    (reserved : Percent.isUnreserved c = false) : c ∉ style.encode cs := by
  intro h
  rcases Style.of_mem h with hkept | hpercent | ⟨_, hplus⟩
  · rw [reserved] at hkept
    cases hkept
  · exact percent hpercent
  · exact plus hplus

/-- A character of an encoded form: one that stands for itself, a separator, or a sign that stands for something else. -/
def isFormChar (c : Char) : Bool :=
  c == '&' || c == '=' || c == '%' || c == '+' || Percent.isUnreserved c

/-- What holds of the characters of ASCII that encoded forms have holds of all that they have. -/
theorem of_isFormChar {p : Char → Prop} (hall : ∀ n < 128, isFormChar (Char.ofNat n) = true → p (Char.ofNat n)) {c : Char}
    (h : isFormChar c = true) : p c := by
  have hc : c.toNat < 128 := by
    simp only [isFormChar, Bool.or_eq_true, beq_iff_eq] at h
    rcases h with (((rfl | rfl) | rfl) | rfl) | h
    · decide
    · decide
    · decide
    · decide
    · exact Percent.toNat_lt_of_isUnreserved h
  exact Percent.of_toNat_lt (p := fun c => isFormChar c = true → p c) hall hc h

/-- An encoded name or value is made of characters of encoded forms. -/
theorem Style.isFormChar_of_mem {style : Style} {cs : List Char} {c : Char} (h : c ∈ style.encode cs) : isFormChar c = true := by
  rcases Style.of_mem h with hkept | rfl | ⟨_, rfl⟩
  · rw [isFormChar, hkept, Bool.or_true]
  · rfl
  · rfl

/-! ## Fields -/

/-- The field that a piece stands for in the lenient reading. -/
def fieldOf (piece : List Char) : String × String :=
  (decodePart (cut '=' piece).1, decodePart ((cut '=' piece).2.getD []))

/-- The lenient reading takes the pieces that are not empty as fields. -/
theorem decodeLenient_eq (s : String) :
    decodeLenient s = ((pieces '&' s.toList).filter (!·.isEmpty)).map fieldOf := rfl

/-- The empty text has no fields. -/
theorem decodeLenient_empty : decodeLenient "" = [] := rfl

/-- The fields of a text in which an ampersand stands are those before it and those behind it. -/
theorem decodeLenient_append_cons (a b : List Char) :
    decodeLenient (String.ofList (a ++ '&' :: b)) =
      decodeLenient (String.ofList a) ++ decodeLenient (String.ofList b) := by
  simp only [decodeLenient_eq, String.toList_ofList, pieces_append_cons, List.filter_append, List.map_append]

/-- An encoded field holds no ampersand. -/
theorem notMem_encodeField (style : Style) (field : String × String) : '&' ∉ encodeField style field := by
  rw [encodeField, List.mem_append, List.mem_cons]
  rintro (h | h | h)
  · exact notMem_encode style _ (by decide) (by decide) (by decide) h
  · exact absurd h (by decide)
  · exact notMem_encode style _ (by decide) (by decide) (by decide) h

/-- A field is read back from its encoded form. -/
theorem fieldOf_encodeField (style : Style) (field : String × String) : fieldOf (encodeField style field) = field := by
  have hname : '=' ∉ style.encode field.1.toList := notMem_encode style _ (by decide) (by decide) (by decide)
  rw [fieldOf, encodeField, cut_append_cons hname, Option.getD_some, decodePart_encode, decodePart_encode,
    String.ofList_toList, String.ofList_toList]

/-- The pieces of the text of some fields are the encoded fields. -/
theorem pieces_encode (style : Style) {fields : List (String × String)} (h : fields ≠ []) :
    pieces '&' (encode style fields).toList = fields.map (encodeField style) := by
  rw [encode, String.toList_ofList]
  apply pieces_join
  · simpa using h
  · intro w hw
    obtain ⟨f, _, rfl⟩ := List.mem_map.mp hw
    exact notMem_encodeField style f

/-- Fields are read back from their text. -/
theorem decodeLenient_encode (style : Style) (fields : List (String × String)) :
    decodeLenient (encode style fields) = fields := by
  cases fields with
  | nil => rfl
  | cons field fields =>
    have hfilter : ((field :: fields).map (encodeField style)).filter (!·.isEmpty) =
        (field :: fields).map (encodeField style) := by
      rw [List.filter_eq_self]
      intro w hw
      obtain ⟨f, _, rfl⟩ := List.mem_map.mp hw
      simp [encodeField]
    have hfield : fieldOf ∘ encodeField style = id := funext (fieldOf_encodeField style)
    rw [decodeLenient_eq, pieces_encode style (List.cons_ne_nil _ _), hfilter, List.map_map, hfield, List.map_id]

/-- The text of some fields is not empty. -/
theorem encode_ne_empty (style : Style) {fields : List (String × String)} (h : fields ≠ []) :
    encode style fields ≠ "" := by
  intro he
  have hread := decodeLenient_encode style fields
  rw [he, decodeLenient_empty] at hread
  exact h hread.symm

/-- The text of some fields is made of characters of encoded forms, so what holds of all these holds of its characters. -/
theorem of_mem_encode {p : Char → Prop} (hall : ∀ n < 128, isFormChar (Char.ofNat n) = true → p (Char.ofNat n)) {style : Style}
    {fields : List (String × String)} {c : Char} (h : c ∈ (encode style fields).toList) : p c := by
  refine of_isFormChar hall ?_
  rw [encode, String.toList_ofList] at h
  rcases mem_join h with rfl | ⟨piece, hpiece, hc⟩
  · rfl
  · obtain ⟨field, _, rfl⟩ := List.mem_map.mp hpiece
    rw [encodeField, List.mem_append, List.mem_cons] at hc
    rcases hc with hname | rfl | hvalue
    · exact Style.isFormChar_of_mem hname
    · rfl
    · exact Style.isFormChar_of_mem hvalue

/-! ## The strict reading -/

/-- A field that is read back has an equals sign. -/
theorem decodeField_encodeField (style : Style) (field : String × String) :
    decodeField (encodeField style field) = .ok field := by
  have hname : '=' ∉ style.encode field.1.toList := notMem_encode style _ (by decide) (by decide) (by decide)
  rw [decodeField, encodeField, cut_append_cons hname]
  simp only [decodePart_encode, String.ofList_toList]

/-- Encoded fields are read back one by one. -/
theorem decodeFields_map_encodeField (style : Style) (fields : List (String × String)) :
    decodeFields (fields.map (encodeField style)) = .ok fields := by
  induction fields with
  | nil => rfl
  | cons field fields ih =>
    rw [List.map_cons, decodeFields, decodeField_encodeField, ih]
    rfl

/-- Fields are read back from their text by the strict reading, too. -/
theorem decode_encode (style : Style) (fields : List (String × String)) :
    decode (encode style fields) = .ok fields := by
  by_cases h : fields = []
  · subst h
    rfl
  · have hempty : (encode style fields).isEmpty = false := by
      rw [String.isEmpty_eq_false_iff]
      exact encode_ne_empty style h
    rw [decode, hempty, pieces_encode style h, decodeFields_map_encodeField]
    rfl

/-- A text reads as fields when the strict and the lenient reading both find these, in order. -/
structure ReadsAs (text : String) (fields : List (String × String)) : Prop where
  strict : decode text = .ok fields
  lenient : decodeLenient text = fields

/-- The text of fields reads as these fields, however blanks are written. -/
theorem readsAs_encode (style : Style) (fields : List (String × String)) : ReadsAs (encode style fields) fields :=
  ⟨decode_encode style fields, decodeLenient_encode style fields⟩

end OAuthClient.Form
