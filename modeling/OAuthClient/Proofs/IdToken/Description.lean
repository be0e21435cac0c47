import Mathlib.Data.List.Forall2
import OAuthClient.IdToken
import OAuthClient.Proofs.Json.Quoted

/-!
# What a description of an id token shows

Two descriptions with the same names are the same text only when all their values are shown alike, since every value says by itself
where it ends. So what is not hidden in the description of an id token can be read in it: of the secrets that may come with an id token
only the id token itself is hidden.
-/

namespace OAuthClient

namespace Text

/-- Two fields have the same name, and values that are determined by what they make in front of something. -/
structure ReadApart (f f' : String × String) : Prop where
  name : f.1 = f'.1
  value : ∀ rest rest' : List Char, f.2.toList ++ rest = f'.2.toList ++ rest' → f.2 = f'.2 ∧ rest = rest'

/-- Two fields in front of something are determined by what they make. -/
theorem ReadApart.field_inj {f f' : String × String} (h : ReadApart f f') {rest rest' : List Char}
    (heq : (f.1 ++ "=" ++ f.2).toList ++ rest = (f'.1 ++ "=" ++ f'.2).toList ++ rest') : f = f' ∧ rest = rest' := by
  simp only [h.name, String.toList_append, List.append_assoc, List.append_cancel_left_eq] at heq
  obtain ⟨hvalue, hrest⟩ := h.value rest rest' heq
  exact ⟨Prod.ext h.name hvalue, hrest⟩

/-- Fields in front of something are determined by what they make, where they have the same names and values that read apart. -/
theorem fieldTexts_inj {sep : String} {fields fields' : List (String × String)} (h : List.Forall₂ ReadApart fields fields')
    {rest rest' : List Char} (heq : (fieldTexts sep fields).toList ++ rest = (fieldTexts sep fields').toList ++ rest') :
    fields = fields' ∧ rest = rest' := by
  induction h with
  | nil => exact ⟨rfl, List.append_cancel_left heq⟩
  | @cons f f' fields fields' hf hfields ih =>
    cases hfields with
    | nil =>
      rw [fieldTexts, fieldTexts, List.map_singleton, List.map_singleton, String.intercalate_singleton,
        String.intercalate_singleton] at heq
      obtain ⟨rfl, hrest⟩ := hf.field_inj heq
      exact ⟨rfl, hrest⟩
    | @cons g g' more more' hg hmore =>
      have hsplit (f g : String × String) (more : List (String × String)) (rest : List Char) :
          (fieldTexts sep (f :: g :: more)).toList ++ rest =
            (f.1 ++ "=" ++ f.2).toList ++ (sep.toList ++ ((fieldTexts sep (g :: more)).toList ++ rest)) := by
        rw [fieldTexts, List.map_cons, List.map_cons, String.intercalate_cons_cons, fieldTexts, List.map_cons, String.toList_append,
          String.toList_append, List.append_assoc, List.append_assoc]
      rw [hsplit, hsplit] at heq
      obtain ⟨rfl, htail⟩ := hf.field_inj heq
      obtain ⟨hsame, hrest⟩ := ih (List.append_cancel_left htail)
      exact ⟨congrArg (f :: ·) hsame, hrest⟩

/-- Texts of fields with the same names and values that read apart are the same only for the same fields. -/
theorem fieldTexts_eq_iff (sep : String) {fields fields' : List (String × String)} (h : List.Forall₂ ReadApart fields fields') :
    fieldTexts sep fields = fieldTexts sep fields' ↔ fields = fields' := by
  constructor
  · intro heq
    have htexts : (fieldTexts sep fields).toList ++ [] = (fieldTexts sep fields').toList ++ [] := by rw [heq]
    exact (fieldTexts_inj h htexts).1
  · exact congrArg (fieldTexts sep)

/-- Descriptions of fields with the same names and values that read apart are the same only for the same fields. -/
theorem description_eq_iff (name : String) {fields fields' : List (String × String)} (h : List.Forall₂ ReadApart fields fields') :
    description name fields = description name fields' ↔ fields = fields' := by
  constructor
  · intro heq
    have htexts := congrArg String.toList heq
    simp only [description, String.toList_append, List.append_assoc, List.append_cancel_left_eq] at htexts
    exact (fieldTexts_inj h htexts).1
  · exact congrArg (description name)

end Text

namespace IdToken

open OAuthClient.Text OAuthClient.Json

/-- Two fields without a place of their own have the same name, and the same value unless they are secrets: then both have texts. -/
def MemberAlike (m m' : String × Json) : Prop :=
  m.1 = m'.1 ∧ (m.2 = m'.2 ∨ m.1 ∈ Parameter.secretWireNames ∧ IsText m.2 ∧ IsText m'.2)

/-- Two id tokens differ in the values of secrets only: in the id tokens themselves, in their codes where both have one, and in the texts
of fields that have the name of a secret. -/
structure DifferInSecrets (t t' : IdToken) : Prop where
  code : t.code.isSome = t'.code.isSome
  state : t.state = t'.state
  sessionState : t.sessionState = t'.sessionState
  extra : List.Forall₂ MemberAlike t.extra t'.extra

/-- Values that are the same or two texts read apart under one name. -/
theorem readApart_of_sameOrTexts {v v' : Json} (h : SameOrTexts v v') (name : String) :
    ReadApart (name, v.inspect) (name, v'.inspect) := by
  refine ⟨rfl, fun rest rest' heq => ?_⟩
  obtain ⟨rfl, hrest⟩ := h.inspect_inj heq
  exact ⟨rfl, hrest⟩

/-- Members that are alike have values that are the same or two texts. -/
theorem MemberAlike.sameOrTexts {m m' : String × Json} (h : MemberAlike m m') : SameOrTexts m.2 m'.2 := by
  rcases h.2 with hsame | ⟨-, htexts⟩
  · exact Or.inl hsame
  · exact Or.inr htexts

/-- Codes that are both there or both not are the same or two texts. -/
theorem sameOrTexts_optional {s s' : Option String} (h : s.isSome = s'.isSome) :
    SameOrTexts (Failure.optional s) (Failure.optional s') := by
  cases s with
  | none =>
    cases s' with
    | none => exact Or.inl rfl
    | some s' => cases h
  | some s =>
    cases s' with
    | none => cases h
    | some s' => exact Or.inr ⟨isText_str s, isText_str s'⟩

variable {t t' : IdToken}

/-- The fields that are shown of two id tokens that differ in secrets read apart. -/
theorem DifferInSecrets.readApart (h : DifferInSecrets t t') : List.Forall₂ ReadApart (t.shownFields false) (t'.shownFields false) := by
  have hsame (name : String) (v : Json) := readApart_of_sameOrTexts (Or.inl (Eq.refl v)) name
  have hcode := readApart_of_sameOrTexts (sameOrTexts_optional h.code) "code"
  have hidToken := hsame "id_token" (.str redactedPlaceholder)
  unfold shownFields
  rw [h.state, h.sessionState]
  refine .cons hcode (.cons hidToken (.cons (hsame _ _) (.cons (hsame _ _) ?_)))
  refine List.forall₂_map_left_iff.mpr (List.forall₂_map_right_iff.mpr (h.extra.imp ?_))
  rintro ⟨name, v⟩ ⟨name', v'⟩ halike
  obtain rfl : name = name' := halike.1
  exact readApart_of_sameOrTexts halike.sameOrTexts name

/-- Fields that are alike are shown alike only when they are the same. -/
theorem map_inspect_inj {members members' : List (String × Json)} (h : List.Forall₂ MemberAlike members members')
    (heq : (members.map fun (n, v) => (n, v.inspect)) = members'.map fun (n, v) => (n, v.inspect)) : members = members' := by
  induction h with
  | nil => rfl
  | @cons m m' members members' hm _ ih =>
    obtain ⟨hfirst, hrest⟩ := List.cons.inj heq
    have hvalue : m.2.inspect.toList ++ [] = m'.2.inspect.toList ++ [] := by rw [(Prod.mk.inj hfirst).2]
    rw [ih hrest, Prod.ext hm.1 (hm.sameOrTexts.inspect_inj hvalue).1]

/-- The fields that are shown of two id tokens that differ in secrets are the same exactly when only the id tokens themselves differ. -/
theorem DifferInSecrets.shownFields_eq_iff (h : DifferInSecrets t t') :
    t.shownFields false = t'.shownFields false ↔ t.code = t'.code ∧ t.extra = t'.extra := by
  constructor
  · intro heq
    obtain ⟨hcode, htail⟩ := List.cons.inj heq
    have hinspect : (Failure.optional t.code).inspect.toList ++ [] = (Failure.optional t'.code).inspect.toList ++ [] := by
      rw [(Prod.mk.inj hcode).2]
    have hoptional := ((sameOrTexts_optional h.code).inspect_inj hinspect).1
    refine ⟨?_, map_inspect_inj h.extra ?_⟩
    · revert hoptional
      cases t.code <;> cases t'.code <;> simp [Failure.optional]
    · exact (List.append_inj htail rfl).2
  · rintro ⟨hcode, hextra⟩
    unfold shownFields
    rw [hcode, h.state, h.sessionState, hextra]
    rfl

/-- The descriptions of two id tokens that differ in secrets are the same exactly when only the id tokens themselves differ, and so are
their fields as texts. -/
theorem DifferInSecrets.descriptions_eq_iff (h : DifferInSecrets t t') :
    (t.describe false = t'.describe false ↔ t.code = t'.code ∧ t.extra = t'.extra) ∧
    (t.summary false = t'.summary false ↔ t.code = t'.code ∧ t.extra = t'.extra) :=
  ⟨(description_eq_iff "IdToken" h.readApart).trans h.shownFields_eq_iff,
    (fieldTexts_eq_iff " " h.readApart).trans h.shownFields_eq_iff⟩

/-- An id token with a code and an access token. -/
def signIn (idToken code accessToken : String) : IdToken :=
  { idToken, code, state := "s", extra := [("access_token", .str accessToken)] }

/-- Another id token is described alike, but another code and another access token are not. -/
theorem descriptions_eq_iff_signIn :
    (signIn "jwt" "c-1" "a-1").describe false = (signIn "other" "c-1" "a-1").describe false ∧
    (signIn "jwt" "c-1" "a-1").describe false ≠ (signIn "jwt" "c-2" "a-1").describe false ∧
    (signIn "jwt" "c-1" "a-1").summary false ≠ (signIn "jwt" "c-1" "a-2").summary false := by
  have hname : "access_token" ∈ Parameter.secretWireNames := by decide
  have hdiffer (idToken idToken' code code' accessToken accessToken' : String) :
      DifferInSecrets (signIn idToken code accessToken) (signIn idToken' code' accessToken') :=
    ⟨rfl, rfl, rfl, .cons ⟨rfl, Or.inr ⟨hname, isText_str _, isText_str _⟩⟩ .nil⟩
  refine ⟨?_, ?_, ?_⟩
  · exact (hdiffer "jwt" "other" "c-1" "c-1" "a-1" "a-1").descriptions_eq_iff.1.mpr ⟨rfl, rfl⟩
  · exact fun heq => absurd ((hdiffer "jwt" "jwt" "c-1" "c-2" "a-1" "a-1").descriptions_eq_iff.1.mp heq).1 (by decide)
  · exact fun heq => absurd ((hdiffer "jwt" "jwt" "c-1" "c-1" "a-1" "a-2").descriptions_eq_iff.2.mp heq).2 (by decide)

/-- Not every secret is hidden: two id tokens that were made from values that differ in the code are described differently. -/
theorem not_every_secret_hidden :
    ¬ ∀ (source source' : Source) (t t' : IdToken), ofSource source = .ok t → ofSource source' = .ok t' → DifferInSecrets t t' →
      t.describe false = t'.describe false ∧ t.summary false = t'.summary false := by
  intro hall
  have hdescribe := (hall (.values (.str "jwt") (.str "c-1") (.str "s-1") (.str "ss-1"))
    (.values (.str "jwt") (.str "c-2") (.str "s-1") (.str "ss-1")) _ _ rfl rfl ⟨rfl, rfl, rfl, .nil⟩).1
  exact absurd hdescribe (by decide +kernel)

end IdToken

end OAuthClient
