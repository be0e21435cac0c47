import OAuthClient.IdToken
import OAuthClient.Proofs.Json.Members
import OAuthClient.Proofs.Uri.Form

/-!
# Id tokens from forms

A sign-in may come back as a form, copied from a URL with the mark in front of its query or fragment and with blanks around it. Such a
text is read as the fields that were encoded: no name and no value turns it into one of the other two formats, and of a name that
occurs twice the last value counts.
-/

namespace OAuthClient.IdToken

open OAuthClient.Text OAuthClient.Validation

/-! ## Texts by name -/

variable {s : String} {t : List Char} {pairs : List (String × String)}

/-- The id token that texts with different names describe. -/
def ofTexts (fields : List (String × String)) : IdToken where
  code := Json.find? "code" fields
  idToken := (Json.find? "id_token" fields).getD ""
  state := Json.find? "state" fields
  sessionState := Json.find? "session_state" fields
  extra := (fields.filter fun m => !fieldNames.contains m.1).map fun m => (m.1, .str m.2)

/-- A field that may be null is read from texts by name. -/
theorem readField_textOrNull (name : String) (fields : List (String × String)) :
    readField name (fields.map fun m => (m.1, .str m.2)) none textOrNull = .ok (Json.find? name fields) := by
  rw [readField, Json.find?_map]
  cases Json.find? name fields <;> rfl

/-- A field that is a text is read from texts by name. -/
theorem readField_text (name : String) (fields : List (String × String)) :
    readField name (fields.map fun m => (m.1, .str m.2)) "" text = .ok ((Json.find? name fields).getD "") := by
  rw [readField, Json.find?_map]
  cases Json.find? name fields <;> rfl

/-- Members that are all texts describe an id token. -/
theorem ofMembers_texts (fields : List (String × String)) :
    ofMembers (fields.map fun m => (m.1, .str m.2)) = .ok (ofTexts fields) := by
  rw [ofMembers, readField_textOrNull, readField_text, readField_textOrNull, readField_textOrNull, ofTexts, List.filter_map]
  rfl

/-- The last value of a name among pairs. -/
def lastValue? (name : String) (pairs : List (String × String)) : Option String :=
  pairs.reverse.lookup name

/-- The id token that the fields of a form stand for: of every name the last value counts, and the names without a place of their own
come in the order in which they come up first. -/
def ofForm (pairs : List (String × String)) : IdToken where
  code := lastValue? "code" pairs
  idToken := (lastValue? "id_token" pairs).getD ""
  state := lastValue? "state" pairs
  sessionState := lastValue? "session_state" pairs
  extra := ((pairs.map (·.1)).eraseDups.filter fun n => !fieldNames.contains n).map fun n =>
    (n, .str ((lastValue? n pairs).getD ""))

/-- The members that pairs leave describe what the pairs stand for. -/
theorem ofTexts_collect (pairs : List (String × String)) : ofTexts (Json.collect pairs) = ofForm pairs := by
  have hmembers := Json.eq_map_names (Json.nodup_collect pairs) ""
  simp only [Json.names_collect, Json.find?_collect] at hmembers
  have hextra : ((Json.collect pairs).filter fun m => !fieldNames.contains m.1).map (fun m => (m.1, Json.str m.2)) =
      (ofForm pairs).extra := by
    rw [hmembers, List.filter_map, List.map_map]
    rfl
  rw [ofTexts, hextra, Json.find?_collect, Json.find?_collect, Json.find?_collect, Json.find?_collect]
  rfl

/-- Pairs of texts give the id token that they stand for. -/
theorem ofPairs_texts (pairs : List (String × String)) : ofPairs (pairs.map fun p => (p.1, .str p.2)) = .ok (ofForm pairs) := by
  rw [ofPairs, Json.collect_map, ofMembers_texts, ofTexts_collect]

/-! ## The three ways -/

/-- What is left of a text is read as an object when it begins with a brace. -/
theorem ofText_of_brace (ht : bareText s.toList = t) (h : t.head? = some '\x7b') (room : Nat) : ofText s room = ofJsonText t room := by
  rw [ofText, ht]
  exact if_pos h

/-- What is left of a text is the id token when there is no field in it. -/
theorem ofText_of_no_field (ht : bareText s.toList = t) (hne : t ≠ []) (h : t.head? ≠ some '\x7b') (hequals : '=' ∉ t)
    (hampersand : '&' ∉ t) (room : Nat) : ofText s room = .ok { idToken := String.ofList t } := by
  rw [ofText, ht]
  exact (if_neg h).trans (if_pos (by simp [hne, hequals, hampersand]))

/-- What is left of a text is read as a form otherwise. -/
theorem ofText_of_field (ht : bareText s.toList = t) (h : t.head? ≠ some '\x7b') (hfield : '=' ∈ t ∨ '&' ∈ t) (room : Nat) :
    ofText s room = match Form.decode (String.ofList t) with
      | .error bad =>
        .error (Failure.malformed ("Invalid id token form data: bad query field: " ++ quoted bad.field) (some .value))
      | .ok pairs => .ok (ofForm pairs) := by
  rw [ofText, ht]
  refine (if_neg h).trans ((if_neg ?_).trans ?_)
  · rcases hfield with hmem | hmem <;> simp [hmem]
  · cases Form.decode (String.ofList t) with
    | error bad => rfl
    | ok pairs =>
      dsimp only
      rw [ofPairs_texts]

/-! ## What stands around -/

/-- A mark at the start of a query or a fragment. -/
def isMark (c : Char) : Bool :=
  c == '#' || c == '?'

/-- What may stand around an id token: blanks on both sides, and marks behind those in front. -/
structure Dressing where
  before : List Char
  marks : List Char
  after : List Char
  isBlank_before : before.all isBlank = true
  isMark_marks : marks.all isMark = true
  isBlank_after : after.all isBlank = true

/-- A text with what stands around it. -/
def Dressing.around (d : Dressing) (core : List Char) : String :=
  String.ofList (d.before ++ (d.marks ++ core) ++ d.after)

/-- A text that stays when what stands around it is removed. -/
structure Bare (core : List Char) : Prop where
  nonempty : core ≠ []
  unblanked : core.dropWhile isBlank = core
  unmarked : core.dropWhile isMark = core
  unended : core.reverse.dropWhile isBlank = core.reverse

/-- Nothing is dropped from a text of which no character would be dropped. -/
theorem dropWhile_of_forall {p : Char → Bool} {cs : List Char} (h : ∀ c ∈ cs, p c = false) : cs.dropWhile p = cs := by
  cases cs with
  | nil => rfl
  | cons c cs => exact List.dropWhile_cons_of_neg (by simp [h c List.mem_cons_self])

/-- A text with neither blanks nor marks in it stays. -/
theorem Bare.of_forall {core : List Char} (hne : core ≠ []) (h : ∀ c ∈ core, isBlank c = false ∧ isMark c = false) :
    Bare core where
  nonempty := hne
  unblanked := dropWhile_of_forall fun c hc => (h c hc).1
  unmarked := dropWhile_of_forall fun c hc => (h c hc).2
  unended := dropWhile_of_forall fun c hc => (h c (List.mem_reverse.mp hc)).1

/-- A mark is no blank. -/
theorem isBlank_of_isMark {c : Char} (h : isMark c = true) : isBlank c = false := by
  rw [isMark, Bool.or_eq_true, beq_iff_eq, beq_iff_eq] at h
  rcases h with rfl | rfl <;> decide

/-- What stands around a text that stays is removed. -/
theorem bareText_around (d : Dressing) {core : List Char} (h : Bare core) : bareText (d.around core).toList = core := by
  have hmarks : d.marks.dropWhile isBlank = d.marks := dropWhile_of_forall fun c hc =>
    isBlank_of_isMark (List.all_eq_true.mp d.isMark_marks c hc)
  have hfirst : (d.marks ++ core).dropWhile isBlank = d.marks ++ core := by
    rw [dropWhile_append_of_stop h.unblanked, hmarks]
  have hlast : (d.marks ++ core).reverse.dropWhile isBlank = (d.marks ++ core).reverse := by
    rw [List.reverse_append, List.dropWhile_append, h.unended, if_neg (by simpa using h.nonempty)]
  rw [bareText, Dressing.around, String.toList_ofList,
    trim_append (List.all_eq_true.mp d.isBlank_before) (List.all_eq_true.mp d.isBlank_after) hfirst hlast (by simp [h.nonempty])]
  show (d.marks ++ core).dropWhile isMark = core
  rw [List.dropWhile_append_of_pos (List.all_eq_true.mp d.isMark_marks), h.unmarked]

/-! ## Forms -/

/-- A character of an encoded form is neither a blank nor a mark, and no brace. -/
theorem of_mem_encode {style : Form.Style} {c : Char} (h : c ∈ (Form.encode style pairs).toList) :
    isBlank c = false ∧ isMark c = false ∧ c ≠ '\x7b' :=
  Form.of_mem_encode (p := fun c => isBlank c = false ∧ isMark c = false ∧ c ≠ '\x7b') (by decide) h

/-- A form with a field has an equals sign in it. -/
theorem equals_mem_encode (style : Form.Style) (hne : pairs ≠ []) : '=' ∈ (Form.encode style pairs).toList := by
  cases pairs with
  | nil => exact absurd rfl hne
  | cons p pairs =>
    have hfield : '=' ∈ Form.encodeField style p := List.mem_append_right _ List.mem_cons_self
    rw [Form.encode, String.toList_ofList]
    cases pairs with
    | nil => exact hfield
    | cons p' pairs => exact List.mem_append_left _ (List.mem_append_left _ hfield)

/-- A form with a field stays when what stands around it is removed. -/
theorem bare_encode (style : Form.Style) (hne : pairs ≠ []) : Bare (Form.encode style pairs).toList :=
  .of_forall (List.ne_nil_of_mem (equals_mem_encode style hne)) fun _ hc => ⟨(of_mem_encode hc).1, (of_mem_encode hc).2.1⟩

/-- Form decoding undoes form encoding: whatever stands around the encoded form of some fields, in either style and with whatever room,
the text is read as the fields are, and they are read as what they stand for. -/
theorem ofText_encode (style : Form.Style) (hne : pairs ≠ []) (d : Dressing) (room : Nat) :
    ofText (d.around (Form.encode style pairs).toList) room = .ok (ofForm pairs) ∧
    ofPairs (pairs.map fun p => (p.1, .str p.2)) = .ok (ofForm pairs) := by
  refine ⟨?_, ofPairs_texts pairs⟩
  have hequals := equals_mem_encode style hne
  have hobject : (Form.encode style pairs).toList.head? ≠ some '\x7b' := fun hhead =>
    (of_mem_encode (List.mem_of_mem_head? hhead)).2.2 rfl
  rw [ofText_of_field (bareText_around d (bare_encode style hne)) hobject (Or.inl hequals), String.ofList_toList,
    Form.decode_encode]

/-- What stands around a form that was copied with its number sign. -/
def copied : Dressing where
  before := ['\n', '\u00a0']
  marks := ['#', '?']
  after := [' ']
  isBlank_before := by decide
  isMark_marks := by decide
  isBlank_after := by decide

/-- The fields of a form with a name twice, an empty name, and values that look like the other formats. -/
def repeated : List (String × String) :=
  [("state", "here"), ("", "#?"), ("id_token", "a.b"), ("state", "\x7b\"code\": 1\x7d"), ("café", "a b"), ("", "=&")]

/-- A form with such fields is read as what they stand for. -/
theorem ofText_encode_repeated :
    repeated ≠ [] ∧
    copied.around (Form.encode .plus repeated).toList =
      "\n\u00a0#?state=here&=%23%3F&id_token=a.b&state=%7B%22code%22%3A+1%7D&caf%C3%A9=a+b&=%3D%26 " ∧
    ofText (copied.around (Form.encode .plus repeated).toList) =
      .ok { idToken := "a.b", state := some "\x7b\"code\": 1\x7d", extra := [("", .str "=&"), ("café", .str "a b")] } :=
  ⟨by decide, by decide +kernel, (ofText_encode .plus (by decide) copied _).1.trans (by decide +kernel)⟩

end OAuthClient.IdToken
