import OAuthClient.Proofs.IdToken.Form
import OAuthClient.Proofs.Json.Grammar

/-!
# The formats of an id token agree

What a sign-in brings back may be written as a JSON object or as a form. Texts by name are read from both as the same id token, with
the other fields in the same order, in whatever way the object and the form are written.
-/

namespace OAuthClient.IdToken

open OAuthClient.Text

variable {pairs : List (String × String)} {json : List Char}

/-- Members end with the brace behind them. -/
theorem exists_brace_of_spells (h : Json.SpellsMembers pairs json) : ∃ cs, json = cs ++ ['\x7d'] := by
  induction h with
  | @last _ w g _ _ => exact ⟨w ++ g, (List.append_assoc w g _).symm⟩
  | @more _ _ w _ g g' _ _ _ _ ih =>
    obtain ⟨cs, rfl⟩ := ih
    exact ⟨w ++ (g ++ ',' :: (g' ++ cs)), by simp⟩

/-- An object of texts stays when what stands around it is removed. -/
theorem bare_of_spells (h : Json.SpellsObject pairs json) : Bare json := by
  cases h with
  | @mk g ws _ hms =>
    obtain ⟨cs, rfl⟩ := exists_brace_of_spells hms
    refine ⟨List.cons_ne_nil _ _, List.dropWhile_cons_of_neg (by decide), List.dropWhile_cons_of_neg (by decide), ?_⟩
    rw [← List.append_assoc, ← List.cons_append, List.reverse_append]
    exact List.dropWhile_cons_of_neg (by decide)

/-- An object of texts is read as what its members stand for, whatever stands around it, when there is room for a level. -/
theorem ofText_of_spells (h : Json.SpellsObject pairs json) (d : Dressing) (room : Nat) :
    ofText (d.around json) (room + 1) = .ok (ofForm pairs) := by
  have hobject : json.head? = some '\x7b' := by
    cases h
    rfl
  rw [ofText_of_brace (bareText_around d (bare_of_spells h)) hobject, ofJsonText, Json.read_of_spellsObject h room]
  dsimp only
  rw [ofValue, ← ofPairs, ofPairs_texts]

/-- The two formats of an id token agree: there is an object of the texts, and every one of them is read as the same id token as the
encoded form of its members, in whatever way both are written and whatever stands around them. The object needs room for a level, and the
form needs none. -/
theorem formats_agree (hne : pairs ≠ []) (style : Form.Style) (d d' : Dressing) (room room' : Nat) :
    Json.SpellsObject pairs (Json.writeChars (.obj (pairs.map fun p => (p.1, .str p.2)))) ∧
    ∀ json, Json.SpellsObject pairs json →
      ∃ t, ofText (d.around json) (room + 1) = .ok t ∧ ofText (d'.around (Form.encode style pairs).toList) room' = .ok t :=
  ⟨Json.spells_writeChars hne, fun _ h => ⟨ofForm pairs, ofText_of_spells h d room, (ofText_encode style hne d' room').1⟩⟩

/-- An empty name with an empty value, and a text beyond ASCII. -/
def accented : List (String × String) :=
  [("", ""), ("id_token", "é😀")]

/-- The same as an object, with blanks in it and with the text escaped. -/
def accentedObject : String :=
  "\x7b \"\" :\"\",\n\"id_token\": \"\\u00e9\\ud83d\\uDE00\" \x7d"

/-- The object is a way to write the texts. -/
theorem spells_accentedObject : Json.SpellsObject accented accentedObject.toList := by
  have haccent : Json.SpellsEscape 'é' ['u', '0', '0', 'e', '9'] := .code (by decide)
  have hsmile : Json.SpellsEscape '😀' ['u', 'd', '8', '3', 'd', '\\', 'u', 'D', 'E', '0', '0'] :=
    .pair (rfl : Json.codeUnit? 'd' '8' '3' 'd' = some 0xd83d) (rfl : Json.codeUnit? 'D' 'E' '0' '0' = some 0xde00) (by decide)
      (by decide) (by decide)
  have hvalue := Json.SpellsChars.cons (.escaped haccent) (.cons (.escaped hsmile) .nil)
  have hfirst : Json.SpellsMember ("", "") _ := .mk [' '] [] .nil (by decide) rfl .nil
  have hlast : Json.SpellsMember ("id_token", "é😀") _ := .mk [] [' '] (Json.spells_flatMap_writeChar _) rfl (by decide) hvalue
  exact .mk [' '] (by decide) (.more [] ['\n'] hfirst rfl (by decide) (.last [' '] hlast (by decide)))

/-- The object and the form of these texts are read as the same id token. -/
theorem formats_agree_accented :
    accented ≠ [] ∧ Json.SpellsObject accented accentedObject.toList ∧
    ∃ t, ofText (copied.around accentedObject.toList) = .ok t ∧
      ofText (copied.around (Form.encode .plus accented).toList) = .ok t :=
  ⟨by decide, spells_accentedObject, (formats_agree (by decide) .plus copied copied 989 _).2 _ spells_accentedObject⟩

end OAuthClient.IdToken
