import OAuthClient.Proofs.Json.Grammar
import OAuthClient.Proofs.Text.Encoding
import OAuthClient.Proofs.Token.Reading

/-!
# Bodies that hold an object

A text that writes an object in JSON, or its octets in UTF-8, is read as the object, of which every name keeps its last value.
-/

namespace OAuthClient.Token

open OAuthClient.Text

variable {room : Nat} {members : List (String × Json)} {w gap : List Char}

/-- The ways to hold an object for which the stack has room: as a text that writes it with blanks around it, or as the octets of such a
text. -/
inductive Source.Writes (room : Nat) (members : List (String × Json)) : Source → Prop
  | text {w gap gap' : List Char} (h : Json.WritesObject room members w) (hgap : Json.Gap gap) (hgap' : Json.Gap gap') :
      Writes room members (.text (String.ofList (gap ++ (w ++ gap'))))
  | octets {w gap gap' : List Char} (h : Json.WritesObject room members w) (hgap : Json.Gap gap) (hgap' : Json.Gap gap') :
      Writes room members (.octets (Utf8.encode (gap ++ (w ++ gap'))))

/-- Blanks can stand before a name of an object. -/
theorem mem_opening_of_gap (hgap : Json.Gap gap) : ∀ c ∈ gap, c ∈ opening := by
  intro c hc
  rcases Json.isGap_iff.mp (List.all_eq_true.mp hgap c hc) with rfl | rfl | rfl | rfl <;> decide

/-- A text that writes an object begins with two characters that can stand before a name: blanks, the brace and the quote behind it. -/
theorem exists_opening_of_writesObject (h : Json.WritesObject room members w) (hgap : Json.Gap gap) (gap' : List Char) :
    ∃ c d rest, gap ++ (w ++ gap') = c :: d :: rest ∧ c ∈ opening ∧ d ∈ opening := by
  cases h with
  | @mk _ _ ws inner hinner hms =>
    obtain ⟨rest, rfl⟩ := Json.exists_quote_of_writes hms
    have hprefix : ∀ c ∈ gap ++ '\x7b' :: (inner ++ ['"']), c ∈ opening := by
      simp only [List.forall_mem_append, List.forall_mem_cons]
      exact ⟨mem_opening_of_gap hgap, by decide, mem_opening_of_gap hinner, by decide, nofun⟩
    have htext : gap ++ ('\x7b' :: (inner ++ '"' :: rest) ++ gap') = (gap ++ '\x7b' :: (inner ++ ['"'])) ++ (rest ++ gap') := by
      simp
    have hlength : 2 ≤ (gap ++ '\x7b' :: (inner ++ ['"'])).length := by
      simp only [List.length_append, List.length_cons, List.length_nil]
      omega
    rw [htext]
    generalize gap ++ '\x7b' :: (inner ++ ['"']) = start at hprefix hlength
    match start, hlength with
    | c :: d :: start, _ => exact ⟨c, d, _, rfl, hprefix c (by simp), hprefix d (by simp)⟩

/-- Octets of a text that begins like one are too deep exactly when the text is. -/
theorem Source.tooDeep_octets_iff {c d : Char} (hc : c ∈ opening) (hd : d ∈ opening) (cs : List Char) :
    (Source.octets (Utf8.encode (c :: d :: cs))).TooDeep room ↔ Json.TooDeep (c :: d :: cs) room := by
  rw [TooDeep, Source.read, decodeDetected_encode hc hd]
  dsimp only
  rw [Json.readCodes_map_toNat, Json.TooDeep]
  constructor
  · intro h
    cases hread : Json.read (c :: d :: cs) room with
    | ok v =>
      rw [hread] at h
      cases h
    | error flaw =>
      rw [hread] at h
      have hdepth : flaw.problem = .depth := Source.Flaw.ofText_eq_tooDeep_iff.mp (Except.error.inj h)
      exact ⟨flaw.rest, by rw [← hdepth]⟩
  · rintro ⟨place, hread⟩
    rw [hread]
    rfl

/-- Octets of more brackets than there are levels are too deep. -/
theorem Source.tooDeep_octets_replicate {n : Nat} (h : room < n + 2) :
    (Source.octets (Utf8.encode (List.replicate (n + 2) '['))).TooDeep room :=
  (tooDeep_octets_iff (by decide) (by decide) (List.replicate n '[')).mpr (Json.tooDeep_replicate h)

/-- What holds an object is read as the object. -/
theorem Source.Writes.read_eq {source : Source} (h : source.Writes room members) :
    source.read room = .ok (.obj (Json.collect members)) := by
  cases h with
  | text h hgap hgap' =>
    rw [Source.read, String.toList_ofList, Json.read_of_writesObject h hgap hgap']
    rfl
  | @octets w gap gap' h hgap hgap' =>
    obtain ⟨c, d, rest, htext, hc, hd⟩ := exists_opening_of_writesObject h hgap gap'
    have hread := Json.read_of_writesObject h hgap hgap'
    rw [htext] at hread ⊢
    rw [Source.read, decodeDetected_encode hc hd]
    dsimp only
    rw [Json.readCodes_map_toNat, hread]
    rfl

/-- The members of what holds an object. -/
theorem Source.Writes.members?_eq {source : Source} (h : source.Writes room members) :
    source.members? room = some (Json.collect members) := by
  rw [Source.members?, h.read_eq]

end OAuthClient.Token
