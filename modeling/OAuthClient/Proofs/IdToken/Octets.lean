import OAuthClient.Proofs.IdToken.Reading
import OAuthClient.Proofs.Text.Utf8Octets

/-!
# Id tokens from octets

Octets that are UTF-8 are read as the text that they are, so they are an id token or are reported as malformed, unless they are an object
that is nested too deep. Octets that are not are refused before any of the formats is tried. These are faults of their own: they pass by
those who handle malformed answers.
-/

namespace OAuthClient.IdToken

open OAuthClient.Text

variable {room : Nat} {bs : List UInt8} {s : String}

/-- What comes of reading octets. -/
inductive ReadsOctets (room : Nat) (bs : List UInt8) : Except Fault IdToken → Prop
  /-- They are a text that carries an id token. -/
  | token (s : String) (hs : s.toUTF8 = bs.toByteArray) (t : IdToken) (h : ofText s room = .ok t) : ReadsOctets room bs (.ok t)
  /-- They are a text that is malformed. -/
  | malformed (s : String) (hs : s.toUTF8 = bs.toByteArray) (message : String) (cause : Option Cause)
      (h : ofText s room = .error (.failure (.malformed message cause))) :
      ReadsOctets room bs (.error (.failure (.malformed message cause)))
  /-- They are a text that is nested too deep. -/
  | tooDeep (s : String) (hs : s.toUTF8 = bs.toByteArray) (h : TooDeep s room) : ReadsOctets room bs (.error .tooDeep)
  /-- They are no text. -/
  | illFormed (h : ¬ bs.toByteArray.IsValidUTF8) : ReadsOctets room bs (.error .octets)

/-- Octets are read as documented when they give the id token that the text carries that they are, or when they are reported as
malformed. -/
def AsDocumented (room : Nat) (bs : List UInt8) : Prop :=
  (∃ (s : String) (t : IdToken), s.toUTF8 = bs.toByteArray ∧ ofSource (.text s) room = .ok t ∧ ofSource (.octets bs) room = .ok t) ∨
    ∃ message cause, ofSource (.octets bs) room = .error (.failure (.malformed message cause))

/-- The octets of a text are those of its characters. -/
theorem toUTF8_eq_iff : s.toUTF8 = bs.toByteArray ↔ bs = Utf8.encode s.toList := by
  have hencode : s.toUTF8 = (Utf8.encode s.toList).toByteArray := by
    rw [String.toUTF8_eq_toByteArray, ← String.utf8Encode_toList]
    rfl
  rw [hencode]
  constructor
  · intro h
    have hlists := congrArg (fun octets : ByteArray => octets.data.toList) h
    simpa using hlists.symm
  · rintro rfl
    rfl

/-- The octets of a text are read as the text. -/
theorem ofSource_octets_of_text (hs : s.toUTF8 = bs.toByteArray) (room : Nat) :
    ofSource (.octets bs) room = ofSource (.text s) room := by
  show ofOctets bs room = ofText s room
  rw [ofOctets, Utf8.decode_eq_ok_iff.mpr (toUTF8_eq_iff.mp hs)]
  dsimp only
  rw [String.ofList_toList]

/-- Octets that are no text are refused as such. -/
theorem ofSource_octets_of_not_valid (h : ¬ bs.toByteArray.IsValidUTF8) (room : Nat) :
    ofSource (.octets bs) room = .error .octets := by
  show ofOctets bs room = .error .octets
  cases hdecode : Utf8.decode bs with
  | error flaw => rw [ofOctets, hdecode]
  | ok cs => exact absurd (Utf8.isValidUTF8_iff.mpr ⟨cs, Utf8.decode_eq_ok_iff.mp hdecode⟩) h

/-- Octets that are UTF-8 are the octets of a text. -/
theorem exists_text_of_valid (h : bs.toByteArray.IsValidUTF8) : ∃ s : String, s.toUTF8 = bs.toByteArray :=
  ⟨⟨bs.toByteArray, h⟩, rfl⟩

/-- Reading octets. -/
theorem readsOctets (room : Nat) (bs : List UInt8) : ReadsOctets room bs (ofSource (.octets bs) room) := by
  by_cases h : bs.toByteArray.IsValidUTF8
  · obtain ⟨s, hs⟩ := exists_text_of_valid h
    rw [ofSource_octets_of_text hs]
    show ReadsOctets room bs (ofText s room)
    cases hread : ofText s room with
    | ok t => exact .token s hs t hread
    | error fault =>
      rcases malformed_or_tooDeep_of_ofText hread with ⟨message, cause, rfl⟩ | ⟨rfl, hdeep⟩
      · exact .malformed s hs message cause hread
      · exact .tooDeep s hs hdeep
  · rw [ofSource_octets_of_not_valid h]
    exact .illFormed h

/-- The octets of a text are read as documented exactly when it is not nested too deep. -/
theorem asDocumented_of_text_iff (hs : s.toUTF8 = bs.toByteArray) : AsDocumented room bs ↔ ¬ TooDeep s room := by
  have hread : ofSource (.octets bs) room = ofText s room := ofSource_octets_of_text hs room
  rw [AsDocumented, hread]
  constructor
  · intro hdocumented hdeep
    rw [ofText_of_tooDeep hdeep] at hdocumented
    rcases hdocumented with ⟨_, _, -, -, h⟩ | ⟨_, _, h⟩ <;> cases h
  · intro hdeep
    cases htext : ofText s room with
    | ok t => exact Or.inl ⟨s, t, hs, htext, rfl⟩
    | error fault =>
      rcases malformed_or_tooDeep_of_ofText htext with ⟨message, cause, rfl⟩ | ⟨-, h⟩
      · exact Or.inr ⟨message, cause, rfl⟩
      · exact absurd h hdeep

/-- Octets that are no text are not read as documented. -/
theorem not_asDocumented (h : ¬ bs.toByteArray.IsValidUTF8) : ¬ AsDocumented room bs := by
  rw [AsDocumented, ofSource_octets_of_not_valid h]
  rintro (⟨_, _, -, -, hread⟩ | ⟨_, _, hread⟩) <;> cases hread

/-- Octets are read as documented exactly when they are UTF-8 and not nested too deep. -/
theorem asDocumented_iff : AsDocumented room bs ↔ ∃ s : String, s.toUTF8 = bs.toByteArray ∧ ¬ TooDeep s room := by
  constructor
  · intro hdocumented
    have hvalid : bs.toByteArray.IsValidUTF8 := by
      by_contra h
      exact not_asDocumented h hdocumented
    obtain ⟨s, hs⟩ := exists_text_of_valid hvalid
    exact ⟨s, hs, (asDocumented_of_text_iff hs).mp hdocumented⟩
  · rintro ⟨s, hs, hdeep⟩
    exact (asDocumented_of_text_iff hs).mpr hdeep

/-- Octets are read as id tokens as they should be but for those that are no text and those that are nested too deep: octets of a text
are read as the text, so they give the id token that it carries or are reported as malformed, octets of an object that has more brackets
and braces than the stack has room for can end in that, and octets that are not UTF-8 are refused with a fault of their own. -/
theorem octets_read (room : Nat) (bs : List UInt8) :
    ReadsOctets room bs (ofSource (.octets bs) room) ∧
    (∀ s : String, s.toUTF8 = bs.toByteArray → ofSource (.octets bs) room = ofSource (.text s) room) ∧
    (AsDocumented room bs ↔ ∃ s : String, s.toUTF8 = bs.toByteArray ∧ ¬ TooDeep s room) ∧
    ((∃ s : String, s.toUTF8 = bs.toByteArray) ↔ bs.toByteArray.IsValidUTF8) ∧
    ∀ s, TooDeep s room → room < Json.openings (bareText s.toList) :=
  ⟨readsOctets room bs, fun _ hs => ofSource_octets_of_text hs room, asDocumented_iff,
    ⟨fun ⟨s, hs⟩ => hs ▸ s.isValidUTF8, exists_text_of_valid⟩, fun _ => TooDeep.lt_openings⟩

/-- Not all octets are read as documented. -/
theorem not_all_octets_are_as_documented : ¬ ∀ bs, AsDocumented Json.stackRoom bs := by
  intro hall
  have hflaw : Utf8.decode [0xff] = .error ⟨.start, 0, [0xff]⟩ := rfl
  refine not_asDocumented (fun hvalid => ?_) (hall [0xff])
  obtain ⟨cs, hcs⟩ := Utf8.isValidUTF8_iff.mp hvalid
  rw [Utf8.decode_eq_ok_iff.mpr hcs] at hflaw
  cases hflaw

end OAuthClient.IdToken
