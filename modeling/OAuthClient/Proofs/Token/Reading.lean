import OAuthClient.Proofs.Token.Lifetime

/-!
# Reading a token response

A response body is decoded, parsed, looked through for the fields that every response must carry, and checked field by field.
Whatever is wrong with it is reported as a malformed response. Only what comes behind these checks is not: the lifetime is counted
from the clock, and one that ends beyond the calendar passes by those who handle malformed responses. Nor is a body that cannot be
parsed because it is nested deeper than the stack has room for.
-/

namespace OAuthClient

open OAuthClient.Clock

namespace Token

variable {members : List (String × Json)} {t : Token} {fault : Fault}

/-! ## What a response says -/

/-- The members of an object have every field that a response must carry, and none of these is null. -/
def Complete (members : List (String × Json)) : Prop :=
  ∀ name ∈ requiredNames, ∃ v, Json.find? name members = some v ∧ v ≠ .null

/-- The members of an object describe a token: they are complete and each field can be read. -/
structure Describes (members : List (String × Json)) (t : Token) : Prop where
  complete : Complete members
  fields : ofMembers members = .ok t

/-- A fault is reported as a malformed response. -/
def IsMalformed (fault : Fault) : Prop :=
  ∃ message cause, fault = .failure (.malformed message cause)

/-- The members of the object that a response body holds, where it holds one and is not nested too deep. -/
def Source.members? (source : Source) (room : Nat) : Option (List (String × Json)) :=
  match source.read room with
  | .ok (.obj members) => some members
  | _ => none

/-- A response body is nested deeper than the stack has room for. -/
def Source.TooDeep (source : Source) (room : Nat) : Prop :=
  source.read room = .error .tooDeep

/-- The characters of a response body. There are none when it cannot be decoded. -/
def Source.chars : Source → List Char
  | .text s => s.toList
  | .octets bs =>
    match Text.decodeDetected bs with
    | .ok codes => codes.map Json.charOf
    | .error _ => []

/-- A value is there and not null exactly when it does not count as null. -/
theorem exists_ne_null_iff (value : Option Json) : (∃ v, value = some v ∧ v ≠ .null) ↔ value.getD .null ≠ .null := by
  cases value with
  | none => exact ⟨fun ⟨_, h, _⟩ => (by cases h), fun h => absurd rfl h⟩
  | some v => exact ⟨fun ⟨_, h, hne⟩ => (by cases h; exact hne), fun h => ⟨v, rfl, h⟩⟩

/-- Nothing is missing from the members of an object exactly when they are complete. -/
theorem missingNames_eq_nil_iff : missingNames members = [] ↔ Complete members := by
  unfold missingNames Complete
  rw [List.filter_eq_nil_iff]
  refine forall₂_congr fun name _ => ?_
  rw [decide_eq_true_eq, exists_ne_null_iff]

/-- The members of a response give a draft of a token exactly when they describe it. -/
theorem draftOfResponseMembers_eq_ok_iff : draftOfResponseMembers members = .ok t ↔ Describes members t := by
  unfold draftOfResponseMembers
  constructor
  · intro h
    split at h
    · next hmissing =>
      refine ⟨missingNames_eq_nil_iff.mp hmissing, ?_⟩
      cases hfields : ofMembers members with
      | ok t' =>
        rw [hfields] at h
        exact congrArg _ (Except.ok.inj h)
      | error issues =>
        rw [hfields] at h
        cases h
    · cases h
  · rintro ⟨hcomplete, hfields⟩
    rw [missingNames_eq_nil_iff.mpr hcomplete, hfields]
    rfl

/-- Members that give no draft of a token are reported as a malformed response. -/
theorem isMalformed_of_members (h : draftOfResponseMembers members = .error fault) : IsMalformed fault := by
  unfold draftOfResponseMembers at h
  split at h
  · cases hfields : ofMembers members with
    | ok t =>
      rw [hfields] at h
      cases h
    | error issues =>
      rw [hfields] at h
      cases h
      exact ⟨_, _, rfl⟩
  · cases h
    exact ⟨_, _, rfl⟩

/-- An object with a name that is no text is reported as a malformed response. -/
theorem isMalformed_illNamedFailure (members : List (List Nat × Json)) : IsMalformed (illNamedFailure members) := by
  unfold illNamedFailure
  split <;> exact ⟨_, _, rfl⟩

/-! ## What is too deep -/

/-- A flaw is one of the depth exactly when its source is called too deep for it. -/
theorem Source.Flaw.ofText_eq_tooDeep_iff {cs : List Char} {flaw : Json.Flaw} :
    Source.Flaw.ofText cs flaw = .tooDeep ↔ flaw.problem = .depth := by
  unfold Source.Flaw.ofText
  split
  · next hdepth => exact iff_of_true rfl hdepth
  · next hother => exact iff_of_false nofun hother

/-- What is read of a response body is what is read of its characters, where it can be decoded. -/
theorem Source.read_eq (source : Source) : (∃ message, ∀ room, source.read room = .error (.malformed message .encoding)) ∨
    ∃ halves, ∀ room, source.read room = (Json.readText halves room source.chars).mapError (Source.Flaw.ofText source.chars) := by
  cases source with
  | text s => exact Or.inr ⟨Json.noHalves, fun _ => rfl⟩
  | octets bs =>
    cases hdecode : Text.decodeDetected bs with
    | error flaw => exact Or.inl ⟨flaw.message, fun room => by rw [Source.read, hdecode]⟩
    | ok codes =>
      refine Or.inr ⟨Json.halvesOf codes, fun room => ?_⟩
      rw [Source.read, Source.chars, hdecode]
      rfl

/-- A response body that is too deep has more brackets and braces than there are levels. -/
theorem Source.TooDeep.lt_openings {source : Source} {room : Nat} (h : source.TooDeep room) : room < Json.openings source.chars := by
  rcases source.read_eq with ⟨message, hread⟩ | ⟨halves, hread⟩
  · rw [TooDeep, hread] at h
    cases h
  · rw [TooDeep, hread] at h
    cases hroom : Json.readText halves room source.chars with
    | ok v =>
      rw [hroom] at h
      cases h
    | error flaw =>
      rw [hroom] at h
      exact Json.lt_openings_of_readText hroom (Source.Flaw.ofText_eq_tooDeep_iff.mp (Except.error.inj h))

/-- Where the stack has room enough for a response body, more room makes no difference. -/
theorem Source.read_of_le {source : Source} {room room' : Nat} (hle : room ≤ room') (h : ¬ source.TooDeep room) :
    source.read room' = source.read room := by
  rcases source.read_eq with ⟨message, hread⟩ | ⟨halves, hread⟩
  · rw [hread, hread]
  · have hshallow : ∀ flaw, Json.readText halves room source.chars = .error flaw → flaw.problem ≠ .depth := by
      intro flaw hroom hdepth
      refine h ((hread room).trans ?_)
      rw [hroom]
      exact congrArg Except.error (Source.Flaw.ofText_eq_tooDeep_iff.mpr hdepth)
    rw [hread, hread, Json.readText_of_le hle hshallow]

/-! ## What comes of reading it -/

/-- What comes of reading a response at an instant, given the members of the object that it holds, where it holds one. -/
inductive Reads (now : Instant) (payload : Option (List (String × Json))) : Except Fault Token → Prop
  /-- The members describe a token whose lifetime ends inside the calendar, and it is issued now. -/
  | issued (members : List (String × Json)) (draft : Token) (hpayload : payload = some members) (h : Describes members draft)
      (hin : InCalendar (now + draft.expiresIn * perSecond)) : Reads now payload (.ok (draft.issuedAt now))
  /-- The members describe a token whose lifetime ends beyond the calendar. -/
  | beyond (members : List (String × Json)) (draft : Token) (hpayload : payload = some members) (h : Describes members draft)
      (hout : ¬ InCalendar (now + draft.expiresIn * perSecond)) : Reads now payload (.error .beyondCalendar)
  /-- There are no members that describe a token, which is reported as a malformed response. -/
  | malformed (fault : Fault) (h : ∀ members draft, payload = some members → ¬ Describes members draft)
      (hfault : IsMalformed fault) : Reads now payload (.error fault)

/-- Reading the members of a response. -/
theorem reads_members (now : Instant) (members : List (String × Json)) :
    Reads now (some members) (ofResponseMembers now members) := by
  rw [ofResponseMembers_eq]
  cases hdraft : draftOfResponseMembers members with
  | error fault =>
    refine .malformed fault ?_ (isMalformed_of_members hdraft)
    intro _ draft hpayload hdescribes
    cases hpayload
    rw [draftOfResponseMembers_eq_ok_iff.mpr hdescribes] at hdraft
    cases hdraft
  | ok draft =>
    have hdescribes := draftOfResponseMembers_eq_ok_iff.mp hdraft
    show Reads now (some members) (issue now draft)
    rw [issue_eq]
    split
    · next hin => exact .issued members draft rfl hdescribes hin
    · next hout => exact .beyond members draft rfl hdescribes hout

/-- A response body that holds an object is read as its members are. -/
theorem ofSource_of_members? {source : Source} {room : Nat} (h : source.members? room = some members) (now : Instant) :
    ofSource now source room = ofResponseMembers now members := by
  unfold Source.members? at h
  unfold ofSource
  split at h
  · next hread =>
    cases h
    rw [hread]
  · cases h

/-- A response body that is too deep is said to be. -/
theorem ofSource_of_tooDeep {source : Source} {room : Nat} (h : source.TooDeep room) (now : Instant) :
    ofSource now source room = .error .tooDeep := by
  rw [ofSource, h]

/-- A response body that is not too deep and holds no object is reported as a malformed response. -/
theorem isMalformed_of_source {source : Source} {room : Nat} (hdeep : ¬ source.TooDeep room) (h : source.members? room = none)
    (now : Instant) : ∃ fault, ofSource now source room = .error fault ∧ IsMalformed fault := by
  unfold Source.TooDeep at hdeep
  unfold Source.members? at h
  unfold ofSource
  generalize source.read room = read at hdeep h ⊢
  rcases read with (⟨message, cause⟩ | _) | v
  · exact ⟨_, rfl, _, _, rfl⟩
  · exact absurd rfl hdeep
  · cases v with
    | obj members => cases h
    | illNamed members => exact ⟨_, rfl, isMalformed_illNamedFailure members⟩
    | _ => exact ⟨_, rfl, _, _, rfl⟩

/-- Where the stack has room enough for a response body, more room makes no difference. -/
theorem ofSource_of_le {source : Source} {room room' : Nat} (hle : room ≤ room') (h : ¬ source.TooDeep room) (now : Instant) :
    ofSource now source room' = ofSource now source room := by
  rw [ofSource, Source.read_of_le hle h, ofSource]

/-- What comes of reading a response body: it is too deep and said to be, or it is read as its members are. -/
inductive ReadsSource (now : Instant) (room : Nat) (source : Source) : Except Fault Token → Prop
  | tooDeep (h : source.TooDeep room) : ReadsSource now room source (.error .tooDeep)
  | members {result : Except Fault Token} (h : ¬ source.TooDeep room) (hreads : Reads now (source.members? room) result) :
      ReadsSource now room source result

/-- Reading a response body. -/
theorem reads_source (now : Instant) (room : Nat) (source : Source) : ReadsSource now room source (ofSource now source room) := by
  by_cases hdeep : source.TooDeep room
  · rw [ofSource_of_tooDeep hdeep]
    exact .tooDeep hdeep
  · refine .members hdeep ?_
    cases h : source.members? room with
    | some members =>
      rw [ofSource_of_members? h]
      exact reads_members now members
    | none =>
      obtain ⟨fault, hread, hfault⟩ := isMalformed_of_source hdeep h now
      rw [hread]
      exact .malformed fault nofun hfault

/-- Token responses are read as they should be but for the end of the calendar, whether they are given as a text, as octets or as an
object: a token is returned exactly for complete and well-formed fields whose lifetime ends inside the calendar, a lifetime that ends
beyond it is a fault of its own, and all else is reported as a malformed response. This holds of every body that is not nested deeper
than the stack has room for, so of every body with no more brackets and braces than there are levels, and then more room makes no
difference. -/
theorem responses_read (now : Instant) :
    (∀ room source, ReadsSource now room source (ofSource now source room)) ∧
    (∀ members, Reads now (some members) (ofJson now (.obj members))) ∧
    (∀ room (source : Source), source.TooDeep room → room < Json.openings source.chars) ∧
    ∀ room room' (source : Source), room ≤ room' → ¬ source.TooDeep room → ofSource now source room' = ofSource now source room :=
  ⟨reads_source now, reads_members now, fun _ _ => Source.TooDeep.lt_openings, fun _ _ _ hle h => ofSource_of_le hle h now⟩

/-- The members of a response whose lifetime is a million million seconds. -/
def overlong : List (String × Json) :=
  [("access_token", .str "a"), ("token_type", .str "Bearer"), ("expires_in", .int 1000000000000)]

/-- The same response as a text. -/
def overlongText : Source :=
  .text "\x7b\"access_token\":\"a\",\"token_type\":\"Bearer\",\"expires_in\":1000000000000\x7d"

/-- Not everything that keeps a token from being read is reported as a malformed response, be it given as a text or as an object. -/
theorem not_every_response_is_malformed :
    (¬ ∀ (now : Instant) (source : Source) (fault : Fault), ¬ source.TooDeep Json.stackRoom →
      ofSource now source Json.stackRoom = .error fault → IsMalformed fault) ∧
    ¬ ∀ (now : Instant) (members : List (String × Json)) (fault : Fault),
      ofJson now (.obj members) = .error fault → IsMalformed fault := by
  have hdeep : ¬ overlongText.TooDeep Json.stackRoom := fun h => absurd h.lt_openings (by decide +kernel)
  have hmembers : overlongText.members? Json.stackRoom = some overlong := by decide +kernel
  have hfault : ofResponseMembers 0 overlong = .error .beyondCalendar := rfl
  constructor
  · intro hall
    obtain ⟨message, cause, h⟩ := hall 0 overlongText .beyondCalendar hdeep ((ofSource_of_members? hmembers 0).trans hfault)
    cases h
  · intro hall
    obtain ⟨message, cause, h⟩ := hall 0 overlong .beyondCalendar hfault
    cases h

end Token

end OAuthClient
