import OAuthClient.Parameter
import OAuthClient.Text.Blank
import OAuthClient.Text.Template
import OAuthClient.Text.Word

/-!
# Redaction

Messages for a log lose the values of secret parameters: where the wire name of one begins a word and an equals sign follows, the
value behind it is replaced, up to the first character that cannot be part of a value. A message is a template with arguments,
and only a message in which something was replaced becomes a bare text.
-/

namespace OAuthClient.Log

open OAuthClient.Text

/-- Whether a character ends a value. -/
def endsValue (c : Char) : Bool :=
  c == '&' || c == ',' || c == ';' || isBlank c

/-- The secret at the start of a text: its wire name, and what follows its value. An empty value is none. -/
def secretAt? (cs : List Char) : Option (String × List Char) :=
  Parameter.secretWireNames.findSome? fun wireName =>
    match after? (wireName.toList ++ ['=']) cs with
    | some (c :: rest) => if endsValue c then none else some (wireName, rest.dropWhile (!endsValue ·))
    | _ => none

theorem length_le_of_after? {s cs rest : List Char} (h : after? s cs = some rest) : rest.length ≤ cs.length := by
  induction s generalizing cs with
  | nil => simp_all [after?]
  | cons a s ih =>
    cases cs with
    | nil => simp [after?] at h
    | cons c cs =>
      rw [after?] at h
      split at h
      · exact Nat.le_succ_of_le (ih h)
      · simp at h

/-- What follows a secret is shorter than the text that begins with it. -/
theorem length_lt_of_secretAt? {cs rest : List Char} {wireName : String} (h : secretAt? cs = some (wireName, rest)) :
    rest.length < cs.length := by
  obtain ⟨a, -, ha⟩ := List.exists_of_findSome?_eq_some h
  split at ha
  · next c tail heq =>
    have hle := length_le_of_after? heq
    have hdrop := (List.dropWhile_sublist (!endsValue ·) (l := tail)).length_le
    split at ha
    · simp at ha
    · obtain ⟨-, rfl⟩ := Prod.mk.inj (Option.some.inj ha)
      simp only [List.length_cons] at hle
      omega
  · simp at ha

/-- The secret at the start of a text behind a character that belongs to a word or does not. A wire name inside a word names
nothing. -/
def secretBehind? (afterWord : Bool) (cs : List Char) : Option (String × List Char) :=
  if afterWord then none else secretAt? cs

theorem length_lt_of_secretBehind? {afterWord : Bool} {cs rest : List Char} {wireName : String}
    (h : secretBehind? afterWord cs = some (wireName, rest)) : rest.length < cs.length := by
  unfold secretBehind? at h
  split at h
  · simp at h
  · exact length_lt_of_secretAt? h

/-- A text with the values of its secrets replaced. The flag tells whether the character before belongs to a word. -/
def redactFrom (afterWord : Bool) (cs : List Char) : List Char :=
  match cs with
  | [] => []
  | c :: rest =>
    match h : secretBehind? afterWord (c :: rest) with
    | some (wireName, tail) =>
      have : tail.length < (c :: rest).length := length_lt_of_secretBehind? h
      wireName.toList ++ '=' :: redactedPlaceholder.toList ++ redactFrom false tail
    | none => c :: redactFrom (isWordChar c) rest
termination_by cs.length
decreasing_by
  · exact this
  · exact Nat.lt_succ_self rest.length

/-- A text with the values of its secrets replaced. -/
def redact (s : String) : String :=
  String.ofList (redactFrom false s.toList)

/-- A message: a template with its arguments. -/
structure Message where
  template : String
  arguments : Template.Arguments

namespace Message

/-- The text of a message. -/
def text (m : Message) : Except Template.Flaw String :=
  Template.fill m.template m.arguments

/-- A message that is a bare text. -/
def ofText (s : String) : Message := ⟨s, .items []⟩

/-- A message with the values of its secrets replaced: the same message where there is nothing to replace, and the new text
otherwise. -/
def redacted (m : Message) : Except Template.Flaw Message := do
  let s ← m.text
  return if redact s = s then m else ofText (redact s)

end Message

end OAuthClient.Log
