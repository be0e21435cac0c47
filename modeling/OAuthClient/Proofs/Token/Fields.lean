import OAuthClient.Proofs.Number.Binary64
import OAuthClient.Proofs.Number.Integer
import OAuthClient.Proofs.Text.Words
import OAuthClient.Proofs.Token.Reading

/-!
# The fields of a token that was read

A token that was read from an object has every member of the object, each in its place: a member with the name of a declared field in
that field, and all others, in order and as they are, among the fields without a place of their own. The lifetime is the whole number
that its member denotes, and the scopes are the list or the words that theirs has.
-/

namespace OAuthClient.Token

open OAuthClient.Text OAuthClient.Validation OAuthClient.Integer

variable {members : List (String × Json)} {t : Token}

/-! ## Lifetimes -/

/-- A value denotes a whole number. -/
inductive Denotes : Json → Int → Prop
  | int (n : Int) : Denotes (.int n) n
  | bool (b : Bool) : Denotes (.bool b) (if b then 1 else 0)
  | float {x : Binary64} {n : Int} (h : x.value? = some (n : ℚ)) : Denotes (.float x) n
  | text {s : String} {count : Nat} {n : Int} (h : Numeral s.toList count n) : Denotes (.str s) n
  /-- A text that is no sequence of characters, with the replacement character in the place of each half of a pair. -/
  | illFormed {codes : List Nat} {count : Nat} {n : Int} (h : Numeral (Json.textOf codes).toList count n) : Denotes (.illFormed codes) n

/-- A value denotes at most one whole number. -/
theorem Denotes.unique {v : Json} {n n' : Int} (h : Denotes v n) (h' : Denotes v n') : n = n' := by
  cases h with
  | int => cases h'; rfl
  | bool => cases h'; rfl
  | float h =>
    cases h' with
    | float h' => exact Int.cast_injective (Option.some.inj (h.symm.trans h'))
  | text h =>
    cases h' with
    | text h' => exact h.unique h'
  | illFormed h =>
    cases h' with
    | illFormed h' => exact h.unique h'

/-- A value stands for some scopes: nothing, a list of texts, or the words between spaces. -/
inductive ScopesOf : Json → List String → Prop
  | null : ScopesOf .null []
  | list (scopes : List String) : ScopesOf (.arr (scopes.map .str)) scopes
  | text {s : String} {words : List (List Char)} (h : HasWords (· == ' ') s.toList words) : ScopesOf (.str s) (words.map String.ofList)
  /-- Of a text that is no sequence of characters every word has to be one. -/
  | illFormed {codes : List Nat} {words : List (List Nat)} {scopes : List String} (h : HasWords (· == ' '.toNat) codes words)
      (hscopes : words.map Json.ofCodes = scopes.map .str) : ScopesOf (.illFormed codes) scopes

/-- The declared fields that are texts. -/
def textFields : List Field := [.accessToken, .tokenType] ++ optionalTexts

/-- A token has what the members of a response say. -/
structure Reflects (members : List (String × Json)) (t : Token) : Prop where
  /-- The members without a declared field are kept, as they are and in order. -/
  extra : t.extra = members.filter fun m => m.1 ∉ declaredNames
  /-- A declared text is that of its member, and the default where there is none. -/
  texts : ∀ f ∈ textFields, t.values f = (Json.find? f.name members).getD f.default
  /-- A declared text is a text, or null where it may be. -/
  kinds : ∀ f ∈ textFields, (∃ s, t.values f = .str s) ∨ f ∈ optionalTexts ∧ t.values f = .null
  /-- The scopes are those that their member stands for, and none where there is none. -/
  scopes : ∃ scopes, t.values .scope = .arr (scopes.map .str) ∧ ScopesOf ((Json.find? "scope" members).getD (.arr [])) scopes
  /-- The lifetime is the whole number that its member denotes. -/
  lifetime : ∃ v, Json.find? "expires_in" members = some v ∧ Denotes v t.expiresIn

/-- What issuing a token leaves as it was read. -/
theorem Reflects.issuedAt (h : Reflects members t) (now : Instant) : Reflects members (t.issuedAt now) :=
  ⟨h.extra, h.texts, h.kinds, h.scopes, h.lifetime⟩

end OAuthClient.Token
