import OAuthClient.Proofs.Json.Members
import OAuthClient.Proofs.Token.Reading

/-!
# What reading a response looks at

Of the members of a response the lifetime counts for the number that it is read as, the times count for what is wrong with them, and all
others count as they are. Two responses that agree in this much are read alike, whether they describe a token or not.
-/

namespace OAuthClient.Token

open OAuthClient.Validation

variable {members members' : List (String × Json)}

/-- The names of the times that a response may carry. -/
def timeNames : List String := ["timestamp", "expires_on"]

/-- The members of two responses agree in all that reading them looks at. -/
structure ReadAlike (members members' : List (String × Json)) : Prop where
  /-- The lifetimes are read alike. -/
  lifetime : readField "expires_in" members 0 readLifetime = readField "expires_in" members' 0 readLifetime
  /-- Both have a lifetime, or none has. -/
  hasLifetime : (Json.find? "expires_in" members).getD .null = .null ↔ (Json.find? "expires_in" members').getD .null = .null
  /-- The same is wrong with the times. -/
  times : ∀ name ∈ timeNames, momentIssues members name = momentIssues members' name
  /-- The other declared fields have the same values. -/
  fields : ∀ f : Field, Json.find? f.name members = Json.find? f.name members'
  /-- The members without a declared field are the same. -/
  extra : (members.filter fun m => !declaredNames.contains m.1) = members'.filter fun m => !declaredNames.contains m.1

namespace ReadAlike

/-- Responses that are read alike have the same values in the fields that hold whatever they were given. -/
theorem given_eq (h : ReadAlike members members') (f : Field) : given members f = given members' f := by
  rw [given, h.fields f, given]

/-- Responses that are read alike describe the same token, or the same is wrong with their fields. -/
theorem ofMembers_eq (h : ReadAlike members members') : ofMembers members = ofMembers members' := by
  have htexts : ∀ f required, textIssues members f required = textIssues members' f required := by
    intro f required
    rw [textIssues, h.given_eq, textIssues]
  have hext : readField "ext_expires_in" members none integerOrNull = readField "ext_expires_in" members' none integerOrNull := by
    have hfind : Json.find? "ext_expires_in" members = Json.find? "ext_expires_in" members' := h.fields .extExpiresIn
    rw [readField, hfind, readField]
  simp only [ofMembers, h.lifetime, hext, h.given_eq, htexts, h.times "timestamp" (by decide), h.times "expires_on" (by decide), h.extra]

/-- Responses that are read alike lack the same required fields. -/
theorem missingNames_eq (h : ReadAlike members members') : missingNames members = missingNames members' := by
  refine List.filter_congr fun name hname => ?_
  rw [decide_eq_decide]
  simp only [requiredNames, List.mem_cons, List.not_mem_nil, or_false] at hname
  rcases hname with rfl | rfl | rfl
  · exact iff_of_eq (congrArg (·.getD .null = .null) (h.fields .accessToken))
  · exact iff_of_eq (congrArg (·.getD .null = .null) (h.fields .tokenType))
  · exact h.hasLifetime

/-- Responses that are read alike give the same token, or the same fault. -/
theorem ofResponseMembers_eq (h : ReadAlike members members') (now : Instant) :
    ofResponseMembers now members = ofResponseMembers now members' := by
  rw [ofResponseMembers, h.missingNames_eq, h.ofMembers_eq, ofResponseMembers]

end ReadAlike

/-! ## Leaving members out -/

/-- The members of a response without those that have one of some names. -/
def without (names : List String) (members : List (String × Json)) : List (String × Json) :=
  members.filter fun m => !names.contains m.1

/-- What is left out is not found, and all else is found as it was. -/
theorem find?_without (names : List String) (name : String) (members : List (String × Json)) :
    Json.find? name (without names members) = if name ∈ names then none else Json.find? name members := by
  rw [without, Json.find?_filter (fun name => !names.contains name)]
  by_cases h : name ∈ names
  · rw [if_pos h, if_neg (by simpa using h)]
  · rw [if_neg h, if_pos (by simpa using h)]

section

variable {names : List String} {name : String} {f : Field}

/-- A field that is not left out is read as it was. -/
theorem readField_without {α : Type} (h : name ∉ names) (members : List (String × Json)) (default : α)
    (read : Json → Except Problem α) :
    readField name (without names members) default read = readField name members default read := by
  rw [readField, find?_without, if_neg h, readField]

/-- A time that is not left out has the issues that it had. -/
theorem momentIssues_without (h : name ∉ names) (members : List (String × Json)) :
    momentIssues (without names members) name = momentIssues members name := by
  rw [momentIssues, find?_without, if_neg h, momentIssues]

/-- A field that is not left out has the value that it had. -/
theorem given_without (h : f.name ∉ names) (members : List (String × Json)) : given (without names members) f = given members f := by
  rw [given, find?_without, if_neg h, given]

/-- A field that is not left out has the issues that it had. -/
theorem textIssues_without (h : f.name ∉ names) (members : List (String × Json)) (required : Bool) :
    textIssues (without names members) f required = textIssues members f required := by
  rw [textIssues, given_without h, textIssues]

/-- The same required fields are missing where none of them is left out. -/
theorem missingNames_without (h : ∀ name ∈ requiredNames, name ∉ names) (members : List (String × Json)) :
    missingNames (without names members) = missingNames members := by
  refine List.filter_congr fun name hname => ?_
  rw [find?_without, if_neg (h name hname)]

/-- The members without a declared field are the same where only declared fields are left out. -/
theorem extra_without (h : names ⊆ declaredNames) (members : List (String × Json)) :
    (without names members).filter (fun m => !declaredNames.contains m.1) = members.filter fun m => !declaredNames.contains m.1 := by
  rw [without, List.filter_filter]
  refine List.filter_congr fun m _ => ?_
  cases hname : names.contains m.1 with
  | false => simp
  | true => simpa using h (List.contains_iff_mem.mp hname)

end

end OAuthClient.Token
