import Mathlib.Data.List.Forall2
import OAuthClient.Proofs.Json.Number
import OAuthClient.Proofs.Token.Body
import OAuthClient.Proofs.Token.Payload

/-!
# Lifetimes in texts

A lifetime that is given as a decimal text, with blanks around it or a plus sign in front, is the same as the number: a response with the
one gives what the response with the other gives, as an object and as a JSON text, and so does setting it.
-/

namespace OAuthClient.Token

open OAuthClient.Text OAuthClient.Validation OAuthClient.Integer

/-! ## Responses that differ in their lifetimes -/

/-- Two lifetimes are read alike, and both are there or none is. -/
structure LifetimeAlike (v v' : Json) : Prop where
  read : readLifetime v = readLifetime v'
  null : v = .null ↔ v' = .null

/-- Two members are the same, or they are lifetimes that are read alike. -/
structure MemberAlike (m m' : String × Json) : Prop where
  name : m.1 = m'.1
  value : m.2 = m'.2 ∨ m.1 = "expires_in" ∧ LifetimeAlike m.2 m'.2

/-- A member is like itself. -/
theorem MemberAlike.refl (m : String × Json) : MemberAlike m m := ⟨rfl, Or.inl rfl⟩

section

variable {members members' : List (String × Json)} {m m' : String × Json}

/-- Writing members that are alike into members that are alike keeps them alike. -/
theorem memberAlike_put (hm : MemberAlike m m') (h : List.Forall₂ MemberAlike members members') :
    List.Forall₂ MemberAlike (Json.put m.1 m.2 members) (Json.put m'.1 m'.2 members') := by
  induction h with
  | nil => exact .cons hm .nil
  | @cons o o' members members' ho hrest ih =>
    rw [Json.put, Json.put, ← hm.name, ← ho.name]
    split
    · exact .cons ⟨rfl, hm.value⟩ hrest
    · exact .cons ⟨rfl, ho.value⟩ (hm.name ▸ ih)

/-- Pairs that are alike leave members that are alike. -/
theorem memberAlike_collect {pairs pairs' : List (String × Json)} (h : List.Forall₂ MemberAlike pairs pairs') :
    List.Forall₂ MemberAlike (Json.collect pairs) (Json.collect pairs') := by
  have hfold : ∀ members members', List.Forall₂ MemberAlike members members' →
      List.Forall₂ MemberAlike (pairs.foldl (fun members p => Json.put p.1 p.2 members) members)
        (pairs'.foldl (fun members p => Json.put p.1 p.2 members) members') := by
    induction h with
    | nil => exact fun _ _ hmembers => hmembers
    | cons hm _ ih => exact fun _ _ hmembers => ih _ _ (memberAlike_put hm hmembers)
  exact hfold [] [] .nil

/-- Under a name members that are alike have the same, unless it is the lifetime: then they have lifetimes that are read alike. -/
theorem find?_of_memberAlike (h : List.Forall₂ MemberAlike members members') (name : String) :
    Json.find? name members = Json.find? name members' ∨
      name = "expires_in" ∧ ∃ v v', Json.find? name members = some v ∧ Json.find? name members' = some v' ∧ LifetimeAlike v v' := by
  induction h with
  | nil => exact Or.inl rfl
  | @cons m m' members members' hm _ ih =>
    rw [Json.find?, Json.find?, ← hm.name]
    split
    · next hname =>
      rcases hm.value with hvalue | ⟨hlifetime, halike⟩
      · exact Or.inl (congrArg some hvalue)
      · exact Or.inr ⟨hname.symm.trans hlifetime, _, _, rfl, rfl, halike⟩
    · exact ih

/-- Members that are alike have the same members without a declared field. -/
theorem extra_of_memberAlike (h : List.Forall₂ MemberAlike members members') :
    (members.filter fun m => !declaredNames.contains m.1) = members'.filter fun m => !declaredNames.contains m.1 := by
  induction h with
  | nil => rfl
  | @cons m m' members members' hm _ ih =>
    rw [List.filter_cons, List.filter_cons, ← hm.name, ih]
    rcases hm.value with hvalue | ⟨hlifetime, -⟩
    · rw [Prod.ext hm.name hvalue]
    · have hdeclared : declaredNames.contains m.1 = true := by
        rw [hlifetime]
        decide
      simp only [hdeclared, Bool.not_true, Bool.false_eq_true, if_false]

/-- Responses whose members are alike are read alike. -/
theorem readAlike_of_memberAlike (h : List.Forall₂ MemberAlike members members') : ReadAlike members members' := by
  have hother : ∀ name, name ≠ "expires_in" → Json.find? name members = Json.find? name members' := fun name hname =>
    (find?_of_memberAlike h name).resolve_right fun hlifetime => hname hlifetime.1
  refine ⟨?_, ?_, ?_, ?_, extra_of_memberAlike h⟩
  · rcases find?_of_memberAlike h "expires_in" with hsame | ⟨-, v, v', hv, hv', halike⟩
    · rw [readField, hsame, readField]
    · rw [readField, hv, readField, hv']
      dsimp only
      rw [halike.read]
  · rcases find?_of_memberAlike h "expires_in" with hsame | ⟨-, v, v', hv, hv', halike⟩
    · rw [hsame]
    · rw [hv, hv']
      exact halike.null
  · intro name hname
    have hne : name ≠ "expires_in" := by
      rintro rfl
      exact absurd hname (by decide)
    rw [momentIssues, hother name hne, momentIssues]
  · intro f
    exact hother f.name (by cases f <;> decide)

end

/-! ## Texts and numbers -/

section

variable {n : Int} {s : String}

/-- The decimal text of a whole number is the lifetime that the number is, in a response and for a setter. -/
theorem lifetime_of_decimalText (h : DecimalText n s.toList) (hcount : digitCount n ≤ digitLimit) :
    readLifetime (.str s) = .ok n ∧ lifetimeOf (.str s) = .ok n := by
  have hread := h.read_trim hcount
  constructor
  · rw [readLifetime, readLifetime.ofText, hread]
    rfl
  · rw [lifetimeOf, lifetimeOf.ofText, hread]

/-- A response with the text has members like one with the number. -/
theorem memberAlike_of_decimalText (h : DecimalText n s.toList) (hcount : digitCount n ≤ digitLimit) :
    MemberAlike ("expires_in", .str s) ("expires_in", .int n) :=
  ⟨rfl, Or.inr ⟨rfl, (lifetime_of_decimalText h hcount).1, iff_of_false nofun nofun⟩⟩

/-- A lifetime as the decimal text of a whole number within the digit limit, with blanks around it or a plus sign in front of a number
that is not negative, is the same as the number, in four parts. The results are the same tokens or the same faults.
1. An object with the one gives what it gives with the other.
2. So does every JSON text, or its octets, that is read as the object.
3. This holds for all ways to hold an object in which the one stands where the other does. The decimal text of the number is a way to
write the number, and every way to write the characters of the text in quotes is one to write the text.
4. Setting the one does what setting the other does, to every token. -/
theorem text_lifetime_is_number (h : DecimalText n s.toList) (hcount : digitCount n ≤ digitLimit) :
    (∀ now members, ofJson now (.obj (Json.put "expires_in" (.str s) members)) =
      ofJson now (.obj (Json.put "expires_in" (.int n) members))) ∧
    (∀ now room (source source' : Source) members, source.members? room = some (Json.put "expires_in" (.str s) members) →
      source'.members? room = some (Json.put "expires_in" (.int n) members) → ofSource now source room = ofSource now source' room) ∧
    (∀ room,
      (∀ now (source source' : Source) before after, source.Writes room (before ++ ("expires_in", .str s) :: after) →
        source'.Writes room (before ++ ("expires_in", .int n) :: after) → ofSource now source room = ofSource now source' room) ∧
      Json.Writes room (.int n) (toString n).toList ∧
      ∀ w, Json.SpellsChars s.toList w → Json.Writes room (.str s) ('"' :: (w ++ ['"']))) ∧
    ∀ now t, setLifetime now (.str s) t = setLifetime now (.int n) t := by
  have hmember := memberAlike_of_decimalText h hcount
  have hmembers : ∀ now members, ofResponseMembers now (Json.put "expires_in" (.str s) members) =
      ofResponseMembers now (Json.put "expires_in" (.int n) members) := by
    intro now members
    have hsame : List.Forall₂ MemberAlike members members := List.forall₂_same.mpr fun m _ => .refl m
    exact (readAlike_of_memberAlike (memberAlike_put hmember hsame)).ofResponseMembers_eq now
  refine ⟨hmembers, ?_, fun room => ⟨?_, Json.writes_of_int hcount, fun w => Json.writes_of_quoted⟩, ?_⟩
  · intro now room source source' members hsource hsource'
    rw [ofSource_of_members? hsource, ofSource_of_members? hsource', hmembers]
  · intro now source source' before after hsource hsource'
    have hpairs : List.Forall₂ MemberAlike (before ++ ("expires_in", .str s) :: after) (before ++ ("expires_in", .int n) :: after) :=
      List.rel_append (List.forall₂_same.mpr fun m _ => .refl m) (.cons hmember (List.forall₂_same.mpr fun m _ => .refl m))
    rw [ofSource_of_members? hsource.members?_eq, ofSource_of_members? hsource'.members?_eq]
    exact (readAlike_of_memberAlike (memberAlike_collect hpairs)).ofResponseMembers_eq now
  · intro now t
    rw [setLifetime_of_ok (lifetime_of_decimalText h hcount).2, setLifetime_of_ok (v := .int n) rfl]

end

/-- A response without its lifetime. -/
def unlived : List (String × Json) :=
  [("access_token", .str "a"), ("token_type", .str "Bearer")]

/-- The same response as a JSON text with a lifetime. -/
def livedText (lifetime : String) : Source :=
  .text ("\x7b\"access_token\":\"a\",\"token_type\":\"Bearer\",\"expires_in\":" ++ lifetime ++ "\x7d")

set_option maxRecDepth 10000 in
/-- An hour in a text, with a plus sign and blanks, is an hour: in an object, in a JSON text and for a setter. -/
theorem text_lifetime_is_number_hour :
    (ofJson 7 (.obj (Json.put "expires_in" (.str " +3600\n") unlived))).isOk = true ∧
      ofJson 7 (.obj (Json.put "expires_in" (.str " +3600\n") unlived)) = ofJson 7 (.obj (Json.put "expires_in" (.int 3600) unlived)) ∧
      ofSource 7 (livedText "\" +3600\\n\"") Json.stackRoom = ofSource 7 (livedText "3600") Json.stackRoom ∧
      ∀ t, setLifetime 7 (.str " +3600\n") t = setLifetime 7 (.int 3600) t := by
  have hblanks : (∀ c ∈ [' '], isBlank c = true) ∧ ∀ c ∈ ['\n'], isBlank c = true :=
    ⟨List.forall_mem_singleton.mpr (by decide), List.forall_mem_singleton.mpr (by decide)⟩
  have hlist : " +3600\n".toList = [' '] ++ ('+' :: ((toString (3600 : Int)).toList ++ ['\n'])) := by decide +kernel
  have htext : DecimalText 3600 " +3600\n".toList := by
    rw [hlist]
    exact .plus (by decide) hblanks.1 hblanks.2
  obtain ⟨hobject, hsource, -, hset⟩ := text_lifetime_is_number htext (by decide +kernel)
  refine ⟨by decide +kernel, hobject 7 unlived, ?_, hset 7⟩
  exact hsource 7 Json.stackRoom _ _ unlived (by decide +kernel) (by decide +kernel)

end OAuthClient.Token
