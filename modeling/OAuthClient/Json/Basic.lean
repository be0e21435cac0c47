import OAuthClient.Number.Binary64

/-!
# JSON values

The values of a JSON text, with whole numbers and double precision numbers apart and the members of an object in order. Writing
a member that is there already gives it the new value at its old place.

A JSON text can escape half of a surrogate pair. A text with such a half is no sequence of characters, so it is a value of its own
kind, and so is an object with such a name.
-/

namespace OAuthClient

/-- A JSON value. -/
inductive Json where
  | null
  | bool (b : Bool)
  | int (n : Int)
  | float (x : Binary64)
  | str (s : String)
  /-- A text that is no sequence of characters, as its code points: some of them are halves of surrogate pairs. -/
  | illFormed (codes : List Nat)
  | arr (items : List Json)
  | obj (members : List (String × Json))
  /-- An object in which some name is no sequence of characters, with its names as code points. -/
  | illNamed (members : List (List Nat × Json))
  deriving Repr, Inhabited

namespace Json

mutual

/-- Equality of values is decidable. -/
def decEq : (a b : Json) → Decidable (a = b)
  | .null, .null => isTrue rfl
  | .bool a, .bool b => decidable_of_iff (a = b) (by simp)
  | .int a, .int b => decidable_of_iff (a = b) (by simp)
  | .float a, .float b => decidable_of_iff (a = b) (by simp)
  | .str a, .str b => decidable_of_iff (a = b) (by simp)
  | .illFormed a, .illFormed b => decidable_of_iff (a = b) (by simp)
  | .arr a, .arr b => @decidable_of_iff _ (a = b) (by simp) (decEqItems a b)
  | .obj a, .obj b => @decidable_of_iff _ (a = b) (by simp) (decEqMembers a b)
  | .illNamed a, .illNamed b => @decidable_of_iff _ (a = b) (by simp) (decEqNamed a b)
  | .null, .bool _ | .null, .int _ | .null, .float _ | .null, .str _ | .null, .illFormed _ | .null, .arr _ | .null, .obj _
  | .null, .illNamed _
  | .bool _, .null | .bool _, .int _ | .bool _, .float _ | .bool _, .str _ | .bool _, .illFormed _ | .bool _, .arr _
  | .bool _, .obj _ | .bool _, .illNamed _
  | .int _, .null | .int _, .bool _ | .int _, .float _ | .int _, .str _ | .int _, .illFormed _ | .int _, .arr _
  | .int _, .obj _ | .int _, .illNamed _
  | .float _, .null | .float _, .bool _ | .float _, .int _ | .float _, .str _ | .float _, .illFormed _ | .float _, .arr _
  | .float _, .obj _ | .float _, .illNamed _
  | .str _, .null | .str _, .bool _ | .str _, .int _ | .str _, .float _ | .str _, .illFormed _ | .str _, .arr _
  | .str _, .obj _ | .str _, .illNamed _
  | .illFormed _, .null | .illFormed _, .bool _ | .illFormed _, .int _ | .illFormed _, .float _ | .illFormed _, .str _
  | .illFormed _, .arr _ | .illFormed _, .obj _ | .illFormed _, .illNamed _
  | .arr _, .null | .arr _, .bool _ | .arr _, .int _ | .arr _, .float _ | .arr _, .str _ | .arr _, .illFormed _
  | .arr _, .obj _ | .arr _, .illNamed _
  | .obj _, .null | .obj _, .bool _ | .obj _, .int _ | .obj _, .float _ | .obj _, .str _ | .obj _, .illFormed _
  | .obj _, .arr _ | .obj _, .illNamed _
  | .illNamed _, .null | .illNamed _, .bool _ | .illNamed _, .int _ | .illNamed _, .float _ | .illNamed _, .str _
  | .illNamed _, .illFormed _ | .illNamed _, .arr _ | .illNamed _, .obj _ =>
    isFalse nofun
termination_by structural a => a

/-- Equality of the items of arrays is decidable. -/
def decEqItems : (a b : List Json) → Decidable (a = b)
  | [], [] => isTrue rfl
  | [], _ :: _ | _ :: _, [] => isFalse nofun
  | x :: xs, y :: ys =>
    match decEq x y with
    | isFalse h => isFalse fun e => h (List.cons.inj e).1
    | isTrue h =>
      match decEqItems xs ys with
      | isFalse h' => isFalse fun e => h' (List.cons.inj e).2
      | isTrue h' => isTrue (h ▸ h' ▸ rfl)
termination_by structural a => a

/-- Equality of the members of objects with names as code points is decidable. -/
def decEqNamed : (a b : List (List Nat × Json)) → Decidable (a = b)
  | [], [] => isTrue rfl
  | [], _ :: _ | _ :: _, [] => isFalse nofun
  | (k, x) :: xs, (l, y) :: ys =>
    if hk : k = l then
      match decEq x y with
      | isFalse h => isFalse fun e => h (Prod.mk.inj (List.cons.inj e).1).2
      | isTrue h =>
        match decEqNamed xs ys with
        | isFalse h' => isFalse fun e => h' (List.cons.inj e).2
        | isTrue h' => isTrue (hk ▸ h ▸ h' ▸ rfl)
    else isFalse fun e => hk (Prod.mk.inj (List.cons.inj e).1).1
termination_by structural a => a

/-- Equality of the members of objects is decidable. -/
def decEqMembers : (a b : List (String × Json)) → Decidable (a = b)
  | [], [] => isTrue rfl
  | [], _ :: _ | _ :: _, [] => isFalse nofun
  | (k, x) :: xs, (l, y) :: ys =>
    if hk : k = l then
      match decEq x y with
      | isFalse h => isFalse fun e => h (Prod.mk.inj (List.cons.inj e).1).2
      | isTrue h =>
        match decEqMembers xs ys with
        | isFalse h' => isFalse fun e => h' (List.cons.inj e).2
        | isTrue h' => isTrue (hk ▸ h ▸ h' ▸ rfl)
    else isFalse fun e => hk (Prod.mk.inj (List.cons.inj e).1).1
termination_by structural a => a

end

instance : DecidableEq Json := decEq

/-! ## Code points -/

/-- Whether a code point is half of a surrogate pair. -/
def isHalf (code : Nat) : Bool :=
  0xd800 ≤ code && code < 0xe000

/-- The character of a code point. In the place of half a pair stands the replacement character. -/
def charOf (code : Nat) : Char :=
  if isHalf code then '\uFFFD' else Char.ofNat code

/-- The characters of code points as a text. -/
def textOf (codes : List Nat) : String :=
  String.ofList (codes.map charOf)

/-- The text with some code points, as a value. -/
def ofCodes (codes : List Nat) : Json :=
  if codes.any isHalf then .illFormed codes else .str (textOf codes)

/-! ## Members -/

/-- Writes a member: a name that is there gets the value at its place, a new one is put at the end. -/
def put {κ α : Type} [DecidableEq κ] (name : κ) (value : α) : List (κ × α) → List (κ × α)
  | [] => [(name, value)]
  | (n, v) :: members => if n = name then (name, value) :: members else (n, v) :: put name value members

/-- The value of a member. -/
def find? {κ α : Type} [DecidableEq κ] (name : κ) : List (κ × α) → Option α
  | [] => none
  | (n, v) :: members => if n = name then some v else find? name members

/-- The members that a list of names and values leaves: every name once, at its first place and with its last value. -/
def collect {κ α : Type} [DecidableEq κ] (pairs : List (κ × α)) : List (κ × α) :=
  pairs.foldl (fun members p => put p.1 p.2 members) []

/-- The members whose names are sequences of characters. -/
def wellNamed {α : Type} (members : List (List Nat × α)) : List (String × α) :=
  (members.filter fun m => !m.1.any isHalf).map fun m => (textOf m.1, m.2)

/-- The object with some members, whose names are given as code points. -/
def ofMembers (members : List (List Nat × Json)) : Json :=
  if members.any (·.1.any isHalf) then .illNamed (collect members) else .obj (collect (members.map fun m => (textOf m.1, m.2)))

/-- The member of a value, when it is an object that has it. -/
def member? (name : String) : Json → Option Json
  | .obj members => find? name members
  | .illNamed members => find? name (wellNamed members)
  | _ => none

/-- Whether a value counts as set: all do but null, false, zero and what is empty. -/
def truthy : Json → Bool
  | .null => false
  | .bool b => b
  | .int n => n ≠ 0
  | .float x => !x.isZero
  | .str s => s ≠ ""
  | .illFormed codes => !codes.isEmpty
  | .arr items => !items.isEmpty
  | .obj members => !members.isEmpty
  | .illNamed members => !members.isEmpty

end Json

end OAuthClient
