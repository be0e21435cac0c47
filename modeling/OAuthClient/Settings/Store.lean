import OAuthClient.Settings.Basic
import OAuthClient.Settings.Dotenv
import OAuthClient.Store.Basic

/-!
# Loading settings

Settings come from three sources, each stronger than the next: what a caller names, the variables of the environment, and an
environment file. A library makes a state of each source and merges the states; what it has to do for that is a parameter. A store
can start from the settings: with the client that they name and the endpoints of their cloud and tenant.
-/

namespace OAuthClient.Settings

/-! ## The library -/

/-- What a library of settings does with sources. -/
structure Library where
  /-- The name that an argument counts as. Some libraries take arguments exactly as they are spelled, others in any case. -/
  spelling : String → String
  /-- The state that the arguments of a caller make. -/
  arguments : List (String × Json) → State
  /-- The state that variables make, each with a value or without one. -/
  environment : List (String × Option String) → State
  /-- The state that a weaker and a stronger one make. -/
  merge : State → State → State

/-- A name in lower case. -/
def lower (name : String) : String := String.ofList (Text.asciiLower name.toList)

/-- What arguments have for a name, when each counts as the name that its spelling stands for: the value of the last one. -/
def givenFor? (spelling : String → String) (given : List (String × Json)) (name : String) : Option Json :=
  Json.find? name (Json.collect (given.map fun m => (spelling m.1, m.2)))

/-- What variables have for a name: the value of the last one whose name is the same but for its case. -/
def setTo? (vars : List (String × Option String)) (name : String) : Option String :=
  (Json.find? name (Json.collect (vars.map fun m => (lower m.1, m.2)))).join

namespace Library

/-- The values of settings under their preferred names, as far as there are values. -/
def preferred (has : Field → Option Json) : State :=
  Field.all.filterMap fun f => (has f).map (f.name, ·)

/-- The library that takes arguments by a spelling. Arguments and variables count under the first of the names of a setting that has a
value, and are kept under the preferred name. Arguments that name no setting are kept as they are. What a stronger state does not have
stays of a weaker one. -/
def spelled (spelling : String → String) : Library where
  spelling
  arguments given :=
    preferred (fun f => f.names.findSome? (givenFor? spelling given)) ++
      given.filter fun m => !(Field.all.flatMap Field.names).contains m.1
  environment vars := preferred fun f => (f.names.findSome? (setTo? vars)).map .str
  merge weaker stronger := stronger ++ weaker.filter fun m => (Json.find? m.1 stronger).isNone

/-- The usual library, which takes arguments in any case, as it does variables. -/
def standard : Library := spelled lower

/-- States as one, the strongest first: each is merged below what those before it made. -/
def gather (L : Library) (states : List State) : State :=
  states.foldl (fun state source => L.merge source state) []

end Library

/-! ## Inputs -/

/-- What settings are made from: what a caller names, the variables of the environment, and the text of an environment file. -/
structure Inputs where
  named : List (String × Json) := []
  environment : List (String × String) := []
  file : Option String := none

/-- The states of the inputs, the strongest first. -/
def Inputs.states (i : Inputs) (L : Library) : List State :=
  [L.arguments i.named, L.environment (i.environment.map fun (name, v) => (name, some v))] ++
    (i.file.map fun text => L.environment (Dotenv.entries i.environment text)).toList

/-- The settings that inputs give. -/
def load (i : Inputs) (L : Library := .standard) : Except Fault Settings :=
  (ofState (L.gather (i.states L))).mapError .fields

/-! ## Stores -/

/-- Sets a parameter where a setting gives a value that is not empty. -/
def insertGiven {τ : Type} (p : Parameter) (v : Option String) : Act (Store τ) Unit :=
  match v with
  | some s => if s = "" then Act.pure () else Store.insert p s
  | none => Act.pure ()

/-- Sets what settings give in a store. -/
def apply {τ : Type} (s : Settings) : Act (Store τ) Unit := do
  insertGiven .clientId s.clientId
  insertGiven .clientSecret s.clientSecret
  insertGiven .redirectUri s.redirectUri
  Store.authority s.cloud s.tenant

end OAuthClient.Settings
