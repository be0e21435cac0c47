import OAuthClient.Handle
import OAuthClient.Uri.Normal

/-!
# What sessions share

A session takes the time from a clock and random octets from a source, one draw after another. It keeps things under names, of
which the latest counts, and it sends requests over a network that answers as the session is told.
-/

namespace OAuthClient.Session

/-- Where a session takes the time and random octets from. -/
structure Supply where
  /-- The reading of the clock. -/
  now : Instant
  /-- The octets of each draw. -/
  random : Nat → List UInt8
  /-- How many draws there were. -/
  draws : Nat := 0

/-- The next random octets. -/
def Supply.draw : Act Supply (List UInt8) := fun s =>
  ⟨.ok (s.random s.draws), { s with draws := s.draws + 1 }, []⟩

/-- What a list of names keeps under a name. -/
def named {α : Type} (name : String) (names : List (String × α)) : Except Fault α :=
  match names.lookup name with
  | some a => .ok a
  | none => .error (.unknownName name)

/-- A computation that may fail, as an act. -/
def lift {σ α : Type} (result : Except Fault α) : Act σ α := Act.ofExcept result

/-- A computation that may fail in one of the library's ways, as an act. -/
def liftFailure {σ α : Type} (result : Except Failure α) : Act σ α := Act.ofExcept (result.mapError Fault.failure)

/-! ## Values that name things -/

/-- The parameter that a value names. -/
def parameter : Json → Except Fault Parameter
  | .str wireName =>
    match Parameter.ofWireName? wireName with
    | some p => .ok p
    | none => .error (.unknownParameter wireName)
  | v => .error (.unknownParameter v.display)

/-- A member of a closed list by its name, which must be in the list. -/
def choice {α : Type} (list : String) (find : String → Option α) (v : Json) : Except Fault α :=
  match v with
  | .str name =>
    match find name with
    | some a => .ok a
    | none => .error (.notChoice v list)
  | v => .error (.notChoice v list)

/-- The cloud with a login host. -/
def cloud (v : Json) : Except Fault Cloud := choice "AzureCloudInstance" Cloud.ofUrl? v

/-- The grant with a name. -/
def grant (v : Json) : Except Fault Grant := choice "GrantType" Grant.ofName? v

/-- The phase with a name. -/
def phase (v : Json) : Except Fault Phase := choice "GrantRequest" Phase.ofName? v

/-- The parameters with given wire names. -/
def parameters : List Json → Except Fault (List Parameter)
  | [] => .ok []
  | v :: rest => do
    let p ← choice "OAuthParameter" Parameter.ofWireName? v
    let ps ← parameters rest
    return p :: ps

/-- The cloud of a host, and the global one where none is given. -/
def cloudOr (host : Option Json) : Except Fault Cloud :=
  host.elim (.ok .global) cloud

/-- The text of an authority, and the common one where none is given. -/
def authorityOr (authority : Option Json) : String :=
  authority.elim commonAuthority Json.display

/-! ## Sending and opening -/

/-- How a request went that was sent: what went out, and the response with the token that it carries, or the fault. -/
structure Sent where
  posts : List Post
  outcome : Except Fault (Int × Except Fault Token)

/-- How a request went that was opened: what the browser was given, and the fault where there was one. -/
structure Opened where
  uris : List String
  outcome : Except Fault Unit

/-- A form as it is seen on its way. -/
def onTheWay (post : Post) : Post :=
  { post with uri := String.ofList (Uri.Reference.ofText post.uri.toList).sent }

/-- What is delivered for a form by a network that would bring a given delivery. A response does not arrive where no host was
named. -/
def deliver (delivery : Delivery) (post : Post) : Delivery :=
  match delivery with
  | .response r =>
    if (Uri.Reference.ofText post.uri.toList).isAbsolute then .response r else .noHost (onTheWay post).uri
  | other => other

/-- Sends a request and reads the token of the response. -/
def send {σ : Type} (now : Instant) (r : Request) (timeout : Binary64) (delivery : Delivery) : Act σ Sent := fun s =>
  let run := r.send (deliver delivery) timeout []
  let posts := run.state.map onTheWay
  match run.result with
  | .error fault => ⟨.ok ⟨posts, .error fault⟩, s, run.records⟩
  | .ok response =>
    let read := Token.ofResponse now response Json.stackRoom ()
    ⟨.ok ⟨posts, .ok (response.status, read.result)⟩, s, run.records ++ read.records⟩

/-- Opens a request. -/
def openIn {σ : Type} (r : Request) (browser : Bool) : Act σ Opened := fun s =>
  let run := r.openIn (fun _ => browser) []
  ⟨.ok ⟨run.state, run.result⟩, s, run.records⟩

end OAuthClient.Session
