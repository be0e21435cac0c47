import OAuthClient.Act
import OAuthClient.Log.Line
import OAuthClient.Log.Redaction

/-!
# The tree of loggers

Loggers form a tree by the dots in their names, with one root. A record goes to the handlers of its logger and of all loggers
above it, unless it weighs less than the threshold of its logger, which is that of the nearest logger above when it has none of
its own. Setting up a logger replaces the handlers that an earlier setup under the same name put there, and no others. Every
handler that is set up has a filter that redacts.
-/

namespace OAuthClient.Log

/-! ## Thresholds -/

/-- The weights that thresholds have, by name. -/
def weights : List (String × Nat) :=
  [("CRITICAL", 50), ("FATAL", 50), ("ERROR", 40), ("WARNING", 30), ("WARN", 30), ("INFO", 20), ("DEBUG", 10), ("NOTSET", 0)]

/-- The capital of a letter, where it is one of ASCII. -/
def capital (c : Char) : Char :=
  if c == 'ı' then 'I' else if c == 'ſ' then 'S' else c.toUpper

/-- The weight of a name in any case. -/
def weight? (name : String) : Option Nat :=
  weights.lookup (name.map capital)

/-- The name of a weight. -/
def weightName (weight : Nat) : String :=
  ((weights.find? (·.2 = weight)).map (·.1)).getD ("Level " ++ toString weight)

/-! ## Names -/

/-- The part of a name before its last dot. A dot at the start cuts nothing off. -/
def parent? (name : List Char) : Option (List Char) :=
  match Text.cutLast '.' name with
  | some (before, _) => if before.isEmpty then none else some before
  | none => none

/-- The names above a name, the nearest first, and without the root. The first argument bounds their count. -/
def namesAbove : Nat → List Char → List (List Char)
  | 0, _ => []
  | fuel + 1, name =>
    match parent? name with
    | some before => before :: namesAbove fuel before
    | none => []

/-- The name of the root. -/
def rootName : String := "root"

/-- The name of the logger that a name means: no name means the root. -/
def canonical (name : String) : String :=
  if name = "" then rootName else name

/-- A logger and all loggers above it, by name, the nearest first. -/
def chain (name : String) : List String :=
  if name = rootName then [rootName]
  else name :: ((namesAbove name.length name.toList).map String.ofList ++ [rootName])

/-! ## Handlers -/

/-- Where a handler writes. -/
inductive Target where
  | console
  | file (path : String)
  /-- A handler that takes records and drops them. -/
  | nowhere
  deriving DecidableEq, Repr

/-- The name of the class of a handler with a target. -/
def Target.className : Target → String
  | .console => "StreamHandler"
  | .file _ => "FileHandler"
  | .nowhere => "NullHandler"

/-- What a handler does to a record before it writes it. -/
inductive Filter where
  | redacting
  deriving DecidableEq, Repr

/-- A message behind a filter. -/
def Filter.apply : Filter → Message → Except Template.Flaw Message
  | .redacting, m => m.redacted

/-- A handler. No two handlers have the same serial number. -/
structure Handler where
  serial : Nat
  target : Target
  filters : List Filter
  deriving DecidableEq, Repr

/-- A message behind the filters of a handler. -/
def Handler.filter (h : Handler) (m : Message) : Except Template.Flaw Message :=
  h.filters.foldlM (fun m f => f.apply m) m

/-- A logger: its own threshold, zero for none, and its handlers. -/
structure Logger where
  threshold : Nat := 0
  handlers : List Handler := []

/-- The tree of loggers, with what was written to each target. -/
structure Tree where
  /-- The loggers by name. At first only the root has a threshold. -/
  logger : String → Logger := fun name => if name = rootName then { threshold := 30 } else {}
  /-- The serial numbers of the handlers that the last setup under a name put there. -/
  installed : String → List Nat := fun _ => []
  /-- The serial number of the next handler. -/
  next : Nat := 0
  /-- The files that were opened, in order. -/
  files : List String := []
  /-- The lines that were written, in order. -/
  lines : List (Target × String) := []

namespace Tree

/-- The threshold of a logger: its own, or that of the nearest logger above that has one. -/
def threshold (t : Tree) (name : String) : Nat :=
  (((chain name).map fun n => (t.logger n).threshold).find? (· ≠ 0)).getD 0

/-- The tree of a program that keeps the last resort of the loggers silent: the root has a handler from the start that writes
nowhere. -/
def silent : Tree where
  logger name := if name = rootName then { threshold := 30, handlers := [⟨0, .nowhere, []⟩] } else {}
  next := 1

/-- The handlers that write a record of a logger. Those that write nowhere do not even look at it. -/
def handlers (t : Tree) (name : String) : List Handler :=
  ((chain name).flatMap fun n => (t.logger n).handlers).filter (·.target ≠ .nowhere)

/-- The targets that a setup writes to: the console, and a file where there is one. -/
def targets (file : Option String) : List Target :=
  .console :: (file.map Target.file).toList

/-- Handlers for targets, with serial numbers from a number on. -/
def newHandlers (next : Nat) : List Target → List Handler
  | [] => []
  | target :: rest => ⟨next, target, [.redacting]⟩ :: newHandlers (next + 1) rest

/-- The tree with a logger set up under a name. -/
def install (name : String) (weight : Nat) (file : Option String) (t : Tree) : Tree :=
  let handlers := newHandlers t.next (targets file)
  let kept := (t.logger (canonical name)).handlers.filter fun h => !(t.installed name).contains h.serial
  { t with
    logger := fun n => if n = canonical name then ⟨weight, kept ++ handlers⟩ else t.logger n
    installed := fun n => if n = name then handlers.map Handler.serial else t.installed n
    next := t.next + handlers.length
    files := t.files ++ file.toList.filter fun path => !t.files.contains path }

/-- Sets up the logger of a name with the level of a name, which must be one. -/
def setup (name level : String) (file : Option String) : Act Tree Unit :=
  match weight? level with
  | some weight => Act.modify (install name weight file)
  | none => Act.fail .unknownOperation

/-- Writes a message through handlers, each of which gets it as the one before left it. -/
def write (now : Instant) (name : String) (weight : Nat) : List Handler → Message → Act Tree Unit
  | [], _ => Act.pure ()
  | h :: rest, m => do
    let m ← Act.ofExcept ((h.filter m).mapError Fault.template)
    let text ← Act.ofExcept (m.text.mapError Fault.template)
    Act.modify fun t => { t with lines := t.lines ++ [(h.target, line now name (weightName weight) text)] }
    write now name weight rest m

/-- Whether a logger lets a weight pass. What weighs nothing never passes. -/
def passes (t : Tree) (name : String) (weight : Nat) : Bool :=
  weight ≠ 0 && t.threshold name ≤ weight

/-- Logs a message of a weight with a logger. -/
def log (now : Instant) (name : String) (weight : Nat) (m : Message) : Act Tree Unit := do
  let t ← Act.get
  let name := canonical name
  if t.passes name weight then write now name weight (t.handlers name) m

/-- What was written to a target. -/
def contents (t : Tree) (target : Target) : String :=
  String.join ((t.lines.filter (·.1 = target)).map (·.2))

end Tree

end OAuthClient.Log
