import OAuthClient.Log.Tree
import OAuthClient.Session.Basic

/-!
# Sessions on loggers

A session sets up loggers and logs with them, and shows what is written on the console during each step and what stands in the
files.
-/

namespace OAuthClient

/-- The state of a session. -/
structure LogSession where
  tree : Log.Tree := .silent
  /-- The level of a logger that is set up without one. -/
  level : String
  /-- The reading of the clock. -/
  now : Instant

namespace LogSession

open OAuthClient.Session

/-- The logger of the library, from which all its loggers descend. -/
def libraryLogger : String := "graph_oauth"

/-- A step of a session. -/
inductive Step where
  | setup (name level file : Option String)
  | log (name : Option String) (level message : String) (arguments : List Json)
  /-- Sets a parameter in a new store, which the store tells the log. -/
  | insert (parameter value : Json)

/-- What a step answers. -/
inductive Answer where
  | nothing
  /-- The logger that was set up: its name, its threshold and its handlers. -/
  | logger (name : String) (logger : Log.Logger)

/-- An act on the tree. -/
def onTree {α : Type} (act : Act Log.Tree α) : Act LogSession α :=
  Act.within tree (fun tree s => { s with tree }) act

/-- Logs what the library told. -/
def logRecords (now : Instant) (records : List Log.Record) : Act Log.Tree Unit :=
  Act.each (fun r => Log.Tree.log now r.logger r.level.weight (.ofText r.message)) records

/-- Does a step of a session. -/
def perform : Step → Act LogSession Answer
  | .setup name level file => do
    let s ← Act.get
    let name := name.getD libraryLogger
    onTree (Log.Tree.setup name (level.getD s.level) file)
    let s ← Act.get
    return .logger (Log.canonical name) (s.tree.logger (Log.canonical name))
  | .log name level message arguments => do
    let s ← Act.get
    match Log.weights.lookup level with
    | none => Act.fail .unknownOperation
    | some weight =>
      onTree (Log.Tree.log s.now (name.getD libraryLogger) weight ⟨message, .ofList arguments⟩)
      return .nothing
  | .insert p v => do
    let s ← Act.get
    let p ← lift (parameter p)
    let run := Store.insert p v.display (Store.empty : Store Token)
    onTree (logRecords s.now run.records)
    lift run.result
    return .nothing

end LogSession

end OAuthClient
