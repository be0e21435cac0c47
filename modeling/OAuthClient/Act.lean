import OAuthClient.Failure
import OAuthClient.Log.Record

/-!
# Acts

An act changes a state, tells the log, and ends with a result or a fault. What it changed and told before a fault stays: a fault
ends an act and undoes nothing.
-/

namespace OAuthClient

/-- How an act ended: its result, the state it left, and what it told the log, in order. -/
structure Run (σ α : Type) where
  result : Except Fault α
  state : σ
  records : List Log.Record

/-- An act on a state. -/
def Act (σ α : Type) : Type := σ → Run σ α

namespace Act

variable {σ τ α β : Type}

/-- The act that gives a value and does nothing. -/
def pure (a : α) : Act σ α := fun s => ⟨.ok a, s, []⟩

/-- One act after another. A fault of the first is the fault of both. -/
def bind (act : Act σ α) (next : α → Act σ β) : Act σ β := fun s =>
  match act s with
  | ⟨.error f, s, records⟩ => ⟨.error f, s, records⟩
  | ⟨.ok a, s, records⟩ =>
    let run := next a s
    ⟨run.result, run.state, records ++ run.records⟩

instance : Monad (Act σ) where
  pure := pure
  bind := bind

/-- The act that fails. -/
def fail (f : Fault) : Act σ α := fun s => ⟨.error f, s, []⟩

/-- The act that gives the result of a computation. -/
def ofExcept (result : Except Fault α) : Act σ α := fun s => ⟨result, s, []⟩

/-- The act that gives the state. -/
def get : Act σ σ := fun s => ⟨.ok s, s, []⟩

/-- The act that changes the state by a function. -/
def modify (f : σ → σ) : Act σ Unit := fun s => ⟨.ok (), f s, []⟩

/-- The act that tells the log a message. -/
def tell (level : Log.Level) (logger message : String) : Act σ Unit := fun s => ⟨.ok (), s, [⟨level, logger, message⟩]⟩

/-- An act on a part of a state. -/
def within (part : τ → σ) (put : σ → τ → τ) (act : Act σ α) : Act τ α := fun t =>
  let run := act (part t)
  ⟨run.result, put run.state t, run.records⟩

/-- An act that never fails with one of the library's failures: such a failure is its result. Other faults stay faults. -/
def attempt (act : Act σ α) : Act σ (Except Failure α) := fun s =>
  let run := act s
  match run.result with
  | .ok a => ⟨.ok (.ok a), run.state, run.records⟩
  | .error (.failure f) => ⟨.ok (.error f), run.state, run.records⟩
  | .error fault => ⟨.error fault, run.state, run.records⟩

/-- One act for every member of a list, in order. -/
def each (f : α → Act σ Unit) : List α → Act σ Unit
  | [] => pure ()
  | a :: rest => bind (f a) fun _ => each f rest

end Act

end OAuthClient
