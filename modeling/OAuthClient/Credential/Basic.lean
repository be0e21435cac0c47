import OAuthClient.Store.Encode

/-!
# What credentials share

A credential holds the values of one kind of request and builds that request by itself. It works on a fresh store, so nothing
that was done before reaches the request. Values that must be there are checked before anything else is built.
-/

namespace OAuthClient.Credential

/-- A value that must be there and must not be blank. -/
def required (p : Parameter) (v : Option String) (note : Option String := none) : Except Failure String :=
  match v with
  | none => .error (.missing p.wireName note)
  | some s => if (Text.strip s).isEmpty then .error (.missing p.wireName note) else .ok s

/-- The text of a value that need not be there, as it stands in a URL. -/
def textOf (v : Option String) : String :=
  (Failure.optional v).display

/-- An act on a fresh store. -/
def onFresh {σ α : Type} (act : Act (Store Token) α) : Act σ α := fun t =>
  let run := act .empty
  ⟨run.result, t, run.records⟩

/-- Sets a parameter to a value that must be there and must not be blank. -/
def insertRequired (p : Parameter) (v : Option String) (note : Option String := none) : Act (Store Token) Unit := do
  let s ← Act.ofExcept ((required p v note).mapError Fault.failure)
  Store.insert p s

/-- Sets a parameter where there is a value. -/
def insertOptional (p : Parameter) (v : Option String) : Act (Store Token) Unit :=
  match v with
  | some s => Store.insert p s
  | none => Act.pure ()

/-- Adds scopes, each as it is. -/
def addScopes (scopes : List String) : Act (Store Token) Unit :=
  Store.changeScopes (·.insertAll scopes)

end OAuthClient.Credential
