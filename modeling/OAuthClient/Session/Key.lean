import OAuthClient.Session.Basic

/-!
# Keys

A caller names a parameter by the parameter itself or by a value, which must be its wire name. Values for several parameters come as a
row of pairs or as a mapping. A mapping has no key twice, but two of its keys may name one parameter.
-/

namespace OAuthClient

/-- What a caller names a parameter by. -/
inductive Key where
  | parameter (p : Parameter)
  | name (v : Json)
  deriving DecidableEq

/-- The parameter that a key names. -/
def Key.read : Key → Except Fault Parameter
  | .parameter p => .ok p
  | .name v => Session.parameter v

/-- Values for parameters. -/
inductive Values where
  | pairs (items : List (Key × Json))
  | mapping (items : List (Key × Json)) (nodup : (items.map (·.1)).Nodup)

/-- The keys with their values, in order. -/
def Values.items : Values → List (Key × Json)
  | .pairs items => items
  | .mapping items _ => items

namespace Store

variable {τ : Type}

/-- Sets the parameter that a key names to the text of a value. -/
def insertBy (key : Key) (v : Json) : Act (Store τ) Unit := do
  let p ← Act.ofExcept key.read
  insert p v.display

/-- Sets the parameter that a key names to the text of a value where it is not set, and gives the value that it has then. -/
def entryWithBy (key : Key) (v : Json) : Act (Store τ) String := do
  let p ← Act.ofExcept key.read
  entryWith p v.display

/-- Sets the parameters that keys name, in order. -/
def extendBy (values : Values) : Act (Store τ) Unit :=
  Act.each (fun item => insertBy item.1 item.2) values.items

end Store

end OAuthClient
