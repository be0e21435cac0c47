import OAuthClient.Grant.Table
import OAuthClient.Store.Basic
import OAuthClient.Token.Basic

/-!
# Requests from a store

How the rules for a phase and the values of a store make a request: a query behind the authorization endpoint, or a form for the
token endpoint. The fixed values of the phase are filled in first, and stay in the store.
-/

namespace OAuthClient

/-- A form for an endpoint. -/
structure FormRequest where
  uri : String
  params : List (String × String)
  deriving DecidableEq, Repr

namespace Store

/-- The refresh token of the last token response, where it has one. -/
def tokenRefresh? (s : Store Token) : Option String :=
  s.token.bind Token.refreshToken?

/-- The refresh token: the value that is set, unless it is empty, and otherwise that of the last token response. -/
def refreshToken? (s : Store Token) : Option String :=
  match s.get? .refreshToken with
  | some v => if v = "" then s.tokenRefresh? else some v
  | none => s.tokenRefresh?

/-- The refresh token, which must be there. -/
def refreshToken (s : Store Token) : Except Failure String :=
  match s.refreshToken? with
  | some v => .ok v
  | none => .error (.missing Parameter.refreshToken.wireName none)

/-- The value of a required parameter. In a form the refresh token may come from the last token response. -/
def requiredValue (s : Store Token) (form : Bool) (p : Parameter) : Except Failure String :=
  if form && p = .refreshToken then s.refreshToken else s.get p

/-- The value of an optional parameter. In a form a refresh token that is not set may come from the last token response. -/
def optionalValue (s : Store Token) (form : Bool) (p : Parameter) : Option String :=
  match s.get? p with
  | some v => some v
  | none => if form && p = .refreshToken then s.tokenRefresh? else none

/-- The required parameters with their values, or the failure of the first that is not set. -/
def requiredPairs (s : Store Token) (form : Bool) : List Parameter → Except Failure (List (String × String))
  | [] => .ok []
  | p :: rest => do
    let v ← s.requiredValue form p
    let pairs ← s.requiredPairs form rest
    return (p.wireName, v) :: pairs

/-- The optional parameters that are set, with their values. -/
def optionalPairs (s : Store Token) (form : Bool) (ps : List Parameter) : List (String × String) :=
  ps.filterMap fun p => (s.optionalValue form p).map (p.wireName, ·)

/-- The parameters of a request with their values: the required ones and then the optional ones that are set. -/
def pairs (s : Store Token) (form : Bool) (required optional : List Parameter) : Except Failure (List (String × String)) := do
  let pairs ← s.requiredPairs form required
  return pairs ++ s.optionalPairs form optional

/-- Parameters as a query. -/
def encodeQuery (s : Store Token) (required optional : List Parameter) : Except Failure String := do
  return Form.encode .percent (← s.pairs false required optional)

/-- Parameters as the fields of a form. A parameter that is named twice is one field. -/
def formParams (s : Store Token) (required optional : List Parameter) : Except Failure (List (String × String)) := do
  return Json.collect (← s.pairs true required optional)

/-- Fills in the fixed values of a phase where no value is set, and gives the rules of the phase. -/
def prepare (grant : Grant) (phase : Phase) : Act (Store Token) Rules := do
  let rules := grant.rules phase
  match rules.unsupported with
  | some reason => Act.fail (Failure.unsupported grant.name phase.name reason)
  | none =>
    Act.each (fun (p, v) => do let _ ← entryWith p v) rules.defaults
    return rules

/-- The URL for the authorization phase of a grant. -/
def authorizationUrl (grant : Grant) : Act (Store Token) String := do
  let rules ← prepare grant .authorization
  let s ← Act.get
  let base ← Act.ofExcept ((s.get rules.endpoint).mapError Fault.failure)
  let query ← Act.ofExcept ((s.encodeQuery rules.required rules.optional).mapError Fault.failure)
  Act.ofExcept ((Uri.appendQuery base query).mapError Fault.uri)

/-- The form for a phase of a grant. -/
def formRequest (grant : Grant) (phase : Phase) : Act (Store Token) FormRequest := do
  let rules ← prepare grant phase
  let s ← Act.get
  let uri ← Act.ofExcept ((s.get rules.endpoint).mapError Fault.failure)
  let params ← Act.ofExcept ((s.formParams rules.required rules.optional).mapError Fault.failure)
  return ⟨uri, params⟩

/-- The text of the request for a phase of a grant: the URL for an authorization, and the body of the form otherwise. -/
def encodeUri (grant : Grant) (phase : Phase) : Act (Store Token) String :=
  if phase = .authorization then authorizationUrl grant
  else do
    let request ← formRequest grant phase
    return Form.encode .percent request.params

end Store

end OAuthClient
