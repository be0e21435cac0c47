import OAuthClient.Session.Basic

/-!
# Sessions on a store

A session works on one store step by step. Tokens are shared: a store keeps the place of a token and not its value, so what is
changed about a token later shows in every store that keeps it. A saved store is a copy that shares nothing, and restoring makes
the saved store itself the current one. Handles and requests are kept under names.
-/

namespace OAuthClient

/-- The state of a session. -/
structure StoreSession where
  /-- The tokens, each at its place. -/
  tokens : List Token := []
  /-- The places of the tokens that have names, the latest first. -/
  tokenNames : List (String × Nat) := []
  /-- The stores, each at its place, with the places of their tokens. -/
  stores : List (Store Nat) := [.empty]
  /-- The place of the current store. -/
  current : Nat := 0
  /-- The places of the saved stores, the latest first. -/
  saved : List (String × Nat) := []
  /-- The handles by name, the latest first. -/
  handles : List (String × Handle) := []
  /-- The requests by name, the latest first. -/
  requests : List (String × Request) := []
  /-- Where the time and random octets come from. -/
  supply : Session.Supply

namespace StoreSession

open OAuthClient.Session

/-- The current store. -/
def store (f : StoreSession) : Store Nat :=
  f.stores.getD f.current .empty

/-- A store with the values of its tokens. -/
def resolve (f : StoreSession) (s : Store Nat) : Store Token :=
  s.mapToken (f.tokens[·]?)

/-- The current store with the value of its token. -/
def resolved (f : StoreSession) : Store Token :=
  f.resolve f.store

/-- The session with the current store replaced. -/
def putStore (s : Store Nat) (f : StoreSession) : StoreSession :=
  { f with stores := f.stores.set f.current s }

/-- The session with a token added at the next place. -/
def addToken (t : Token) (f : StoreSession) : StoreSession :=
  { f with tokens := f.tokens ++ [t] }

/-- An act on the current store. -/
def onStore {α : Type} (act : Act (Store Nat) α) : Act StoreSession α :=
  Act.within store putStore act

/-- An act on the current store with the value of its token, which changes values and scopes only. -/
def onResolved {α : Type} (act : Act (Store Token) α) : Act StoreSession α :=
  Act.within resolved (fun s f => f.putStore { f.store with values := s.values, scopes := s.scopes }) act

/-- The next random octets. -/
def draw : Act StoreSession (List UInt8) :=
  Act.within supply (fun s f => { f with supply := s }) Supply.draw

/-! ## Setters -/

/-- How a setter turns a value into a text. -/
inductive Setting where
  /-- The text of the value. -/
  | plain (p : Parameter)
  /-- The text of the value, with booleans in lower case. -/
  | flag (p : Parameter)
  /-- The texts of the items of the value, with a space between neighbours. -/
  | joined (p : Parameter)

/-- The setter with a name. Most have the wire name of their parameter; some parameters have none. -/
def setting? (name : String) : Option Setting :=
  match name with
  | "authorization_code" => some (.plain .authorizationCode)
  | "response_types" => some (.joined .responseType)
  | "prompts" => some (.joined .prompt)
  | "admin_consent" => some (.flag .adminConsent)
  | "scope" => none
  | "code" => none
  | "access_token" => none
  | "id_token" => none
  | _ => (Parameter.ofWireName? name).map .plain

/-- The parameter of a setter and the text that it stores. -/
def Setting.apply : Setting → Json → Except Fault (Parameter × String)
  | .plain p, v => .ok (p, v.display)
  | .flag p, .bool b => .ok (p, if b then "true" else "false")
  | .flag p, v => .ok (p, v.display)
  | .joined p, v => do
    let items ← Token.itemsOf v
    return (p, joinValues items)

/-! ## Steps -/

/-- A step of a session. Names and values are as the caller gives them. -/
inductive Step where
  | set (setter : String) (value : Json)
  | insert (parameter value : Json)
  | entryWith (parameter value : Json)
  | get (parameter : Json)
  | getOrElse (parameter : Json)
  | contains (parameter : Json)
  | remove (parameter : Json)
  | containsKey (wireName : String)
  | extend (pairs : List (Json × Json))
  | addScope (scope : String)
  | removeScope (scope : String)
  | containsScope (scope : String)
  | extendScopes (scopes : Json)
  | scopes
  | joinScopes (sep : String)
  | clearScopes
  | legacyAuthority
  | generatePkce
  | refreshToken
  | describe
  | tenant (tenant : Json)
  | authority (host authority : Option Json)
  | adminConsent (host authority : Option Json)
  | idToken (source : IdToken.Source) (room : Nat := Json.stackRoom)
  | token (name : String) (data : Json)
  | tokenSet (name field : String) (value : Json)
  | acceptToken (name : String)
  | currentToken
  | prepare (grant phase : Json)
  | encodeQuery (required optional : List Json)
  | formParams (required optional : List Json)
  | authorizationUrl (grant : Json)
  | formRequest (grant phase : Json)
  | encodeUri (grant phase : Json)
  | save (name : String)
  | restore (name : String)
  | handle (name select : String) (nonblocking : Bool)
  | handleInsert (name : String) (parameter value : Json)
  | handleCall (name call : String) (keepAs : Option String)
  | send (name : String) (timeout : Binary64) (delivery : Delivery)
  | openIn (name : String) (browser : Bool)

/-- What a step answers. -/
inductive Answer where
  | nothing
  /-- The store itself, for the next call. -/
  | itself
  | flag (b : Bool)
  | text (s : String)
  | textOrNull (s : Option String)
  | texts (list : List String)
  | pairs (list : List (String × String))
  | form (r : FormRequest)
  | rules (r : Rules)
  | token (t : Token)
  | handle (h : Handle)
  | request (r : Request)
  | sent (s : Sent)
  | opened (o : Opened)

/-- The answer of an act that gives nothing but the store itself. -/
def thenItself (act : Act StoreSession Unit) : Act StoreSession Answer := do
  act
  return .itself

/-- A copy of the current store under a name, with a copy of its token. -/
def saveAs (name : String) (f : StoreSession) : StoreSession :=
  let f := match f.resolved.token with
    | some t => { f.addToken t with stores := f.stores ++ [{ f.store with token := some f.tokens.length }] }
    | none => { f with stores := f.stores ++ [{ f.store with token := none }] }
  { f with saved := (name, f.stores.length - 1) :: f.saved }

/-- Changes a token by name. -/
def onToken {α : Type} (name : String) (act : Instant → Act Token α) : Act StoreSession α := fun f =>
  match named name f.tokenNames with
  | .error fault => ⟨.error fault, f, []⟩
  | .ok place =>
    match f.tokens[place]? with
    | none => ⟨.error (.unknownName name), f, []⟩
    | some t =>
      let run := act f.supply.now t
      ⟨run.result, { f with tokens := f.tokens.set place run.state }, run.records⟩

/-- The token of the current store: the name of its place, and the word "copy" for a place without a name. -/
def currentTokenName (f : StoreSession) : Option String :=
  f.store.token.map fun place =>
    ((f.tokenNames.find? fun n => n.2 = place && f.tokenNames.lookup n.1 = some place).map (·.1)).getD "copy"

/-- Does a step that works on the current store only. -/
def storeStep : Step → Act StoreSession Answer
  | .set setter value => thenItself do
    match setting? setter with
    | none => Act.fail .unknownOperation
    | some setting =>
      let (p, v) ← lift (setting.apply value)
      onStore (Store.insert p v)
  | .insert p v => thenItself do
    let p ← lift (parameter p)
    onStore (Store.insert p v.display)
  | .entryWith p v => do
    let p ← lift (parameter p)
    return .text (← onStore (Store.entryWith p v.display))
  | .get p => do
    let p ← lift (parameter p)
    return .textOrNull ((← Act.get).store.get? p)
  | .getOrElse p => do
    let p ← lift (parameter p)
    let f ← Act.get
    return .text (← liftFailure (f.store.get p))
  | .contains p => do
    let p ← lift (parameter p)
    return .flag ((← Act.get).store.contains p)
  | .remove p => thenItself do
    let p ← lift (parameter p)
    onStore (Store.remove p)
  | .containsKey wireName => do
    return .flag ((← Act.get).store.containsKey wireName)
  | .extend pairs => thenItself do
    Act.each (fun (p, v) => do
      let p ← lift (parameter p)
      onStore (Store.insert p v.display)) pairs
  | .addScope s => thenItself (onStore (Store.changeScopes (·.insert s)))
  | .removeScope s => thenItself (onStore (Store.changeScopes (·.erase s)))
  | .containsScope s => do
    return .flag ((← Act.get).store.scopes.contains s)
  | .extendScopes v => thenItself do
    let items ← lift (Token.itemsOf v)
    onStore (Store.changeScopes (·.insertAll (items.map Json.display)))
  | .scopes => do
    return .texts (← Act.get).store.scopes.toList
  | .joinScopes sep => do
    return .text ((← Act.get).store.scopes.join sep)
  | .clearScopes => thenItself (onStore (Store.changeScopes fun _ => ∅))
  | .legacyAuthority => thenItself (onStore (Store.setEndpoints .legacy))
  | .generatePkce => thenItself do
    let octets ← draw
    onStore (Store.setPkce (.ofOctets octets))
  | .describe => do
    return .text (← Act.get).store.describe
  | .tenant v => thenItself (onStore (Store.authority .global v.display))
  | .authority host v => thenItself do
    let cloud ← lift (cloudOr host)
    onStore (Store.authority cloud (authorityOr v))
  | .adminConsent host v => thenItself do
    let cloud ← lift (cloudOr host)
    onStore (Store.adminConsent cloud (authorityOr v))
  | .idToken source room => thenItself do
    let t ← lift (IdToken.ofSource source room)
    onStore (Store.acceptIdToken t)
  | _ => Act.fail .unknownOperation

/-- Does a step that builds requests from the current store or reads its refresh token. -/
def requestStep : Step → Act StoreSession Answer
  | .refreshToken => do
    let f ← Act.get
    return .text (← liftFailure f.resolved.refreshToken)
  | .prepare g ph => do
    let g ← lift (grant g)
    let ph ← lift (phase ph)
    return .rules (← onResolved (Store.prepare g ph))
  | .encodeQuery required optional => do
    let required ← lift (parameters required)
    let optional ← lift (parameters optional)
    let f ← Act.get
    return .text (← liftFailure (f.resolved.encodeQuery required optional))
  | .formParams required optional => do
    let required ← lift (parameters required)
    let optional ← lift (parameters optional)
    let f ← Act.get
    return .pairs (← liftFailure (f.resolved.formParams required optional))
  | .authorizationUrl g => do
    let g ← lift (grant g)
    return .text (← onResolved (Store.authorizationUrl g))
  | .formRequest g ph => do
    let g ← lift (grant g)
    let ph ← lift (phase ph)
    return .form (← onResolved (Store.formRequest g ph))
  | .encodeUri g ph => do
    let g ← lift (grant g)
    let ph ← lift (phase ph)
    return .text (← onResolved (Store.encodeUri g ph))
  | step => storeStep step

/-- Does a step that keeps or uses a token. -/
def tokenStep : Step → Act StoreSession Answer
  | .token name data => do
    let f ← Act.get
    let t ← lift (Token.ofJson f.supply.now data)
    Act.modify fun f => { f.addToken t with tokenNames := (name, f.tokens.length) :: f.tokenNames }
    return .token t
  | .tokenSet name field value => do
    onToken name fun now => do
      Token.setAttribute now field value
      return .token (← Act.get)
  | .acceptToken name => thenItself do
    let f ← Act.get
    let place ← lift (named name f.tokenNames)
    onStore (Store.acceptToken place ((f.tokens[place]?).bind Token.refreshToken?))
  | .currentToken => do
    return .textOrNull (← Act.get).currentTokenName
  | step => requestStep step

/-- Does a step of a session. -/
def perform : Step → Act StoreSession Answer
  | .save name => do
    Act.modify (saveAs name)
    return .nothing
  | .restore name => do
    let f ← Act.get
    let place ← lift (named name f.saved)
    Act.modify fun f => { f with current := place }
    return .nothing
  | .handle name choice nonblocking => do
    let f ← Act.get
    match Handle.select? choice nonblocking f.resolved with
    | none => Act.fail .unknownOperation
    | some h =>
      Act.modify fun f => { f with handles := (name, h) :: f.handles }
      return .handle h
  | .handleInsert name p v => do
    let f ← Act.get
    let h ← lift (named name f.handles)
    let p ← lift (parameter p)
    Act.within (fun _ => h.store) (fun s f => { f with handles := (name, { h with store := s }) :: f.handles })
      (Store.insert p v.display)
    return .nothing
  | .handleCall name call keepAs => do
    let f ← Act.get
    let h ← lift (named name f.handles)
    match Handle.Call.ofName? call with
    | none => Act.fail .unknownOperation
    | some call =>
      match ← h.call call with
      | .url s => return .text s
      | .request r =>
        match keepAs with
        | some name => Act.modify fun f => { f with requests := (name, r) :: f.requests }
        | none => Act.pure ()
        return .request r
  | .send name timeout delivery => do
    let f ← Act.get
    let r ← lift (named name f.requests)
    return .sent (← Session.send f.supply.now r timeout delivery)
  | .openIn name browser => do
    let f ← Act.get
    let r ← lift (named name f.requests)
    return .opened (← Session.openIn r browser)
  | step => tokenStep step

end StoreSession

end OAuthClient
