import OAuthClient.Session.Basic

/-!
# Sessions on a token

A session holds at most one token. A step that makes a token puts it in the place of the one there was, but only when it
succeeds; every other step needs a token.
-/

namespace OAuthClient

/-- The state of a session. -/
structure TokenSession where
  token : Option Token := none
  /-- The reading of the clock. -/
  now : Instant

namespace TokenSession

open OAuthClient.Session

/-- A step of a session. Names and values are as the caller gives them, and what reads a JSON text does so with the room that is left
on the stack. -/
inductive Step where
  | new (tokenType lifetime accessToken scopes : Json)
  | construct (members : List (String × Json))
  | ofJson (data : Json)
  | ofSource (source : Token.Source) (room : Nat := Json.stackRoom)
  | ofResponse (response : Token.Response) (room : Nat := Json.stackRoom)
  | oauthError (response : Token.Response) (room : Nat := Json.stackRoom)
  | setField (field : Token.Field) (value : Json)
  | setLifetime (value : Json)
  | setScopes (value : Json)
  | setIdToken (source : IdToken.Source) (room : Nat := Json.stackRoom)
  | setAttribute (name : String) (value : Json)
  | isExpired
  | elapsed
  | timeLeft
  | bearerToken
  | readIdToken (room : Nat := Json.stackRoom)
  | stamp
  | showSecrets (shown : Bool)
  | describe
  | summary
  | copy

/-- What a step answers. -/
inductive Answer where
  | nothing
  /-- The token itself, for the next call. -/
  | itself
  /-- There is no token. -/
  | noToken
  | flag (b : Bool)
  | text (s : String)
  | value (v : Json)
  | values (list : List Json)
  | duration (d : Option Duration)
  | idToken (t : Option IdToken)

/-- Puts a new token in the place of the one there was. -/
def replace (t : Token) : Act TokenSession Answer := do
  Act.modify fun s => { s with token := some t }
  return .nothing

/-- An act on the token, where there is one. -/
def onToken (act : Instant → Act Token Answer) : Act TokenSession Answer := fun s =>
  match s.token with
  | none => ⟨.ok .noToken, s, []⟩
  | some t =>
    let run := act s.now t
    ⟨run.result, { s with token := some run.state }, run.records⟩

/-- Without a token there is nothing to do. -/
theorem onToken_none {f : TokenSession} (h : f.token = none) (act : Instant → Act Token Answer) :
    onToken act f = ⟨.ok .noToken, f, []⟩ := by
  rw [onToken, h]

/-- With a token the act is done on it. -/
theorem onToken_some {f : TokenSession} {t : Token} (h : f.token = some t) (act : Instant → Act Token Answer) :
    onToken act f = ⟨(act f.now t).result, { f with token := some (act f.now t).state }, (act f.now t).records⟩ := by
  rw [onToken, h]

/-- A change of the token that answers the token itself. -/
def change (act : Instant → Act Token Unit) : Act TokenSession Answer :=
  onToken fun now => do
    act now
    return .itself

/-- A change of the token by one of its methods. -/
def changeBy (method : String) (act : Instant → Act Token Unit) : Act TokenSession Answer :=
  change fun now => Token.call method (act now)

/-- A look at the token by one of its methods. -/
def ask (method : String) (read : Instant → Token → Except Fault Answer) : Act TokenSession Answer :=
  onToken fun now => Token.call method do
    let t ← Act.get
    Act.ofExcept (read now t)

/-- A look at the token that changes nothing. -/
def look (read : Instant → Token → Except Fault Answer) : Act TokenSession Answer :=
  onToken fun now => do
    let t ← Act.get
    Act.ofExcept (read now t)

/-- Does a step that looks at the token. -/
def lookStep : Step → Act TokenSession Answer
  | .isExpired => ask "is_expired" fun now t => (t.isExpired now).map .flag
  | .elapsed => ask "elapsed" fun _ t => t.elapsed.map .duration
  | .timeLeft => ask "time_until_expiry" fun now t => (t.timeLeft now).map .duration
  | .bearerToken => ask "bearer_token" fun _ t => .ok (.value (t.values .accessToken))
  | .readIdToken room => ask "parse_id_token" fun _ t => (t.readIdToken room).map .idToken
  | .describe => look fun _ t => .ok (.text t.describe)
  | .summary => look fun _ t => .ok (.text t.summary)
  | .copy => look fun _ _ => .ok .nothing
  | _ => Act.fail .unknownOperation

/-- Does a step that changes the token. -/
def changeStep : Step → Act TokenSession Answer
  | .setField field v => changeBy ("with_" ++ field.name) fun _ => Act.modify (Token.setField field v)
  | .setLifetime v => changeBy "with_expires_in" fun now => Token.setLifetime now v
  | .setScopes v => changeBy "with_scope" fun _ => do
    let items ← lift (Token.itemsOf v)
    Act.modify (Token.setField .scope (.arr items))
  | .setIdToken source room => change fun _ => do
    let t ← lift (IdToken.ofSource source room)
    Token.call "with_id_token" (Act.modify (Token.setField .idToken (.str t.idToken)))
  | .setAttribute name v => onToken fun now => do
    Token.setAttribute now name v
    return .nothing
  | .stamp => onToken fun now => do
    Token.call "gen_timestamp" (Token.stamp now)
    return .nothing
  | .showSecrets shown => onToken fun _ => do
    Token.call "enable_pii_logging" (Act.modify fun t => { t with showSecrets := shown })
    return .nothing
  | step => lookStep step

/-- Does a step of a session. -/
def perform : Step → Act TokenSession Answer
  | .new tokenType lifetime accessToken scopes => do
    let s ← Act.get
    replace (← lift (Token.new s.now tokenType lifetime accessToken scopes))
  | .construct members => do
    let s ← Act.get
    replace (← lift (Token.construct s.now members))
  | .ofJson data => do
    let s ← Act.get
    replace (← lift (Token.ofJson s.now data))
  | .ofSource source room => do
    let s ← Act.get
    replace (← lift (Token.ofSource s.now source room))
  | .ofResponse response room => do
    let s ← Act.get
    replace (← Token.ofResponse s.now response room)
  | .oauthError response room => do
    let (error, description) ← lift (response.oauthError room)
    return .values [error, description]
  | step => changeStep step

/-- Looking at what a response reports leaves the session as it is. -/
theorem perform_oauthError (response : Token.Response) (room : Nat) (f : TokenSession) : perform (.oauthError response room) f =
    ⟨(response.oauthError room).map fun reported => .values [reported.1, reported.2], f, []⟩ := by
  show ((lift (response.oauthError room) : Act TokenSession (Json × Json)) >>= fun reported =>
    Act.pure (Answer.values [reported.1, reported.2])) f = _
  cases response.oauthError room <;> rfl

end TokenSession

end OAuthClient
