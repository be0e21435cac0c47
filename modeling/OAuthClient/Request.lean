import OAuthClient.Settings.Basic
import OAuthClient.Store.Encode
import OAuthClient.Token.Wire

/-!
# Requests

A request that is ready to be sent or opened, or the failure that kept it from being built, which comes up when it is sent or
opened. What goes out over the network and to the browser is traced: a request with a failure sends nothing and opens nothing,
any other sends or opens exactly once.
-/

namespace OAuthClient

/-- A request. -/
inductive Request where
  /-- A page for the browser. -/
  | browser (target : Except Failure String)
  /-- A form for an endpoint, sent by a client that blocks or one that does not. -/
  | form (nonblocking : Bool) (target : Except Failure FormRequest)

namespace Request

/-- The name of the class of a request. -/
def className : Request → String
  | .browser _ => "AuthorizationRequest"
  | .form nonblocking _ => if nonblocking then "AsyncAccessTokenRequest" else "AccessTokenRequest"

/-- The URL of a request, which is empty when it could not be built. -/
def uri : Request → String
  | .browser (.ok uri) => uri
  | .form _ (.ok target) => target.uri
  | _ => ""

/-- The fields of a request, which a page for the browser does not have. -/
def params? : Request → Option (List (String × String))
  | .browser _ => none
  | .form _ (.ok target) => some target.params
  | .form _ (.error _) => some []

/-- The failure that kept a request from being built. -/
def failure? : Request → Option Failure
  | .browser (.error f) => some f
  | .form _ (.error f) => some f
  | _ => none

end Request

/-- A form as it goes out over the network. -/
structure Post where
  uri : String
  body : String
  /-- How many seconds to wait. -/
  timeout : Binary64
  deriving DecidableEq

/-- What the network does with a form: it brings a response, or it fails in a way that has a name and a message. -/
inductive Delivery where
  | response (r : Token.Response)
  | fault (name : String) (message : String)
  /-- The form had no host to go to, only what is left of its URL. -/
  | noHost (target : String)

/-- The ways in which the network fails that are reported as failures of the transport. -/
def transportFaults : List String :=
  ["HTTPError", "RequestError", "TransportError", "TimeoutException", "ConnectTimeout", "ReadTimeout", "WriteTimeout",
    "PoolTimeout", "NetworkError", "ConnectError", "ReadError", "WriteError", "CloseError", "ProxyError",
    "UnsupportedProtocol", "ProtocolError", "LocalProtocolError", "RemoteProtocolError", "DecodingError",
    "TooManyRedirects", "HTTPStatusError"]

namespace Request

/-- The media type of a form. -/
def contentType : String := "application/x-www-form-urlencoded"

/-- Sends a form over the network and waits for the answer. The state is the trace of what went out. -/
def post (network : Post → Delivery) (timeout : Binary64) (target : FormRequest) : Act (List Post) Token.Response := do
  let out : Post := ⟨target.uri, Form.encode .plus target.params, timeout⟩
  Act.tell .debug Log.requestLogger
    ("POST " ++ target.uri ++ " (fields: " ++ ", ".intercalate (target.params.map (·.1)) ++ ")")
  Act.modify (· ++ [out])
  match network out with
  | .response r =>
    Act.tell .debug Log.requestLogger ("Response status: " ++ toString r.status)
    return r
  | .fault name message =>
    if transportFaults.contains name then
      let text := "Request to " ++ target.uri ++ " failed: " ++ message
      Act.tell .error Log.requestLogger text
      Act.fail (Failure.transport text none .null .null (some (.network ⟨name, message⟩)))
    else Act.fail (.network ⟨name, message⟩)
  | .noHost target => Act.fail (.noHost target)

/-- Hands a form to the network without waiting for the answer, and gives what went out. -/
def handOver (timeout : Binary64) (target : FormRequest) : Act (List Post) Post := do
  Act.tell .debug Log.requestLogger
    ("POST " ++ target.uri ++ " (fields: " ++ ", ".intercalate (target.params.map (·.1)) ++ ")")
  let out : Post := { uri := target.uri, body := Form.encode .plus target.params, timeout }
  Act.modify (· ++ [out])
  return out

/-- Goes on with a form that was handed to the network, once the network has answered. -/
def resume (target : FormRequest) : Delivery → Act (List Post) Token.Response
  | .response r => do
    Act.tell .debug Log.requestLogger ("Response status: " ++ toString r.status)
    return r
  | .fault name message => do
    if transportFaults.contains name then
      Act.tell .error Log.requestLogger ("Request to " ++ target.uri ++ " failed: " ++ message)
      Act.fail (Failure.transport ("Request to " ++ target.uri ++ " failed: " ++ message) none .null .null
        (some (.network ⟨name, message⟩)))
    else Act.fail (.network ⟨name, message⟩)
  | .noHost rest => Act.fail (.noHost rest)

/-- Sends a form over the network in two halves, between which others may run. -/
def postNonblocking (network : Post → Delivery) (timeout : Binary64) (target : FormRequest) : Act (List Post) Token.Response := do
  let out ← handOver timeout target
  resume target (network out)

/-- Sends a request. A page for the browser cannot be sent. -/
def send (network : Post → Delivery) (timeout : Binary64) : Request → Act (List Post) Token.Response
  | .browser _ => Act.fail .unknownOperation
  | .form _ (.error f) => Act.fail f
  | .form false (.ok target) => post network timeout target
  | .form true (.ok target) => postNonblocking network timeout target

/-- Sends a request and waits as many seconds as the caller says, or else as many as the settings say. -/
def sendUnder (settings : Settings) (network : Post → Delivery) (given : Option Binary64) (r : Request) :
    Act (List Post) Token.Response :=
  r.send network (given.getD settings.timeout)

/-- Opens a request in the browser, which tells whether it could. The state is the trace of what was opened. A form cannot be
opened. -/
def openIn (browser : String → Bool) : Request → Act (List String) Unit
  | .form _ _ => Act.fail .unknownOperation
  | .browser (.error f) => Act.fail f
  | .browser (.ok uri) => do
    Act.tell .info Log.requestLogger "Opening browser for authorization..."
    Act.modify (· ++ [uri])
    if browser uri then return ()
    else
      Act.tell .warning Log.requestLogger "Could not open a browser for authorization"
      Act.fail (Failure.browser uri)

end Request

end OAuthClient
