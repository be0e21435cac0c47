/-!
# Log records

What the library tells a log: how grave it is, which part of the library tells it, and the message.
-/

namespace OAuthClient.Log

/-- How grave a record is. -/
inductive Level where
  | debug
  | info
  | warning
  | error
  | critical
  deriving DecidableEq, Repr

namespace Level

/-- The name of a level. -/
def name : Level → String
  | .debug => "DEBUG"
  | .info => "INFO"
  | .warning => "WARNING"
  | .error => "ERROR"
  | .critical => "CRITICAL"

/-- The weight of a level: a logger lets pass what weighs at least as much as its threshold. -/
def weight : Level → Nat
  | .debug => 10
  | .info => 20
  | .warning => 30
  | .error => 40
  | .critical => 50

end Level

/-- A record for a log. -/
structure Record where
  level : Level
  logger : String
  message : String
  deriving DecidableEq, Repr

/-- The logger of the store. -/
def storeLogger : String := "graph_oauth.oauth.serializer"

/-- The logger of handles and requests. -/
def requestLogger : String := "graph_oauth.oauth.selector"

/-- The logger of tokens. -/
def tokenLogger : String := "graph_oauth.oauth.tokens"

end OAuthClient.Log
