import OAuthClient.Grant.Basic
import OAuthClient.Text.Encoding
import OAuthClient.Text.Template
import OAuthClient.Uri.Reference
import OAuthClient.Validation.Issue

/-!
# Failures

The failures that the library itself reports form a small tree of kinds, and a caller who handles one kind handles all below
it. A failure may have a cause outside the library. Whatever else goes wrong, from an unknown name to a date beyond the
calendar, is a fault but no failure of this tree, and passes by those who handle failures.
-/

namespace OAuthClient

/-- A kind of failure. -/
inductive Kind where
  | general
  | configuration
  | invalidUrl
  | missing
  | exclusive
  | unsupported
  | transport
  | malformed
  | browser
  deriving DecidableEq, Repr

namespace Kind

/-- The kinds. -/
def all : List Kind :=
  [.general, .configuration, .invalidUrl, .missing, .exclusive, .unsupported, .transport, .malformed, .browser]

/-- The name of a kind. -/
def name : Kind → String
  | .general => "OAuthError"
  | .configuration => "ConfigurationError"
  | .invalidUrl => "InvalidUrlError"
  | .missing => "RequiredParameterMissingError"
  | .exclusive => "MutuallyExclusiveParametersError"
  | .unsupported => "GrantNotSupportedError"
  | .transport => "TransportError"
  | .malformed => "DeserializationError"
  | .browser => "BrowserLaunchError"

/-- The kinds above a kind, from itself up to the most general one. -/
def ancestors : Kind → List Kind
  | .general => [.general]
  | .configuration => [.configuration, .general]
  | .invalidUrl => [.invalidUrl, .configuration, .general]
  | .missing => [.missing, .general]
  | .exclusive => [.exclusive, .missing, .general]
  | .unsupported => [.unsupported, .general]
  | .transport => [.transport, .general]
  | .malformed => [.malformed, .general]
  | .browser => [.browser, .general]

end Kind

/-- Something outside the library that failed: in which way, and with what message. -/
structure OutsideFault where
  name : String
  message : String
  deriving DecidableEq, Repr

/-- What failed outside the library goes by the name of the way in which it failed. -/
instance : Coe OutsideFault String := ⟨OutsideFault.name⟩

/-- What outside the library made an operation fail. -/
inductive Cause where
  /-- The text is no URL. -/
  | url (flaw : Uri.ReferenceFlaw)
  /-- The text is not JSON. -/
  | json
  /-- The octets are no text. -/
  | encoding
  /-- A value is out of its range or form. -/
  | value
  /-- Fields of a record are faulty. -/
  | fields (issues : List Validation.Issue)
  /-- The exchange over the network failed. -/
  | network (fault : OutsideFault)
  deriving DecidableEq, Repr

/-- A failure that the library reports. -/
inductive Failure where
  | general (message : String)
  | configuration (message : String)
  | invalidUrl (parameter : String) (value : String) (cause : Option Cause)
  | missing (field : String) (note : Option String)
  | exclusive (first : String) (second : String)
  | unsupported (grant : String) (phase : String) (reason : String)
  | transport (message : String) (status : Option Int) (error : Json) (description : Json) (cause : Option Cause)
  | malformed (message : String) (cause : Option Cause)
  | browser (uri : String)
  deriving DecidableEq, Repr

namespace Failure

/-- The kind of a failure. -/
def kind : Failure → Kind
  | .general .. => .general
  | .configuration .. => .configuration
  | .invalidUrl .. => .invalidUrl
  | .missing .. => .missing
  | .exclusive .. => .exclusive
  | .unsupported .. => .unsupported
  | .transport .. => .transport
  | .malformed .. => .malformed
  | .browser .. => .browser

/-- The cause of a failure. -/
def cause : Failure → Option Cause
  | .invalidUrl _ _ c => c
  | .transport _ _ _ _ c => c
  | .malformed _ c => c
  | _ => none

/-- What an exclusive pair is called where one name is expected. -/
def pairName (first second : String) : String :=
  first ++ " or " ++ second

/-- Why a pair cannot be combined. -/
def pairNote (first second : String) : String :=
  first ++ " and " ++ second ++ " are mutually exclusive - choose one or the other"

/-- The message for a missing parameter. An empty note counts as none. -/
def missingMessage (field : String) (note : Option String) : String :=
  let detail := "missing required field `" ++ field ++ "`"
  match note with
  | none => detail
  | some note => if note = "" then detail else detail ++ ": " ++ note

/-- The message of a failure. -/
def message : Failure → String
  | .general message => message
  | .configuration message => message
  | .invalidUrl parameter value _ => "Invalid URL for '" ++ parameter ++ "': " ++ Text.quoted value
  | .missing field note => missingMessage field note
  | .exclusive first second => missingMessage (pairName first second) (some (pairNote first second))
  | .unsupported grant phase reason => grant ++ " does not support " ++ phase ++ " requests: " ++ reason
  | .transport message .. => message
  | .malformed message _ => message
  | .browser _ => "Unable to open a browser for the authorization request"

/-- An optional text as a value. -/
def optional (s : Option String) : Json :=
  s.elim .null .str

/-- The attributes of a failure, by name. -/
def attributes : Failure → List (String × Json)
  | .invalidUrl parameter value _ => [("parameter", .str parameter), ("value", .str value)]
  | .missing field note => [("alias", .str field), ("message", optional note)]
  | .exclusive first second =>
    [("alias", .str (pairName first second)), ("message", .str (pairNote first second)), ("first", .str first),
      ("second", .str second)]
  | .unsupported grant phase _ => [("grant", .str grant), ("request", .str phase)]
  | .transport _ status error description _ =>
    [("status_code", status.elim .null .int), ("error", error), ("error_description", description)]
  | .browser uri => [("uri", .str uri)]
  | _ => []

end Failure

/-- Why an operation is not defined for the kinds of its operands. -/
inductive OperandFault where
  | subtract (left right : String)
  | less (left right : String)
  /-- A value of this kind stands where something is called. -/
  | call (kind : String)
  deriving DecidableEq, Repr

/-- Anything that ends an operation without a result. -/
inductive Fault where
  /-- A failure that the library reports. -/
  | failure (f : Failure)
  /-- No parameter has this name on the wire. -/
  | unknownParameter (wireName : String)
  /-- Nothing is kept under this name. -/
  | unknownName (name : String)
  /-- A value is none of a closed list, and of which. -/
  | notChoice (value : Json) (list : String)
  /-- A URL cannot be cut into its parts. -/
  | uri (flaw : Uri.SplitFlaw)
  /-- A text is no whole number. -/
  | number (text : String) (flaw : Integer.Flaw)
  /-- A lifetime is no whole number. -/
  | lifetime (kind : String)
  /-- A value of this kind has no items. -/
  | items (kind : String)
  /-- An operation is not defined for the kinds of its operands. -/
  | operands (fault : OperandFault)
  /-- A message does not fit its arguments. -/
  | template (flaw : Template.Flaw)
  /-- The thing at hand has no operation or attribute of this name. -/
  | unknownOperation
  /-- A date or a length of time is beyond the calendar. -/
  | beyondCalendar
  /-- Octets are no text. -/
  | octets
  /-- Fields of a record are faulty. -/
  | fields (issues : List Validation.Issue)
  /-- Something outside the library failed in a way that the library does not handle. -/
  | outside (fault : OutsideFault)
  /-- What is left of a URL names no host to send to. -/
  | noHost (target : String)
  deriving DecidableEq, Repr

namespace Fault

/-- The exchange over the network failed in a way that the library does not handle. -/
@[match_pattern] abbrev network (fault : OutsideFault) : Fault :=
  .outside fault

/-- A JSON text is nested deeper than the stack has room for. -/
def tooDeep : Fault :=
  .outside ⟨"RecursionError", "maximum recursion depth exceeded"⟩

/-- The message of a fault, where it has one that is meant for readers. -/
def message? : Fault → Option String
  | .failure f => some f.message
  | .unknownParameter wireName => some ("Unknown OAuth parameter: " ++ wireName)
  | .unknownName name => some name
  | .notChoice value list => some (value.inspect ++ " is not a valid " ++ list)
  | .uri flaw => some flaw.message
  | .number text flaw => some (flaw.message text)
  | .lifetime kind => some ("expires_in must be an integer, got " ++ kind)
  | .items kind => some ("'" ++ kind ++ "' object is not iterable")
  | .operands (.subtract left right) =>
    some ("unsupported operand type(s) for -: '" ++ left ++ "' and '" ++ right ++ "'")
  | .operands (.less left right) => some ("'<' not supported between instances of '" ++ left ++ "' and '" ++ right ++ "'")
  | .operands (.call kind) => some ("'" ++ kind ++ "' object is not callable")
  | .template .tooLarge => none
  | .template flaw => some flaw.message
  | .noHost target => some ("unknown url type: " ++ Text.quoted target)
  | _ => none

end Fault

instance : Coe Failure Fault := ⟨.failure⟩

end OAuthClient
