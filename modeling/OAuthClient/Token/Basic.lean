import OAuthClient.Act
import OAuthClient.Clock
import OAuthClient.IdToken

/-!
# Tokens

The answer of a token endpoint. The time of issue is taken from the local clock when a token is made and whenever its lifetime is
set, and the time of expiry is derived from it. All other fields can be set to any value, as the service or the caller gives it.
-/

namespace OAuthClient

namespace Token

/-- A field of a token that holds whatever value it was given. -/
inductive Field where
  | accessToken
  | tokenType
  | extExpiresIn
  | scope
  | refreshToken
  | userId
  | idToken
  | state
  | correlationId
  | clientInfo
  deriving DecidableEq, Repr

namespace Field

/-- The fields in the order in which they are declared. -/
def all : List Field :=
  [.accessToken, .tokenType, .extExpiresIn, .scope, .refreshToken, .userId, .idToken, .state, .correlationId, .clientInfo]

/-- The name of a field. -/
def name : Field → String
  | .accessToken => "access_token"
  | .tokenType => "token_type"
  | .extExpiresIn => "ext_expires_in"
  | .scope => "scope"
  | .refreshToken => "refresh_token"
  | .userId => "user_id"
  | .idToken => "id_token"
  | .state => "state"
  | .correlationId => "correlation_id"
  | .clientInfo => "client_info"

/-- The field with a name. -/
def ofName? (name : String) : Option Field :=
  all.find? (·.name = name)

/-- The value of a field that was not given. -/
def default : Field → Json
  | .accessToken => .str ""
  | .tokenType => .str ""
  | .scope => .arr []
  | _ => .null

/-- Whether a field is hidden in descriptions unless secrets are shown. -/
def isSecret : Field → Bool
  | .accessToken | .refreshToken | .idToken => true
  | _ => false

end Field

/-- The value of a time field: an instant of the clock, or a value that a caller put in its place, null for none. -/
inductive Moment where
  | instant (t : Instant)
  | value (v : Json)
  deriving DecidableEq

/-- The name of the kind of value that a time field has. -/
def Moment.kindName : Moment → String
  | .instant _ => "datetime.datetime"
  | .value v => v.kindName

end Token

/-- A token response. -/
structure Token where
  values : Token.Field → Json
  /-- The lifetime in seconds. -/
  expiresIn : Int
  /-- The time of issue. -/
  timestamp : Token.Moment
  /-- The time of expiry. -/
  expiresOn : Token.Moment
  /-- The fields without a place of their own, in order. -/
  extra : List (String × Json)
  /-- The values that stand in the place of attributes of the class, by name. -/
  overridden : List (String × Json) := []
  /-- Whether descriptions show the secrets. -/
  showSecrets : Bool := false

namespace Token

/-- The token with a field set. -/
def setField (field : Field) (v : Json) (t : Token) : Token :=
  { t with values := fun f => if f = field then v else t.values f }

/-! ## Time -/

/-- Takes the time of issue from the clock and derives the time of expiry. When that is beyond the calendar the time of expiry
stays. -/
def stamp (now : Instant) : Act Token Unit := do
  Act.modify fun t => { t with timestamp := .instant now }
  let t ← Act.get
  match Clock.after? now t.expiresIn with
  | some u => Act.modify fun t => { t with expiresOn := .instant u }
  | none => Act.fail .beyondCalendar

/-- A value as a lifetime: a text is read as a whole number, and anything but a whole number is refused. -/
def lifetimeOf : Json → Except Fault Int
  | .int n => .ok n
  | .str s => ofText s
  | .illFormed codes => ofText (Json.textOf codes)
  | v => .error (.lifetime v.kindName)
where
  /-- A lifetime in a text. -/
  ofText (s : String) : Except Fault Int :=
    match Integer.read (Text.trim Text.isBlank s.toList) with
    | .ok n => .ok n
    | .error flaw => .error (.number (Text.strip s) flaw)

/-! ## Attributes -/

/-- Calls a method by name. A value that a caller put in its place cannot be called. -/
def call {α : Type} (method : String) (act : Act Token α) : Act Token α := do
  let t ← Act.get
  match Json.find? method t.overridden with
  | none => act
  | some v => Act.fail (.operands (.call v.kindName))

/-- Nothing stands in the place of a method. -/
def Has (method : String) (t : Token) : Prop :=
  Json.find? method t.overridden = none

instance (method : String) (t : Token) : Decidable (t.Has method) := inferInstanceAs (Decidable (_ = none))

/-- A method that is there is done. -/
theorem call_of_has {α : Type} {method : String} {t : Token} (h : t.Has method) (act : Act Token α) : call method act t = act t := by
  have h : Json.find? method t.overridden = none := h
  show (match Json.find? method t.overridden with | none => act | some v => Act.fail (.operands (.call v.kindName))) t = _
  rw [h]

/-- What stands in the place of a method is not called, and nothing changes. -/
theorem call_of_not_has {α : Type} {method : String} {t : Token} (h : ¬ t.Has method) :
    ∃ kind, ∀ act : Act Token α, call method act t = ⟨.error (.operands (.call kind)), t, []⟩ := by
  obtain ⟨v, hv⟩ := Option.ne_none_iff_exists'.mp h
  refine ⟨v.kindName, fun act => ?_⟩
  show (match Json.find? method t.overridden with | none => act | some v => Act.fail (.operands (.call v.kindName))) t = _
  rw [hv]
  rfl

/-- A token of which nothing is overridden has every method. -/
theorem has_of_overridden {t : Token} (h : t.overridden = []) (method : String) : t.Has method := by
  rw [Has, h]
  rfl

/-- Sets the lifetime and starts it anew. -/
def setLifetime (now : Instant) (v : Json) : Act Token Unit := do
  let n ← Act.ofExcept (lifetimeOf v)
  Act.modify fun t => { t with expiresIn := n }
  call "gen_timestamp" (stamp now)

/-- Whether a name is that of a read-only property of tokens. -/
def isProperty (name : String) : Bool :=
  ["additional_fields", "model_extra", "model_fields_set"].contains name

/-- The names of the attributes of the class that are no fields. -/
def classNames : List String :=
  ["new", "from_dict", "from_json", "from_response", "with_token_type", "with_expires_in", "with_scope", "with_access_token",
    "with_refresh_token", "with_user_id", "with_id_token", "with_state", "enable_pii_logging", "gen_timestamp", "bearer_token",
    "parse_id_token", "is_expired", "elapsed", "time_until_expiry", "split_scope", "coerce_expires_in", "construct", "copy", "dict",
    "from_orm", "json", "model_computed_fields", "model_config", "model_construct", "model_copy", "model_dump", "model_dump_json",
    "model_fields", "model_json_schema", "model_parametrized_name", "model_post_init", "model_rebuild", "model_validate",
    "model_validate_json", "model_validate_strings", "mro", "parse_file", "parse_obj", "parse_raw", "register", "schema",
    "schema_json", "update_forward_refs", "validate", "_abc_caches_clear", "_abc_impl", "_abc_registry_clear", "_calculate_keys",
    "_collect_bases_data", "_copy_and_set_values", "_dump_registry", "_get_value", "_iter", "_setattr_handler"]

/-- Whether a name is that of an attribute of the class that is no field. Names that begin with two underscores are those that the
language uses. -/
def isClassAttribute (name : String) : Bool :=
  name.startsWith "__" || classNames.contains name

/-- Sets an attribute by name. Only the lifetime is checked. A value for an attribute of the class stands in its place from then
on. Any other name without a field of its own becomes an extra field, unless it begins with an underscore: then it is no field, and
one such name is the switch that shows the secrets. -/
def setAttribute (now : Instant) (name : String) (v : Json) : Act Token Unit :=
  if name = "expires_in" then setLifetime now v
  else if name = "timestamp" then Act.modify fun t => { t with timestamp := .value v }
  else if name = "expires_on" then Act.modify fun t => { t with expiresOn := .value v }
  else match Field.ofName? name with
    | some field => Act.modify (setField field v)
    | none =>
      if name = "_log_pii" then Act.modify fun t => { t with showSecrets := v.truthy }
      else if isProperty name then Act.fail .unknownOperation
      else if isClassAttribute name then Act.modify fun t => { t with overridden := Json.put name v t.overridden }
      else if name.startsWith "_" then Act.pure ()
      else Act.modify fun t => { t with extra := Json.put name v t.extra }

/-! ## Looking at the times -/

/-- Whether the time of expiry is past. A token without one never expires. -/
def isExpired (now : Instant) (t : Token) : Except Fault Bool :=
  match t.expiresOn with
  | .value .null => .ok false
  | .instant u => .ok (u < now)
  | m => .error (.operands (.less m.kindName "datetime.datetime"))

/-- The whole lifetime: the time of expiry less the time of issue. -/
def elapsed (t : Token) : Except Fault (Option Duration) :=
  match t.expiresOn, t.timestamp with
  | .value .null, _ => .ok none
  | _, .value .null => .ok none
  | .instant u, .instant s => .ok (some (u - s))
  | u, s => .error (.operands (.subtract u.kindName s.kindName))

/-- The time left until the token expires, which is negative afterwards. -/
def timeLeft (now : Instant) (t : Token) : Except Fault (Option Duration) :=
  match t.expiresOn with
  | .value .null => .ok none
  | .instant u => .ok (some (u - now))
  | m => .error (.operands (.subtract m.kindName "datetime.datetime"))

/-! ## Parts -/

/-- The refresh token, where the token has one that is not empty. -/
def refreshToken? (t : Token) : Option String :=
  let v := t.values .refreshToken
  if v.truthy then some v.display else none

/-- The id token inside a token, read when the stack has room for so many levels. -/
def readIdToken (t : Token) (room : Nat) : Except Fault (Option IdToken) :=
  match t.values .idToken with
  | .null => .ok none
  | .str s => (IdToken.ofText s room).map some
  | _ => .error .unknownOperation

/-! ## Description -/

/-- What a description shows in the place of a secret. -/
def secretHint : String :=
  redactedPlaceholder ++ " - call enable_pii_logging(True) to log value"

/-- An instant in a description: its date and time, without the smallest units that are zero. -/
def instantText (t : Instant) : String :=
  let c := Clock.calendar t
  let small := if c.microsecond ≠ 0 then [c.second, c.microsecond] else if c.second ≠ 0 then [c.second] else []
  let parts := toString c.year :: ([c.month, c.day, c.hour, c.minute] ++ small).map fun n => toString n
  "datetime.datetime(" ++ ", ".intercalate parts ++ ", tzinfo=datetime.timezone.utc)"

/-- The value of a time field in a description. -/
def Moment.inspect : Moment → String
  | .instant t => instantText t
  | .value v => v.inspect

/-- A field by name, as a description shows it. -/
def shownField (t : Token) (f : Field) : String × String :=
  (f.name, if f.isSecret && !t.showSecrets then Text.quoted secretHint else (t.values f).inspect)

/-- The fields by name, in the order in which a description shows them. -/
def shownFields (t : Token) : List (String × String) :=
  [t.shownField .accessToken, t.shownField .tokenType, ("expires_in", toString t.expiresIn), t.shownField .extExpiresIn,
    t.shownField .scope, t.shownField .refreshToken, t.shownField .userId, t.shownField .idToken, t.shownField .state,
    t.shownField .correlationId, t.shownField .clientInfo, ("timestamp", t.timestamp.inspect),
    ("expires_on", t.expiresOn.inspect)] ++
    t.extra.map fun (n, v) => (n, v.inspect)

/-- The description of a token. -/
def describe (t : Token) : String :=
  Text.description "MsalToken" t.shownFields

/-- The fields of a token as a text. -/
def summary (t : Token) : String :=
  Text.fieldTexts " " t.shownFields

end Token

end OAuthClient
