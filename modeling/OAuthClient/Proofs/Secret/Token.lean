import OAuthClient.Proofs.Pkce
import OAuthClient.Proofs.Secret.Act
import OAuthClient.Proofs.Secret.Basic
import OAuthClient.Proofs.Token.Lifetime

/-!
# Tokens that differ in their secrets

Tokens are alike when they have the same lifetime and fields that differ in secret texts only; when they were issued and what else a
service sent along has no part in it. What is made from members that differ in secret texts is alike, and stays so when attributes
are set that do. The same goes for id tokens and for the values of a proof of possession.
-/

namespace OAuthClient

/-! ## Secret texts -/

/-- A hidden secret stays as it is when it is hidden again. -/
theorem hidden_hidden (v : String) : hidden (hidden v) = hidden v :=
  hidden_eq_hidden.mpr hidden_eq_empty

/-- A value under a name, hidden where it is a text and the name is that of a secret. -/
def hideValue (name : String) : Json → Json
  | .str s => .str (hideNamed name s)
  | v => v

/-- Under a name that is not that of a secret nothing is hidden. -/
theorem hideValue_of_notMem {name : String} (h : Parameter.secretWireNames.contains name = false) (v : Json) :
    hideValue name v = v := by
  cases v with
  | str s => rw [hideValue, hideNamed, h]; rfl
  | _ => rfl

/-- Only null is null when it is hidden. -/
theorem hideValue_eq_null {name : String} {v : Json} : hideValue name v = .null ↔ v = .null := by
  cases v <;> simp [hideValue]

/-- A member with its value hidden. -/
def hideMember (m : String × Json) : String × Json :=
  (m.1, hideValue m.1 m.2)

/-- The member with a name, hidden. -/
theorem find?_map_hideMember (name : String) (members : List (String × Json)) :
    Json.find? name (members.map hideMember) = (Json.find? name members).map (hideValue name) := by
  induction members with
  | nil => rfl
  | cons m members ih =>
    obtain ⟨n, v⟩ := m
    rw [List.map_cons, hideMember, Json.find?, Json.find?, ih]
    by_cases h : n = name
    · rw [if_pos h, if_pos h, h]
      rfl
    · rw [if_neg h, if_neg h]

namespace Token

/-! ## Tokens that are alike -/

/-- Two tokens have the same lifetime, the same methods and fields that differ in secret texts only. -/
structure Alike (t t' : Token) : Prop where
  values : ∀ f : Field, hideValue f.name (t.values f) = hideValue f.name (t'.values f)
  expiresIn : t.expiresIn = t'.expiresIn
  overridden : t.overridden = t'.overridden

instance : Std.Refl Alike := ⟨fun _ => ⟨fun _ => rfl, rfl, rfl⟩⟩

/-- The refresh tokens of tokens that are alike differ at most as secrets do. -/
theorem Alike.refreshToken? {t t' : Token} (h : t.Alike t') :
    t.refreshToken?.map hidden = t'.refreshToken?.map hidden := by
  have hshown (v : Json) : (if v.truthy then some v.display else none).map hidden =
      (if (hideValue "refresh_token" v).truthy then some (hideValue "refresh_token" v).display else none).map hidden := by
    cases v with
    | str s =>
      have hname : hideValue "refresh_token" (.str s) = .str (hidden s) := rfl
      rw [hname]
      by_cases hs : s = ""
      · subst hs
        rfl
      · have hne : hidden s ≠ "" := fun he => hs (hidden_eq_empty.mp he)
        simp [Json.truthy, Json.display, hs, hne, hidden_hidden]
    | _ => rfl
  have hvalue := h.values .refreshToken
  rw [Token.refreshToken?, Token.refreshToken?, hshown, hshown (t'.values .refreshToken)]
  exact congrArg (fun v : Json => (if v.truthy then some v.display else none).map hidden) hvalue

/-- Setting a field to values that differ in secret texts only keeps tokens alike. -/
theorem Alike.setField {t t' : Token} (h : t.Alike t') {f : Field} {v v' : Json}
    (hv : hideValue f.name v = hideValue f.name v') : (t.setField f v).Alike (t'.setField f v') := by
  refine ⟨fun g => ?_, h.expiresIn, h.overridden⟩
  rw [Token.setField, Token.setField]
  dsimp only
  split
  · next hg => rw [hg, hv]
  · exact h.values g

/-- Taking the time anew keeps tokens alike. -/
theorem alike_stamp (now : Instant) : Act.Alike Alike Eq Eq (stamp now) (stamp now) := by
  intro t t' h
  by_cases hin : Clock.InCalendar (now + t.expiresIn * Clock.perSecond)
  · rw [stamp_of_inCalendar hin, stamp_of_inCalendar (h.expiresIn ▸ hin)]
    exact ⟨rfl, ⟨h.values, h.expiresIn, h.overridden⟩, .ok rfl⟩
  · rw [stamp_of_beyond hin, stamp_of_beyond (h.expiresIn ▸ hin)]
    exact ⟨rfl, ⟨h.values, h.expiresIn, h.overridden⟩, .error rfl⟩

/-- Calling a method on tokens that are alike: both have it, or neither. -/
theorem alike_call {α : Type} {act : Act Token α} (h : Act.Alike Alike Eq Eq act act) (method : String) :
    Act.Alike Alike Eq Eq (call method act) (call method act) := by
  refine Act.Alike.get.bind fun t t' ht => ?_
  rw [ht.overridden]
  split
  · exact h
  · exact Act.Alike.fail rfl

/-- An attribute of the class is no secret. -/
theorem not_secret_of_isClassAttribute {name : String} (h : isClassAttribute name = true) :
    Parameter.secretWireNames.contains name = false := by
  rw [← Bool.not_eq_true]
  intro hmem
  have hall : ∀ secret ∈ Parameter.secretWireNames, isClassAttribute secret = false := by decide +kernel
  rw [hall name (List.contains_iff_mem.mp hmem)] at h
  cases h

/-- Setting an attribute to values that differ in secret texts only keeps tokens alike. -/
theorem alike_setAttribute {name : String} {v v' : Json} (hv : hideValue name v = hideValue name v') (now : Instant) :
    Act.Alike Alike Eq Eq (setAttribute now name v) (setAttribute now name v') := by
  -- a change that touches neither the fields nor the lifetime nor the methods
  have hkeep {f f' : Token → Token}
      (hf : ∀ t, (f t).values = t.values ∧ (f t).expiresIn = t.expiresIn ∧ (f t).overridden = t.overridden)
      (hf' : ∀ t, (f' t).values = t.values ∧ (f' t).expiresIn = t.expiresIn ∧ (f' t).overridden = t.overridden) :
      Act.Alike Alike Eq Eq (Act.modify f) (Act.modify f') :=
    Act.Alike.modify fun t t' h =>
      ⟨fun g => by rw [(hf t).1, (hf' t').1, h.values], by rw [(hf t).2.1, (hf' t').2.1, h.expiresIn],
        by rw [(hf t).2.2, (hf' t').2.2, h.overridden]⟩
  unfold setAttribute
  by_cases hlifetime : name = "expires_in"
  · subst hlifetime
    rw [hideValue_of_notMem (by decide), hideValue_of_notMem (by decide)] at hv
    rw [if_pos rfl, if_pos rfl, hv]
    refine Act.Alike.same_bind fun n => ?_
    refine Act.Alike.bind (Act.Alike.modify fun t t' h => ?_) fun _ _ _ => alike_call (alike_stamp now) _
    exact ⟨h.values, rfl, h.overridden⟩
  · rw [if_neg hlifetime, if_neg hlifetime]
    by_cases hfirst : name = "timestamp"
    · rw [if_pos hfirst, if_pos hfirst]
      exact hkeep (fun _ => ⟨rfl, rfl, rfl⟩) fun _ => ⟨rfl, rfl, rfl⟩
    rw [if_neg hfirst, if_neg hfirst]
    by_cases hlast : name = "expires_on"
    · rw [if_pos hlast, if_pos hlast]
      exact hkeep (fun _ => ⟨rfl, rfl, rfl⟩) fun _ => ⟨rfl, rfl, rfl⟩
    rw [if_neg hlast, if_neg hlast]
    cases hfield : Field.ofName? name with
    | some f =>
      have hfound := List.find?_some hfield
      have hname : f.name = name := of_decide_eq_true hfound
      exact Act.Alike.modify fun t t' h => h.setField (by rw [hname, hv])
    | none =>
      dsimp only
      by_cases hswitch : name = "_log_pii"
      · rw [if_pos hswitch, if_pos hswitch]
        exact hkeep (fun _ => ⟨rfl, rfl, rfl⟩) fun _ => ⟨rfl, rfl, rfl⟩
      rw [if_neg hswitch, if_neg hswitch]
      split
      · exact Act.Alike.fail rfl
      · split
        · next hclass =>
          have hsecret := not_secret_of_isClassAttribute hclass
          rw [hideValue_of_notMem hsecret, hideValue_of_notMem hsecret] at hv
          rw [hv]
          exact Act.Alike.modify fun t t' h => ⟨h.values, h.expiresIn, by rw [h.overridden]⟩
        · split
          · exact Act.Alike.pure rfl
          · exact hkeep (fun _ => ⟨rfl, rfl, rfl⟩) fun _ => ⟨rfl, rfl, rfl⟩

/-! ## Making tokens that are alike -/

/-- What is made of tokens that are alike is alike. -/
theorem alike_issue {t t' : Token} (h : t.Alike t') (now : Instant) : ResultAlike Eq Alike (issue now t) (issue now t') := by
  rw [issue_eq, issue_eq, h.expiresIn]
  split
  · exact .ok ⟨h.values, h.expiresIn, h.overridden⟩
  · exact .error rfl

section

variable {members members' : List (String × Json)} (h : members.map hideMember = members'.map hideMember)

include h

/-- The values under a name are the same when they are hidden. -/
theorem find?_alike (name : String) :
    (Json.find? name members).map (hideValue name) = (Json.find? name members').map (hideValue name) := by
  rw [← find?_map_hideMember, h, find?_map_hideMember]

/-- The values under a name that is not that of a secret are the same. -/
theorem find?_eq {name : String} (hname : Parameter.secretWireNames.contains name = false) :
    Json.find? name members = Json.find? name members' := by
  have hfound := find?_alike h name
  have hid : hideValue name = id := funext (hideValue_of_notMem hname)
  rwa [hid, Option.map_id_fun, id, id] at hfound

/-- The values of a field are the same when they are hidden. -/
theorem given_alike (f : Field) : hideValue f.name (given members f) = hideValue f.name (given members' f) := by
  have hgetD (o : Option Json) : hideValue f.name (o.getD f.default) =
      (o.map (hideValue f.name)).getD (hideValue f.name f.default) := by
    cases o <;> rfl
  rw [given, given, hgetD, hgetD, find?_alike h]

/-- The same required fields are missing. -/
theorem missingNames_alike : missingNames members = missingNames members' := by
  unfold missingNames
  congr 1
  funext name
  have hnull (o : Option Json) : (o.getD .null = .null) ↔ ((o.map (hideValue name)).getD .null = .null) := by
    cases o with
    | none => simp
    | some v => simp [hideValue_eq_null]
  rw [decide_eq_decide, hnull, hnull (Json.find? name members'), find?_alike h]

/-- The same fields are no texts. -/
theorem textIssues_alike (f : Field) (required : Bool) : textIssues members f required = textIssues members' f required := by
  have hgiven := given_alike h f
  unfold textIssues
  generalize given members f = v at hgiven ⊢
  generalize given members' f = v' at hgiven ⊢
  -- a hidden value is of the kind that it was, so equal ones are of one kind
  cases v with
  | str _ =>
    cases v' with
    | str _ => rfl
    | _ => cases hgiven
  | _ =>
    cases v' with
    | str _ => cases hgiven
    | _ => cases hgiven <;> rfl

/-- What members describe that differ in secret texts only are the same issues, or tokens that are alike. -/
theorem ofMembers_alike :
    (∃ issues, ofMembers members = .error issues ∧ ofMembers members' = .error issues) ∨
      ∃ t t', ofMembers members = .ok t ∧ ofMembers members' = .ok t' ∧ t.Alike t' := by
  have hgiven {f : Field} (hf : Parameter.secretWireNames.contains f.name = false) : given members f = given members' f := by
    rw [given, given, find?_eq h hf]
  have hmoment {name : String} (hname : Parameter.secretWireNames.contains name = false) :
      momentIssues members name = momentIssues members' name := by
    rw [momentIssues, momentIssues, find?_eq h hname]
  have hread {α : Type} {name : String} (hname : Parameter.secretWireNames.contains name = false) (default : α)
      (read : Json → Except Validation.Problem α) :
      Validation.readField name members default read = Validation.readField name members' default read := by
    rw [Validation.readField, Validation.readField, find?_eq h hname]
  unfold ofMembers
  dsimp only
  simp only [textIssues_alike h, hmoment (show Parameter.secretWireNames.contains "timestamp" = false by decide),
    hmoment (show Parameter.secretWireNames.contains "expires_on" = false by decide),
    hread (show Parameter.secretWireNames.contains "expires_in" = false by decide),
    hread (show Parameter.secretWireNames.contains "ext_expires_in" = false by decide),
    hgiven (f := Field.scope) (by decide)]
  split
  · next lifetime extLifetime scopes _ _ _ _ =>
    refine Or.inr ⟨_, _, rfl, rfl, fun f => ?_, rfl, rfl⟩
    cases f with
    | extExpiresIn => rfl
    | scope => rfl
    | _ => exact given_alike h _
  · exact Or.inl ⟨_, rfl, rfl⟩

/-- Members that differ in secret texts only are no response for the same reason, or describe tokens that are alike. -/
theorem draftOfJson_alike : ResultAlike Eq Alike (draftOfJson (.obj members)) (draftOfJson (.obj members')) := by
  show ResultAlike Eq Alike (draftOfResponseMembers members) (draftOfResponseMembers members')
  unfold draftOfResponseMembers
  rw [missingNames_alike h]
  cases missingNames members' with
  | cons name names => exact .error rfl
  | nil =>
    rcases ofMembers_alike h with ⟨issues, hissues, hissues'⟩ | ⟨t, t', ht, ht', halike⟩
    · rw [hissues, hissues']
      exact .error rfl
    · rw [ht, ht']
      exact .ok halike

end

/-- Values that describe tokens that are alike, or none, make tokens that are alike, or none. -/
theorem alike_ofJson {data data' : Json} (h : ResultAlike Whatever Alike (draftOfJson data) (draftOfJson data'))
    (now : Instant) : ResultAlike Whatever Alike (ofJson now data) (ofJson now data') := by
  rw [ofJson_eq, ofJson_eq]
  exact h.bind fun t t' ht => (alike_issue ht now).anyFault

end Token

/-- Two id tokens differ in the code and in the id token itself only. What was sent along besides has no part in it. -/
structure IdToken.Alike (t t' : IdToken) : Prop where
  code : t.code.map hidden = t'.code.map hidden
  idToken : hidden t.idToken = hidden t'.idToken
  state : t.state = t'.state
  sessionState : t.sessionState = t'.sessionState

namespace IdToken

open OAuthClient.Validation

instance : Std.Refl Alike := ⟨fun _ => ⟨rfl, rfl, rfl, rfl⟩⟩

/-- Reading a field and hiding what was read is reading the field of the members with their values hidden. -/
theorem readField_map_hide {α : Type} {name : String} {read : Json → Except Problem α} {hide : α → α}
    (hread : ∀ v, (read v).map hide = read (hideValue name v)) {default : α} (hdefault : hide default = default)
    (members : List (String × Json)) :
    (readField name members default read).map hide = readField name (members.map hideMember) default read := by
  rw [readField, readField, find?_map_hideMember]
  cases Json.find? name members with
  | none =>
    dsimp only [Option.map_none, Except.map]
    rw [hdefault]
  | some v =>
    dsimp only [Option.map_some]
    rw [← hread v]
    cases read v <;> rfl

/-- Results that are the same after a change are the same failure, or values that are the same after the change. -/
theorem cases_of_map_eq {ε α β : Type} {result result' : Except ε α} {g : α → β} (h : result.map g = result'.map g) :
    (∃ e, result = .error e ∧ result' = .error e) ∨ ∃ a a', result = .ok a ∧ result' = .ok a' ∧ g a = g a' := by
  cases result with
  | ok a =>
    obtain ⟨a', hresult, ha⟩ := Act.exists_of_map_ok h.symm
    exact Or.inr ⟨a, a', rfl, hresult, ha.symm⟩
  | error e =>
    cases result' with
    | ok a' => cases h
    | error e' =>
      cases h
      exact Or.inl ⟨e, rfl, rfl⟩

/-- What members describe that differ in secret texts only are id tokens that are alike, or none. -/
theorem alike_ofMembers {members members' : List (String × Json)} (h : members.map hideMember = members'.map hideMember) :
    ResultAlike Whatever Alike ((ofMembers members).mapError Fault.fields) ((ofMembers members').mapError Fault.fields) := by
  have hcode : (readField "code" members none textOrNull).map (Option.map hidden) =
      (readField "code" members' none textOrNull).map (Option.map hidden) := by
    have hread (v : Json) : (textOrNull v).map (Option.map hidden) = textOrNull (hideValue "code" v) := by
      cases v <;> rfl
    rw [readField_map_hide hread rfl, readField_map_hide hread rfl, h]
  have htoken : (readField "id_token" members "" text).map hidden = (readField "id_token" members' "" text).map hidden := by
    have hread (v : Json) : (text v).map hidden = text (hideValue "id_token" v) := by
      cases v <;> rfl
    rw [readField_map_hide hread rfl, readField_map_hide hread rfl, h]
  have hplain (name : String) (hname : Parameter.secretWireNames.contains name = false) :
      readField name members none textOrNull = readField name members' none textOrNull := by
    rw [readField, readField, Token.find?_eq h hname]
  unfold ofMembers
  rw [hplain "state" (by decide), hplain "session_state" (by decide)]
  rcases cases_of_map_eq hcode with ⟨issues, hc, hc'⟩ | ⟨code, code', hc, hc', hcode⟩
  · rw [hc, hc']
    exact .error trivial
  rcases cases_of_map_eq htoken with ⟨issues, ht, ht'⟩ | ⟨token, token', ht, ht', htoken⟩
  · rw [hc, hc', ht, ht']
    exact .error trivial
  rw [hc, hc', ht, ht']
  cases readField "state" members' none textOrNull with
  | error _ => exact .error trivial
  | ok state =>
    cases readField "session_state" members' none textOrNull with
    | error _ => exact .error trivial
    | ok sessionState => exact .ok ⟨hcode, htoken, rfl, rfl⟩

/-- Id tokens that are made from values of which the id token and the code differ in secret texts. -/
theorem alike_ofValues {idToken idToken' code code' : Json} (htoken : hideValue "id_token" idToken = hideValue "id_token" idToken')
    (hcode : hideValue "code" code = hideValue "code" code') (state sessionState : Json) :
    ResultAlike Whatever Alike (ofSource (.values idToken code state sessionState))
      (ofSource (.values idToken' code' state sessionState)) := by
  refine alike_ofMembers ?_
  simp only [List.map_cons, hideMember, htoken, hcode]

end IdToken

/-! ## Proofs of possession -/

/-- A challenge is never empty. -/
theorem Pkce.challengeOf_ne_empty (verifier : String) : Pkce.challengeOf verifier ≠ "" := by
  intro h
  rw [challengeOf, String.ofList_eq_empty_iff, Base64Url.encode_eq_nil] at h
  have hlength := Sha256.length_digest (Text.Utf8.encode verifier.toList)
  rw [h] at hlength
  cases hlength

/-- Whatever octets are drawn, the verifiers and the challenges differ as secrets do, as long as octets are drawn at all or not. -/
theorem Pkce.alike_ofOctets {octets octets' : List UInt8} (h : octets = [] ↔ octets' = []) :
    hidden (ofOctets octets).verifier = hidden (ofOctets octets').verifier ∧
      hidden (ofOctets octets).challenge = hidden (ofOctets octets').challenge := by
  have hverifier (octets : List UInt8) : (ofOctets octets).verifier = "" ↔ octets = [] := by
    rw [ofOctets, String.ofList_eq_empty_iff, Base64Url.encode_eq_nil]
  constructor
  · rw [hidden_eq_hidden, hverifier, hverifier, h]
  · rw [hidden_eq_hidden]
    exact iff_of_false (challengeOf_ne_empty _) (challengeOf_ne_empty _)

end OAuthClient
