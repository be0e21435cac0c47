import OAuthClient.Proofs.Credential.Form
import OAuthClient.Proofs.Store.Scopes

/-!
# What a credential is refused for

A credential either redeems a code or asks for a fresh token. With both a code and a refresh token there is no telling which, and it is
refused for that before anything else; otherwise it is refused for the first value that it needs and that is blank. A credential that is
not refused has a form of one kind, without a field of the other. Its request never fails to be there: it carries what the URL or the form
was refused for.
-/

namespace OAuthClient

open Credential

namespace CodeCredential

/-! ## What a credential needs -/

/-- A value that a credential needs: the name and the note under which it is reported. -/
structure Need where
  name : String
  value : Option String
  note : Option String := none

/-- What a credential needs, in the order in which it is asked for. With neither a code nor a refresh token it needs a value that it
does not have. -/
def needs (c : CodeCredential) : List Need :=
  [⟨"client_id", c.clientId, none⟩, ⟨"client_secret", c.clientSecret, none⟩] ++
    if c.refreshToken.isSome then [⟨"refresh_token", c.refreshToken, some eitherNote⟩]
    else if c.authorizationCode.isSome then [⟨"code", c.authorizationCode, some eitherNote⟩, ⟨"redirect_uri", c.redirectUri, none⟩]
    else [⟨"code or refresh_token", none, some eitherNote⟩]

/-- The first value that a credential needs and that is blank. -/
def lacking? (c : CodeCredential) : Option Need :=
  c.needs.find? fun need => isBlank need.value

/-- What the form of a credential is refused for. -/
def refusal? (c : CodeCredential) : Option Failure :=
  if c.authorizationCode.isSome && c.refreshToken.isSome then some (.exclusive "code" "refresh_token")
  else c.lacking?.map fun need => .missing need.name need.note

/-- The scopes of a credential as they are sent, where it has some. -/
def sentScope (c : CodeCredential) : Option String :=
  if c.scopes = [] then none else some ((Scopes.empty.insertAll c.scopes).join " ")

/-- The fields of a credential, in order, with those that are not there. -/
def slots (c : CodeCredential) : List (Parameter × Option String) :=
  [(.clientId, c.clientId), (.clientSecret, c.clientSecret)] ++
    if c.refreshToken.isSome then
      [(.refreshToken, c.refreshToken), (.grantType, some "refresh_token"), (.scope, c.sentScope)]
    else [(.redirectUri, c.redirectUri), (.authorizationCode, c.authorizationCode), (.grantType, some "authorization_code"),
      (.scope, c.sentScope), (.codeVerifier, c.codeVerifier.filter (· ≠ ""))]

/-- The fields of a credential. -/
def fields (c : CodeCredential) : List (String × String) :=
  c.slots.filterMap fun slot => slot.2.map (slot.1.wireName, ·)

/-! ## The form -/

variable {σ : Type} {c : CodeCredential}

/-- The store in which a credential is known, with nothing that it redeems. -/
def known (c : CodeCredential) : Store Token :=
  (Item.scopes c.scopes).write ((Item.value .clientSecret c.clientSecret).write ((Item.value .clientId c.clientId).write .empty))

/-- What is built once a credential is known. -/
def redeem (c : CodeCredential) : Act (Store Token) (List (String × String)) :=
  if c.refreshToken.isSome then c.refreshForm
  else if c.authorizationCode.isSome then c.codeForm
  else Act.fail (.failure (.missing "code or refresh_token" (some eitherNote)))

/-- A credential is known before it is redeemed. -/
theorem form_eq (c : CodeCredential) (t : σ) : (c.form t).result =
    if c.authorizationCode.isSome && c.refreshToken.isSome then .error (.failure (.exclusive "code" "refresh_token"))
    else if isBlank c.clientId then .error (.failure (.missing "client_id" none))
    else if isBlank c.clientSecret then .error (.failure (.missing "client_secret" none))
    else (c.redeem c.known).result := by
  rw [form, onFresh]
  split
  · rfl
  dsimp only
  rw [result_insertRequired (by decide) rfl]
  split
  · rfl
  rw [result_insertRequired (by decide) rfl]
  split
  · rfl
  rw [Act.result_behind]
  rfl

/-- A store that has the fields of a credential available gives its form. -/
theorem formParams_of_slots {s : Store Token} {required optional : List Parameter} (hnodup : (required ++ optional).Nodup)
    (hrefresh : Parameter.refreshToken ∉ optional) (hslots : c.slots = (required ++ optional).map fun p => (p, s.available? true p))
    (h : ∀ p ∈ required, s.available? true p ≠ none) : s.formParams required optional = .ok c.fields := by
  refine (Store.formParams_eq_ok_iff hnodup hrefresh).mpr ⟨?_, h⟩
  rw [fields, hslots, List.filterMap_map]
  rfl

/-- The scopes of a credential that is known are available as they are sent. -/
theorem available?_known (c : CodeCredential) : c.known.available? true .scope = c.sentScope := by
  have hempty : (Scopes.empty.insertAll c.scopes).toList = [] ↔ c.scopes = [] := by
    rw [List.eq_nil_iff_forall_not_mem, List.eq_nil_iff_forall_not_mem]
    refine forall_congr' fun x => not_congr ?_
    rw [Scopes.mem_insertAll]
    exact or_iff_left List.not_mem_nil
  have hscopes : c.known.scopes = Scopes.empty.insertAll c.scopes := by
    rw [known]
    cases c.clientId <;> cases c.clientSecret <;> rfl
  simp only [Store.available?, hscopes, hempty, sentScope]
  rfl

/-- A value that is not blank is not empty. -/
theorem ne_empty_of_not_isBlank {v : String} (h : isBlank (some v) = false) : v ≠ "" := by
  rintro rfl
  cases h

/-- The form for a fresh token. -/
theorem refreshForm_result (hid : isBlank c.clientId = false) (hsecret : isBlank c.clientSecret = false)
    (hrefresh : c.refreshToken.isSome) : (c.refreshForm c.known).result =
      if isBlank c.refreshToken then .error (.failure (.missing "refresh_token" (some eitherNote))) else .ok c.fields := by
  rw [refreshForm, result_insertRequired (by decide) rfl]
  split
  · rfl
  next hblank =>
  obtain ⟨id, hid'⟩ := exists_of_not_isBlank hid
  obtain ⟨secret, hsecret'⟩ := exists_of_not_isBlank hsecret
  obtain ⟨v, hv⟩ := Option.isSome_iff_exists.mp hrefresh
  have hfilter : (some v).filter (· ≠ "") = some v := by
    rw [hv, Bool.not_eq_true] at hblank
    exact Option.filter_eq_some_iff.mpr ⟨rfl, by simpa using ne_empty_of_not_isBlank hblank⟩
  rw [Act.result_behind, Store.leaves_insert_plain (by decide) rfl]
  have hslots : c.slots = [(.clientId, some id), (.clientSecret, some secret), (.refreshToken, ((some v).filter (· ≠ "")).or none),
      (.grantType, some "refresh_token"), (.scope, c.known.available? true .scope)] := by
    rw [slots, if_pos hrefresh, hid', hsecret', hv, Option.or_none, hfilter, available?_known]
    rfl
  refine congrArg (Except.mapError Fault.failure) (formParams_of_slots (by decide) (by decide) (hslots.trans ?_) ?_)
  · simp only [known, hid', hsecret', hv]
    rfl
  · simp only [known, hid', hsecret', hv, List.forall_mem_cons]
    have hthere : ((some v).filter (· ≠ "")).or none ≠ none := by
      rw [Option.or_none, hfilter]
      exact Option.some_ne_none v
    exact ⟨nofun, nofun, hthere, nofun, nofun⟩

/-- The form that redeems a code. -/
theorem codeForm_result (hid : isBlank c.clientId = false) (hsecret : isBlank c.clientSecret = false)
    (hrefresh : ¬ c.refreshToken.isSome) : (c.codeForm c.known).result =
      if isBlank c.authorizationCode then .error (.failure (.missing "code" (some eitherNote)))
      else if isBlank c.redirectUri then .error (.failure (.missing "redirect_uri" none)) else .ok c.fields := by
  rw [codeForm, result_insertRequired (by decide) rfl]
  split
  · rfl
  next hcode =>
  rw [Act.result_behind, Store.leaves_insert_plain (by decide) rfl]
  dsimp only [Except.bind]
  rw [result_insertRequired (by decide) rfl]
  split
  · rfl
  next hredirect =>
  obtain ⟨id, hid'⟩ := exists_of_not_isBlank hid
  obtain ⟨secret, hsecret'⟩ := exists_of_not_isBlank hsecret
  obtain ⟨code, hcode'⟩ := exists_of_not_isBlank (Bool.not_eq_true _ ▸ hcode)
  obtain ⟨redirectUri, hredirect'⟩ := exists_of_not_isBlank (Bool.not_eq_true _ ▸ hredirect)
  rw [Act.result_behind, Item.leaves_value ⟨by decide, rfl⟩]
  have hslots : c.slots = [(.clientId, some id), (.clientSecret, some secret), (.redirectUri, some redirectUri),
      (.authorizationCode, some code), (.grantType, some "authorization_code"), (.scope, c.known.available? true .scope),
      (.codeVerifier, c.codeVerifier.filter (· ≠ ""))] := by
    rw [slots, if_neg hrefresh, hid', hsecret', hcode', hredirect', available?_known]
    rfl
  refine congrArg (Except.mapError Fault.failure) (formParams_of_slots (by decide) (by decide) (hslots.trans ?_) ?_)
  · simp only [known, hid', hsecret', hcode', hredirect']
    generalize c.codeVerifier.filter (· ≠ "") = verifier
    cases verifier <;> rfl
  · simp only [known, hid', hsecret', hcode', hredirect', List.forall_mem_cons]
    generalize c.codeVerifier.filter (· ≠ "") = verifier
    cases verifier <;> exact ⟨nofun, nofun, nofun, nofun, nofun, nofun⟩

/-- The form of a credential is refused, or it has the fields of the credential. -/
theorem form_result (c : CodeCredential) (t : σ) : (c.form t).result =
    match c.refusal? with
    | some f => .error (.failure f)
    | none => .ok c.fields := by
  rw [form_eq, refusal?]
  split
  · rfl
  rw [lacking?, needs, List.cons_append, List.cons_append, List.nil_append, List.find?_cons, List.find?_cons]
  cases hid : isBlank c.clientId with
  | true => rfl
  | false =>
  cases hsecret : isBlank c.clientSecret with
  | true => rfl
  | false =>
  rw [if_neg (by decide), if_neg (by decide), redeem]
  by_cases hrefresh : c.refreshToken.isSome = true
  · rw [if_pos hrefresh, if_pos hrefresh, refreshForm_result hid hsecret hrefresh, List.find?_singleton]
    cases isBlank c.refreshToken <;> rfl
  rw [if_neg hrefresh, if_neg hrefresh]
  by_cases hcode : c.authorizationCode.isSome = true
  · rw [if_pos hcode, if_pos hcode, codeForm_result hid hsecret hrefresh, List.find?_cons, List.find?_singleton]
    cases isBlank c.authorizationCode <;> cases isBlank c.redirectUri <;> rfl
  · rw [if_neg hcode, if_neg hcode]
    rfl

/-! ## Its fields -/

/-- A field of a credential is a slot with a value. -/
theorem mem_fields {p : Parameter} {v : String} : (p.wireName, v) ∈ c.fields ↔ (p, some v) ∈ c.slots := by
  rw [fields, List.mem_filterMap]
  constructor
  · rintro ⟨⟨q, w⟩, hslot, hfield⟩
    obtain ⟨x, hw, hname⟩ := Option.map_eq_some_iff.mp hfield
    simp only [Prod.mk.injEq] at hname
    obtain ⟨hname, rfl⟩ := hname
    cases Parameter.wireName_injective hname
    rwa [show w = some x from hw] at hslot
  · intro hslot
    exact ⟨_, hslot, rfl⟩

/-- A parameter is the name of a field when its slot has a value. -/
theorem mem_names {p : Parameter} : p.wireName ∈ c.fields.map (·.1) ↔ ∃ v, (p, some v) ∈ c.slots := by
  rw [List.mem_map]
  constructor
  · rintro ⟨⟨name, v⟩, hfield, rfl⟩
    exact ⟨v, mem_fields.mp hfield⟩
  · rintro ⟨v, hslot⟩
    exact ⟨_, mem_fields.mpr hslot, rfl⟩

/-- Each field of a credential has a name of its own. -/
theorem fields_nodup (c : CodeCredential) : (c.fields.map (·.1)).Nodup := by
  have hslots : (c.slots.map fun slot => slot.1.wireName).Nodup := by
    rw [slots]
    split
    · simp only [List.cons_append, List.nil_append, List.map_cons, List.map_nil]
      decide
    · simp only [List.cons_append, List.nil_append, List.map_cons, List.map_nil]
      decide
  have hsublist : ∀ slots : List (Parameter × Option String),
      ((slots.filterMap fun slot => slot.2.map (slot.1.wireName, ·)).map (·.1)).Sublist (slots.map fun slot => slot.1.wireName) := by
    intro slots
    induction slots with
    | nil => exact List.Sublist.slnil
    | cons slot slots ih =>
      obtain ⟨p, v⟩ := slot
      cases v with
      | none => exact ih.cons _
      | some v => exact ih.cons_cons _
  exact (hsublist c.slots).nodup hslots

/-- The form of a credential redeems one thing. -/
structure IsForm (c : CodeCredential) (fields : List (String × String)) : Prop where
  /-- Each field has a name of its own. -/
  nodup : (fields.map (·.1)).Nodup
  /-- Exactly one of a code and a refresh token is a field. -/
  one : "code" ∈ fields.map (·.1) ↔ "refresh_token" ∉ fields.map (·.1)
  /-- The type of the grant is that of the code exactly when there is a code. -/
  code : ("grant_type", "authorization_code") ∈ fields ↔ "code" ∈ fields.map (·.1)
  /-- The type of the grant is that of the refresh token exactly when there is one. -/
  refresh : ("grant_type", "refresh_token") ∈ fields ↔ "refresh_token" ∈ fields.map (·.1)
  /-- The URL to come back to goes with the code. -/
  redirect : "redirect_uri" ∈ fields.map (·.1) ↔ "code" ∈ fields.map (·.1)
  /-- The verifier goes with the code, when it is not empty. -/
  verifier : "code_verifier" ∈ fields.map (·.1) ↔ "code" ∈ fields.map (·.1) ∧ ∃ v, c.codeVerifier = some v ∧ v ≠ ""
  /-- There is a scope exactly when there are scopes. -/
  scope : "scope" ∈ fields.map (·.1) ↔ c.scopes ≠ []

/-- A credential that lacks nothing has either a code and a URL to come back to, or a refresh token. -/
theorem cases_of_lacking?_eq_none (hboth : ¬ (c.authorizationCode.isSome && c.refreshToken.isSome) = true)
    (h : c.lacking? = none) :
    (∃ code redirectUri, c.authorizationCode = some code ∧ c.redirectUri = some redirectUri ∧ c.refreshToken = none) ∨
    ∃ v, c.refreshToken = some v ∧ c.authorizationCode = none := by
  rw [lacking?, List.find?_eq_none] at h
  cases hrefresh : c.refreshToken with
  | some v =>
    refine Or.inr ⟨v, rfl, ?_⟩
    simpa [hrefresh] using hboth
  | none =>
    simp only [needs, hrefresh] at h
    cases hcode : c.authorizationCode with
    | none =>
      simp only [hcode] at h
      exact absurd rfl (h ⟨"code or refresh_token", none, some eitherNote⟩ (by simp))
    | some code =>
      simp only [hcode] at h
      have hredirect := h ⟨"redirect_uri", c.redirectUri, none⟩ (by simp)
      obtain ⟨redirectUri, hredirect⟩ := exists_of_not_isBlank (Bool.not_eq_true _ ▸ hredirect)
      exact Or.inl ⟨code, redirectUri, rfl, hredirect, rfl⟩

/-- Whether there is a scope. -/
theorem sentScope_eq_none_iff (c : CodeCredential) : (∃ v, c.sentScope = some v) ↔ c.scopes ≠ [] := by
  rw [sentScope]
  split <;> simp [*]

/-- The fields of a credential that lacks nothing are a form. -/
theorem isForm_fields (hboth : ¬ (c.authorizationCode.isSome && c.refreshToken.isSome) = true) (h : c.lacking? = none) :
    IsForm c c.fields := by
  have hcode : "code" ∈ c.fields.map (·.1) ↔ ∃ v, (Parameter.authorizationCode, some v) ∈ c.slots :=
    mem_names (p := .authorizationCode)
  have hrefresh : "refresh_token" ∈ c.fields.map (·.1) ↔ ∃ v, (Parameter.refreshToken, some v) ∈ c.slots :=
    mem_names (p := .refreshToken)
  have hredirect : "redirect_uri" ∈ c.fields.map (·.1) ↔ ∃ v, (Parameter.redirectUri, some v) ∈ c.slots :=
    mem_names (p := .redirectUri)
  have hverifier : "code_verifier" ∈ c.fields.map (·.1) ↔ ∃ v, (Parameter.codeVerifier, some v) ∈ c.slots :=
    mem_names (p := .codeVerifier)
  have hscope : "scope" ∈ c.fields.map (·.1) ↔ ∃ v, (Parameter.scope, some v) ∈ c.slots :=
    mem_names (p := .scope)
  have htype (v : String) : ("grant_type", v) ∈ c.fields ↔ (Parameter.grantType, some v) ∈ c.slots :=
    mem_fields (p := .grantType)
  rcases cases_of_lacking?_eq_none hboth h with ⟨code, redirectUri, hcode', hredirect', hnone⟩ | ⟨v, hv, hnone⟩
  · have hslots : c.slots = [(.clientId, c.clientId), (.clientSecret, c.clientSecret), (.redirectUri, some redirectUri),
        (.authorizationCode, some code), (.grantType, some "authorization_code"), (.scope, c.sentScope),
        (.codeVerifier, c.codeVerifier.filter (· ≠ ""))] := by
      rw [slots, hnone, hcode', hredirect']
      rfl
    have hfilter (v : String) : some v = c.codeVerifier.filter (· ≠ "") ↔ c.codeVerifier = some v ∧ v ≠ "" := by
      rw [eq_comm, Option.filter_eq_some_iff, decide_eq_true_eq]
    constructor
    · exact c.fields_nodup
    · simp [hcode, hrefresh, hslots]
    · simp [hcode, htype, hslots]
    · simp [hrefresh, htype, hslots]
    · simp [hredirect, hcode, hslots]
    · rw [hverifier, hcode, hslots]
      simp only [List.mem_cons, List.not_mem_nil, Prod.mk.injEq, reduceCtorEq, false_and, false_or, or_false, true_and, hfilter,
        Option.some.injEq, exists_eq]
    · rw [hscope, hslots, ← sentScope_eq_none_iff]
      simp [eq_comm]
  · have hslots : c.slots = [(.clientId, c.clientId), (.clientSecret, c.clientSecret), (.refreshToken, some v),
        (.grantType, some "refresh_token"), (.scope, c.sentScope)] := by
      rw [slots, hv]
      rfl
    constructor
    · exact c.fields_nodup
    · simp [hcode, hrefresh, hslots]
    · simp [hcode, htype, hslots]
    · simp [hrefresh, htype, hslots]
    · simp [hredirect, hcode, hslots]
    · simp [hverifier, hcode, hslots]
    · rw [hscope, hslots, ← sentScope_eq_none_iff]
      simp [eq_comm]

/-- What comes of building the form of a credential. -/
structure AnswersForm (c : CodeCredential) (result : Except Fault (List (String × String))) : Prop where
  /-- A pair is refused exactly when there are both a code and a refresh token, blank or not, and it is this pair. -/
  exclusive : ∀ first second, result = .error (.failure (.exclusive first second)) ↔
    (c.authorizationCode.isSome ∧ c.refreshToken.isSome) ∧ first = "code" ∧ second = "refresh_token"
  /-- Otherwise a value is missing exactly when it is the first that the credential needs and that is blank. -/
  missing : ¬ (c.authorizationCode.isSome ∧ c.refreshToken.isSome) → ∀ name note,
    (result = .error (.failure (.missing name note)) ↔ ∃ need, c.lacking? = some need ∧ need.name = name ∧ need.note = note)
  /-- Otherwise there is a form with the fields of the credential. -/
  returned : ¬ (c.authorizationCode.isSome ∧ c.refreshToken.isSome) → c.lacking? = none →
    result = .ok c.fields ∧ IsForm c c.fields

/-- The form of a credential. -/
theorem answersForm (c : CodeCredential) (t : σ) : AnswersForm c (c.form t).result := by
  rw [form_result, refusal?]
  by_cases hboth : (c.authorizationCode.isSome && c.refreshToken.isSome) = true
  · have hboth' := Bool.and_eq_true_iff.mp hboth
    rw [if_pos hboth]
    refine ⟨fun first second => ?_, fun hnot => absurd hboth' hnot, fun hnot => absurd hboth' hnot⟩
    simp [hboth', eq_comm]
  · have hnot : ¬ (c.authorizationCode.isSome ∧ c.refreshToken.isSome) := fun h => hboth (Bool.and_eq_true_iff.mpr h)
    rw [if_neg hboth]
    cases hlacking : c.lacking? with
    | some need => exact ⟨by simp [hnot], by simp [hlacking], fun _ hnone => by rw [hlacking] at hnone; cases hnone⟩
    | none => exact ⟨by simp [hnot], by simp [hlacking], fun _ _ => ⟨rfl, isForm_fields hboth hlacking⟩⟩

/-! ## The request -/

/-- A value that is refused is an invalid URL. -/
theorem invalidUrl_of_insert {τ : Type} {p : Parameter} {v : String} {s : Store τ} {fault : Fault}
    (h : (Store.insert p v s).result = .error fault) : ∃ name v cause, fault = .failure (.invalidUrl name v cause) := by
  rcases Store.insert_cases p v s with ⟨_, hrun⟩ | ⟨_, _, hrun⟩ | ⟨f, hcheck, hrun⟩ <;> rw [hrun] at h <;> cases h
  obtain ⟨cause, rfl⟩ := Store.invalidUrl_of_checkUrl hcheck
  exact ⟨_, _, cause, rfl⟩

/-- Endpoints that are refused are invalid URLs. -/
theorem invalidUrl_of_setEndpoints {τ : Type} {e : Endpoints} {s : Store τ} {fault : Fault}
    (h : (Store.setEndpoints e s).result = .error fault) : ∃ name v cause, fault = .failure (.invalidUrl name v cause) := by
  rw [Store.setEndpoints_eq] at h
  rcases Act.error_of_bind h with hfirst | ⟨_, _, h⟩
  · exact invalidUrl_of_insert hfirst
  rcases Act.error_of_bind h with hsecond | ⟨_, _, h⟩
  · exact invalidUrl_of_insert hsecond
  rcases Act.error_of_bind h with hthird | ⟨_, _, h⟩
  · exact invalidUrl_of_insert hthird
  · cases h

/-- The URL of a credential is refused as an invalid one. -/
theorem invalidUrl_of_uri {cloud : Cloud} {t : σ} {fault : Fault} (h : (c.uri cloud t).result = .error fault) :
    ∃ name v cause, fault = .failure (.invalidUrl name v cause) := by
  change ((Store.authority cloud (textOf c.authority) >>= fun _ => Act.get >>= fun s =>
    Act.ofExcept ((s.get .accessTokenUrl).mapError Fault.failure)) (.empty : Store Token)).result = .error fault at h
  rcases Act.error_of_bind h with hset | ⟨_, hset, hget⟩
  · exact invalidUrl_of_setEndpoints hset
  · rw [Store.authority, Store.state_of_setEndpoints hset] at hget
    cases hget

/-- What the request of a credential carries, by what comes of its URL and of its form. -/
structure Carries (uri : Except Fault String) (form : Except Fault (List (String × String))) (nonblocking : Bool)
    (result : Except Fault Request) : Prop where
  /-- When the URL is refused, it is so as an invalid one, and the request carries this failure. -/
  uriRefused : ∀ fault, uri = .error fault → ∃ name v cause, fault = .failure (.invalidUrl name v cause) ∧
    result = .ok (.form nonblocking (.error (.invalidUrl name v cause)))
  /-- Otherwise, when the form is refused, the request carries that failure. -/
  formRefused : ∀ u fault, uri = .ok u → form = .error fault → ∃ f, fault = .failure f ∧ result = .ok (.form nonblocking (.error f))
  /-- Otherwise the request carries the URL and the form. -/
  built : ∀ u fields, uri = .ok u → form = .ok fields → result = .ok (.form nonblocking (.ok ⟨u, fields⟩))

/-- What keeps the URL or else the form of a credential from being built is carried by its request. -/
theorem request_of_failure {cloud : Cloud} {t : σ} {f : Failure}
    (h : (c.uri cloud t).result.bind (fun u => (c.form t).result.map fun fields => (u, fields)) = .error (.failure f))
    (nonblocking : Bool) : (c.request nonblocking cloud t).result = .ok (.form nonblocking (.error f)) := by
  have htarget : ((do let uri ← c.uri cloud; let params ← c.form; return ⟨uri, params⟩ : Act σ FormRequest) t).result =
      .error (.failure f) := by
    have hstate : (c.uri cloud t).state = t := rfl
    rw [Act.result_bind, hstate]
    cases huri : (c.uri cloud t).result with
    | error fault =>
      rw [huri] at h
      cases h
      rfl
    | ok u =>
      rw [huri] at h
      show ((c.form >>= fun params => Act.pure (⟨u, params⟩ : FormRequest)) t).result = .error (.failure f)
      rw [Act.bind_pure_apply]
      cases hform : (c.form t).result with
      | error fault =>
        rw [hform] at h
        cases h
        rfl
      | ok fields =>
        rw [hform] at h
        cases h
  rw [request, Act.result_bind, Act.result_attempt_of_failure htarget]
  rfl

/-- The request of a credential. -/
theorem carries (c : CodeCredential) (t : σ) (nonblocking : Bool) (cloud : Cloud) :
    Carries (c.uri cloud t).result (c.form t).result nonblocking (c.request nonblocking cloud t).result where
  uriRefused fault h := by
    obtain ⟨name, v, cause, rfl⟩ := invalidUrl_of_uri h
    exact ⟨name, v, cause, rfl, request_of_failure (by rw [h]; rfl) nonblocking⟩
  formRefused u fault huri hform := by
    have hfault := hform
    rw [form_result] at hfault
    split at hfault
    · cases hfault
      exact ⟨_, rfl, request_of_failure (by rw [huri, hform]; rfl) nonblocking⟩
    · cases hfault
  built u fields huri hform := result_request huri hform nonblocking

/-- A credential is refused for one thing, in a fixed order, or has a form that redeems one thing; and its request is always there and
carries what the URL was refused for, or else what the form was refused for, or else both of them. -/
theorem refused_in_order (c : CodeCredential) (t : σ) : AnswersForm c (c.form t).result ∧
    ∀ nonblocking cloud, Carries (c.uri cloud t).result (c.form t).result nonblocking (c.request nonblocking cloud t).result :=
  ⟨c.answersForm t, c.carries t⟩

/-- A credential of a client that asks for a fresh token. -/
def refreshing (clientSecret refreshToken : String) : CodeCredential where
  clientId := some "app"
  clientSecret := some clientSecret
  refreshToken := some refreshToken
  scopes := ["mail", "files"]

/-- A pair is refused even if both are blank, a blank secret is missing before a blank refresh token, and with neither blank there is a
form. -/
theorem refused_in_order_refreshing :
    (({ refreshing "" "" with authorizationCode := some "" }).form ()).result = .error (.failure (.exclusive "code" "refresh_token")) ∧
    ((refreshing " " "").form ()).result = .error (.failure (.missing "client_secret" none)) ∧
    ((refreshing "secret" "r").form ()).result = .ok [("client_id", "app"), ("client_secret", "secret"), ("refresh_token", "r"),
      ("grant_type", "refresh_token"), ("scope", "files mail")] := by
  have hpair := (refused_in_order { refreshing "" "" with authorizationCode := some "" } ()).1
  have hblank := (refused_in_order (refreshing " " "") ()).1
  have hform := (refused_in_order (refreshing "secret" "r") ()).1
  refine ⟨(hpair.exclusive _ _).mpr ⟨⟨rfl, rfl⟩, rfl, rfl⟩, ?_, ?_⟩
  · exact (hblank.missing (by decide) _ _).mpr ⟨_, rfl, rfl, rfl⟩
  · exact (hform.returned (by decide) rfl).1.trans (by rfl)

end CodeCredential

end OAuthClient
