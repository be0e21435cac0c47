import Mathlib.Data.List.Basic
import Mathlib.Data.List.Find
import OAuthClient.Proofs.Json.Members
import OAuthClient.Proofs.Store.Repeat

/-!
# What the rules of a phase ask of a store

`demand` says what the rules of a phase make of a store, in the order in which things are looked for: the phase, the endpoint, the
required parameters one after another. Building a request comes to exactly this, with the parameters as a form or as a query
behind the endpoint.
-/

namespace OAuthClient

namespace Store

variable {s : Store Token} {form : Bool} {p : Parameter}

/-! ## Parameters -/

/-- The value that a request takes for a parameter: all scopes for the scope, and in a form the refresh token of the last token
response where no refresh token is set or an empty one. -/
def available? (s : Store Token) (form : Bool) : Parameter → Option String
  | .scope => if s.scopes.toList = [] then none else some (" ".intercalate s.scopes.toList)
  | .refreshToken => if form then ((s.values .refreshToken).filter (· ≠ "")).or s.tokenRefresh? else s.values .refreshToken
  | p => s.values p

/-- A parameter of a request with its value, where it has one. -/
def row? (s : Store Token) (form : Bool) (p : Parameter) : Option (String × String) :=
  (s.available? form p).map (p.wireName, ·)

/-- The scope is available as all scopes. -/
theorem available?_scope (s : Store Token) (form : Bool) : s.available? form .scope = s.get? .scope := by
  simp only [available?, get?, if_true, Scopes.isEmpty, Scopes.join, List.isEmpty_iff]

/-- In a form the refresh token is available from either place. -/
theorem available?_refreshToken (s : Store Token) : s.available? true .refreshToken = s.refreshToken? := by
  simp only [available?, refreshToken?, get?, if_true, if_neg (show Parameter.refreshToken ≠ .scope by decide)]
  cases s.values .refreshToken with
  | none => rfl
  | some v =>
    by_cases hv : v = ""
    · simp [hv, Option.filter]
    · simp [hv, Option.filter]

/-- Every parameter but the refresh token of a form is available as its value. -/
theorem available?_eq_get? (h : form = false ∨ p ≠ .refreshToken) : s.available? form p = s.get? p := by
  by_cases hscope : p = .scope
  · subst hscope
    exact available?_scope s form
  by_cases hrefresh : p = .refreshToken
  · subst hrefresh
    have hform : form = false := h.resolve_right (fun hne => hne rfl)
    rw [hform, get?, if_neg hscope]
    rfl
  · rw [get?, if_neg hscope]
    cases p <;> first | rfl | exact absurd rfl hscope | exact absurd rfl hrefresh

/-- A parameter is available alike in stores that agree on its value, on the scopes and on the token. -/
theorem available?_congr {s' : Store Token} (hvalue : s.values p = s'.values p) (hscopes : s.scopes = s'.scopes)
    (htoken : s.token = s'.token) : s.available? form p = s'.available? form p := by
  cases p with
  | scope => simp only [available?, hscopes]
  | refreshToken => simp only [available?, tokenRefresh?, hvalue, htoken]
  | _ => exact hvalue

/-- A required parameter gives its value or is reported as missing. -/
theorem requiredValue_eq (s : Store Token) (form : Bool) (p : Parameter) :
    s.requiredValue form p = match s.available? form p with
      | some v => .ok v
      | none => .error (.missing p.wireName none) := by
  by_cases h : form = false ∨ p ≠ .refreshToken
  · have hcond : (form && decide (p = .refreshToken)) = false := by
      rcases h with hf | hp
      · simp [hf]
      · simp [hp]
    rw [available?_eq_get? h, requiredValue, hcond]
    rfl
  · rw [not_or, Bool.not_eq_false, Decidable.not_not] at h
    obtain ⟨rfl, rfl⟩ := h
    rw [available?_refreshToken]
    rfl

/-- A parameter that may be sent along gives its value where it has one, as long as it is not the refresh token. -/
theorem optionalValue_eq (h : p ≠ .refreshToken) : s.optionalValue form p = s.available? form p := by
  rw [available?_eq_get? (Or.inr h), optionalValue]
  cases s.get? p <;> simp [h]

/-! ## Pairs -/

/-- The required parameters give their rows, or the first that is not available is reported as missing. -/
theorem requiredPairs_eq (s : Store Token) (form : Bool) (ps : List Parameter) :
    s.requiredPairs form ps = match ps.find? fun p => (s.available? form p).isNone with
      | some p => .error (.missing p.wireName none)
      | none => .ok (ps.filterMap (s.row? form)) := by
  induction ps with
  | nil => rfl
  | cons p ps ih =>
    rw [requiredPairs, requiredValue_eq, ih]
    cases hp : s.available? form p with
    | none => rw [List.find?_cons_of_pos (by simp [hp])]; rfl
    | some v =>
      rw [List.find?_cons_of_neg (by simp [hp]), List.filterMap_cons, row?, hp]
      cases ps.find? fun p => (s.available? form p).isNone <;> rfl

/-- The parameters that may be sent along give their rows. -/
theorem optionalPairs_eq {ps : List Parameter} (h : .refreshToken ∉ ps) :
    s.optionalPairs form ps = ps.filterMap (s.row? form) := by
  rw [optionalPairs]
  apply List.filterMap_congr
  intro p hp
  have hne : p ≠ .refreshToken := fun he => h (he ▸ hp)
  rw [optionalValue_eq hne, row?]

/-- All parameters of a request give their rows, or the first required one that is not available is reported as missing. -/
theorem pairs_eq (s : Store Token) (form : Bool) {required optional : List Parameter} (h : .refreshToken ∉ optional) :
    s.pairs form required optional = match required.find? fun p => (s.available? form p).isNone with
      | some p => .error (.missing p.wireName none)
      | none => .ok ((required ++ optional).filterMap (s.row? form)) := by
  rw [pairs, requiredPairs_eq, optionalPairs_eq h, List.filterMap_append]
  cases required.find? fun p => (s.available? form p).isNone <;> rfl

/-- The names of the rows of different parameters are different. -/
theorem rows_nodup (s : Store Token) (form : Bool) {ps : List Parameter} (h : (ps.map Parameter.wireName).Nodup) :
    ((ps.filterMap (s.row? form)).map (·.1)).Nodup :=
  (Parameter.wireNames_sublist (s.available? form) ps).nodup h

/-- The fields of a form are the rows of its parameters, as long as none of them is named twice. -/
theorem formParams_eq (s : Store Token) {required optional : List Parameter} (h : .refreshToken ∉ optional)
    (hnames : ((required ++ optional).map Parameter.wireName).Nodup) :
    s.formParams required optional = s.pairs true required optional := by
  rw [formParams, pairs_eq s true h]
  cases required.find? fun p => (s.available? true p).isNone with
  | some p => rfl
  | none => exact congrArg Except.ok (Json.collect_of_nodup (rows_nodup s true hnames))

/-! ## The demand of a phase -/

/-- The parameters of a phase with their values in a store whose fixed values are filled in. -/
def rows (g : Grant) (ph : Phase) (form : Bool) (s : Store Token) : List (String × String) :=
  (g.rules ph).parameters.filterMap ((s.withDefaults (g.rules ph).defaults).row? form)

/-- What the rules of a phase make of a store: the endpoint and the parameters, or the first thing that is missing. -/
def demand (g : Grant) (ph : Phase) (form : Bool) (s : Store Token) : Except Failure (String × List (String × String)) :=
  match (g.rules ph).unsupported with
  | some reason => .error (.unsupported g.name ph.name reason)
  | none =>
    match s.values (g.rules ph).endpoint with
    | none => .error (.missing (g.rules ph).endpoint.wireName none)
    | some uri =>
      match (g.rules ph).required.find? fun p => ((s.withDefaults (g.rules ph).defaults).available? form p).isNone with
      | some p => .error (.missing p.wireName none)
      | none => .ok (uri, rows g ph form s)

variable {g : Grant} {ph : Phase}

/-- A field is in the rows of a phase when it is a parameter of the phase with the value that is available. -/
theorem mem_rows {name v : String} : (name, v) ∈ rows g ph form s ↔ ∃ p ∈ (g.rules ph).parameters, p.wireName = name ∧
    (s.withDefaults (g.rules ph).defaults).available? form p = some v := by
  rw [rows, List.mem_filterMap]
  constructor
  · rintro ⟨p, hp, hrow⟩
    rw [row?, Option.map_eq_some_iff] at hrow
    obtain ⟨w, hw, hfield⟩ := hrow
    cases hfield
    exact ⟨p, hp, rfl, hw⟩
  · rintro ⟨p, hp, rfl, hv⟩
    exact ⟨p, hp, by rw [row?, hv]; rfl⟩

/-- A parameter of a phase that has a value is in the rows with this value. -/
theorem mem_rows_of_value {v : String} (hp : p ∈ (g.rules ph).parameters) (hscope : p ≠ .scope)
    (hrefresh : form = false ∨ p ≠ .refreshToken) (hv : s.values p = some v) : (p.wireName, v) ∈ rows g ph form s := by
  refine mem_rows.mpr ⟨p, hp, rfl, ?_⟩
  rw [available?_eq_get? hrefresh, get?, if_neg hscope, withDefaults_values, hv, Option.some_or]

/-- A parameter that a phase does not name is not in the rows. -/
theorem notMem_rows (hp : p ∉ (g.rules ph).parameters) (v : String) : (p.wireName, v) ∉ rows g ph form s := by
  intro hmem
  obtain ⟨q, hq, hname, _⟩ := mem_rows.mp hmem
  cases Parameter.wireName_injective hname
  exact hp hq

/-- The rows of a phase are the same exactly when the same is available of its parameters. -/
theorem rows_eq_iff {s' : Store Token} : rows g ph form s = rows g ph form s' ↔
    ∀ p ∈ (g.rules ph).parameters, (s.withDefaults (g.rules ph).defaults).available? form p =
      (s'.withDefaults (g.rules ph).defaults).available? form p := by
  -- a value in the rows of one store is the value in the rows of the other
  have hvalue : ∀ {t t' : Store Token}, rows g ph form t = rows g ph form t' → ∀ p ∈ (g.rules ph).parameters, ∀ v,
      (t.withDefaults (g.rules ph).defaults).available? form p = some v →
      (t'.withDefaults (g.rules ph).defaults).available? form p = some v := by
    intro t t' h p hp v hv
    have hrow := mem_rows.mpr ⟨p, hp, rfl, hv⟩
    rw [h] at hrow
    obtain ⟨q, _, hname, hq⟩ := mem_rows.mp hrow
    cases Parameter.wireName_injective hname
    exact hq
  constructor
  · intro h p hp
    apply Option.ext
    intro v
    exact ⟨hvalue h p hp v, hvalue h.symm p hp v⟩
  · intro h
    exact List.filterMap_congr fun p hp => by rw [row?, row?, h p hp]

/-- All that a demand can come to. -/
theorem demand_cases (g : Grant) (ph : Phase) (form : Bool) (s : Store Token) :
    (∃ reason, (g.rules ph).unsupported = some reason ∧
      demand g ph form s = .error (.unsupported g.name ph.name reason)) ∨
    ((g.rules ph).unsupported = none ∧ s.values (g.rules ph).endpoint = none ∧
      demand g ph form s = .error (.missing (g.rules ph).endpoint.wireName none)) ∨
    ((g.rules ph).unsupported = none ∧ ∃ uri p, s.values (g.rules ph).endpoint = some uri ∧
      (g.rules ph).required.find? (fun q => ((s.withDefaults (g.rules ph).defaults).available? form q).isNone) = some p ∧
      demand g ph form s = .error (.missing p.wireName none)) ∨
    ((g.rules ph).unsupported = none ∧ ∃ uri, s.values (g.rules ph).endpoint = some uri ∧
      (g.rules ph).required.find? (fun q => ((s.withDefaults (g.rules ph).defaults).available? form q).isNone) = none ∧
      demand g ph form s = .ok (uri, rows g ph form s)) := by
  cases hsup : (g.rules ph).unsupported with
  | some reason => exact Or.inl ⟨reason, rfl, by rw [demand, hsup]⟩
  | none =>
    cases huri : s.values (g.rules ph).endpoint with
    | none => exact Or.inr (Or.inl ⟨rfl, rfl, by rw [demand, hsup, huri]⟩)
    | some uri =>
      cases hfind : (g.rules ph).required.find?
          fun q => ((s.withDefaults (g.rules ph).defaults).available? form q).isNone with
      | some p => exact Or.inr (Or.inr (Or.inl ⟨rfl, uri, p, rfl, rfl, by rw [demand, hsup, huri]; simp only [hfind]⟩))
      | none => exact Or.inr (Or.inr (Or.inr ⟨rfl, uri, rfl, rfl, by rw [demand, hsup, huri]; simp only [hfind]⟩))

/-- No fixed value is filled in for the endpoint. -/
theorem get?_endpoint (g : Grant) (ph : Phase) (s : Store Token) :
    (s.withDefaults (g.rules ph).defaults).get? (g.rules ph).endpoint = s.values (g.rules ph).endpoint := by
  have h := g.rules_wellFormed ph
  rw [get?, if_neg h.endpoint_ne_scope, withDefaults_values, h.lookup_endpoint, Option.or_none]

/-- Stores that agree on the endpoint and on what is available of the parameters of a phase meet the same demand. -/
theorem demand_congr {s' : Store Token} (hendpoint : s.values (g.rules ph).endpoint = s'.values (g.rules ph).endpoint)
    (h : ∀ p ∈ (g.rules ph).parameters, (s.withDefaults (g.rules ph).defaults).available? form p =
      (s'.withDefaults (g.rules ph).defaults).available? form p) : demand g ph form s = demand g ph form s' := by
  have hrows : rows g ph form s = rows g ph form s' := rows_eq_iff.mpr h
  have hrequired : (g.rules ph).required.find? (fun p => ((s.withDefaults (g.rules ph).defaults).available? form p).isNone) =
      (g.rules ph).required.find? (fun p => ((s'.withDefaults (g.rules ph).defaults).available? form p).isNone) :=
    List.find?_congr fun p hp => by rw [h p (List.mem_append_left _ hp)]
  simp only [demand, hendpoint, hrequired, hrows]

/-- Setting what a phase does not read changes nothing about its demand. -/
theorem demand_setValue {q : Parameter} (hparameter : q ∉ (g.rules ph).parameters) (hendpoint : q ≠ (g.rules ph).endpoint)
    (v : String) : demand g ph form (s.setValue q v) = demand g ph form s := by
  have hvalue : ∀ p, q ≠ p → (s.setValue q v).values p = s.values p := fun p hne => if_neg hne.symm
  apply demand_congr (hvalue _ hendpoint)
  intro p hp
  have hne : q ≠ p := by
    rintro rfl
    exact hparameter hp
  refine available?_congr ?_ rfl rfl
  rw [withDefaults_values, withDefaults_values, hvalue p hne]

/-- Building a form comes to the demand of its phase. -/
theorem formRequest_result (g : Grant) (ph : Phase) (s : Store Token) :
    (formRequest g ph s).result =
      ((demand g ph true s).mapError Fault.failure).map fun request => ⟨request.1, request.2⟩ := by
  have h := g.rules_wellFormed ph
  cases hsup : (g.rules ph).unsupported with
  | some reason =>
    rw [formRequest, Act.bind_of_error (prepare_of_unsupported hsup s), demand, hsup]
    rfl
  | none =>
    obtain ⟨records, hprepare⟩ := prepare_of_supported hsup s
    rw [formRequest, Act.bind_of_ok hprepare, demand, hsup]
    simp only [Act.bind_of_ok (Act.get_apply _), get, get?_endpoint]
    cases s.values (g.rules ph).endpoint with
    | none => rfl
    | some uri =>
      simp only [Act.result_bind, Act.ofExcept_apply, Except.mapError, Except.bind,
        formParams_eq _ h.refreshToken_notMem_optional h.wireNames_nodup, pairs_eq _ true h.refreshToken_notMem_optional]
      cases (g.rules ph).required.find? fun p => ((s.withDefaults (g.rules ph).defaults).available? true p).isNone <;> rfl

/-- Building a form fills in the fixed values of its phase, where the grant has it, and changes nothing else. -/
theorem formRequest_state (g : Grant) (ph : Phase) (s : Store Token) :
    (formRequest g ph s).state = if (g.rules ph).supported then s.withDefaults (g.rules ph).defaults else s :=
  (prepares_formRequest g ph).state s

/-- Building an authorization URL does so, too. -/
theorem authorizationUrl_state (g : Grant) (s : Store Token) : (authorizationUrl g s).state =
    if (g.rules .authorization).supported then s.withDefaults (g.rules .authorization).defaults else s :=
  (prepares_authorizationUrl g).state s

/-- The text of a request is built as the URL or the form that it is the text of, and leaves in the store what that leaves. -/
theorem encodeUri_state (g : Grant) (ph : Phase) (s : Store Token) :
    (encodeUri g ph s).state = if (g.rules ph).supported then s.withDefaults (g.rules ph).defaults else s :=
  (prepares_encodeUri g ph).state s

/-- The text of a form is its fields in percent form. -/
theorem encodeUri_form_result {ph : Phase} (hph : ph ≠ .authorization) (g : Grant) (s : Store Token) :
    (encodeUri g ph s).result = (formRequest g ph s).result.map fun r => Form.encode .percent r.params := by
  rw [encodeUri, if_neg hph]
  exact congrArg Run.result (Act.bind_pure_apply (formRequest g ph) (fun r => Form.encode .percent r.params) s)

/-- Building an authorization URL comes to the demand of the phase, written out as a query behind the endpoint. -/
theorem authorizationUrl_result (g : Grant) (s : Store Token) :
    (authorizationUrl g s).result =
      ((demand g .authorization false s).mapError Fault.failure).bind fun request =>
        (Uri.appendQuery request.1 (Form.encode .percent request.2)).mapError Fault.uri := by
  have h := g.rules_wellFormed .authorization
  cases hsup : (g.rules .authorization).unsupported with
  | some reason =>
    rw [authorizationUrl, Act.bind_of_error (prepare_of_unsupported hsup s), demand, hsup]
    rfl
  | none =>
    obtain ⟨records, hprepare⟩ := prepare_of_supported hsup s
    rw [authorizationUrl, Act.bind_of_ok hprepare, demand, hsup]
    simp only [Act.bind_of_ok (Act.get_apply _), get, get?_endpoint]
    cases s.values (g.rules .authorization).endpoint with
    | none => rfl
    | some uri =>
      simp only [Act.result_bind, Act.ofExcept_apply, Except.mapError, Except.bind, encodeQuery,
        pairs_eq _ false h.refreshToken_notMem_optional]
      cases (g.rules .authorization).required.find?
        fun p => ((s.withDefaults (g.rules .authorization).defaults).available? false p).isNone <;> rfl

end Store

end OAuthClient
