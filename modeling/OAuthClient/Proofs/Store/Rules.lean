import OAuthClient.Proofs.Store.Demand

/-!
# Requests follow the table

Building a request does what the row of its grant and phase says, for every store: which failure is reported when several things
are missing, and exactly which parameters are sent, in which order and with which values.
-/

namespace OAuthClient.Store

/-- The outcome of building a request is what the rules of its phase say. `form` tells whether the parameters become a form, and
`ready` is what is made of the endpoint and the parameters. -/
structure FollowsRules {α : Type} (g : Grant) (ph : Phase) (form : Bool) (s : Store Token) (result : Except Fault α)
    (ready : String → List (String × String) → Except Fault α) : Prop where
  /-- A phase is refused exactly when the grant does not have it. -/
  refused : (∃ grant phase reason, result = .error (.failure (.unsupported grant phase reason))) ↔
    (g.rules ph).supported = false
  /-- The refusal names the grant and the phase and gives the reason of the table. -/
  reason : ∀ reason, (g.rules ph).unsupported = some reason →
    result = .error (.failure (.unsupported g.name ph.name reason))
  /-- Otherwise the endpoint is reported as missing exactly when it has no value, before anything is filled in. -/
  endpoint : (g.rules ph).supported = true →
    (result = .error (.failure (.missing (g.rules ph).endpoint.wireName none)) ↔ s.values (g.rules ph).endpoint = none)
  /-- Otherwise the first required parameter that is not available once the fixed values are filled in is reported, and no other. -/
  required : (g.rules ph).supported = true → s.values (g.rules ph).endpoint ≠ none → ∀ p,
    (result = .error (.failure (.missing p.wireName none)) ↔
      (g.rules ph).required.find? (fun q => ((s.withDefaults (g.rules ph).defaults).available? form q).isNone) = some p)
  /-- Otherwise the request has the required parameters in order and then those available of the others in order, each once. -/
  complete : (g.rules ph).supported = true → ∀ uri, s.values (g.rules ph).endpoint = some uri →
    (∀ p ∈ (g.rules ph).required, (s.withDefaults (g.rules ph).defaults).available? form p ≠ none) →
    ∃ pairs, result = ready uri pairs ∧ (pairs.map (·.1)).Nodup ∧
      pairs = ((g.rules ph).required ++
          (g.rules ph).optional.filter fun p => ((s.withDefaults (g.rules ph).defaults).available? form p).isSome).map
        fun p => (p.wireName, ((s.withDefaults (g.rules ph).defaults).available? form p).getD "")

variable {g : Grant} {ph : Phase} {form : Bool} {s : Store Token}

/-- The rows of parameters are the available ones with their values. -/
theorem filterMap_row? (s : Store Token) (form : Bool) (ps : List Parameter) :
    ps.filterMap (s.row? form) =
      (ps.filter fun p => (s.available? form p).isSome).map fun p => (p.wireName, (s.available? form p).getD "") := by
  induction ps with
  | nil => rfl
  | cons p ps ih =>
    rw [List.filterMap_cons, row?, ih]
    cases hp : s.available? form p with
    | none => simp [hp]
    | some v => simp [hp]

/-- With all required parameters available the rows of a phase are these and the available ones of the others. -/
theorem rows_eq (h : ∀ p ∈ (g.rules ph).required, (s.withDefaults (g.rules ph).defaults).available? form p ≠ none) :
    rows g ph form s = ((g.rules ph).required ++
        (g.rules ph).optional.filter fun p => ((s.withDefaults (g.rules ph).defaults).available? form p).isSome).map
      fun p => (p.wireName, ((s.withDefaults (g.rules ph).defaults).available? form p).getD "") := by
  rw [rows, filterMap_row?, Rules.parameters, List.filter_append]
  congr 2
  rw [List.filter_eq_self]
  intro p hp
  exact Option.isSome_iff_ne_none.mpr (h p hp)

/-- A required parameter has another name than the endpoint. -/
theorem wireName_ne_endpoint {p : Parameter} (h : p ∈ (g.rules ph).required) :
    p.wireName ≠ (g.rules ph).endpoint.wireName := by
  intro he
  have hmem : p ∈ (g.rules ph).parameters := List.mem_append_left _ h
  exact (g.rules_wellFormed ph).endpoint_notMem (Parameter.wireName_injective he ▸ hmem)

/-! ## The demand of a phase follows its rules -/

/-- A demand refuses a phase exactly when the grant does not have it. -/
theorem demand_refused : (∃ grant phase reason, demand g ph form s = .error (.unsupported grant phase reason)) ↔
    (g.rules ph).supported = false := by
  rcases demand_cases g ph form s with ⟨reason, hsup, hd⟩ | ⟨hsup, _, hd⟩ | ⟨hsup, _, _, _, _, hd⟩ | ⟨hsup, _, _, _, hd⟩ <;>
    simp [Rules.supported, hsup, hd]

/-- Otherwise a demand reports the endpoint exactly when it has no value. -/
theorem demand_endpoint (h : (g.rules ph).supported = true) :
    demand g ph form s = .error (.missing (g.rules ph).endpoint.wireName none) ↔ s.values (g.rules ph).endpoint = none := by
  rcases demand_cases g ph form s with ⟨reason, hsup, hd⟩ | ⟨hsup, huri, hd⟩ | ⟨hsup, uri, p, huri, hfind, hd⟩ |
    ⟨hsup, uri, huri, _, hd⟩
  · simp [Rules.supported, hsup] at h
  · simp [hd, huri]
  · simp [hd, huri, wireName_ne_endpoint (List.mem_of_find?_eq_some hfind)]
  · simp [hd, huri]

/-- Otherwise a demand reports the first required parameter that is not available. -/
theorem demand_required (h : (g.rules ph).supported = true) (hendpoint : s.values (g.rules ph).endpoint ≠ none)
    (p : Parameter) : demand g ph form s = .error (.missing p.wireName none) ↔
      (g.rules ph).required.find? (fun q => ((s.withDefaults (g.rules ph).defaults).available? form q).isNone) = some p := by
  rcases demand_cases g ph form s with ⟨reason, hsup, hd⟩ | ⟨hsup, huri, hd⟩ | ⟨hsup, uri, q, huri, hfind, hd⟩ |
    ⟨hsup, uri, huri, hfind, hd⟩
  · simp [Rules.supported, hsup] at h
  · exact absurd huri hendpoint
  · rw [hd, hfind, Option.some.injEq]
    constructor
    · intro he
      simp only [Except.error.injEq, Failure.missing.injEq, and_true] at he
      exact Parameter.wireName_injective he
    · rintro rfl
      rfl
  · rw [hd, hfind]
    simp

/-- Otherwise a demand is met with the rows of the phase. -/
theorem demand_complete (h : (g.rules ph).supported = true) {uri : String}
    (hendpoint : s.values (g.rules ph).endpoint = some uri)
    (hall : ∀ p ∈ (g.rules ph).required, (s.withDefaults (g.rules ph).defaults).available? form p ≠ none) :
    demand g ph form s = .ok (uri, rows g ph form s) := by
  rcases demand_cases g ph form s with ⟨reason, hsup, hd⟩ | ⟨hsup, huri, hd⟩ | ⟨hsup, uri', p, huri, hfind, hd⟩ |
    ⟨hsup, uri', huri, hfind, hd⟩
  · simp [Rules.supported, hsup] at h
  · rw [hendpoint] at huri
    cases huri
  · have hnone := List.find?_some hfind
    exact absurd (Option.isNone_iff_eq_none.mp hnone) (hall p (List.mem_of_find?_eq_some hfind))
  · rw [hendpoint] at huri
    cases huri
    exact hd

/-! ## Requests -/

/-- An outcome that comes from the demand of a phase follows its rules, as long as what is made of the parameters is no failure of
the library. -/
theorem followsRules_of_demand {α : Type} {result : Except Fault α}
    {ready : String → List (String × String) → Except Fault α} (hready : ∀ uri pairs f, ready uri pairs ≠ .error (.failure f))
    (h : result = ((demand g ph form s).mapError Fault.failure).bind fun request => ready request.1 request.2) :
    FollowsRules g ph form s result ready := by
  -- a failure of the library can only come from the demand
  have hfailure : ∀ f, result = .error (.failure f) ↔ demand g ph form s = .error f := by
    intro f
    rw [h]
    cases demand g ph form s with
    | error f' => simp [Except.mapError, Except.bind]
    | ok request => simp [Except.mapError, Except.bind, hready]
  constructor
  · simp only [hfailure]
    exact demand_refused
  · intro reason hreason
    rw [hfailure, demand, hreason]
  · intro hsup
    rw [hfailure]
    exact demand_endpoint hsup
  · intro hsup hendpoint p
    rw [hfailure]
    exact demand_required hsup hendpoint p
  · intro hsup uri huri hall
    refine ⟨rows g ph form s, ?_, rows_nodup _ form (g.rules_wellFormed ph).wireNames_nodup, rows_eq hall⟩
    rw [h, demand_complete hsup huri hall]
    rfl

/-- Building a request follows the table, for every store, grant and phase: as a form, and as the query of an authorization URL. -/
theorem request_follows_table (g : Grant) (s : Store Token) :
    (∀ ph, FollowsRules g ph true s (formRequest g ph s).result fun uri pairs => .ok ⟨uri, pairs⟩) ∧
      FollowsRules g .authorization false s (authorizationUrl g s).result fun base pairs =>
        (Uri.appendQuery base (Form.encode .percent pairs)).mapError Fault.uri := by
  constructor
  · intro ph
    apply followsRules_of_demand
    · intro uri pairs f he
      cases he
    · rw [formRequest_result]
      cases demand g ph true s <;> rfl
  · apply followsRules_of_demand
    · intro base pairs f he
      cases happend : Uri.appendQuery base (Form.encode .percent pairs) with
      | ok u => rw [happend] at he; cases he
      | error flaw => rw [happend] at he; cases he
    · exact authorizationUrl_result g s

end OAuthClient.Store
