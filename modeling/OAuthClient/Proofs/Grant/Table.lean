import OAuthClient.Grant.Table

/-!
# Facts about the table of rules

What holds in every row of the table, so that a proof about requests never looks at a row: endpoints are URLs and no parameter of
a request is one, a row names a parameter once, and fixed values are given for parameters that take any text.
-/

namespace OAuthClient

/-! ## Names on the wire -/

/-- A parameter is found under its name on the wire. -/
theorem Parameter.ofWireName?_wireName (p : Parameter) : Parameter.ofWireName? p.wireName = some p := by
  cases p <;> decide

/-- A name on the wire belongs to one parameter. -/
theorem Parameter.wireName_injective {p q : Parameter} (h : p.wireName = q.wireName) : p = q := by
  have hp := Parameter.ofWireName?_wireName p
  rw [h, Parameter.ofWireName?_wireName q] at hp
  exact (Option.some.inj hp).symm

/-- Values under the wire names of parameters, where there are values, are under some of these names in their order. -/
theorem Parameter.wireNames_sublist (f : Parameter → Option String) (ps : List Parameter) :
    ((ps.filterMap fun p => (f p).map (p.wireName, ·)).map (·.1)).Sublist (ps.map Parameter.wireName) := by
  rw [List.map_filterMap]
  induction ps with
  | nil => exact List.Sublist.slnil
  | cons p ps ih =>
    rw [List.filterMap_cons, List.map_cons]
    cases f p with
    | none => exact ih.cons _
    | some v => exact ih.cons_cons _

/-! ## Rows -/

/-- A row of the table is well-formed: it sends no URL parameter, names no parameter twice, goes to an endpoint that is a URL, fills
in only parameters that take any text, and leaves a refresh token out of what may be sent along. -/
structure Rules.WellFormed (r : Rules) : Prop where
  defaults_plain : ∀ d ∈ r.defaults, d.1 ≠ .scope ∧ d.1.isUrl = false
  endpoint_isUrl : r.endpoint.isUrl = true
  parameters_plain : ∀ p ∈ r.parameters, p.isUrl = false
  parameters_nodup : r.parameters.Nodup
  refreshToken_notMem_optional : Parameter.refreshToken ∉ r.optional

/-- A grant has a phase that there is no reason against. -/
theorem Rules.supported_of_none {r : Rules} (h : r.unsupported = Option.none) : r.supported = true := by
  rw [Rules.supported, h]
  rfl

/-- Every row of the table is well-formed. -/
theorem Grant.rules_wellFormed (g : Grant) (ph : Phase) : (g.rules ph).WellFormed := by
  cases g <;> cases ph <;> constructor <;> decide

/-- Every authorization goes to the authorization endpoint. -/
theorem Grant.endpoint_authorization (g : Grant) : (g.rules .authorization).endpoint = .authorizationUrl := by
  cases g <;> rfl

/-- A phase that the grant has needs a parameter. -/
theorem Grant.required_ne_nil {g : Grant} {ph : Phase} (h : (g.rules ph).unsupported = none) : (g.rules ph).required ≠ [] := by
  cases g <;> cases ph <;> first | exact List.cons_ne_nil _ _ | cases h

namespace Rules.WellFormed

variable {r : Rules}

/-- The endpoint is no parameter of the request. -/
theorem endpoint_notMem (h : r.WellFormed) : r.endpoint ∉ r.parameters := by
  intro hmem
  have hurl := h.endpoint_isUrl
  rw [h.parameters_plain _ hmem] at hurl
  cases hurl

/-- No fixed value is given for the endpoint. -/
theorem lookup_endpoint (h : r.WellFormed) : r.defaults.lookup r.endpoint = Option.none := by
  rw [List.lookup_eq_none_iff]
  intro d hd
  rw [bne_iff_ne]
  intro he
  have hurl := h.endpoint_isUrl
  rw [he, (h.defaults_plain d hd).2] at hurl
  cases hurl

/-- The endpoint is not the scope. -/
theorem endpoint_ne_scope (h : r.WellFormed) : r.endpoint ≠ .scope := by
  intro he
  have hurl := h.endpoint_isUrl
  rw [he] at hurl
  cases hurl

/-- The names of the parameters on the wire are different, too. -/
theorem wireNames_nodup (h : r.WellFormed) : (r.parameters.map Parameter.wireName).Nodup := by
  rw [List.nodup_iff_pairwise_ne, List.pairwise_map]
  exact (List.nodup_iff_pairwise_ne.mp h.parameters_nodup).imp fun hne he => hne (Parameter.wireName_injective he)

end Rules.WellFormed

end OAuthClient
