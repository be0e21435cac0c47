import OAuthClient.Proofs.Store.Demand

/-!
# Stores that differ in their secrets

All that may be told about the value of a secret is whether it is empty. Two stores are alike when nothing else tells them apart, and
then whatever a request asks of them comes to the same, but for the values of secrets among its fields.
-/

namespace OAuthClient

/-! ## Hidden values -/

/-- A secret as it is when it is hidden: all that is left is whether it is empty. -/
def hidden (v : String) : String :=
  if v = "" then "" else redactedPlaceholder

/-- A hidden secret is empty when the secret is. -/
theorem hidden_eq_empty {v : String} : hidden v = "" ↔ v = "" := by
  unfold hidden
  split
  · next h => simp [h]
  · next h => simp [h, redactedPlaceholder]

/-- Two secrets are the same when they are hidden, as long as both are empty or neither is. -/
theorem hidden_eq_hidden {v w : String} : hidden v = hidden w ↔ (v = "" ↔ w = "") := by
  constructor
  · intro h
    rw [← hidden_eq_empty, h, hidden_eq_empty]
  · intro h
    unfold hidden
    simp only [h]

namespace Parameter

/-- The value of a parameter, hidden where the parameter is a secret. -/
def hide (p : Parameter) (v : String) : String :=
  if p.isSecret then hidden v else v

/-- The value of a parameter that is no secret is not hidden. -/
theorem hide_of_not_isSecret {p : Parameter} (h : p.isSecret = false) (v : String) : p.hide v = v := by
  rw [hide, h]
  rfl

/-- No URL is a secret. -/
theorem isSecret_of_isUrl {p : Parameter} (h : p.isUrl = true) : p.isSecret = false := by
  cases p <;> first | rfl | cases h

end Parameter

/-- The value under a name on the wire, hidden where the name is that of a secret. -/
def hideNamed (name : String) (v : String) : String :=
  if Parameter.secretWireNames.contains name then hidden v else v

/-- A field with its value hidden where its name is that of a secret. -/
def hideField (field : String × String) : String × String :=
  (field.1, hideNamed field.1 field.2)

/-- Under the name of a parameter its values are hidden. -/
theorem hideNamed_wireName (p : Parameter) (v : String) : hideNamed p.wireName v = p.hide v := by
  have hnames : Parameter.secretWireNames.contains p.wireName = p.isSecret := by
    cases p <;> decide
  rw [hideNamed, hnames, Parameter.hide]

namespace Store

/-! ## Stores that are alike -/

/-- Two stores have the same scopes and values for the same parameters, and their values differ in secrets only. -/
structure Alike {τ υ : Type} (s : Store τ) (s' : Store υ) : Prop where
  values : ∀ p, (s.values p).map p.hide = (s'.values p).map p.hide
  scopes : s.scopes = s'.scopes

namespace Alike

variable {τ υ : Type} {s : Store τ} {s' : Store υ}

/-- A store is like itself. -/
theorem refl (s : Store τ) : s.Alike s :=
  ⟨fun _ => rfl, rfl⟩

/-- What is no secret has the same value. -/
theorem values_eq (h : s.Alike s') {p : Parameter} (hp : p.isSecret = false) : s.values p = s'.values p := by
  have hvalues := h.values p
  have hid : p.hide = id := funext (Parameter.hide_of_not_isSecret hp)
  rwa [hid, Option.map_id_fun, id, id] at hvalues

/-- The same parameters have values. -/
theorem isSome_values (h : s.Alike s') (p : Parameter) : (s.values p).isSome = (s'.values p).isSome := by
  rw [← Option.isSome_map (f := p.hide), h.values p, Option.isSome_map]

/-- The same parameters are set. -/
theorem contains (h : s.Alike s') (p : Parameter) : s.contains p = s'.contains p := by
  rw [Store.contains, Store.contains, get?, get?, h.scopes]
  split
  · rfl
  · exact h.isSome_values p

/-- Setting a parameter to values that differ in secrets only keeps stores alike. -/
theorem setValue (h : s.Alike s') {p : Parameter} {v v' : String} (hv : p.hide v = p.hide v') :
    (s.setValue p v).Alike (s'.setValue p v') := by
  refine ⟨fun q => ?_, h.scopes⟩
  rw [Store.setValue, Store.setValue]
  dsimp only
  split
  · next hq =>
    rw [hq, Option.map_some, Option.map_some, hv]
  · exact h.values q

/-- Taking away the value of a parameter keeps stores alike. -/
theorem unsetValue (h : s.Alike s') (p : Parameter) : (s.unsetValue p).Alike (s'.unsetValue p) := by
  refine ⟨fun q => ?_, h.scopes⟩
  rw [Store.unsetValue, Store.unsetValue]
  dsimp only
  split
  · rfl
  · exact h.values q

/-- Changing the scopes in the same way keeps stores alike. -/
theorem withScopes (h : s.Alike s') (f : Scopes → Scopes) :
    ({ s with scopes := f s.scopes } : Store τ).Alike ({ s' with scopes := f s'.scopes } : Store υ) :=
  ⟨h.values, by rw [h.scopes]⟩

/-- Filling in fixed values keeps stores alike. -/
theorem withDefaults (h : s.Alike s') (defaults : List (Parameter × String)) :
    (s.withDefaults defaults).Alike (s'.withDefaults defaults) := by
  refine ⟨fun p => ?_, h.scopes⟩
  rw [withDefaults_values, withDefaults_values, Option.map_or, Option.map_or, h.values p]

/-- The descriptions of stores that are alike are the same. -/
theorem describe (h : s.Alike s') : s.describe = s'.describe := by
  have hentry (p : Parameter) : ((s.values p).map (p, ·)).map
        (fun e => (e.1.wireName, Text.quoted (if e.1.isSecret then redactedPlaceholder else e.2))) =
      ((s'.values p).map (p, ·)).map
        (fun e => (e.1.wireName, Text.quoted (if e.1.isSecret then redactedPlaceholder else e.2))) := by
    cases hp : p.isSecret with
    | false => rw [h.values_eq hp]
    | true =>
      have hshown (o : Option String) : (o.map (p, ·)).map
          (fun e => (e.1.wireName, Text.quoted (if e.1.isSecret then redactedPlaceholder else e.2))) =
          if o.isSome then some (p.wireName, Text.quoted redactedPlaceholder) else none := by
        cases o <;> simp [hp]
      rw [hshown, hshown, h.isSome_values p]
  unfold Store.describe
  rw [h.scopes, entries, entries, List.map_filterMap, List.map_filterMap]
  simp only [hentry]

end Alike

/-! ## What a request asks of stores that are alike -/

section

variable {s s' : Store Token}

/-- What a request takes for a parameter is the same but for secrets. -/
theorem Alike.available? (h : s.Alike s') (hrefresh : s.tokenRefresh?.map hidden = s'.tokenRefresh?.map hidden) (form : Bool)
    (p : Parameter) : (s.available? form p).map p.hide = (s'.available? form p).map p.hide := by
  have hfilter (o : Option String) : (o.filter (· ≠ "")).map hidden = (o.map hidden).filter (· ≠ "") := by
    cases o with
    | none => rfl
    | some v =>
      by_cases hv : v = ""
      · subst hv
        rfl
      · have hne : hidden v ≠ "" := fun he => hv (hidden_eq_empty.mp he)
        simp [Option.filter, hv, hne]
  cases p with
  | scope => simp only [Store.available?, h.scopes]
  | refreshToken =>
    have hvalues : (s.values .refreshToken).map hidden = (s'.values .refreshToken).map hidden := h.values .refreshToken
    cases form with
    | false => exact hvalues
    | true =>
      show (((s.values .refreshToken).filter (· ≠ "")).or s.tokenRefresh?).map hidden =
        (((s'.values .refreshToken).filter (· ≠ "")).or s'.tokenRefresh?).map hidden
      rw [Option.map_or, Option.map_or, hfilter, hfilter, hvalues, hrefresh]
  | _ => exact h.values _

/-- A request finds something for the same parameters. -/
theorem Alike.isSome_available? (h : s.Alike s') (hrefresh : s.tokenRefresh?.map hidden = s'.tokenRefresh?.map hidden)
    (form : Bool) (p : Parameter) : (s.available? form p).isSome = (s'.available? form p).isSome := by
  rw [← Option.isSome_map (f := p.hide), h.available? hrefresh, Option.isSome_map]

/-- A request finds nothing for the same parameters. -/
theorem Alike.isNone_available? (h : s.Alike s') (hrefresh : s.tokenRefresh?.map hidden = s'.tokenRefresh?.map hidden)
    (form : Bool) (p : Parameter) : (s.available? form p).isNone = (s'.available? form p).isNone := by
  rw [← Option.not_isSome, ← Option.not_isSome, h.isSome_available? hrefresh]

/-- What the rules of a phase make of stores that are alike is the same but for secrets: the same failure, or the same endpoint and
fields that differ in the values of secrets only. -/
theorem Alike.demand (h : s.Alike s') (hrefresh : s.tokenRefresh?.map hidden = s'.tokenRefresh?.map hidden) (g : Grant)
    (ph : Phase) (form : Bool) :
    (∃ f, Store.demand g ph form s = .error f ∧ Store.demand g ph form s' = .error f) ∨
      ∃ uri fields fields', Store.demand g ph form s = .ok (uri, fields) ∧ Store.demand g ph form s' = .ok (uri, fields') ∧
        fields.map hideField = fields'.map hideField := by
  have hdefaults := h.withDefaults (g.rules ph).defaults
  have havailable := hdefaults.available? (by exact hrefresh) form
  have hnone := hdefaults.isNone_available? (by exact hrefresh) form
  have hrow (p : Parameter) : (((s.withDefaults (g.rules ph).defaults).row? form p).map hideField) =
      ((s'.withDefaults (g.rules ph).defaults).row? form p).map hideField := by
    have hcomp : hideField ∘ (fun v => (p.wireName, v)) = (fun v => (p.wireName, v)) ∘ p.hide := by
      funext v
      exact Prod.ext rfl (hideNamed_wireName p v)
    rw [row?, row?, Option.map_map, Option.map_map, hcomp, ← Option.map_map, ← Option.map_map, havailable p]
  have hrows : (rows g ph form s).map hideField = (rows g ph form s').map hideField := by
    rw [rows, rows, List.map_filterMap, List.map_filterMap]
    simp only [hrow]
  have hendpoint := h.values_eq (Parameter.isSecret_of_isUrl (g.rules_wellFormed ph).endpoint_isUrl)
  unfold Store.demand
  simp only [hnone, hendpoint]
  split
  · exact Or.inl ⟨_, rfl, rfl⟩
  · split
    · exact Or.inl ⟨_, rfl, rfl⟩
    · split
      · exact Or.inl ⟨_, rfl, rfl⟩
      · exact Or.inr ⟨_, _, _, rfl, rfl, hrows⟩

end

end Store

end OAuthClient
