import OAuthClient.Proofs.Store.Demand
import OAuthClient.Proofs.Uri.Append

/-!
# What building a request can come to

A form is built or fails with a failure of the library. An authorization URL may fail in one more way: its endpoint cannot be cut
into parts, so that nothing can be appended to it.
-/

namespace OAuthClient.Store

variable {g : Grant} {ph : Phase} {form : Bool} {s : Store Token}

/-- A demand that is met has the endpoint, every required parameter, and the rows of the phase. -/
theorem demand_ok {base : String} {pairs : List (String × String)} (h : demand g ph form s = .ok (base, pairs)) :
    s.values (g.rules ph).endpoint = some base ∧
      (∀ p ∈ (g.rules ph).required, (s.withDefaults (g.rules ph).defaults).available? form p ≠ none) ∧
      pairs = rows g ph form s ∧ (g.rules ph).unsupported = none := by
  rcases demand_cases g ph form s with ⟨_, _, hd⟩ | ⟨_, _, hd⟩ | ⟨_, _, _, _, _, hd⟩ | ⟨hsup, uri, huri, hfind, hd⟩ <;>
    rw [hd] at h <;> cases h
  refine ⟨huri, ?_, rfl, hsup⟩
  intro p hp hnone
  have hfound := List.find?_eq_none.mp hfind p hp
  rw [hnone] at hfound
  exact hfound rfl

/-- A demand that is met has a parameter. -/
theorem pairs_ne_nil {base : String} {pairs : List (String × String)} (h : demand g ph form s = .ok (base, pairs)) :
    pairs ≠ [] := by
  obtain ⟨_, hrequired, rfl, hsup⟩ := demand_ok h
  obtain ⟨p, hp⟩ := List.exists_mem_of_ne_nil _ (Grant.required_ne_nil hsup)
  obtain ⟨v, hv⟩ := Option.ne_none_iff_exists'.mp (hrequired p hp)
  have hrow : (p.wireName, v) ∈ rows g ph form s := by
    rw [rows, List.mem_filterMap]
    exact ⟨p, List.mem_append_left _ hp, by rw [row?, hv]; rfl⟩
  exact List.ne_nil_of_mem hrow

/-- A form that cannot be built fails with a failure of the library. -/
theorem formRequest_fault {fault : Fault} (h : (formRequest g ph s).result = .error fault) : ∃ f, fault = .failure f := by
  rw [formRequest_result] at h
  cases hd : demand g ph true s with
  | error f =>
    rw [hd] at h
    cases h
    exact ⟨f, rfl⟩
  | ok request =>
    rw [hd] at h
    cases h

/-- All that building an authorization URL can come to. -/
theorem authorizationUrl_cases (g : Grant) (s : Store Token) :
    (∃ f, demand g .authorization false s = .error f ∧ (authorizationUrl g s).result = .error (.failure f)) ∨
    (∃ base pairs flaw, demand g .authorization false s = .ok (base, pairs) ∧
      Uri.appendQuery base (Form.encode .percent pairs) = .error flaw ∧ (authorizationUrl g s).result = .error (.uri flaw)) ∨
    (∃ base pairs u, demand g .authorization false s = .ok (base, pairs) ∧
      Uri.appendQuery base (Form.encode .percent pairs) = .ok u ∧ (authorizationUrl g s).result = .ok u) := by
  rw [authorizationUrl_result]
  cases hd : demand g .authorization false s with
  | error f => exact Or.inl ⟨f, rfl, rfl⟩
  | ok request =>
    obtain ⟨base, pairs⟩ := request
    cases happend : Uri.appendQuery base (Form.encode .percent pairs) with
    | error flaw => exact Or.inr (Or.inl ⟨base, pairs, flaw, rfl, happend, by simp [Except.mapError, Except.bind, happend]⟩)
    | ok u => exact Or.inr (Or.inr ⟨base, pairs, u, rfl, happend, by simp [Except.mapError, Except.bind, happend]⟩)

/-- A store that gives an authorization URL has an endpoint and every required parameter, and the URL is the endpoint with the
parameters appended. -/
theorem authorizationUrl_ok {u : String} (h : (authorizationUrl g s).result = .ok u) :
    ∃ base, s.values .authorizationUrl = some base ∧
      (∀ p ∈ (g.rules .authorization).required,
        (s.withDefaults (g.rules .authorization).defaults).available? false p ≠ none) ∧
      Uri.appendQuery base (Form.encode .percent (rows g .authorization false s)) = .ok u := by
  rcases authorizationUrl_cases g s with ⟨f, _, hr⟩ | ⟨_, _, flaw, _, _, hr⟩ | ⟨base, pairs, u', hd, happend, hr⟩ <;>
    rw [hr] at h <;> cases h
  obtain ⟨hbase, hrequired, rfl, _⟩ := demand_ok hd
  rw [g.endpoint_authorization] at hbase
  exact ⟨base, hbase, hrequired, happend⟩

/-- A store has all that an authorization of a grant needs, but its endpoint does not end where a query may just follow, and it
cannot be cut into parts. -/
def Blocked (g : Grant) (flaw : Uri.SplitFlaw) (s : Store Token) : Prop :=
  ∃ base pairs, demand g .authorization false s = .ok (base, pairs) ∧ base.toList.getLast? ≠ some '?' ∧
    base.toList.getLast? ≠ some '&' ∧ Uri.split base = .error flaw

/-- Appending the query of an authorization fails exactly when the store is blocked. -/
theorem authorizationUrl_uri_iff {flaw : Uri.SplitFlaw} :
    (authorizationUrl g s).result = .error (.uri flaw) ↔ Blocked g flaw s := by
  constructor
  · intro h
    rcases authorizationUrl_cases g s with ⟨f, _, hr⟩ | ⟨base, pairs, flaw', hd, happend, hr⟩ | ⟨_, _, u, _, _, hr⟩ <;>
      rw [hr] at h <;> cases h
    obtain ⟨_, hmark, hamp, hsplit⟩ := Uri.appendQuery_error_iff.mp happend
    exact ⟨base, pairs, hd, hmark, hamp, hsplit⟩
  · rintro ⟨base, pairs, hd, hmark, hamp, hsplit⟩
    have happend := Uri.appendQuery_error_iff.mpr ⟨Form.encode_ne_empty .percent (pairs_ne_nil hd), hmark, hamp, hsplit⟩
    rw [authorizationUrl_result, hd]
    simp [Except.mapError, Except.bind, happend]

/-- A store is blocked by one flaw. -/
theorem blocked_unique {flaw flaw' : Uri.SplitFlaw} (h : Blocked g flaw s) (h' : Blocked g flaw' s) : flaw = flaw' := by
  have hr := authorizationUrl_uri_iff.mpr h
  rw [authorizationUrl_uri_iff.mpr h'] at hr
  cases hr
  rfl

/-- An authorization URL that cannot be built fails with a failure of the library or because the store is blocked. -/
theorem authorizationUrl_fault {fault : Fault} (h : (authorizationUrl g s).result = .error fault) :
    (∃ f, fault = .failure f) ∨ ∃ flaw, fault = .uri flaw ∧ Blocked g flaw s := by
  rcases authorizationUrl_cases g s with ⟨f, _, hr⟩ | ⟨_, _, flaw, _, _, hr⟩ | ⟨_, _, u, _, _, hr⟩
  · rw [hr] at h
    cases h
    exact Or.inl ⟨f, rfl⟩
  · have hblocked := authorizationUrl_uri_iff.mp hr
    rw [hr] at h
    cases h
    exact Or.inr ⟨flaw, rfl, hblocked⟩
  · rw [hr] at h
    cases h

end OAuthClient.Store
