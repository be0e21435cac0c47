import OAuthClient.Proofs.Session.WellFormed
import OAuthClient.Proofs.Store.Outcome

/-!
# What every store holds

Whatever happened to a session, and however much of it failed, its stores and the copies in its handles keep to what the names of
parameters and the check of URLs promise. So a form that a handle builds goes to a URL that has passed the check.
-/

namespace OAuthClient

/-- A text is a URL as far as it is checked: it can be read, and it has a scheme. -/
def Uri.IsChecked (text : String) : Prop :=
  ∃ r, Uri.Reference.read Uri.isHostName text.toList = .ok r ∧ r.scheme ≠ []

namespace Store

variable {τ : Type}

/-- A value under a URL parameter of a well-formed store is a URL. -/
theorem WellFormed.isChecked {s : Store τ} (h : s.WellFormed) {p : Parameter} (hurl : p.isUrl = true) {v : String}
    (hv : s.values p = some v) : Uri.IsChecked v :=
  read_of_accepts hurl (h.accepts p v hv)

/-- A well-formed store keeps values under the names of parameters that are set, but for the scope. -/
theorem WellFormed.containsKey_iff {s : Store τ} (h : s.WellFormed) (key : String) :
    s.containsKey key = true ↔ ∃ p, p ≠ .scope ∧ p.wireName = key ∧ s.contains p = true := by
  constructor
  · intro hkey
    rw [containsKey] at hkey
    split at hkey
    · next p hp =>
      have hscope : p ≠ .scope := by
        intro he
        rw [he, h.scope] at hkey
        cases hkey
      have hname : p.wireName = key := by
        rw [Parameter.ofWireName?] at hp
        have hfound := List.find?_some hp
        exact of_decide_eq_true hfound
      exact ⟨p, hscope, hname, by rw [contains, get?, if_neg hscope]; exact hkey⟩
    · cases hkey
  · rintro ⟨p, hscope, rfl, hp⟩
    rw [contains, get?, if_neg hscope] at hp
    rw [containsKey, Parameter.ofWireName?_wireName]
    exact hp

/-- The name of the scope is never one under which a well-formed store keeps a value. -/
theorem WellFormed.containsKey_scope {s : Store τ} (h : s.WellFormed) : s.containsKey "scope" = false := by
  cases hkey : s.containsKey "scope" with
  | false => rfl
  | true =>
    obtain ⟨p, hscope, hname, _⟩ := (h.containsKey_iff "scope").mp hkey
    exact absurd (Parameter.wireName_injective (q := .scope) hname) hscope

/-- A parameter is set exactly when it has a value. -/
theorem contains_iff_get? (s : Store τ) (p : Parameter) : s.contains p = true ↔ s.get? p ≠ none := by
  rw [contains, Option.isSome_iff_ne_none]

/-- A parameter is set exactly when asking for a value that must be set gives the value that it has. -/
theorem contains_iff_get (s : Store τ) (p : Parameter) : s.contains p = true ↔ ∃ v, s.get? p = some v ∧ s.get p = .ok v := by
  rw [contains_iff_get?, Option.ne_none_iff_exists', get]
  constructor
  · rintro ⟨v, hv⟩
    exact ⟨v, hv, by rw [hv]⟩
  · rintro ⟨v, hv, _⟩
    exact ⟨v, hv⟩

/-- Asking for a value that must be set fails exactly when the parameter is not set, and the failure names it. -/
theorem get_eq_error_iff (s : Store τ) (p : Parameter) (f : Failure) :
    s.get p = .error f ↔ s.contains p = false ∧ f = .missing p.wireName none := by
  rw [contains, get]
  cases s.get? p with
  | none => simp [eq_comm]
  | some v => simp

/-- A form of a well-formed store goes to a URL. -/
theorem WellFormed.formRequest_uri {s : Store Token} (h : s.WellFormed) {g : Grant} {ph : Phase} {r : FormRequest}
    (hr : (formRequest g ph s).result = .ok r) : Uri.IsChecked r.uri := by
  rw [formRequest_result] at hr
  cases hd : demand g ph true s with
  | error f =>
    rw [hd] at hr
    cases hr
  | ok request =>
    rw [hd] at hr
    cases hr
    exact h.isChecked (g.rules_wellFormed ph).endpoint_isUrl (demand_ok hd).1

end Store

namespace Handle

/-- A result that is kept as a value is the value of a result that succeeded. -/
theorem ok_of_keepFailure {α : Type} {result : Except Fault α} {a : α} (h : keepFailure result = .ok (.ok a)) :
    result = .ok a := by
  cases result with
  | ok b =>
    cases h
    rfl
  | error fault => cases fault <;> cases h

/-- A form that a call gives without a failure was built from the store of the handle. -/
theorem formRequest_of_call {σ : Type} {h : Handle} {c : Call} {t : σ} {nonblocking : Bool} {r : FormRequest}
    (hcall : (h.call c t).result = .ok (.request (.form nonblocking (.ok r)))) :
    ∃ ph, (Store.formRequest h.grant ph h.store).result = .ok r := by
  cases hoffers : h.offers c with
  | false =>
    rw [h.call_of_not_offers hoffers] at hcall
    cases hcall
  | true =>
    obtain ⟨records, hrun⟩ := h.call_apply (σ := σ) hoffers
    rw [hrun] at hcall
    -- only the calls for forms give one
    have hform {ph : Phase} (hbuilt : (formOutcome h.grant h.nonblocking h.store ph).map Answer.request =
        .ok (.request (.form nonblocking (.ok r)))) : ∃ ph, (Store.formRequest h.grant ph h.store).result = .ok r := by
      obtain ⟨_, hrequest, heq⟩ := Act.exists_of_map_ok hbuilt
      cases heq
      obtain ⟨_, hkept, heq⟩ := Act.exists_of_map_ok hrequest
      cases heq
      exact ⟨ph, ok_of_keepFailure hkept⟩
    cases c with
    | url =>
      obtain ⟨_, _, heq⟩ := Act.exists_of_map_ok hcall
      cases heq
    | authorizationUrl =>
      obtain ⟨_, _, heq⟩ := Act.exists_of_map_ok hcall
      cases heq
    | browserAuthorization =>
      obtain ⟨_, hrequest, heq⟩ := Act.exists_of_map_ok hcall
      cases heq
      obtain ⟨_, _, heq⟩ := Act.exists_of_map_ok hrequest
      cases heq
    | accessToken => exact hform hcall
    | refreshToken => exact hform hcall
    | authorization => exact hform hcall

end Handle

namespace StoreSession

/-- What every store of a reachable session keeps to, in four parts.
1. Its values are under the names of parameters that are set, and none is under the name of the scope.
2. Every value under a URL parameter is a URL.
3. A parameter is set exactly when it has a value, which is exactly when asking for its value gives the value that it has; otherwise
asking fails, and the failure names the parameter.
4. Every form that a call on a handle gives without a failure goes to a URL. -/
theorem stores_sound {f : StoreSession} (hf : f.Reachable) :
    (∀ s, f.Holds s →
      (∀ key, s.containsKey key = true ↔ ∃ p, p ≠ .scope ∧ p.wireName = key ∧ s.contains p = true) ∧
      s.containsKey "scope" = false ∧
      (∀ p v, p.isUrl = true → s.values p = some v → Uri.IsChecked v) ∧
      ∀ p, (s.contains p = true ↔ s.get? p ≠ none) ∧ (s.contains p = true ↔ ∃ v, s.get? p = some v ∧ s.get p = .ok v) ∧
        ∀ failure, s.get p = .error failure ↔ s.contains p = false ∧ failure = .missing p.wireName none) ∧
    ∀ h ∈ f.handles, ∀ (σ : Type) (t : σ) (c : Handle.Call) (nonblocking : Bool) (r : FormRequest),
      (h.2.call c t).result = .ok (.request (.form nonblocking (.ok r))) → Uri.IsChecked r.uri := by
  constructor
  · intro s hs
    have hwell := hf.wellFormed.of_holds hs
    exact ⟨hwell.containsKey_iff, hwell.containsKey_scope, fun p v hurl hv => hwell.isChecked hurl hv, fun p =>
      ⟨s.contains_iff_get? p, s.contains_iff_get p, s.get_eq_error_iff p⟩⟩
  · intro h hh σ t c nonblocking r hcall
    obtain ⟨ph, hr⟩ := Handle.formRequest_of_call hcall
    exact (hf.wellFormed.handles h hh).formRequest_uri hr

/-- The session of a client with a token endpoint, in which a write was refused and a handle was made. -/
def ofService : StoreSession :=
  (ofClient "app" "https://login.test").play
    [.step (.set "access_token_url" (.str "https://login.test/token")), .step (.set "access_token_url" (.str "token")),
      .step (.handle "service" "client_credentials" false)]

set_option maxRecDepth 10000 in
/-- The store of the client has its endpoint, which is a URL, and the form of its handle goes there. -/
theorem stores_sound_ofService :
    ofService.resolved.containsKey "access_token_url" = true ∧ ofService.resolved.containsKey "scope" = false ∧
      ∃ h ∈ ofService.handles, (h.2.call .accessToken ()).result = .ok (.request (.form false (.ok
          ⟨"https://login.test/token", [("client_id", "app"), ("grant_type", "client_credentials"), ("scope", "mail")]⟩))) ∧
        Uri.IsChecked "https://login.test/token" := by
  have hreachable : ofService.Reachable := (reachable_ofClient "app" "https://login.test").play _
  obtain ⟨hstores, hhandles⟩ := stores_sound hreachable
  obtain ⟨hkeys, hscope, -⟩ := hstores ofService.resolved (Or.inl ⟨_, hreachable.wellFormed.store_mem, rfl⟩)
  have hcall : ∃ h ∈ ofService.handles, (h.2.call .accessToken ()).result = .ok (.request (.form false (.ok
      ⟨"https://login.test/token", [("client_id", "app"), ("grant_type", "client_credentials"), ("scope", "mail")]⟩))) :=
    ⟨_, List.mem_cons_self, by rfl⟩
  obtain ⟨h, hh, hresult⟩ := hcall
  exact ⟨(hkeys _).mpr ⟨.accessTokenUrl, nofun, rfl, by rfl⟩, hscope, h, hh, hresult, hhandles h hh _ _ _ _ _ hresult⟩

end StoreSession

end OAuthClient
