import OAuthClient.Proofs.Json.Display
import OAuthClient.Proofs.Request
import OAuthClient.Proofs.Store.WellFormed

/-!
# Which refresh token a store uses

The value that is set wins unless there is none or it is empty, and then the token that was kept last is asked. What is found is never
empty, and every form that sends a refresh token sends this one.
-/

namespace OAuthClient

/-- The refresh token of a token, where it has one, is not empty. -/
theorem Token.refreshToken?_ne_empty (t : Token) : t.refreshToken? ≠ some "" := by
  rw [Token.refreshToken?]
  split
  · next h => exact fun he => Json.display_ne_empty h (Option.some.inj he)
  · nofun

namespace Store

variable {s : Store Token} {v : String}

/-- A store reads the value of the refresh token as that of any other parameter. -/
theorem get?_refreshToken (s : Store Token) : s.get? .refreshToken = s.values .refreshToken := rfl

/-- The value of a store is its refresh token, unless it is empty. -/
theorem refreshToken_of_value (h : s.values .refreshToken = some v) (hv : v ≠ "") : s.refreshToken = .ok v := by
  rw [refreshToken, refreshToken?, get?_refreshToken, h]
  simp only [hv, if_false]

/-- Without a value, or with an empty one, the refresh token of a store is the one that its token has, if any. -/
theorem refreshToken_of_no_value (h : ∀ v, s.values .refreshToken = some v → v = "") :
    s.refreshToken = match s.tokenRefresh? with
      | some v => .ok v
      | none => .error (.missing "refresh_token" none) := by
  have hfallback : s.refreshToken? = s.tokenRefresh? := by
    rw [refreshToken?, get?_refreshToken]
    cases hvalue : s.values .refreshToken with
    | none => rfl
    | some v => exact if_pos (h v hvalue)
  rw [refreshToken, hfallback]
  rfl

/-- The refresh token of the token that was kept last is not empty. -/
theorem tokenRefresh?_ne_empty (s : Store Token) : s.tokenRefresh? ≠ some "" := by
  intro h
  rw [tokenRefresh?, Option.bind_eq_some_iff] at h
  obtain ⟨t, -, ht⟩ := h
  exact t.refreshToken?_ne_empty ht

/-- The refresh token of a store is never empty. -/
theorem refreshToken_ne_empty (s : Store Token) : s.refreshToken ≠ .ok "" := by
  by_cases hvalue : ∃ v, s.values .refreshToken = some v ∧ v ≠ ""
  · obtain ⟨v, hv, hne⟩ := hvalue
    rw [refreshToken_of_value hv hne]
    exact fun h => hne (Except.ok.inj h)
  · rw [refreshToken_of_no_value fun v hv => not_not.mp fun hne => hvalue ⟨v, hv, hne⟩]
    cases ht : s.tokenRefresh? with
    | none => nofun
    | some v => exact fun h => s.tokenRefresh?_ne_empty (ht.trans (congrArg some (Except.ok.inj h)))

/-- A form has the refresh token of the store in its field for it, in every phase that sends one. -/
theorem refreshToken_of_mem_form {g : Grant} {ph : Phase} {r : FormRequest} (hr : (formRequest g ph s).result = .ok r)
    (hv : ("refresh_token", v) ∈ r.params) : s.refreshToken = .ok v := by
  obtain ⟨_, _, hrows, _⟩ := demand_ok (demand_of_formRequest hr)
  rw [hrows, mem_rows] at hv
  obtain ⟨p, _, hname, havailable⟩ := hv
  cases Parameter.wireName_injective (q := .refreshToken) hname
  rw [available?_congr (withDefaults_values_of_notMem g ph (by decide) s) (withDefaults_scopes _ _) (withDefaults_token _ _),
    available?_refreshToken] at havailable
  rw [refreshToken, havailable]

/-- A form that asks for a fresh token, in a phase that sends a refresh token, has the field for it. -/
theorem exists_mem_form {g : Grant} {ph : Phase} {r : FormRequest} (hr : (formRequest g ph s).result = .ok r)
    (hp : .refreshToken ∈ (g.rules ph).parameters) : ∃ v, ("refresh_token", v) ∈ r.params := by
  obtain ⟨_, hrequired, hrows, _⟩ := demand_ok (demand_of_formRequest hr)
  have hmem : .refreshToken ∈ (g.rules ph).required :=
    (List.mem_append.mp hp).resolve_right (g.rules_wellFormed ph).refreshToken_notMem_optional
  obtain ⟨v, hv⟩ := Option.ne_none_iff_exists'.mp (hrequired .refreshToken hmem)
  exact ⟨v, hrows ▸ mem_rows.mpr ⟨.refreshToken, hp, rfl, hv⟩⟩

/-- The phases that send a refresh token need it behind the client only. -/
theorem required_of_sendsRefresh {g : Grant} {ph : Phase} (hp : .refreshToken ∈ (g.rules ph).parameters) :
    (g.rules ph).required = [.clientId, .refreshToken, .grantType] ∧ (g.rules ph).unsupported = none ∧
      (g.rules ph).endpoint = .refreshTokenUrl := by
  have htable : ∀ g : Grant, ∀ ph : Phase, .refreshToken ∈ (g.rules ph).parameters →
      (g.rules ph).required = [.clientId, .refreshToken, .grantType] ∧ (g.rules ph).unsupported = none ∧
        (g.rules ph).endpoint = .refreshTokenUrl := by
    intro g ph
    cases g <;> cases ph <;> decide
  exact htable g ph hp

/-- A refresh token that a store does not have is reported as missing. -/
theorem missing_of_refreshToken {f : Failure} (h : s.refreshToken = .error f) :
    s.refreshToken? = none ∧ f = .missing "refresh_token" none := by
  rw [refreshToken] at h
  cases hv : s.refreshToken? with
  | some v =>
    rw [hv] at h
    cases h
  | none =>
    rw [hv] at h
    exact ⟨rfl, (Except.error.inj h).symm⟩

/-- A form that needs a refresh token and has none to send fails with it as missing, once the endpoint and the client are known. -/
theorem formRequest_of_missing {g : Grant} {ph : Phase} (hp : .refreshToken ∈ (g.rules ph).parameters)
    (hendpoint : s.values .refreshTokenUrl ≠ none) (hclient : s.values .clientId ≠ none) {f : Failure}
    (hf : s.refreshToken = .error f) : (formRequest g ph s).result = .error (.failure f) := by
  obtain ⟨hnone, rfl⟩ := missing_of_refreshToken hf
  obtain ⟨hrequired, hsup, huri⟩ := required_of_sendsRefresh hp
  obtain ⟨uri, hvalue⟩ := Option.ne_none_iff_exists'.mp hendpoint
  obtain ⟨client, hclient⟩ := Option.ne_none_iff_exists'.mp hclient
  have havailable : ((s.withDefaults (g.rules ph).defaults).available? true .clientId).isNone = false := by
    show ((s.withDefaults (g.rules ph).defaults).values .clientId).isNone = false
    rw [withDefaults_values, hclient]
    rfl
  have hmissing : ((s.withDefaults (g.rules ph).defaults).available? true .refreshToken).isNone = true := by
    rw [available?_congr (withDefaults_values_of_notMem g ph (by decide) s) (withDefaults_scopes _ _) (withDefaults_token _ _),
      available?_refreshToken, hnone]
    rfl
  rw [formRequest_result, demand, hsup, huri, hvalue, hrequired]
  simp only [List.find?_cons, havailable, hmissing]
  rfl

end Store

end OAuthClient
