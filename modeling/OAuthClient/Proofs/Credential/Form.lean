import OAuthClient.Credential.Code
import OAuthClient.Proofs.Credential.Load
import OAuthClient.Proofs.Handle
import OAuthClient.Proofs.Store.Outcome
import OAuthClient.Proofs.Store.Rules

/-!
# Token requests and the store

The token request that a credential builds is that of the store. The credential asks for more than the store does, it names its
fields in an order of its own, and it sets the type of the grant itself, where the store fills it in. But when its form and its URL
can be built, a fresh store that is loaded with the same values, in any order, has a request with the same URL and the same fields.
-/

namespace OAuthClient

open Credential

namespace Store

variable {s s' : Store Token} {g : Grant} {ph : Phase}

/-- A form of which no parameter is named twice is there when all its required parameters are, and has the rows of its parameters. -/
theorem formParams_eq_ok_iff {required optional : List Parameter} {fields : List (String × String)}
    (hnodup : (required ++ optional).Nodup) (hrefresh : Parameter.refreshToken ∉ optional) :
    s.formParams required optional = .ok fields ↔
      fields = (required ++ optional).filterMap (s.row? true) ∧ ∀ p ∈ required, s.available? true p ≠ none := by
  have hmissing : (∀ p ∈ required, s.available? true p ≠ none) ↔
      required.find? (fun p => (s.available? true p).isNone) = none := by
    simp only [List.find?_eq_none, Option.isNone_iff_eq_none, ne_eq]
  rw [formParams_eq s hrefresh (hnodup.map fun p q => Parameter.wireName_injective), pairs_eq s true hrefresh, hmissing]
  cases required.find? fun p => (s.available? true p).isNone with
  | some p => simp
  | none => simp [eq_comm]

/-- A form that was built from one store tells what a phase comes to on another store in which the parameters of the phase are
available alike: the same fields, in the order of the phase. -/
theorem demand_of_formParams {required optional : List Parameter} {fields : List (String × String)} {uri : String}
    (h : s.formParams required optional = .ok fields) (hrefresh : Parameter.refreshToken ∉ optional)
    (hsup : (g.rules ph).supported = true) (hperm : (g.rules ph).parameters.Perm (required ++ optional))
    (hrequired : (g.rules ph).required ⊆ required) (huri : s'.values (g.rules ph).endpoint = some uri)
    (hagree : ∀ p ∈ (g.rules ph).parameters, (s'.withDefaults (g.rules ph).defaults).available? true p = s.available? true p) :
    ∃ params, demand g ph true s' = .ok (uri, params) ∧ params.Perm fields := by
  have hnodup : (required ++ optional).Nodup := hperm.nodup (g.rules_wellFormed ph).parameters_nodup
  obtain ⟨rfl, hthere⟩ := (formParams_eq_ok_iff hnodup hrefresh).mp h
  have hall : ∀ p ∈ (g.rules ph).required, (s'.withDefaults (g.rules ph).defaults).available? true p ≠ none := by
    intro p hp
    rw [hagree p (List.mem_append_left _ hp)]
    exact hthere p (hrequired hp)
  have hrows : rows g ph true s' = (g.rules ph).parameters.filterMap (s.row? true) :=
    List.filterMap_congr fun p hp => by rw [row?, row?, hagree p hp]
  exact ⟨_, demand_complete hsup huri hall, hrows ▸ hperm.filterMap _⟩

end Store

namespace CodeCredential

/-! ## What a credential is made of -/

/-- The phase whose request a credential builds. -/
def phase (c : CodeCredential) : Phase :=
  if c.refreshToken.isSome then .refreshToken else .accessToken

/-- The type of the grant as the credential sends it. -/
def grantType (c : CodeCredential) : String :=
  if c.refreshToken.isSome then "refresh_token" else "authorization_code"

/-- The values of a credential that are sent. A verifier that is empty is left out. -/
def values (c : CodeCredential) : List Item :=
  [.value .clientId c.clientId, .value .clientSecret c.clientSecret, .scopes c.scopes] ++
    if c.refreshToken.isSome then [.value .refreshToken c.refreshToken]
    else [.value .authorizationCode c.authorizationCode, .value .redirectUri c.redirectUri,
      .value .codeVerifier (c.codeVerifier.filter (· ≠ ""))]

/-- All that a store is loaded with at a cloud. -/
def items (c : CodeCredential) (cloud : Cloud) : List Item :=
  c.values ++ [.endpoints (.forStore cloud (textOf c.authority))]

/-- A fresh store with the values of a credential. -/
def filled (c : CodeCredential) : Store Token :=
  c.values.foldl Item.write .empty

variable {σ : Type} {c : CodeCredential} {cloud : Cloud} {t : σ} {uri : String} {fields : List (String × String)}

/-- The values of a credential are no scope, no URL and no endpoints, and none of them is the type of the grant. -/
theorem values_plain (c : CodeCredential) : (∀ i ∈ c.values, i.IsPlain ∧ i.target ≠ .authorizationUrl) ∧
    (c.values.map Item.target).Nodup ∧ .grantType ∉ c.values.map Item.target := by
  rw [values]
  split <;> simp [Item.IsPlain, Item.target, Parameter.isUrl]

/-- The fields that ask for a fresh token are those of a store with the refresh token and the type of the grant. -/
theorem refreshForm_ok {s : Store Token} (h : (c.refreshForm s).result = .ok fields) : ∃ v, c.refreshToken = some v ∧
    ((s.setValue .refreshToken v).setValue .grantType "refresh_token").formParams
      [.clientId, .clientSecret, .refreshToken, .grantType] [.scope] = .ok fields := by
  obtain ⟨v, hv, h⟩ := of_insertRequired (by decide) rfl h
  rw [Act.result_behind, Store.leaves_insert_plain (by decide) rfl] at h
  exact ⟨v, hv, Act.of_mapError_ok h⟩

/-- The fields that redeem a code are those of a store with the code, the URL to come back to, the verifier and the type of the
grant. -/
theorem codeForm_ok {s : Store Token} (h : (c.codeForm s).result = .ok fields) :
    ∃ code redirectUri, c.authorizationCode = some code ∧ c.redirectUri = some redirectUri ∧
      (((Item.value .codeVerifier (c.codeVerifier.filter (· ≠ ""))).write
        ((s.setValue .authorizationCode code).setValue .redirectUri redirectUri)).setValue .grantType
        "authorization_code").formParams [.clientId, .clientSecret, .redirectUri, .authorizationCode, .grantType]
        [.scope, .codeVerifier] = .ok fields := by
  obtain ⟨code, hcode, h⟩ := of_insertRequired (by decide) rfl h
  rw [Act.result_behind, Store.leaves_insert_plain (by decide) rfl] at h
  obtain ⟨redirectUri, hredirect, h⟩ := of_insertRequired (by decide) rfl h
  rw [Act.result_behind, Item.leaves_value ⟨by decide, rfl⟩] at h
  refine ⟨code, redirectUri, hcode, hredirect, ?_⟩
  -- the credential sets the type of the grant before the last two values
  have hlast := Item.write_comm (i := .value .grantType (some "authorization_code"))
    (j := .value .codeVerifier (c.codeVerifier.filter (· ≠ ""))) ⟨by decide, rfl⟩ ⟨by decide, rfl⟩
    (show Parameter.grantType ≠ .codeVerifier by decide) ((s.setValue .authorizationCode code).setValue .redirectUri redirectUri)
  rw [Store.setValue_comm (show Parameter.grantType ≠ .redirectUri by decide)] at h
  exact Act.of_mapError_ok ((congrArg (fun s => (Store.formParams s _ _).mapError Fault.failure) hlast).symm.trans h)

/-- The type of the grant is what its phase falls back to. -/
theorem defaults_phase (c : CodeCredential) : (grant.rules c.phase).defaults = [(.grantType, c.grantType)] := by
  rw [phase, grantType]
  split <;> rfl

/-- The form of a credential has the fields of a store with its values and the type of the grant. It has the parameters of its phase,
in an order of its own, and asks at least for those that the phase asks for. -/
theorem form_ok (h : (c.form t).result = .ok fields) :
    ∃ required optional, (c.filled.setValue .grantType c.grantType).formParams required optional = .ok fields ∧
      .refreshToken ∉ optional ∧ (grant.rules c.phase).parameters.Perm (required ++ optional) ∧
      (grant.rules c.phase).required ⊆ required := by
  rw [form, onFresh] at h
  split at h
  · cases h
  obtain ⟨clientId, hid, h⟩ := of_insertRequired (by decide) rfl h
  obtain ⟨clientSecret, hsecret, h⟩ := of_insertRequired (by decide) rfl h
  rw [Act.result_behind] at h
  cases hrefresh : c.refreshToken.isSome with
  | true =>
    rw [hrefresh] at h
    obtain ⟨v, hv, h⟩ := refreshForm_ok h
    refine ⟨[.clientId, .clientSecret, .refreshToken, .grantType], [.scope], ?_, by decide, ?_⟩
    · simp only [filled, values, grantType, hid, hsecret, hv]
      exact h
    · rw [phase, hrefresh]
      decide
  | false =>
    rw [hrefresh] at h
    by_cases hcode : c.authorizationCode.isSome = true
    · rw [if_neg (by decide), if_pos hcode] at h
      obtain ⟨code, redirectUri, hcode, hredirect, h⟩ := codeForm_ok h
      refine ⟨[.clientId, .clientSecret, .redirectUri, .authorizationCode, .grantType], [.scope, .codeVerifier], ?_,
        by decide, ?_⟩
      · simp only [filled, values, grantType, hrefresh, hid, hsecret, hcode, hredirect]
        exact h
      · rw [phase, hrefresh]
        decide
    · rw [if_neg (by decide), if_neg hcode] at h
      cases h

/-- The URL of a credential is the token endpoint of endpoints that every store takes. -/
theorem uri_ok (h : (c.uri cloud t).result = .ok uri) :
    uri = (Endpoints.forStore cloud (textOf c.authority)).token ∧
      ∀ s : Store Token, (Store.setEndpoints (.forStore cloud (textOf c.authority))).leaves s =
        .ok (s.withEndpoints (.forStore cloud (textOf c.authority))) := by
  have hrun : (c.uri cloud t).result = ((Store.setEndpoints (.forStore cloud (textOf c.authority))).leaves .empty).bind
      fun s : Store Token => (s.get .accessTokenUrl).mapError Fault.failure := by
    rw [CodeCredential.uri, onFresh, Act.result_behind]
    rfl
  rcases Store.leaves_setEndpoints (.forStore cloud (textOf c.authority)) with ⟨fault, hrefused⟩ | htaken
  · rw [hrun, hrefused] at h
    cases h
  · rw [hrun, htaken] at h
    exact ⟨(Except.ok.inj h).symm, htaken⟩

/-- The order in which a store is loaded with a credential does not matter. -/
theorem orderless_items (c : CodeCredential) (cloud : Cloud) : Orderless (c.items cloud) := by
  obtain ⟨hplain, hnodup, _⟩ := c.values_plain
  constructor
  · intro i hi
    rcases List.mem_append.mp hi with hi | hi
    · exact (hplain i hi).1
    · rw [List.mem_singleton.mp hi]
      trivial
  · rw [items, List.map_append, List.nodup_append]
    refine ⟨hnodup, List.nodup_singleton _, ?_⟩
    intro p hp q hq he
    obtain ⟨i, hi, rfl⟩ := List.mem_map.mp hp
    exact (hplain i hi).2 (he.trans (List.mem_singleton.mp hq))

/-- What the phase of a credential reads is available alike in the store that the credential builds its form from and in a store that
is loaded with the credential, once the type of the grant is filled in. -/
theorem available?_filled (e : Endpoints) {p : Parameter} (hp : p ∈ (grant.rules c.phase).parameters) :
    ((c.filled.withEndpoints e).withDefaults (grant.rules c.phase).defaults).available? true p =
      (c.filled.setValue .grantType c.grantType).available? true p := by
  refine Store.available?_congr ?_ rfl rfl
  rw [Store.withDefaults_values, Store.withEndpoints_values ((grant.rules_wellFormed c.phase).parameters_plain p hp),
    c.defaults_phase, List.lookup_cons]
  by_cases he : p = .grantType
  · have hnone : c.filled.values .grantType = none := foldl_write_values c.values_plain.2.2 rfl .empty
    rw [he, hnone]
    rfl
  · rw [beq_false_of_ne he, List.lookup_nil, Option.or_none]
    exact (if_neg he).symm

/-- The phase of a credential is one for the token endpoint, and the grant has it. -/
theorem phase_supported (c : CodeCredential) : c.phase ≠ .authorization ∧ (grant.rules c.phase).supported = true := by
  rw [phase]
  split <;> decide

/-- A store that is loaded with a credential gives the fields of its form. -/
theorem demand_filled (h : (c.form t).result = .ok fields) (e : Endpoints) :
    ∃ params, Store.demand grant c.phase true (c.filled.withEndpoints e) = .ok (e.token, params) ∧ params.Perm fields := by
  obtain ⟨required, optional, hform, hrefresh, hperm, hrequired⟩ := form_ok h
  have hendpoint : (c.filled.withEndpoints e).values (grant.rules c.phase).endpoint = some e.token := by
    rw [phase]
    split <;> rfl
  exact Store.demand_of_formParams hform hrefresh c.phase_supported.2 hperm hrequired hendpoint fun p => available?_filled e

/-- The request of a credential whose URL and form can be built has both. -/
theorem result_request (huri : (c.uri cloud t).result = .ok uri) (hform : (c.form t).result = .ok fields) (nonblocking : Bool) :
    (c.request nonblocking cloud t).result = .ok (.form nonblocking (.ok ⟨uri, fields⟩)) := by
  have htarget : ((do let uri ← c.uri cloud; let params ← c.form; return ⟨uri, params⟩ : Act σ FormRequest) t).result =
      .ok ⟨uri, fields⟩ := by
    have hstate : (c.uri cloud t).state = t := rfl
    rw [Act.result_bind, huri, hstate]
    simp only [Except.bind]
    rw [Act.result_bind, hform]
    rfl
  rw [request, Act.result_bind, Act.result_attempt_of_ok htarget]
  rfl

/-- A credential whose URL and form can be built has the request of a store that is loaded with its values, in whatever order: the
handle for the grant gives a request without a failure, to the same URL and with the same fields, each under a name of its own. -/
theorem request_as_loaded (huri : (c.uri cloud t).result = .ok uri) (hform : (c.form t).result = .ok fields) (nonblocking : Bool) :
    (c.request nonblocking cloud t).result = .ok (.form nonblocking (.ok ⟨uri, fields⟩)) ∧ (fields.map (·.1)).Nodup ∧
    ∀ items, items.Perm (c.items cloud) → ∃ s h params, (load items).leaves .empty = .ok s ∧
      Handle.select? (Handle.choiceFor grant) nonblocking s = some h ∧
      (∀ (τ : Type) (t : τ), (h.call (.forPhase c.phase) t).result = .ok (.request (.form nonblocking (.ok ⟨uri, params⟩)))) ∧
      params.Perm fields := by
  obtain ⟨rfl, htaken⟩ := uri_ok huri
  obtain ⟨params, hdemand, hparams⟩ := demand_filled hform (.forStore cloud (textOf c.authority))
  have hnames : (params.map (·.1)).Nodup := by
    obtain ⟨_, _, hrows, _⟩ := Store.demand_ok hdemand
    rw [hrows]
    exact Store.rows_nodup _ true (grant.rules_wellFormed c.phase).wireNames_nodup
  refine ⟨result_request huri hform nonblocking, (hparams.map _).nodup_iff.mp hnames, ?_⟩
  intro items hperm
  have hloaded : (load items).leaves .empty = .ok (c.filled.withEndpoints (.forStore cloud (textOf c.authority))) := by
    rw [(c.orderless_items cloud).leaves_load hperm, CodeCredential.items, load_append, Act.leaves_bind,
      leaves_load_plain c.values_plain.1]
    show (load [.endpoints _]).leaves c.filled = _
    rw [load, Act.each_cons, Act.each_nil, bind_pure_unit]
    exact htaken c.filled
  have hselect : Handle.select? (Handle.choiceFor grant) nonblocking
      (c.filled.withEndpoints (.forStore cloud (textOf c.authority))) = some ⟨.exchange, nonblocking, grant, _⟩ := rfl
  refine ⟨_, _, params, hloaded, hselect, ?_, hparams⟩
  intro τ t
  apply Handle.call_form (Handle.offers_forPhase hselect c.phase_supported.1 c.phase_supported.2)
  rw [Store.formRequest_result, hdemand]
  rfl

/-- A credential of a client that redeems a code, with a verifier and two scopes. -/
def ofClient (clientId code : String) : CodeCredential where
  clientId := some clientId
  clientSecret := some "secret"
  redirectUri := some "app:back"
  authorizationCode := some code
  codeVerifier := some "verifier"
  scopes := ["mail", "files"]

set_option maxRecDepth 10000 in
/-- The request for a personal account, whose endpoints are the older ones, is that of a store that is loaded in the same order. -/
theorem request_as_loaded_ofClient :
    ((ofClient "app" "c 1").request true .personal ()).result =
      .ok (.form true (.ok ⟨"https://login.live.com/oauth20_token.srf", [("client_id", "app"), ("client_secret", "secret"),
        ("redirect_uri", "app:back"), ("code", "c 1"), ("grant_type", "authorization_code"), ("scope", "files mail"),
        ("code_verifier", "verifier")]⟩)) ∧
    ∃ s h params, (load ((ofClient "app" "c 1").items .personal)).leaves .empty = .ok s ∧
      Handle.select? "authorization_code_grant" true s = some h ∧
      (h.call .accessToken ()).result =
        .ok (.request (.form true (.ok ⟨"https://login.live.com/oauth20_token.srf", params⟩))) ∧
      params.Perm [("client_id", "app"), ("client_secret", "secret"), ("redirect_uri", "app:back"), ("code", "c 1"),
        ("grant_type", "authorization_code"), ("scope", "files mail"), ("code_verifier", "verifier")] := by
  have huri : ((ofClient "app" "c 1").uri .personal ()).result = .ok "https://login.live.com/oauth20_token.srf" := by rfl
  have hform : ((ofClient "app" "c 1").form ()).result = .ok [("client_id", "app"), ("client_secret", "secret"),
      ("redirect_uri", "app:back"), ("code", "c 1"), ("grant_type", "authorization_code"), ("scope", "files mail"),
      ("code_verifier", "verifier")] := by rfl
  obtain ⟨hrequest, _, hloaded⟩ := request_as_loaded huri hform true
  obtain ⟨s, h, params, hleaves, hselect, hcall, hperm⟩ := hloaded _ (List.Perm.refl _)
  exact ⟨hrequest, s, h, params, hleaves, hselect, hcall _ (), hperm⟩

end CodeCredential

end OAuthClient
