import OAuthClient.Proofs.Request
import OAuthClient.Proofs.Session.WellFormed

/-!
# The two legs of a proof of possession

A session that draws a verifier keeps it, its challenge and the method until they are written again. The form that redeems a code
carries the verifier for two grants. For one of them, the authorization code grant, the authorization URL carries the challenge of
that verifier, so the two legs agree. For the other one, the OpenID Connect sign-in, the URL never carries a challenge.
-/

namespace OAuthClient

/-! ## What a store sends -/

namespace Store

/-- A store that has a verifier, its challenge and the method between them. -/
structure HasPkce (pair : Pkce) (s : Store Token) : Prop where
  verifier : s.values .codeVerifier = some pair.verifier
  challenge : s.values .codeChallenge = some pair.challenge
  method : s.values .codeChallengeMethod = some Pkce.method

variable {g : Grant} {s : Store Token} {pair : Pkce} {r : FormRequest} {v u : String}

/-- The grants whose access token form may carry a verifier. -/
theorem codeVerifier_mem_iff (g : Grant) :
    .codeVerifier ∈ (g.rules .accessToken).parameters ↔ g = .authorizationCode ∨ g = .openId := by
  cases g <;> decide

/-- A form that carries a verifier carries the one of the store, and it is of one of the grants that may carry one. -/
theorem HasPkce.form (h : s.HasPkce pair) (hr : (formRequest g .accessToken s).result = .ok r)
    (hv : ("code_verifier", v) ∈ r.params) : v = pair.verifier ∧ (g = .authorizationCode ∨ g = .openId) := by
  obtain ⟨_, _, hrows, _⟩ := demand_ok (demand_of_formRequest hr)
  rw [hrows, mem_rows] at hv
  obtain ⟨p, hp, hname, hvalue⟩ := hv
  cases Parameter.wireName_injective (q := .codeVerifier) hname
  have havailable : (s.withDefaults (g.rules .accessToken).defaults).values .codeVerifier = some v := hvalue
  rw [withDefaults_values, h.verifier, Option.some_or, Option.some.injEq] at havailable
  exact ⟨havailable.symm, (codeVerifier_mem_iff g).mp hp⟩

/-- The URL of the authorization code grant carries the challenge of the store and the method. -/
theorem HasPkce.mem_rows_authorizationCode (h : s.HasPkce pair) :
    ("code_challenge", pair.challenge) ∈ rows .authorizationCode .authorization false s ∧
      ("code_challenge_method", Pkce.method) ∈ rows .authorizationCode .authorization false s :=
  ⟨mem_rows_of_value (by decide) (by decide) (Or.inl rfl) h.challenge,
    mem_rows_of_value (by decide) (by decide) (Or.inl rfl) h.method⟩

/-- The URL of an OpenID Connect sign-in carries no challenge and no method, whatever the store has. -/
theorem notMem_rows_openId (s : Store Token) (v : String) :
    ("code_challenge", v) ∉ rows .openId .authorization false s ∧
      ("code_challenge_method", v) ∉ rows .openId .authorization false s :=
  ⟨notMem_rows (p := .codeChallenge) (by decide) v, notMem_rows (p := .codeChallengeMethod) (by decide) v⟩

end Store

namespace StoreSession

open OAuthClient.Session

/-! ## Values that are left alone -/

/-- The parameters of the current store whose values an event may replace or take away. -/
def Event.written : Event → List Parameter
  | .step s => s.written
  | .clock _ => []

/-- An event leaves parameters of the current store alone: it replaces and takes away no value of theirs, and it puts no saved store
in the place of the current one. -/
def Event.Spares (ps : List Parameter) (e : Event) : Prop :=
  (∀ p ∈ ps, p ∉ e.written) ∧ ∀ name, e ≠ .step (.restore name)

/-- Events that leave a parameter alone keep the value that it has in the current store. -/
theorem value_play {f : StoreSession} {p : Parameter} {v : String} {events : List Event} (he : ∀ e ∈ events, e.Spares [p])
    (hcurrent : f.current < f.stores.length) (hf : f.store.values p = some v) : (f.play events).store.values p = some v := by
  refine (play_keeps (I := fun f => f.current < f.stores.length ∧ f.store.values p = some v) ?_ ⟨hcurrent, hf⟩).2
  intro e hmem f hf
  obtain ⟨hwritten, hrestore⟩ := he e hmem
  cases e with
  | clock now => exact hf
  | step step =>
    refine (keptBySteps_store (K := fun s => s.values p = some v) (fun _ _ hs => hs) (fun _ _ _ hs => hs)).perform
      (Store.invariant_value p v) (Store.invariant_value p v) step (fun _ _ => trivial) ?_ (fun _ _ => trivial)
      (fun name _ f hf => kept_saveAs (J := fun s => s.values p = some v) hf name) ?_ f hf
    · rintro q hq rfl
      exact hwritten q (List.mem_singleton.mpr rfl) hq
    · rintro name rfl
      exact absurd rfl (hrestore name)

/-! ## The two legs -/

/-- The pair that a session draws next. -/
def nextPkce (f : StoreSession) : Pkce :=
  .ofOctets (f.supply.random f.supply.draws)

/-- Drawing a verifier sets it in the current store, with its challenge and the method. -/
theorem store_generatePkce {f : StoreSession} (h : f.current < f.stores.length) :
    (perform .generatePkce f).state.current < (perform .generatePkce f).state.stores.length ∧
      (perform .generatePkce f).state.store = ((f.store.setValue .codeVerifier f.nextPkce.verifier).setValue .codeChallenge
        f.nextPkce.challenge).setValue .codeChallengeMethod Pkce.method := by
  have hstate : (perform .generatePkce f).state = ({ f with supply := { f.supply with draws := f.supply.draws + 1 } }).putStore
      (((f.store.setValue .codeVerifier f.nextPkce.verifier).setValue .codeChallenge f.nextPkce.challenge).setValue
        .codeChallengeMethod Pkce.method) := rfl
  rw [hstate]
  refine ⟨?_, store_putStore h _⟩
  rw [putStore, List.length_set]
  exact h

/-- A session that draws a verifier has it, with its challenge and the method. -/
theorem hasPkce_generatePkce {f : StoreSession} (h : f.current < f.stores.length) :
    (perform .generatePkce f).state.resolved.HasPkce f.nextPkce := by
  obtain ⟨-, hstore⟩ := store_generatePkce h
  exact ⟨congrArg (fun s => s.values .codeVerifier) hstore, congrArg (fun s => s.values .codeChallenge) hstore,
    congrArg (fun s => s.values .codeChallengeMethod) hstore⟩

/-- Events that leave a verifier, its challenge and the method alone keep them. -/
theorem hasPkce_of_spares {f : StoreSession} {pair : Pkce} (hcurrent : f.current < f.stores.length) (hf : f.resolved.HasPkce pair)
    {events : List Event} (he : ∀ e ∈ events, e.Spares Store.pkceParameters) : (f.play events).resolved.HasPkce pair := by
  have hkept : ∀ p ∈ Store.pkceParameters, ∀ v, f.store.values p = some v → (f.play events).store.values p = some v := by
    intro p hp v hv
    refine value_play (fun e hmem => ?_) hcurrent hv
    obtain ⟨hwritten, hrestore⟩ := he e hmem
    refine ⟨fun q hq => ?_, hrestore⟩
    rw [List.mem_singleton.mp hq]
    exact hwritten p hp
  exact ⟨hkept .codeVerifier (by decide) _ hf.verifier, hkept .codeChallenge (by decide) _ hf.challenge,
    hkept .codeChallengeMethod (by decide) _ hf.method⟩

/-- A session that has drawn a verifier keeps it with its challenge, whatever else happens that leaves the three values alone. -/
theorem hasPkce_play {f : StoreSession} (hf : f.Reachable) {events : List Event}
    (he : ∀ e ∈ events, e.Spares Store.pkceParameters) :
    ((perform .generatePkce f).state.play events).resolved.HasPkce f.nextPkce :=
  hasPkce_of_spares (store_generatePkce hf.wellFormed.current).1 (hasPkce_generatePkce hf.wellFormed.current) he

/-- A form that carries a verifier and the authorization URL of the same grant and store. -/
structure Legs (g : Grant) (s : Store Token) (pair : Pkce) (v : String) : Prop where
  /-- The verifier is the one that was drawn. -/
  verifier : v = pair.verifier
  /-- Only two grants send it. -/
  grant : g = .authorizationCode ∨ g = .openId
  /-- The URL, where it can be built, is the endpoint with fields appended. It is read back as these fields where the endpoint is one
  that a query can be appended to. Except for an OpenID Connect sign-in they carry the challenge of the verifier and the method; for
  that they carry neither. -/
  url : ∀ u, (Store.authorizationUrl g s).result = .ok u → ∃ base fields, s.values .authorizationUrl = some base ∧
    Uri.appendQuery base (Form.encode .percent fields) = .ok u ∧
    ('#' ∉ base.toList → (base.toList.getLast? = some '&' → '?' ∈ base.toList) →
      (base.toList.getLast? = some '?' → base.toList.count '?' = 1) →
      Form.decodeLenient (Uri.ownQuery u) = Form.decodeLenient (Uri.ownQuery base) ++ fields) ∧
    (g ≠ .openId → ("code_challenge", Pkce.challengeOf v) ∈ fields ∧ ("code_challenge_method", "S256") ∈ fields) ∧
    (g = .openId → ∀ w, ("code_challenge", w) ∉ fields ∧ ("code_challenge_method", w) ∉ fields)

/-- In every session that has drawn a verifier and has left it, its challenge and the method alone since then, a form that carries a
verifier carries this one, and the authorization URL of the same grant carries its challenge, unless the grant is an OpenID Connect
sign-in: the form of that carries the verifier, too, but its URL never carries a challenge. -/
theorem pkce_legs {f : StoreSession} (hf : f.Reachable) {events : List Event}
    (he : ∀ e ∈ events, e.Spares Store.pkceParameters) {g : Grant} {r : FormRequest} {v : String}
    (hr : (Store.formRequest g .accessToken ((perform .generatePkce f).state.play events).resolved).result = .ok r)
    (hv : ("code_verifier", v) ∈ r.params) :
    Legs g ((perform .generatePkce f).state.play events).resolved f.nextPkce v := by
  have hpkce := hasPkce_play hf he
  have hplayed : ((perform .generatePkce f).state.play events).WellFormed :=
    Reachable.wellFormed ((hf.play [.step .generatePkce]).play events)
  obtain ⟨hverifier, hgrant⟩ := hpkce.form hr hv
  refine ⟨hverifier, hgrant, fun u hu => ?_⟩
  obtain ⟨base, hbase, _, happend⟩ := Store.authorizationUrl_ok hu
  refine ⟨base, _, hbase, happend, fun hfragment hamp hmark => ?_, ?_, ?_⟩
  · have haccepts := (hplayed.of_holds (Or.inl ⟨_, hplayed.store_mem, rfl⟩)).accepts .authorizationUrl base hbase
    obtain ⟨_, hread, _⟩ := Store.read_of_accepts rfl haccepts
    exact (Uri.appendQuery_decode (Uri.not_isControl_of_read hread) hfragment hamp hmark happend).2
  · intro hne
    cases hgrant.resolve_right hne
    rw [hverifier]
    exact hpkce.mem_rows_authorizationCode
  · rintro rfl w
    exact Store.notMem_rows_openId _ w

/-- The session of a client that has come back with a code, for both grants that send a verifier. -/
def withCode (clientId : String) : StoreSession :=
  play { supply := { now := 0, random := fun _ => (List.range 32).map UInt8.ofNat } }
    [.step (.set "client_id" (.str clientId)), .step (.set "redirect_uri" (.str "app:back")),
      .step (.set "authorization_url" (.str "https://a.test")), .step (.set "access_token_url" (.str "https://b.test")),
      .step (.set "response_type" (.str "code")), .step (.set "nonce" (.str "n")), .step (.set "authorization_code" (.str "c")),
      .step (.addScope "openid")]

/-- The session of a client with a code is reachable. -/
theorem reachable_withCode (clientId : String) : (withCode clientId).Reachable :=
  ⟨_, _, .empty _, rfl⟩

/-- What happens to that session between the two legs: a state is set, and the clock moves. -/
def betweenLegs : List Event :=
  [.step (.set "state" (.str "x")), .clock 5]

set_option maxRecDepth 10000 in
/-- The URL of the authorization code grant is read back with the challenge of the verifier that the form carries. -/
theorem pkce_legs_withCode :
    ∃ s v u, s = ((perform .generatePkce (withCode "app")).state.play betweenLegs).resolved ∧
      v = "AAECAwQFBgcICQoLDA0ODxAREhMUFRYXGBkaGxwdHh8" ∧ Legs .authorizationCode s (withCode "app").nextPkce v ∧
      (Store.authorizationUrl .authorizationCode s).result = .ok u ∧
      ("code_challenge", Pkce.challengeOf v) ∈ Form.decodeLenient (Uri.ownQuery u) := by
  have hspares : ∀ e ∈ betweenLegs, e.Spares Store.pkceParameters := by
    simp only [betweenLegs, List.forall_mem_cons]
    exact ⟨⟨by decide, fun _ => nofun⟩, ⟨by decide, fun _ => nofun⟩, nofun⟩
  have hr : (Store.formRequest .authorizationCode .accessToken
      ((perform .generatePkce (withCode "app")).state.play betweenLegs).resolved).result =
      .ok ⟨"https://b.test", [("client_id", "app"), ("redirect_uri", "app:back"), ("code", "c"),
        ("grant_type", "authorization_code"), ("scope", "openid"),
        ("code_verifier", "AAECAwQFBgcICQoLDA0ODxAREhMUFRYXGBkaGxwdHh8")]⟩ := by rfl
  have hu : (Store.authorizationUrl .authorizationCode
      ((perform .generatePkce (withCode "app")).state.play betweenLegs).resolved).result =
      .ok ("https://a.test?client_id=app&redirect_uri=app%3Aback&response_type=code&response_mode=query&scope=openid&state=x&" ++
        "nonce=n&code_challenge=6oZqdX5MOLq_qBJ8vppAnT4fk6AP8UiP9zX8-Rev_9A&code_challenge_method=S256") := by rfl
  have hlegs := pkce_legs (v := "AAECAwQFBgcICQoLDA0ODxAREhMUFRYXGBkaGxwdHh8") (reachable_withCode "app") hspares hr (by simp)
  refine ⟨_, _, _, rfl, rfl, hlegs, hu, ?_⟩
  obtain ⟨base, fields, hbase, _, hdecode, hchallenge, _⟩ := hlegs.url _ hu
  have hendpoint : ((perform .generatePkce (withCode "app")).state.play betweenLegs).resolved.values .authorizationUrl =
      some "https://a.test" := by rfl
  rw [hendpoint] at hbase
  cases hbase
  rw [hdecode (by decide) (by decide) (by decide)]
  exact List.mem_append_right _ (hchallenge (by decide)).1

set_option maxRecDepth 10000 in
/-- Not every form with a verifier belongs to a URL with a challenge: an OpenID Connect sign-in sends a verifier for a challenge that it
has never sent. -/
theorem not_every_verifier_has_a_challenge :
    ¬ ∀ f : StoreSession, f.Reachable → ∀ events, (∀ e ∈ events, e.Spares Store.pkceParameters) → ∀ g r v u,
      (Store.formRequest g .accessToken ((perform .generatePkce f).state.play events).resolved).result = .ok r →
      ("code_verifier", v) ∈ r.params →
      (Store.authorizationUrl g ((perform .generatePkce f).state.play events).resolved).result = .ok u →
      ("code_challenge", Pkce.challengeOf v) ∈ Form.decodeLenient (Uri.ownQuery u) := by
  intro hall
  have hform : (Store.formRequest .openId .accessToken ((perform .generatePkce (withCode "app")).state.play []).resolved).result =
      .ok ⟨"https://b.test", [("client_id", "app"), ("redirect_uri", "app:back"), ("code", "c"),
        ("grant_type", "authorization_code"), ("scope", "openid"),
        ("code_verifier", "AAECAwQFBgcICQoLDA0ODxAREhMUFRYXGBkaGxwdHh8")]⟩ := by rfl
  have hurl : (Store.authorizationUrl .openId ((perform .generatePkce (withCode "app")).state.play []).resolved).result =
      .ok "https://a.test?client_id=app&response_type=code&redirect_uri=app%3Aback&scope=openid&nonce=n" := by rfl
  have hmem := hall _ (reachable_withCode "app") [] nofun .openId _ "AAECAwQFBgcICQoLDA0ODxAREhMUFRYXGBkaGxwdHh8" _ hform
    (by simp) hurl
  have hread : Form.decodeLenient (Uri.ownQuery
      "https://a.test?client_id=app&response_type=code&redirect_uri=app%3Aback&scope=openid&nonce=n") =
      [("client_id", "app"), ("response_type", "code"), ("redirect_uri", "app:back"), ("scope", "openid"), ("nonce", "n")] := by
    rfl
  rw [hread] at hmem
  simp at hmem

end StoreSession

end OAuthClient
