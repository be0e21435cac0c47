import OAuthClient.Proofs.Credential.Form
import OAuthClient.Proofs.Session.Endpoints
import OAuthClient.Proofs.Uri.Host

/-!
# Endpoints stay at their host

An authority is put into the endpoints of a cloud as it is given, and nothing is asked of it. It stands behind the slash that ends the
host, so it cannot move the endpoints to another host, nor can a query that is appended to them later.
-/

namespace OAuthClient

open OAuthClient.Uri

/-- A text behind the login host of a cloud and a slash goes to that host. -/
theorem Cloud.goesTo (cloud : Cloud) {path v : String} (hv : v = cloud.url ++ "/" ++ path) : GoesTo cloud.host v := by
  have hgoes := goesTo_atHost cloud.isLiteralHost (hv ▸ cloud.toList_behind path)
  rwa [String.ofList_toList] at hgoes

namespace Store

variable {τ : Type}

/-- A text is read as a URL. -/
def IsRead (v : String) : Prop :=
  ∃ r, Reference.read isHostName v.toList = .ok r

/-- A URL of a cloud that fits is read. -/
theorem isRead_of_fitsUrl (cloud : Cloud) {path v : String} (hv : v = cloud.url ++ "/" ++ path) (h : FitsUrl v) : IsRead v := by
  refine read_atHost cloud.isLiteralHost (hv ▸ cloud.toList_behind path) ?_ h.2 isHostName
  rw [String.length_toList]
  exact h.1

/-- A URL of a cloud that is taken fits. -/
theorem fitsUrl_of_checkUrl (cloud : Cloud) {p : Parameter} {path v : String} (hv : v = cloud.url ++ "/" ++ path)
    (h : checkUrl p v = .ok ()) : FitsUrl v := by
  rcases checkUrl_behind p cloud hv with ⟨hfits, _⟩ | ⟨_, hcheck⟩ | ⟨_, hcheck⟩
  · exact hfits
  · rw [hcheck] at h
    cases h
  · rw [hcheck] at h
    cases h

/-- A store is bound to a host: its endpoints go there, and so does whatever is made of its authorization endpoint by appending a
query, now or from any later store that still has this endpoint. -/
structure BoundTo (host : String) (s : Store τ) : Prop where
  endpoints : ∀ p ∈ [Parameter.authorizationUrl, .accessTokenUrl, .refreshTokenUrl],
    ∃ v, s.values p = some v ∧ GoesTo host v ∧ IsRead v
  appended : ∀ base, s.values .authorizationUrl = some base → ∀ query, ∃ u, appendQuery base query = .ok u ∧ GoesTo host u
  pages : ∀ t : Store Token, t.values .authorizationUrl = s.values .authorizationUrl → ∀ g u,
    (authorizationUrl g t).result = .ok u → GoesTo host u ∧ (u.length ≤ maxLength → IsRead u)

/-- Endpoints of a cloud are set exactly when they fit. -/
theorem setEndpoints_ok_iff (cloud : Cloud) {e : Endpoints} {page token : String}
    (hauthorization : e.authorization = cloud.url ++ "/" ++ page) (htoken : e.token = cloud.url ++ "/" ++ token) (s : Store τ) :
    (setEndpoints e s).result = .ok () ↔ FitsUrl e.authorization ∧ FitsUrl e.token := by
  constructor
  · intro h
    cases hfirst : checkUrl .authorizationUrl e.authorization with
    | error f =>
      rw [setEndpoints_eq, Act.bind_of_error (insert_of_refused rfl hfirst s)] at h
      cases h
    | ok =>
      cases hsecond : checkUrl .accessTokenUrl e.token with
      | error f =>
        rw [(setEndpoints_halfway hfirst hsecond s).1] at h
        cases h
      | ok => exact ⟨fitsUrl_of_checkUrl cloud hauthorization hfirst, fitsUrl_of_checkUrl cloud htoken hsecond⟩
  · rintro ⟨hfirst, hsecond⟩
    rw [setEndpoints_eq,
      Act.bind_of_ok (insert_of_accepts (by decide) (fun _ => checkUrl_of_fitsUrl _ cloud hauthorization hfirst) s),
      Act.bind_of_ok (insert_of_accepts (by decide) (fun _ => checkUrl_of_fitsUrl _ cloud htoken hsecond) _),
      Act.bind_of_ok (insert_of_accepts (by decide) (fun _ => checkUrl_of_fitsUrl _ cloud htoken hsecond) _)]
    rfl

/-- A query of encoded fields behind a URL has no control character when the URL has none. -/
theorem not_isControl_of_appendQuery {base u : String} {fields : List (String × String)} (hbase : base.toList.any isControl = false)
    (h : appendQuery base (Form.encode .percent fields) = .ok u) : u.toList.any isControl = false := by
  have hquery : (Form.encode .percent fields).toList.any isControl = false := by
    rw [List.any_eq_false]
    intro c hc
    exact Form.of_mem_encode (p := fun c => ¬ isControl c = true) (by decide) hc
  rcases appendQuery_cases h with ⟨_, hu⟩ | ⟨_, _, hu⟩ | ⟨_, _, hu⟩ | ⟨_, _, _, parts, _, hu⟩
  · rwa [hu]
  · rw [hu, String.toList_append, List.any_append, hbase, hquery]
    rfl
  · rw [hu, String.toList_append, List.any_append, hbase, hquery]
    rfl
  · rw [hu, String.toList_append, String.toList_append, List.any_append, List.any_append, hbase, hquery]
    split <;> rfl

/-- What a query is appended to at the login host of a cloud stays there. -/
theorem goesTo_of_appendQuery (cloud : Cloud) {path base query u : String} (hbase : base = cloud.url ++ "/" ++ path)
    (h : appendQuery base query = .ok u) : ∃ behind, u = cloud.url ++ "/" ++ behind := by
  obtain ⟨tail, rfl⟩ := exists_of_appendQuery h
  exact ⟨path ++ tail, by rw [hbase, String.append_assoc]⟩

/-- A store that is pointed at endpoints behind the login host of a cloud is bound to that host. -/
theorem boundTo_of_setEndpoints (cloud : Cloud) {e : Endpoints} {page token : String}
    (hauthorization : e.authorization = cloud.url ++ "/" ++ page) (htoken : e.token = cloud.url ++ "/" ++ token) {s : Store τ}
    (h : (setEndpoints e s).result = .ok ()) : BoundTo cloud.host (setEndpoints e s).state := by
  obtain ⟨hfirst, hsecond⟩ := (setEndpoints_ok_iff cloud hauthorization htoken s).mp h
  rw [state_of_setEndpoints h]
  have hfound : (s.withEndpoints e).values .authorizationUrl = some e.authorization := rfl
  constructor
  · have htokenGoes := cloud.goesTo htoken
    have htokenRead := isRead_of_fitsUrl cloud htoken hsecond
    simp only [List.forall_mem_cons, List.not_mem_nil, false_implies, implies_true, and_true]
    exact ⟨⟨_, hfound, cloud.goesTo hauthorization, isRead_of_fitsUrl cloud hauthorization hfirst⟩,
      ⟨_, rfl, htokenGoes, htokenRead⟩, ⟨_, rfl, htokenGoes, htokenRead⟩⟩
  · intro base hbase query
    rw [hfound] at hbase
    cases hbase
    cases happend : appendQuery e.authorization query with
    | error flaw =>
      obtain ⟨parts, hsplit, _⟩ := (cloud.goesTo hauthorization).split
      have hflaw := (appendQuery_error_iff.mp happend).2.2.2
      rw [hsplit] at hflaw
      cases hflaw
    | ok u =>
      obtain ⟨behind, hu⟩ := goesTo_of_appendQuery cloud hauthorization happend
      exact ⟨u, rfl, cloud.goesTo hu⟩
  · intro t ht g u hresult
    obtain ⟨base, hbase, _, happend⟩ := authorizationUrl_ok hresult
    rw [ht, hfound] at hbase
    cases hbase
    obtain ⟨behind, hu⟩ := goesTo_of_appendQuery cloud hauthorization happend
    refine ⟨cloud.goesTo hu, fun hlength => isRead_of_fitsUrl cloud hu ⟨hlength, ?_⟩⟩
    exact not_isControl_of_appendQuery hfirst.2 happend

/-- The endpoints of a cloud for an authority stand behind its login host. -/
theorem forStore_behind (cloud : Cloud) (authority : String) : ∃ page token,
    (Endpoints.forStore cloud authority).authorization = cloud.url ++ "/" ++ page ∧
      (Endpoints.forStore cloud authority).token = cloud.url ++ "/" ++ token := by
  unfold Endpoints.forStore
  split
  · next hcloud =>
    rw [hcloud]
    exact ⟨"oauth20_authorize.srf", "oauth20_token.srf", by decide, by decide⟩
  · exact ⟨authority ++ "/oauth2/v2.0/authorize", authority ++ "/oauth2/v2.0/token",
      by simp only [Endpoints.of, String.append_assoc]; rfl, by simp only [Endpoints.of, String.append_assoc]; rfl⟩

end Store

/-- The URL of a credential goes to the login host of its cloud, whatever its authority is. -/
theorem CodeCredential.goesTo_uri {σ : Type} {c : CodeCredential} {cloud : Cloud} {t : σ} {u : String}
    (h : (c.uri cloud t).result = .ok u) : GoesTo cloud.host u ∧ Store.IsRead u := by
  obtain ⟨rfl, htaken⟩ := uri_ok h
  obtain ⟨page, token, hauthorization, htoken⟩ := Store.forStore_behind cloud (Credential.textOf c.authority)
  obtain ⟨_, hresult, _⟩ := Act.exists_of_map_ok (htaken .empty)
  have hfits := ((Store.setEndpoints_ok_iff cloud hauthorization htoken _).mp hresult).2
  exact ⟨cloud.goesTo htoken, Store.isRead_of_fitsUrl cloud htoken hfits⟩

/-- An authority cannot lead away from the login host of its cloud. A store that is pointed at a cloud for any authority, with or without
the page for the consent of an administrator, is bound to that host, and the URL of a credential goes there. -/
theorem Cloud.authority_stays (cloud : Cloud) :
    (∀ {τ : Type} (authority : String) (s : Store τ), ((Store.authority cloud authority s).result = .ok () →
        Store.BoundTo cloud.host (Store.authority cloud authority s).state) ∧
      ((Store.adminConsent cloud authority s).result = .ok () →
        Store.BoundTo cloud.host (Store.adminConsent cloud authority s).state)) ∧
    ∀ {σ : Type} (c : CodeCredential) (t : σ) (u : String), (c.uri cloud t).result = .ok u → GoesTo cloud.host u ∧ Store.IsRead u := by
  refine ⟨fun authority s => ⟨fun h => ?_, fun h => ?_⟩, fun c t u h => CodeCredential.goesTo_uri h⟩
  · obtain ⟨page, token, hauthorization, htoken⟩ := Store.forStore_behind cloud authority
    exact Store.boundTo_of_setEndpoints cloud hauthorization htoken h
  · exact Store.boundTo_of_setEndpoints cloud (Store.adminConsent_authorization cloud authority)
      (Store.adminConsent_token cloud authority) h

/-- An authority that would name a user, a host and a port if it stood before the slash. -/
def straying : String := "@evil.test:80/..\\?#"

/-- A store with a client that signs in. -/
def signingIn : Store Token where
  values
    | .clientId => some "app"
    | .redirectUri => some "app:back"
    | _ => none

/-- An authority that looks like another host is a part of the path. -/
theorem Cloud.authority_stays_straying :
    Store.BoundTo "login.microsoftonline.com" (Store.authority .global straying signingIn).state ∧
    Store.BoundTo "login.microsoftonline.com" (Store.adminConsent .global straying signingIn).state ∧
    GoesTo "login.microsoftonline.com" ("https://login.microsoftonline.com/@evil.test:80/..\\?#/oauth2/v2.0/authorize" ++
      "?client_id=app&redirect_uri=app%3Aback&response_type=code&response_mode=query") ∧
    GoesTo "login.microsoftonline.us" "https://login.microsoftonline.us/@evil.test:80/..\\?#/oauth2/v2.0/token" := by
  obtain ⟨page, token, hauthorization, htoken⟩ := Store.forStore_behind .global straying
  have hfits : Store.FitsUrl (Endpoints.of .global straying).token := ⟨by decide +kernel, by decide +kernel⟩
  have hset : (Store.authority .global straying signingIn).result = .ok () :=
    (Store.setEndpoints_ok_iff .global hauthorization htoken signingIn).mpr ⟨⟨by decide +kernel, by decide +kernel⟩, hfits⟩
  have hconsent : (Store.adminConsent .global straying signingIn).result = .ok () :=
    (Store.setEndpoints_ok_iff .global (Store.adminConsent_authorization .global straying)
      (Store.adminConsent_token .global straying) signingIn).mpr ⟨⟨by decide +kernel, by decide +kernel⟩, hfits⟩
  have hbound := (Cloud.global.authority_stays.1 straying signingIn).1 hset
  have hpage := hbound.pages (signingIn.withEndpoints (.forStore .global straying))
    (by rw [Store.authority, Store.state_of_setEndpoints hset]) .codeFlow _ (by rfl)
  have huri := Cloud.government.authority_stays.2 { authority := some straying } () _ (by rfl)
  exact ⟨hbound, (Cloud.global.authority_stays.1 straying signingIn).2 hconsent, hpage.1, huri.1⟩

end OAuthClient
