import OAuthClient.Proofs.Credential.Load
import OAuthClient.Proofs.Session.Run
import OAuthClient.Proofs.Uri.Host

/-!
# Pointing a store at endpoints

A store is pointed at endpoints by three writes in a row, each of which may be refused. All endpoints of a cloud begin with its login
host, so the authority in them cannot make one a URL and another one none, except by its length and by control characters. The
endpoints of a cloud are therefore set together or not at all: the first one is the longest. The page for the consent of an
administrator is shorter than the token endpoint, and for the few lengths of an authority between the two it is set alone.
-/

namespace OAuthClient

open OAuthClient.Uri

/-! ## URLs of a cloud -/

/-- The login host of a cloud. -/
def Cloud.host : Cloud → String
  | .global => "login.microsoftonline.com"
  | .china => "login.chinacloudapi.cn"
  | .germany => "login.microsoftonline.de"
  | .government => "login.microsoftonline.us"
  | .personal => "login.live.com"

/-- The login host of a cloud is literal. -/
theorem Cloud.isLiteralHost (cloud : Cloud) : IsLiteralHost cloud.host.toList where
  toIsPlainHost := by
    refine IsPlainHost.of_all ?_ ?_
    · cases cloud <;> decide +kernel
    · cases cloud <;> decide +kernel
  noControl := by
    have hnone : cloud.host.toList.any isControl = false := by cases cloud <;> decide +kernel
    simpa using hnone
  noClosing := by cases cloud <;> decide +kernel
  sent := by cases cloud <;> decide +kernel

/-- A text behind the login host of a cloud and a slash is one at that host. -/
theorem Cloud.toList_behind (cloud : Cloud) (path : String) :
    (cloud.url ++ "/" ++ path).toList = atHost cloud.host.toList path.toList := by
  have hurl : cloud.url.toList = 'h' :: ['t', 't', 'p', 's'] ++ ':' :: '/' :: '/' :: cloud.host.toList := by
    cases cloud <;> rfl
  rw [String.toList_append, String.toList_append, hurl]
  simp [atHost]

namespace Store

variable {τ : Type}

/-- A text that begins with the login host of a cloud and a slash is a URL exactly when it fits one. -/
theorem checkUrl_behind (p : Parameter) (cloud : Cloud) {path v : String} (hv : v = cloud.url ++ "/" ++ path) :
    (FitsUrl v ∧ checkUrl p v = .ok ()) ∨
    (maxLength < v.length ∧ checkUrl p v = .error (.invalidUrl p.wireName v (some (.url .tooLong)))) ∨
    (v.toList.any isControl = true ∧ checkUrl p v = .error (.invalidUrl p.wireName v (some (.url .control)))) := by
  have hlist : v.toList = atHost cloud.host.toList path.toList := hv ▸ cloud.toList_behind path
  rw [FitsUrl, ← String.length_toList]
  unfold checkUrl
  rcases read_append (by decide) (by decide) cloud.isLiteralHost.toIsPlainHost hlist isHostName with ⟨hlong, hread⟩ | ⟨_, hcontrol, hread⟩ |
    ⟨hlength, hcontrol, r, hread, hscheme⟩
  · exact Or.inr (Or.inl ⟨hlong, by rw [hread]⟩)
  · exact Or.inr (Or.inr ⟨hcontrol, by rw [hread]⟩)
  · refine Or.inl ⟨⟨hlength, hcontrol⟩, ?_⟩
    rw [hread]
    exact if_neg (by simpa using hscheme)

/-- A URL of a cloud that fits is taken. -/
theorem checkUrl_of_fitsUrl (p : Parameter) (cloud : Cloud) {path v : String} (hv : v = cloud.url ++ "/" ++ path) (h : FitsUrl v) :
    checkUrl p v = .ok () := by
  rcases checkUrl_behind p cloud hv with ⟨_, hcheck⟩ | ⟨hlong, _⟩ | ⟨hcontrol, _⟩
  · exact hcheck
  · exact absurd hlong (Nat.not_lt.mpr h.1)
  · rw [h.2] at hcontrol
    cases hcontrol

/-! ## Three writes in a row -/

/-- What comes of pointing a store at endpoints: all three URLs are set, or it fails and the store is as it was. -/
inductive Pointed (e : Endpoints) (s : Store τ) (run : Run (Store τ) Unit) : Prop
  | set (result : run.result = .ok ()) (state : run.state = s.withEndpoints e)
  | left (fault : Fault) (result : run.result = .error fault) (state : run.state = s)

/-- Endpoints that are all taken are set. -/
theorem setEndpoints_of_ok {e : Endpoints} (hauthorization : checkUrl .authorizationUrl e.authorization = .ok ())
    (htoken : ∀ p, checkUrl p e.token = .ok ()) (s : Store τ) : Pointed e s (setEndpoints e s) := by
  have hfirst := insert_of_accepts (by decide) (fun _ => hauthorization) s
  have hsecond := insert_of_accepts (by decide) (fun _ => htoken .accessTokenUrl) (s.setValue .authorizationUrl e.authorization)
  have hthird := insert_of_accepts (by decide) (fun _ => htoken .refreshTokenUrl)
    ((s.setValue .authorizationUrl e.authorization).setValue .accessTokenUrl e.token)
  rw [setEndpoints_eq, Act.bind_of_ok hfirst, Act.bind_of_ok hsecond, Act.bind_of_ok hthird]
  exact .set rfl rfl

/-- When the authorization endpoint is refused nothing is set. -/
theorem setEndpoints_of_error {e : Endpoints} {f : Failure} (h : checkUrl .authorizationUrl e.authorization = .error f) (s : Store τ) :
    Pointed e s (setEndpoints e s) := by
  rw [setEndpoints_eq, Act.bind_of_error (insert_of_refused rfl h s)]
  exact .left _ rfl rfl

/-- When the token endpoint is refused behind the authorization endpoint, that one stays set. -/
theorem setEndpoints_halfway {e : Endpoints} {f : Failure} (hauthorization : checkUrl .authorizationUrl e.authorization = .ok ())
    (htoken : checkUrl .accessTokenUrl e.token = .error f) (s : Store τ) :
    (setEndpoints e s).result = .error (.failure f) ∧ (setEndpoints e s).state = s.setValue .authorizationUrl e.authorization := by
  have hfirst := insert_of_accepts (by decide) (fun _ => hauthorization) s
  have hsecond := insert_of_refused rfl htoken (s.setValue .authorizationUrl e.authorization)
  rw [setEndpoints_eq, Act.bind_of_ok hfirst, Act.bind_of_error hsecond]
  exact ⟨rfl, rfl⟩

/-- Endpoints of a cloud are set together or not at all when the token endpoint fits as soon as the authorization endpoint does. -/
theorem pointed_setEndpoints (cloud : Cloud) {e : Endpoints} {page token : String}
    (hauthorization : e.authorization = cloud.url ++ "/" ++ page) (htoken : e.token = cloud.url ++ "/" ++ token)
    (h : FitsUrl e.authorization → FitsUrl e.token) (s : Store τ) : Pointed e s (setEndpoints e s) := by
  rcases checkUrl_behind .authorizationUrl cloud hauthorization with ⟨hfits, hcheck⟩ | ⟨_, hcheck⟩ | ⟨_, hcheck⟩
  · exact setEndpoints_of_ok hcheck (fun p => checkUrl_of_fitsUrl p cloud htoken (h hfits)) s
  · exact setEndpoints_of_error hcheck s
  · exact setEndpoints_of_error hcheck s

/-! ## The endpoints of a cloud -/

/-- What fits a URL still does with a text at its end that is no longer and has no control character. -/
theorem FitsUrl.append {v long short : String} (h : FitsUrl (v ++ long)) (hlength : short.length ≤ long.length)
    (hcontrol : short.toList.any isControl = false) : FitsUrl (v ++ short) := by
  obtain ⟨hfits, hplain⟩ := h
  rw [String.length_append] at hfits
  rw [String.toList_append, List.any_append, Bool.or_eq_false_iff] at hplain
  refine ⟨?_, ?_⟩
  · rw [String.length_append]
    omega
  · rw [String.toList_append, List.any_append, hplain.1, hcontrol]
    rfl

/-- The endpoints of a cloud for an authority are set together or not at all. -/
theorem pointed_authority (cloud : Cloud) (authority : String) (s : Store τ) :
    Pointed (.forStore cloud authority) s (Store.authority cloud authority s) := by
  unfold Store.authority Endpoints.forStore
  split
  · have hpage : Endpoints.legacy.authorization = Cloud.personal.url ++ "/" ++ "oauth20_authorize.srf" := by decide
    have htoken : Endpoints.legacy.token = Cloud.personal.url ++ "/" ++ "oauth20_token.srf" := by decide
    exact pointed_setEndpoints .personal hpage htoken (fun _ => ⟨by decide, by decide⟩) s
  · have hpage : (Endpoints.of cloud authority).authorization =
        cloud.url ++ "/" ++ (authority ++ "/oauth2/v2.0" ++ "/authorize") := by
      simp only [Endpoints.of, String.append_assoc]
    have htoken : (Endpoints.of cloud authority).token = cloud.url ++ "/" ++ (authority ++ "/oauth2/v2.0" ++ "/token") := by
      simp only [Endpoints.of, String.append_assoc]
    exact pointed_setEndpoints cloud hpage htoken (fun h => h.append (by decide) (by decide)) s

/-- The page for the consent of an administrator is short enough for a URL, and the token endpoint is too long for one. -/
def Straddles (cloud : Cloud) (authority : String) : Prop :=
  (Endpoints.adminConsent cloud authority).authorization.length ≤ maxLength ∧
    maxLength < (Endpoints.adminConsent cloud authority).token.length ∧ authority.toList.any isControl = false

/-- The page for the consent of an administrator is one of the URLs of a cloud. -/
theorem adminConsent_authorization (cloud : Cloud) (authority : String) :
    (Endpoints.adminConsent cloud authority).authorization = cloud.url ++ "/" ++ (authority ++ "/adminconsent") := by
  simp only [Endpoints.adminConsent, String.append_assoc]

/-- The token endpoint beside that page is another one. -/
theorem adminConsent_token (cloud : Cloud) (authority : String) :
    (Endpoints.adminConsent cloud authority).token = cloud.url ++ "/" ++ (authority ++ "/oauth2/v2.0/token") := by
  simp only [Endpoints.adminConsent, Endpoints.of, String.append_assoc]
  rfl

/-- A URL of a cloud for an authority has a control character exactly when the authority has one. -/
theorem any_isControl_behind (cloud : Cloud) (authority : String) {rest : String} (h : rest.toList.any isControl = false) :
    (cloud.url ++ "/" ++ (authority ++ rest)).toList.any isControl = authority.toList.any isControl := by
  have hurl : (cloud.url ++ "/").toList.any isControl = false := by cases cloud <;> decide
  rw [String.toList_append, List.any_append, hurl, String.toList_append, List.any_append, h, Bool.false_or, Bool.or_false]

/-- The page for the consent of an administrator and the token endpoint are set together or not at all, unless the length of the
authority is between the two. -/
theorem pointed_adminConsent {cloud : Cloud} {authority : String} (h : ¬ Straddles cloud authority) (s : Store τ) :
    Pointed (.adminConsent cloud authority) s (Store.adminConsent cloud authority s) := by
  refine pointed_setEndpoints cloud (adminConsent_authorization cloud authority) (adminConsent_token cloud authority) ?_ s
  rintro ⟨hpage, hcontrol⟩
  rw [adminConsent_authorization, any_isControl_behind cloud authority (by decide)] at hcontrol
  refine ⟨Nat.le_of_not_lt fun hlong => h ⟨hpage, hlong, hcontrol⟩, ?_⟩
  rw [adminConsent_token, any_isControl_behind cloud authority (by decide)]
  exact hcontrol

/-- When the length of the authority is between the two, the page is set alone. -/
theorem adminConsent_halfway {cloud : Cloud} {authority : String} (h : Straddles cloud authority) (s : Store τ) :
    (Store.adminConsent cloud authority s).result = .error (.failure (.invalidUrl "access_token_url"
      (Endpoints.adminConsent cloud authority).token (some (.url .tooLong)))) ∧
    (Store.adminConsent cloud authority s).state =
      s.setValue .authorizationUrl (Endpoints.adminConsent cloud authority).authorization := by
  obtain ⟨hpage, hlong, hcontrol⟩ := h
  have hplain : ∀ {rest : String}, rest.toList.any isControl = false →
      (cloud.url ++ "/" ++ (authority ++ rest)).toList.any isControl = false :=
    fun hrest => (any_isControl_behind cloud authority hrest).trans hcontrol
  have hfits : FitsUrl (Endpoints.adminConsent cloud authority).authorization := by
    refine ⟨hpage, ?_⟩
    rw [adminConsent_authorization]
    exact hplain (by decide)
  have hpageCheck := checkUrl_of_fitsUrl .authorizationUrl cloud (adminConsent_authorization cloud authority) hfits
  rcases checkUrl_behind .accessTokenUrl cloud (adminConsent_token cloud authority) with ⟨⟨hshort, _⟩, _⟩ | ⟨_, hcheck⟩ | ⟨hany, _⟩
  · exact absurd hlong (Nat.not_lt.mpr hshort)
  · exact setEndpoints_halfway hpageCheck hcheck s
  · rw [adminConsent_token, hplain (by decide)] at hany
    cases hany

end Store

/-! ## Steps of a session -/

namespace StoreSession

open OAuthClient.Session

variable {f : StoreSession}

/-- A session with its current store put in its place is the same session. -/
theorem putStore_store (f : StoreSession) : f.putStore f.store = f := by
  have hstores : f.stores.set f.current f.store = f.stores := by
    by_cases h : f.current < f.stores.length
    · rw [store, List.getD_eq_getElem?_getD, List.getElem?_eq_getElem h, Option.getD_some, List.set_getElem_self]
    · exact List.set_eq_of_length_le (Nat.le_of_not_lt h)
  rw [putStore, hstores]

/-- What comes of a step that points the current store at endpoints: all three URLs are set, or the step fails and the session is as it
was. -/
inductive Pointed (e : Endpoints) (f : StoreSession) (run : Run StoreSession Answer) : Prop
  | set (result : run.result = .ok .itself) (state : run.state = f.putStore (f.store.withEndpoints e))
  | left (fault : Fault) (result : run.result = .error fault) (state : run.state = f)

/-- An act on the current store, as a step. -/
theorem thenItself_onStore (act : Act (Store Nat) Unit) (f : StoreSession) :
    (thenItself (onStore act) f).result = (act f.store).result.map (fun _ => .itself) ∧
      (thenItself (onStore act) f).state = f.putStore (act f.store).state := by
  have hrun := Act.bind_pure_apply (onStore act) (fun _ => Answer.itself) f
  exact ⟨congrArg Run.result hrun, congrArg Run.state hrun⟩

/-- Pointing the current store at endpoints is all or nothing when it is for stores. -/
theorem Pointed.of_store {e : Endpoints} {act : Act (Store Nat) Unit} (h : Store.Pointed e f.store (act f.store)) :
    Pointed e f (thenItself (onStore act) f) := by
  obtain ⟨hresult, hstate⟩ := thenItself_onStore act f
  cases h with
  | set result state =>
    rw [result] at hresult
    rw [state] at hstate
    exact .set hresult hstate
  | left fault result state =>
    rw [result] at hresult
    rw [state, putStore_store] at hstate
    exact .left fault hresult hstate

/-- A step that names a cloud does what it does for that cloud. -/
theorem thenItself_behind {α : Type} {result : Except Fault α} {a : α} (h : result = .ok a) (next : α → Act StoreSession Unit)
    (f : StoreSession) : thenItself (lift result >>= next) f = thenItself (next a) f := by
  rw [h]
  rfl

/-- The endpoints of a cloud that a host names. -/
theorem perform_authority {host : Option Json} {cloud : Cloud} (h : cloudOr host = .ok cloud) (authority : Option Json)
    (f : StoreSession) :
    perform (.authority host authority) f = thenItself (onStore (Store.authority cloud (authorityOr authority))) f :=
  thenItself_behind h _ f

/-- The page for the consent of an administrator in a cloud that a host names. -/
theorem perform_adminConsent {host : Option Json} {cloud : Cloud} (h : cloudOr host = .ok cloud) (authority : Option Json)
    (f : StoreSession) :
    perform (.adminConsent host authority) f = thenItself (onStore (Store.adminConsent cloud (authorityOr authority))) f :=
  thenItself_behind h _ f

/-- The steps that point the current store at endpoints, in three parts.
1. Pointing it at a tenant, or at the older endpoints for personal accounts, sets all three URLs or leaves the session as it was.
2. So does pointing it at the endpoints of a cloud for an authority, and, unless the length of the authority is between the page for
the consent of an administrator and the token endpoint, pointing it at those two. For such a length the page is set and the step
fails.
3. With a host that no cloud has, the session is as it was. -/
theorem endpoints_all_or_nothing (f : StoreSession) :
    ((∀ tenant, Pointed (.forStore .global tenant.display) f (perform (.tenant tenant) f)) ∧
      Pointed .legacy f (perform .legacyAuthority f)) ∧
    (∀ host authority cloud, cloudOr host = .ok cloud →
      Pointed (.forStore cloud (authorityOr authority)) f (perform (.authority host authority) f) ∧
      (¬ Store.Straddles cloud (authorityOr authority) →
        Pointed (.adminConsent cloud (authorityOr authority)) f (perform (.adminConsent host authority) f)) ∧
      (Store.Straddles cloud (authorityOr authority) →
        (perform (.adminConsent host authority) f).result = .error (.failure (.invalidUrl "access_token_url"
          (Endpoints.adminConsent cloud (authorityOr authority)).token (some (.url .tooLong)))) ∧
        (perform (.adminConsent host authority) f).state = f.putStore (f.store.setValue .authorizationUrl
          (Endpoints.adminConsent cloud (authorityOr authority)).authorization))) ∧
    (∀ host authority fault, cloudOr host = .error fault →
      perform (.authority host authority) f = ⟨.error fault, f, []⟩ ∧
      perform (.adminConsent host authority) f = ⟨.error fault, f, []⟩) := by
  refine ⟨⟨fun tenant => ?_, ?_⟩, fun host authority cloud hcloud => ⟨?_, fun h => ?_, fun h => ?_⟩, fun host authority fault hfault => ?_⟩
  · exact Pointed.of_store (Store.pointed_authority .global tenant.display f.store)
  · exact Pointed.of_store (Store.pointed_authority .personal "" f.store)
  · rw [perform_authority hcloud]
    exact Pointed.of_store (Store.pointed_authority cloud (authorityOr authority) f.store)
  · rw [perform_adminConsent hcloud]
    exact Pointed.of_store (Store.pointed_adminConsent h f.store)
  · obtain ⟨hresult, hstate⟩ := Store.adminConsent_halfway h f.store
    obtain ⟨hresult', hstate'⟩ := thenItself_onStore (Store.adminConsent cloud (authorityOr authority)) f
    rw [perform_adminConsent hcloud, hresult', hstate', hresult, hstate]
    exact ⟨rfl, rfl⟩
  · have hlift : (lift (cloudOr host) : Act StoreSession Cloud) f = ⟨.error fault, f, []⟩ := by
      rw [hfault]
      rfl
    exact ⟨Act.bind_of_error (Act.bind_of_error hlift _) _, Act.bind_of_error (Act.bind_of_error hlift _) _⟩

/-- An authority of a length between the two, for the global cloud. -/
theorem straddles_global {authority : String} (hshort : authority.length ≤ 65489) (hlong : 65484 < authority.length)
    (hcontrol : authority.toList.any isControl = false) : Store.Straddles .global authority := by
  have hhost : Cloud.global.url.length + "/".length = 34 := rfl
  have hpage : "/adminconsent".length = 13 := rfl
  have htoken : "/oauth2/v2.0/token".length = 18 := rfl
  refine ⟨?_, ?_, hcontrol⟩
  · rw [Store.adminConsent_authorization, String.length_append, String.length_append, String.length_append, hhost, hpage, maxLength]
    omega
  · rw [Store.adminConsent_token, String.length_append, String.length_append, String.length_append, hhost, htoken, maxLength]
    omega

/-- An authority of a number of letters. -/
def letters (n : Nat) : String := String.ofList (List.replicate n 'a')

/-- For a few numbers of letters the length of the authority is between the two. -/
theorem straddles_letters {n : Nat} (hshort : n ≤ 65489) (hlong : 65484 < n) : Store.Straddles .global (letters n) := by
  have hlength : (letters n).length = n := by
    rw [letters, String.length_ofList, List.length_replicate]
  refine straddles_global (by omega) (by omega) ?_
  rw [letters, String.toList_ofList, List.any_eq_false]
  intro c hc
  rw [List.eq_of_mem_replicate hc]
  decide

/-- A session that has not begun. -/
def unbegun : StoreSession := { supply := { now := 0, random := fun _ => [] } }

/-- For a usual authority the page for the consent of an administrator is set with the token endpoint; for one of such a length it is
set alone. -/
theorem endpoints_all_or_nothing_letters :
    Pointed (.adminConsent .global "contoso") unbegun (perform (.adminConsent none (some (.str "contoso"))) unbegun) ∧
    (perform (.adminConsent none (some (.str (letters 65489)))) unbegun).state =
      unbegun.putStore (unbegun.store.setValue .authorizationUrl (Endpoints.adminConsent .global (letters 65489)).authorization) := by
  have hshort : ¬ Store.Straddles .global "contoso" := fun h => absurd h.2.1 (by decide)
  have hlong : Store.Straddles .global (letters 65489) := straddles_letters (by decide) (by decide)
  obtain ⟨_, hcloud, _⟩ := endpoints_all_or_nothing unbegun
  exact ⟨(hcloud none (some (.str "contoso")) .global rfl).2.1 hshort,
    ((hcloud none (some (.str (letters 65489))) .global rfl).2.2 hlong).2⟩

/-- The page for the consent of an administrator and the token endpoint are not always set together or not at all. -/
theorem not_every_consent_is_all_or_nothing :
    ¬ ∀ f : StoreSession, f.Reachable → ∀ host authority cloud, cloudOr host = .ok cloud →
      Pointed (.adminConsent cloud (authorityOr authority)) f (perform (.adminConsent host authority) f) := by
  intro hall
  have hpointed := hall unbegun ⟨unbegun, [], .empty _, rfl⟩ none (some (.str (letters 65489))) .global rfl
  have hlong : Store.Straddles .global (authorityOr (some (.str (letters 65489)))) := straddles_letters (by decide) (by decide)
  obtain ⟨hresult, hstate⟩ := Store.adminConsent_halfway hlong unbegun.store
  obtain ⟨hresult', hstate'⟩ := thenItself_onStore (Store.adminConsent .global (authorityOr (some (.str (letters 65489))))) unbegun
  rw [perform_adminConsent rfl] at hpointed
  cases hpointed with
  | set result state =>
    rw [hresult', hresult] at result
    cases result
  | left fault result state =>
    rw [hstate', hstate] at state
    have hvalue := congrArg (fun f : StoreSession => f.store.values .authorizationUrl) state
    cases hvalue

end StoreSession

end OAuthClient
