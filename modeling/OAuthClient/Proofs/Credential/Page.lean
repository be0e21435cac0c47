import OAuthClient.Proofs.Credential.Load
import OAuthClient.Proofs.Handle
import OAuthClient.Session.Credential

/-!
# Authorization URLs and the store

The URLs that credentials build are those of the store. A credential checks its own values first; from then on it gives what a fresh
store gives that is loaded with these values, in any order, when the handle for the grant is asked for its authorization URL. This
holds for failures, too.
-/

namespace OAuthClient

open Credential

/-! ## Pages -/

/-- What an authorization URL is made of. -/
structure Page where
  grant : Grant
  /-- The values that must be there, in the order in which they are checked. -/
  identity : List (Parameter × Option String)
  /-- All the rest that a store is loaded with. -/
  rest : List Item

namespace Page

/-- All that a store is loaded with. -/
def items (page : Page) : List Item :=
  page.identity.map (fun d => .value d.1 d.2) ++ page.rest

/-- The first parameter whose value must be there and is blank. -/
def missing? (page : Page) : Option Parameter :=
  (page.identity.find? fun d => isBlank d.2).map (·.1)

/-- Puts values, each of which must not be blank. -/
def check (identity : List (Parameter × Option String)) : Act (Store Token) Unit :=
  Act.each (fun d => insertRequired d.1 d.2) identity

/-- Checks the values that must be there while they are put, then puts the rest, and builds the URL. -/
def build (page : Page) : Act (Store Token) String := do
  check page.identity
  load page.rest
  Store.authorizationUrl page.grant

/-- A URL or the failure to build it is what the page says: the first blank value is reported, and without one the result is that of
a store that is loaded with the page in any order. -/
structure Describes (page : Page) (result : Except Fault String) : Prop where
  blank : ∀ p, page.missing? = some p → result = .error (.failure (.missing p.wireName none))
  loaded : page.missing? = none → ∀ items, items.Perm page.items → ∀ nonblocking,
    (∃ fault, (load items).leaves .empty = .error fault ∧ result = .error fault) ∨
    ∃ s h, (load items).leaves .empty = .ok s ∧
      Handle.select? (Handle.choiceFor page.grant) nonblocking s = some h ∧
      ∀ (σ : Type) (t : σ), (h.call .authorizationUrl t).result = result.map .url

/-- Values up to the first blank one are put, and that one is reported. -/
theorem leaves_check_of_find? {identity : List (Parameter × Option String)}
    (hplain : ∀ d ∈ identity, (Item.value d.1 d.2).IsPlain) {d : Parameter × Option String}
    (h : identity.find? (fun d => isBlank d.2) = some d) (s : Store Token) :
    (check identity).leaves s = .error (.failure (.missing d.1.wireName none)) := by
  induction identity generalizing s with
  | nil => cases h
  | cons e identity ih =>
    rw [check, Act.each_cons, Act.leaves_bind]
    cases he : isBlank e.2 with
    | true =>
      rw [List.find?_cons_of_pos (by simpa using he), Option.some.injEq] at h
      rw [insertRequired_of_isBlank he, h]
      rfl
    | false =>
      rw [List.find?_cons_of_neg (by simpa using he)] at h
      rw [insertRequired_of_not_isBlank he, Item.leaves_value (hplain e (by simp))]
      exact ih (fun d hd => hplain d (List.mem_cons_of_mem _ hd)) h _

/-- Values of which none is blank are put. -/
theorem check_of_find?_eq_none {identity : List (Parameter × Option String)}
    (h : identity.find? (fun d => isBlank d.2) = none) : check identity = load (identity.map fun d => .value d.1 d.2) := by
  induction identity with
  | nil => rfl
  | cons d identity ih =>
    rw [List.find?_eq_none] at h
    have hd : isBlank d.2 = false := by simpa using h d (by simp)
    have hrest : identity.find? (fun d => isBlank d.2) = none := by
      rw [List.find?_eq_none]
      exact fun e he => h e (List.mem_cons_of_mem _ he)
    rw [check, Act.each_cons, insertRequired_of_not_isBlank hd, List.map_cons, load, Act.each_cons]
    exact congrArg (insertOptional d.1 d.2 >>= fun _ => ·) (ih hrest)

variable {page : Page}

/-- What is built from a page is what the page says. -/
theorem describes_build (h : Orderless page.items) : page.Describes (page.build .empty).result where
  blank := by
    intro p hp
    rw [missing?, Option.map_eq_some_iff] at hp
    obtain ⟨d, hd, rfl⟩ := hp
    have hplain : ∀ d ∈ page.identity, (Item.value d.1 d.2).IsPlain :=
      fun d hd => h.plain _ (List.mem_append_left _ (List.mem_map_of_mem hd))
    rw [build, Act.result_behind, leaves_check_of_find? hplain hd]
    rfl
  loaded := by
    intro hmissing items hperm nonblocking
    rw [missing?, Option.map_eq_none_iff] at hmissing
    have hbuild : page.build = load page.items >>= fun _ => Store.authorizationUrl page.grant := by
      rw [build, check_of_find?_eq_none hmissing, Page.items, load_append, bind_assoc]
    rw [hbuild, Act.result_behind, h.leaves_load hperm]
    cases hleft : (load page.items).leaves .empty with
    | error fault => exact Or.inl ⟨fault, rfl, rfl⟩
    | ok s =>
      obtain ⟨family, hselect⟩ := Handle.select?_choiceFor page.grant nonblocking s
      refine Or.inr ⟨s, _, rfl, hselect, fun σ t => ?_⟩
      obtain ⟨records, hcall⟩ := Handle.call_apply (σ := σ) ⟨family, nonblocking, page.grant, s⟩ (c := .authorizationUrl) rfl
      rw [hcall]
      rfl

/-- A value that no authorization of the grant reads can be left out of a page. -/
theorem result_build_append {g : Grant} {p : Parameter} (hparameter : p ∉ (g.rules .authorization).parameters)
    (hplain : p ≠ .scope ∧ p.isUrl = false) (v : Option String) (identity : List (Parameter × Option String)) (rest : List Item)
    (s : Store Token) : (build ⟨g, identity, rest ++ [.value p v]⟩ s).result = (build ⟨g, identity, rest⟩ s).result := by
  have hread : ∀ s, ((load [.value p v] >>= fun _ => Store.authorizationUrl g) s).result = (Store.authorizationUrl g s).result := by
    intro s
    rw [load, Act.each_cons, Act.each_nil, bind_pure_unit, Act.result_behind, Item.put, Item.leaves_value hplain]
    cases v with
    | none => rfl
    | some v =>
      have hendpoint : p ≠ (g.rules .authorization).endpoint := by
        rintro rfl
        exact Bool.noConfusion ((g.rules_wellFormed .authorization).endpoint_isUrl.symm.trans hplain.2)
      show (Store.authorizationUrl g (s.setValue p v)).result = _
      rw [Store.authorizationUrl_result, Store.authorizationUrl_result, Store.demand_setValue hparameter hendpoint]
  simp only [build, load_append, bind_assoc]
  rw [Act.result_behind, Act.result_behind]
  refine congrArg _ (funext fun s => ?_)
  rw [Act.result_behind, Act.result_behind]
  exact congrArg _ (funext hread)

end Page

/-! ## The pages of the grants -/

/-- What the URL of the authorization code grant is made of. The verifier is there, too, though no URL shows it. -/
def CodeUrl.page (u : CodeUrl) (cloud : Cloud) : Page where
  grant := CodeUrl.grant
  identity := [(.redirectUri, u.redirectUri), (.clientId, u.clientId)]
  rest := [.scopes u.scopes, .endpoints (.forStore cloud (textOf u.authority)), .value .responseMode (textOf u.responseMode),
    .value .responseType (textOf u.responseType), .value .state u.state, .value .nonce u.nonce,
    .value .prompt (u.prompt.map Prompt.wireName), .value .domainHint u.domainHint, .value .loginHint u.loginHint,
    .value .codeChallenge u.codeChallenge, .value .codeChallengeMethod u.codeChallengeMethod] ++ [.value .codeVerifier u.codeVerifier]

/-- What the URL of the token flow is made of. -/
def TokenFlowUrl.page (u : TokenFlowUrl) : Page where
  grant := .tokenFlow
  identity := [(.redirectUri, u.redirectUri), (.clientId, u.clientId)]
  rest := [.scopes u.scopes, .endpoints .legacy, .value .responseType (textOf u.responseType)]

/-- What the URL of an OpenID Connect sign-in is made of. Without prompts there is no value for them. -/
def OpenIdUrl.page (u : OpenIdUrl) (cloud : Cloud) : Page where
  grant := OpenIdUrl.grant
  identity := [(.redirectUri, u.redirectUri), (.clientId, u.clientId), (.nonce, u.nonce)]
  rest := [.scopes u.scopes, .endpoints (.forStore cloud (textOf u.authority)),
    .value .responseType (joinValues (u.responseTypes.map .str)), .value .responseMode u.responseMode, .value .state u.state,
    .value .prompt (if u.prompts = [] then none else joinValues (u.prompts.map .str)), .value .domainHint u.domainHint,
    .value .loginHint u.loginHint]

variable {σ : Type}

/-- A URL of the authorization code grant is what its page says. -/
theorem CodeUrl.describes_url (u : CodeUrl) (cloud : Cloud) (t : σ) : (u.page cloud).Describes (u.url cloud t).result := by
  have horderless : Orderless (u.page cloud).items := by
    constructor
    · simp [Page.items, page, Item.IsPlain, Parameter.isUrl]
    · simp [Page.items, page, Item.target]
  have hurl : (u.url cloud t).result = ((u.page cloud).build .empty).result := by
    rw [page, Page.result_build_append (by decide) (by decide)]
    simp only [Page.build, Page.check, load, Act.each_cons, Act.each_nil, Item.put, bind_assoc, pure_bind]
    simp only [url, onFresh, insertIdentity, complete, bind_assoc]
    rfl
  rw [hurl]
  exact Page.describes_build horderless

/-- Values as one text, with a space between neighbours. -/
theorem joinValues_str (list : List String) : joinValues (list.map .str) = " ".intercalate list := by
  rw [joinValues, List.map_map]
  exact congrArg _ (List.map_id list)

/-- A URL of an OpenID Connect sign-in is what its page says. -/
theorem OpenIdUrl.describes_url (u : OpenIdUrl) (cloud : Cloud) (t : σ) : (u.page cloud).Describes (u.url cloud t).result := by
  have horderless : Orderless (u.page cloud).items := by
    constructor
    · simp [Page.items, page, Item.IsPlain, Parameter.isUrl]
    · simp [Page.items, page, Item.target]
  have hurl : (u.url cloud t).result = ((u.page cloud).build .empty).result := by
    simp only [Page.build, Page.check, page, load, Act.each_cons, Act.each_nil, Item.put, bind_assoc, pure_bind, joinValues_str]
    simp only [url, onFresh, insertIdentity, complete, bind_assoc, List.isEmpty_iff]
    rfl
  rw [hurl]
  exact Page.describes_build horderless

set_option maxRecDepth 10000 in
/-- Every store takes the older endpoints. -/
theorem leaves_setEndpoints_legacy (s : Store Token) :
    (Store.setEndpoints .legacy).leaves s = .ok (s.withEndpoints .legacy) := by
  rcases Store.leaves_setEndpoints .legacy with ⟨fault, hrefused⟩ | htaken
  · have hempty : (Store.setEndpoints .legacy).leaves (.empty : Store Token) = .ok (Store.withEndpoints .legacy .empty) := by rfl
    rw [hrefused] at hempty
    cases hempty
  · exact htaken s

/-- A page of the token flow without scopes reports them, once the values before them are there. -/
theorem TokenFlowUrl.result_build_of_nil (u : TokenFlowUrl) (h : u.scopes = []) :
    (u.page.build .empty).result = ((Page.check u.page.identity >>= fun _ =>
      (Act.fail (Failure.missing Parameter.scope.wireName none) : Act (Store Token) String)) .empty).result := by
  rw [Page.build, Act.result_behind, Act.result_behind]
  cases hfind : u.page.identity.find? fun d => isBlank d.2 with
  | some d =>
    have hplain : ∀ d ∈ u.page.identity, (Item.value d.1 d.2).IsPlain := by simp [page, Item.IsPlain, Parameter.isUrl]
    rw [Page.leaves_check_of_find? hplain hfind]
    rfl
  | none =>
    have hpresent := List.find?_eq_none.mp hfind
    obtain ⟨redirectUri, hredirect⟩ := exists_of_not_isBlank (v := u.redirectUri)
      (by simpa using hpresent (.redirectUri, u.redirectUri) (by simp [page]))
    obtain ⟨clientId, hclient⟩ := exists_of_not_isBlank (v := u.clientId)
      (by simpa using hpresent (.clientId, u.clientId) (by simp [page]))
    have hcheck : (Page.check u.page.identity).leaves .empty =
        .ok ((Store.empty.setValue .redirectUri redirectUri).setValue .clientId clientId) := by
      rw [Page.check_of_find?_eq_none hfind, load, Act.leaves_each]
      simp only [page, hredirect, hclient]
      rfl
    -- the store that is asked for the URL: all is there but the scopes
    have hrest : ∀ s, (load u.page.rest).leaves s =
        .ok ((s.withEndpoints .legacy).setValue .responseType (textOf u.responseType)) := by
      intro s
      rw [load, Act.leaves_each]
      simp only [page, h, List.foldl_cons, List.foldl_nil]
      show ((Store.setEndpoints .legacy).leaves s).bind (insertOptional .responseType (textOf u.responseType)).leaves = _
      rw [leaves_setEndpoints_legacy]
      rfl
    rw [hcheck]
    simp only [Except.bind]
    rw [Act.result_behind, hrest]
    simp only [Except.bind]
    rw [Store.authorizationUrl_result]
    rfl

/-- A URL of the token flow is what its page says. -/
theorem TokenFlowUrl.describes_url (u : TokenFlowUrl) (t : σ) : u.page.Describes (u.url t).result := by
  have horderless : Orderless u.page.items := by
    constructor
    · simp [Page.items, page, Item.IsPlain, Parameter.isUrl]
    · simp [Page.items, page, Item.target]
  have hurl : (u.url t).result = (u.page.build .empty).result := by
    by_cases hscopes : u.scopes = []
    · -- without scopes nothing is built, and building would report them, too
      have hcut : (u.url t).result = ((Page.check u.page.identity >>= fun _ =>
          Act.fail (Failure.missing Parameter.scope.wireName none)) .empty).result := by
        simp only [url, onFresh, Page.check, page, Act.each_cons, Act.each_nil, bind_assoc, pure_bind, hscopes]
        rfl
      rw [hcut, u.result_build_of_nil hscopes]
    · simp only [Page.build, Page.check, page, load, Act.each_cons, Act.each_nil, Item.put, bind_assoc, pure_bind]
      simp only [url, onFresh, List.isEmpty_iff, hscopes, if_false]
      rfl
  rw [hurl]
  exact Page.describes_build horderless

/-! ## Drafts -/

/-- What the URL of a draft is made of at a cloud. A credential has none. -/
def Draft.page? (d : Draft) (cloud : Cloud) : Option Page :=
  match d with
  | .code _ => none
  | .codeUrl u => some (u.page cloud)
  | .tokenFlowUrl u => some u.page
  | .openIdUrl u => some (u.page cloud)

/-- The URL of every draft, at every cloud, is what its page says: the first value that must be there and is blank is reported, and
otherwise the URL or the failure is that of a fresh store that is loaded with the page and asked through the handle for the grant. -/
theorem CredentialSession.url_as_loaded {d : Draft} {host : Option Json} {cloud : Cloud} {page : Page}
    (hcloud : Session.cloudOr host = .ok cloud) (hpage : d.page? cloud = some page) (f : CredentialSession) :
    page.Describes (urlOf d host f).result := by
  cases d with
  | code c => cases hpage
  | codeUrl u =>
    cases hpage
    have hurl : urlOf (.codeUrl u) host = u.url cloud := by
      rw [urlOf, hcloud]
      rfl
    rw [hurl]
    exact u.describes_url cloud f
  | tokenFlowUrl u =>
    cases hpage
    exact u.describes_url f
  | openIdUrl u =>
    cases hpage
    have hurl : urlOf (.openIdUrl u) host = u.url cloud := by
      rw [urlOf, hcloud]
      rfl
    rw [hurl]
    exact u.describes_url cloud f

/-- The sign-in to a client with an empty state, with two prompts and without a response mode. -/
def OpenIdUrl.ofClient (clientId nonce : String) : OpenIdUrl where
  clientId := some clientId
  redirectUri := some "app:back"
  nonce := some nonce
  state := some ""
  prompts := ["login", "consent"]

set_option maxRecDepth 10000 in
/-- The empty state is kept, the response mode is left out, and the prompts are one value, as in a store. -/
theorem CredentialSession.url_as_loaded_ofClient :
    (urlOf (.openIdUrl (.ofClient "app" "n 1")) none { draft := .codeUrl {}, supply := { now := 0, random := fun _ => [] } }).result =
      .ok ("https://login.microsoftonline.com/common/oauth2/v2.0/authorize?client_id=app&response_type=code&" ++
        "redirect_uri=app%3Aback&scope=openid&nonce=n%201&state=&prompt=login%20consent") ∧
    ((OpenIdUrl.ofClient "app" "n 1").page .global).Describes
      (urlOf (.openIdUrl (.ofClient "app" "n 1")) none
        { draft := .codeUrl {}, supply := { now := 0, random := fun _ => [] } }).result :=
  ⟨by rfl, url_as_loaded rfl rfl _⟩

end OAuthClient
