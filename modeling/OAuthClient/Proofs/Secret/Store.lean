import OAuthClient.Proofs.Secret.Token
import OAuthClient.Proofs.Store.Outcome
import OAuthClient.Settings.Store

/-!
# Acts on stores that differ in their secrets

Whatever is done to a store tells the log the same, and ends in the same faults, when only the values of secrets are others. So does
building a request, as far as its endpoint and the names of its fields go.
-/

namespace OAuthClient

/-- Two forms go to the same endpoint and have fields of the same names. -/
structure FormRequest.Alike (r r' : FormRequest) : Prop where
  uri : r.uri = r'.uri
  names : r.params.map (·.1) = r'.params.map (·.1)

/-- Two settings name the same endpoints and differ in the name and the secret of the client only, as secrets do. -/
structure Settings.Alike (s s' : Settings) : Prop where
  clientId : s.clientId.map hidden = s'.clientId.map hidden
  clientSecret : s.clientSecret.map hidden = s'.clientSecret.map hidden
  redirectUri : s.redirectUri = s'.redirectUri
  tenant : s.tenant = s'.tenant
  cloud : s.cloud = s'.cloud

namespace Store

variable {τ : Type} {T : τ → τ → Prop}

/-- Two stores are alike, and their tokens are related. -/
structure AlikeWith (T : τ → τ → Prop) (s s' : Store τ) : Prop extends Store.Alike s s' where
  token : Option.Rel T s.token s'.token

/-- What a parameter takes, it takes whatever the secrets are. -/
theorem accepts_alike {p : Parameter} {v v' : String} (hv : p.hide v = p.hide v') : Accepts p v ↔ Accepts p v' := by
  cases hurl : p.isUrl with
  | false => exact iff_of_true (accepts_of_not_isUrl hurl v) (accepts_of_not_isUrl hurl v')
  | true =>
    have hplain := Parameter.isSecret_of_isUrl hurl
    rw [Parameter.hide_of_not_isSecret hplain, Parameter.hide_of_not_isSecret hplain] at hv
    rw [hv]

/-- What the log is told when a parameter is set does not tell the value of a secret. -/
theorem setRecord_alike {p : Parameter} {v v' : String} (hv : p.hide v = p.hide v') : setRecord p v = setRecord p v' := by
  unfold setRecord setMessage
  cases hp : p.isSecret with
  | true => rfl
  | false =>
    rw [Parameter.hide_of_not_isSecret hp, Parameter.hide_of_not_isSecret hp] at hv
    rw [hv]

/-! ## Writing -/

/-- Changing the scopes. -/
theorem alike_changeScopes (f : Scopes → Scopes) :
    Act.Alike (AlikeWith T) Eq Eq (changeScopes f) (changeScopes f) :=
  Act.Alike.modify fun _ _ h => ⟨h.withScopes f, h.token⟩

/-- Setting a parameter to values that differ as secrets do. -/
theorem alike_insert {p : Parameter} {v v' : String} (hv : p.hide v = p.hide v') :
    Act.Alike (AlikeWith T) Eq Eq (insert p v) (insert p v') := by
  intro s s' h
  by_cases hscope : p = .scope
  · subst hscope
    rw [Parameter.hide_of_not_isSecret rfl, Parameter.hide_of_not_isSecret rfl] at hv
    rw [hv]
    exact alike_changeScopes (·.insertAll (Text.words v')) s s' h
  by_cases haccepts : Accepts p v
  · rw [insert_of_accepts hscope haccepts, insert_of_accepts hscope ((accepts_alike hv).mp haccepts)]
    exact ⟨congrArg ([·]) (setRecord_alike hv), ⟨h.setValue hv, h.token⟩, .ok rfl⟩
  · -- only a URL is refused, and no URL is a secret
    rw [Accepts, Classical.not_imp] at haccepts
    obtain ⟨hurl, hcheck⟩ := haccepts
    have hplain := Parameter.isSecret_of_isUrl hurl
    rw [Parameter.hide_of_not_isSecret hplain, Parameter.hide_of_not_isSecret hplain] at hv
    cases hf : checkUrl p v with
    | ok u => exact absurd hf hcheck
    | error f =>
      rw [insert_of_refused hurl hf, insert_of_refused hurl (hv ▸ hf)]
      exact ⟨rfl, h, .error rfl⟩

/-- Setting a parameter, where it is not set, to values that differ as secrets do. -/
theorem alike_entryWith {p : Parameter} {v v' : String} (hv : p.hide v = p.hide v') :
    Act.Alike (AlikeWith T) Eq Whatever (entryWith p v) (entryWith p v') := by
  intro s s' h
  have hcontains := h.contains p
  cases hc : s.contains p with
  | true =>
    rw [entryWith_of_contains hc, entryWith_of_contains (hcontains ▸ hc)]
    exact ⟨rfl, h, .ok trivial⟩
  | false =>
    rw [entryWith_of_not_contains hc, entryWith_of_not_contains (hcontains ▸ hc)]
    refine Act.Alike.run_bind (alike_insert hv s s' h) fun _ _ t t' _ ht => ?_
    exact (Act.Alike.get.bind fun _ _ _ => Act.Alike.pure trivial) t t' ht

/-- Taking the value of a parameter away. -/
theorem alike_remove (p : Parameter) : Act.Alike (AlikeWith T) Eq Eq (remove p) (remove p) := by
  unfold remove
  split
  · exact alike_changeScopes _
  · exact Act.Alike.modify fun _ _ h => ⟨h.unsetValue p, h.token⟩

/-- Setting parameters in order to values that differ as secrets do. -/
theorem alike_extend {pairs pairs' : List (Parameter × String)}
    (h : List.Forall₂ (fun d d' => d.1 = d'.1 ∧ d.1.hide d.2 = d.1.hide d'.2) pairs pairs') :
    Act.Alike (AlikeWith T) Eq Eq (extend pairs) (extend pairs') := by
  refine Act.Alike.each (fun d d' hd => ?_) h
  obtain ⟨p, v⟩ := d
  obtain ⟨p', v'⟩ := d'
  obtain ⟨rfl, hv⟩ := hd
  exact alike_insert hv

/-- Pointing stores at the same endpoints. -/
theorem alike_setEndpoints (e : Endpoints) : Act.Alike (AlikeWith T) Eq Eq (setEndpoints e) (setEndpoints e) :=
  alike_extend (List.forall₂_same.mpr fun _ _ => ⟨rfl, rfl⟩)

/-- Setting values for a proof of possession that differ as secrets do. -/
theorem alike_setPkce {pair pair' : Pkce} (hverifier : hidden pair.verifier = hidden pair'.verifier)
    (hchallenge : hidden pair.challenge = hidden pair'.challenge) :
    Act.Alike (AlikeWith T) Eq Eq (setPkce pair) (setPkce pair') :=
  alike_extend (.cons ⟨rfl, hverifier⟩ (.cons ⟨rfl, hchallenge⟩ (.cons ⟨rfl, rfl⟩ .nil)))

/-- What is done with a text, where one is given that is not empty, and with what follows. -/
theorem alike_given {α β : Type} {text text' : Option String} {act : String → Act (Store τ) α} {next next' : Act (Store τ) β}
    {P : β → β → Prop} : text.map hidden = text'.map hidden →
    (∀ v v', text = some v → text' = some v' → Act.Alike (AlikeWith T) Eq Whatever (act v) (act v')) →
    Act.Alike (AlikeWith T) Eq P next next' →
    Act.Alike (AlikeWith T) Eq P
      (match text with
      | some v => if v ≠ "" then act v >>= fun _ => next else next
      | none => Act.pure () >>= fun _ => next)
      (match text' with
      | some v => if v ≠ "" then act v >>= fun _ => next' else next'
      | none => Act.pure () >>= fun _ => next') := by
  intro htext hact hnext
  cases text with
  | none =>
    cases text' with
    | none => exact (Act.Alike.pure (Q := Eq) rfl).bind fun _ _ _ => hnext
    | some v' => cases htext
  | some v =>
    cases text' with
    | none => cases htext
    | some v' =>
      have hempty : v = "" ↔ v' = "" := hidden_eq_hidden.mp (Option.some.inj htext)
      dsimp only
      by_cases hv : v = ""
      · rw [if_neg (not_not.mpr hv), if_neg (not_not.mpr (hempty.mp hv))]
        exact hnext
      · rw [if_pos hv, if_pos (fun hv' => hv (hempty.mpr hv'))]
        exact (hact v v' rfl rfl).bind fun _ _ _ => hnext

/-- Taking over what came back from sign-ins that differ in secrets. -/
theorem alike_acceptIdToken {t t' : IdToken} (h : t.Alike t') :
    Act.Alike (AlikeWith T) Eq Eq (acceptIdToken t) (acceptIdToken t') := by
  have hinsert {p : Parameter} {v v' : String} (hv : p.hide v = p.hide v') :
      Act.Alike (AlikeWith T) Eq Whatever (insert p v) (insert p v') :=
    (alike_insert hv).mono (fun _ _ _ => trivial) fun _ _ h => h
  unfold acceptIdToken
  refine alike_given h.code (fun v v' hv hv' => hinsert ?_) ?_
  · have hcode := h.code
    rw [hv, hv'] at hcode
    exact Option.some.inj hcode
  rw [h.state, h.sessionState]
  refine alike_given rfl (fun v v' hv hv' => ?_) ?_
  · cases hv.symm.trans hv'
    exact alike_entryWith rfl
  refine alike_given rfl (fun v v' hv hv' => ?_) ?_
  · cases hv.symm.trans hv'
    exact hinsert rfl
  exact alike_insert h.idToken

/-- Keeping tokens that are related. -/
theorem alike_acceptToken {token token' : τ} (htoken : T token token') {refresh refresh' : Option String}
    (hrefresh : refresh.map hidden = refresh'.map hidden) :
    Act.Alike (AlikeWith T) Eq Eq (acceptToken token refresh) (acceptToken token' refresh') := by
  have hkeep : Act.Alike (AlikeWith T) Eq Eq (Act.modify fun s : Store τ => { s with token := some token })
      (Act.modify fun s : Store τ => { s with token := some token' }) :=
    Act.Alike.modify fun _ _ h => ⟨⟨h.values, h.scopes⟩, .some htoken⟩
  unfold acceptToken
  cases refresh with
  | none =>
    cases refresh' with
    | none => exact (Act.Alike.pure (Q := Eq) rfl).bind fun _ _ _ => hkeep
    | some v' => cases hrefresh
  | some v =>
    cases refresh' with
    | none => cases hrefresh
    | some v' => exact (alike_insert (p := .refreshToken) (Option.some.inj hrefresh)).bind fun _ _ _ => hkeep

/-- Setting what settings give that differ in the name and the secret of the client. -/
theorem alike_settings {s s' : Settings} (h : s.Alike s') : Act.Alike (AlikeWith T) Eq Eq s.apply s'.apply := by
  have hgiven {p : Parameter} {v v' : Option String} (hv : v.map p.hide = v'.map p.hide) (hempty : v.map hidden = v'.map hidden) :
      Act.Alike (AlikeWith T) Eq Eq (Settings.insertGiven p v) (Settings.insertGiven p v') := by
    cases v with
    | none =>
      cases v' with
      | none => exact Act.Alike.pure rfl
      | some w' => cases hv
    | some w =>
      cases v' with
      | none => cases hv
      | some w' =>
        have hiff : w = "" ↔ w' = "" := hidden_eq_hidden.mp (Option.some.inj hempty)
        rw [Settings.insertGiven, Settings.insertGiven]
        by_cases hw : w = ""
        · rw [if_pos hw, if_pos (hiff.mp hw)]
          exact Act.Alike.pure rfl
        · rw [if_neg hw, if_neg (fun hw' => hw (hiff.mpr hw'))]
          exact alike_insert (Option.some.inj hv)
  unfold Settings.apply
  rw [h.redirectUri, h.tenant, h.cloud]
  refine (hgiven (p := .clientId) h.clientId h.clientId).bind fun _ _ _ => ?_
  refine (hgiven (p := .clientSecret) h.clientSecret h.clientSecret).bind fun _ _ _ => ?_
  exact (hgiven rfl rfl).bind fun _ _ _ => alike_setEndpoints _

/-! ## Building requests -/

/-- Stores with tokens that are alike have refresh tokens in them that differ at most as secrets do. -/
theorem AlikeWith.tokenRefresh? {s s' : Store Token} (h : s.AlikeWith Token.Alike s') :
    s.tokenRefresh?.map hidden = s'.tokenRefresh?.map hidden := by
  rw [Store.tokenRefresh?, Store.tokenRefresh?]
  rcases option_rel_cases h.token with ⟨hs, hs'⟩ | ⟨t, t', hs, hs', ht⟩
  · rw [hs, hs']
  · rw [hs, hs']
    exact ht.refreshToken?

/-- The value of a parameter that must be set. -/
theorem Alike.get {s s' : Store τ} (h : s.Alike s') (p : Parameter) : TargetAlike Whatever (s.get p) (s'.get p) := by
  rw [Store.get, Store.get]
  rcases option_rel_cases (option_rel_of_isSome (h.contains p)) with ⟨hs, hs'⟩ | ⟨v, v', hs, hs', _⟩
  · rw [hs, hs']
    exact .error _
  · rw [hs, hs']
    exact .ok trivial

section

variable {s s' : Store Token} (h : s.AlikeWith Token.Alike s')

include h

/-- The parameters of a request. -/
theorem AlikeWith.pairs (form : Bool) (required optional : List Parameter) :
    TargetAlike Whatever (s.pairs form required optional) (s'.pairs form required optional) := by
  have hrequired : TargetAlike Whatever (s.requiredPairs form required) (s'.requiredPairs form required) := by
    rw [requiredPairs_eq, requiredPairs_eq]
    simp only [h.isNone_available? h.tokenRefresh? form]
    split
    · exact .error _
    · exact .ok trivial
  exact hrequired.bind fun _ _ _ => .ok trivial

/-- Parameters as a query. -/
theorem AlikeWith.encodeQuery (required optional : List Parameter) :
    TargetAlike Whatever (s.encodeQuery required optional) (s'.encodeQuery required optional) :=
  (h.pairs false required optional).bind fun _ _ _ => .ok trivial

/-- Parameters as the fields of a form. -/
theorem AlikeWith.formParams (required optional : List Parameter) :
    TargetAlike Whatever (s.formParams required optional) (s'.formParams required optional) :=
  (h.pairs true required optional).bind fun _ _ _ => .ok trivial

/-- The refresh token, which must be there. -/
theorem AlikeWith.refreshToken : TargetAlike Whatever s.refreshToken s'.refreshToken := by
  have hvalue (s : Store Token) : s.refreshToken = s.requiredValue true .refreshToken := rfl
  rw [hvalue, hvalue, requiredValue_eq, requiredValue_eq]
  rcases option_rel_cases (option_rel_of_isSome (h.isSome_available? h.tokenRefresh? true .refreshToken)) with
    ⟨hs, hs'⟩ | ⟨v, v', hs, hs', _⟩
  · rw [hs, hs']
    exact .error _
  · rw [hs, hs']
    exact .ok trivial

end

/-- Filling in the fixed values of a phase. -/
theorem alike_prepare (g : Grant) (ph : Phase) :
    Act.Alike (AlikeWith Token.Alike) Eq Eq (prepare g ph) (prepare g ph) := by
  unfold prepare
  dsimp only
  split
  · exact Act.Alike.fail rfl
  · refine Act.Alike.bind (Act.Alike.each (D := Eq) ?_ (List.forall₂_same.mpr fun _ _ => rfl)) fun _ _ _ => Act.Alike.pure rfl
    rintro ⟨p, v⟩ _ rfl
    exact (alike_entryWith rfl).bind fun _ _ _ => Act.Alike.pure rfl

/-- Behind the preparation of a phase, a form and an authorization URL only read the store. -/
theorem prepared (g : Grant) (s : Store Token) :
    (∀ ph, (formRequest g ph s).state = (prepare g ph s).state ∧ (formRequest g ph s).records = (prepare g ph s).records) ∧
      (authorizationUrl g s).state = (prepare g .authorization s).state ∧
      (authorizationUrl g s).records = (prepare g .authorization s).records := by
  constructor
  · intro ph
    exact Act.Quiet.bind_eq (fun rules => Act.Quiet.get.bind fun _ => (Act.Quiet.ofExcept _).bind fun _ =>
      (Act.Quiet.ofExcept _).bind fun _ => Act.Quiet.pure _) (prepare g ph) s
  · exact Act.Quiet.bind_eq (fun rules => Act.Quiet.get.bind fun _ => (Act.Quiet.ofExcept _).bind fun _ =>
      (Act.Quiet.ofExcept _).bind fun _ => Act.Quiet.ofExcept _) (prepare g .authorization) s

/-- Building a form. -/
theorem alike_formRequest (g : Grant) (ph : Phase) :
    Act.Alike (AlikeWith Token.Alike) Eq FormRequest.Alike (formRequest g ph) (formRequest g ph) := by
  intro s s' h
  obtain ⟨hrecords, hstate, _⟩ := alike_prepare g ph s s' h
  obtain ⟨hs, hr⟩ := (prepared g s).1 ph
  obtain ⟨hs', hr'⟩ := (prepared g s').1 ph
  refine ⟨by rw [hr, hr', hrecords], by rw [hs, hs']; exact hstate, ?_⟩
  rw [formRequest_result, formRequest_result]
  rcases h.demand h.tokenRefresh? g ph true with ⟨f, hd, hd'⟩ | ⟨uri, fields, fields', hd, hd', hfields⟩
  · rw [hd, hd']
    exact .error rfl
  · rw [hd, hd']
    have hnames (fields : List (String × String)) : fields.map (·.1) = (fields.map hideField).map (·.1) := by
      rw [List.map_map]
      rfl
    exact .ok ⟨rfl, by rw [hnames, hfields, ← hnames]⟩

/-- Building an authorization URL. -/
theorem alike_authorizationUrl (g : Grant) :
    Act.Alike (AlikeWith Token.Alike) Eq Whatever (authorizationUrl g) (authorizationUrl g) := by
  intro s s' h
  obtain ⟨hrecords, hstate, _⟩ := alike_prepare g .authorization s s' h
  obtain ⟨hs, hr⟩ := (prepared g s).2
  obtain ⟨hs', hr'⟩ := (prepared g s').2
  refine ⟨by rw [hr, hr', hrecords], by rw [hs, hs']; exact hstate, ?_⟩
  rw [authorizationUrl_result, authorizationUrl_result]
  rcases h.demand h.tokenRefresh? g .authorization false with ⟨f, hd, hd'⟩ | ⟨uri, fields, fields', hd, hd', _⟩
  · rw [hd, hd']
    exact .error rfl
  · have hne := Form.encode_ne_empty .percent (pairs_ne_nil hd)
    have hne' := Form.encode_ne_empty .percent (pairs_ne_nil hd')
    rw [hd, hd']
    show ResultAlike Eq Whatever ((Uri.appendQuery uri (Form.encode .percent fields)).mapError Fault.uri)
      ((Uri.appendQuery uri (Form.encode .percent fields')).mapError Fault.uri)
    rcases Uri.appendQuery_uniform uri with ⟨flaw, hfails⟩ | ⟨x, sep, _, hstands⟩
    · rw [hfails _ hne, hfails _ hne']
      exact .error rfl
    · rw [hstands _ hne, hstands _ hne']
      exact .ok trivial

/-- Building the text of a request. -/
theorem alike_encodeUri (g : Grant) (ph : Phase) :
    Act.Alike (AlikeWith Token.Alike) Eq Whatever (encodeUri g ph) (encodeUri g ph) := by
  unfold encodeUri
  split
  · exact alike_authorizationUrl g
  · exact (alike_formRequest g ph).bind fun _ _ _ => Act.Alike.pure trivial

end Store

end OAuthClient
