import OAuthClient.Proofs.Log.Redaction
import OAuthClient.Proofs.Secret.Basic
import OAuthClient.Proofs.Store.Outcome

/-!
# Requests in a log

What the encoding of a request and the replacing of secrets in a log make together: no character of an encoded value ends a value, so
the value of a secret is replaced as a whole, and what is left tells only whether it was empty. It does not matter where a query is
appended, even when what stands before it ends in the name of a secret and takes the beginning of the query for its value.
-/

namespace OAuthClient

open OAuthClient.Text OAuthClient.Log

namespace Form

/-! ## Encoded characters -/

/-- No character of a field in percent form ends a value. -/
theorem endsValue_of_mem_encodeField {field : String × String} {c : Char} (h : c ∈ encodeField .percent field) :
    endsValue c = false := by
  have hpart {cs : List Char} (hc : c ∈ Style.percent.encode cs) : endsValue c = false := by
    rcases Style.of_mem hc with hkept | rfl | ⟨hplus, _⟩
    · exact Percent.of_isUnreserved (p := fun c => endsValue c = false) (by decide) hkept
    · decide
    · cases hplus
  rw [encodeField, List.mem_append, List.mem_cons] at h
  rcases h with hname | rfl | hvalue
  · exact hpart hname
  · decide
  · exact hpart hvalue

/-- A text that is not empty is not empty in percent form. -/
theorem encode_ne_nil {cs : List Char} (h : cs ≠ []) : Style.percent.encode cs ≠ [] := by
  intro he
  have hread : Percent.decode (Percent.encodeExcept Percent.isUnreserved cs) = cs := Percent.decode_encodeExcept (by decide) cs
  have hempty : Percent.encodeExcept Percent.isUnreserved cs = [] := he
  rw [hempty] at hread
  exact h hread.symm

/-- The name of a secret is its own percent form. -/
theorem encode_secret {name : String} (h : name ∈ Parameter.secretWireNames) :
    Style.percent.encode name.toList = name.toList := by
  revert name
  decide

/-- A field with the name of a secret and a value is that secret, up to the first end of a value behind it. -/
theorem secretAt?_encodeField {field : String × String} (hname : field.1 ∈ Parameter.secretWireNames) (hvalue : field.2 ≠ "")
    {t : List Char} (ht : t.dropWhile (!endsValue ·) = t) : secretAt? (encodeField .percent field ++ t) = some (field.1, t) := by
  have hne : Style.percent.encode field.2.toList ≠ [] := encode_ne_nil fun he => hvalue (String.toList_eq_nil_iff.mp he)
  obtain ⟨c, rest, hencoded⟩ := List.exists_cons_of_ne_nil hne
  have hmem (d : Char) (hd : d ∈ c :: rest) : endsValue d = false := by
    have hfield : d ∈ encodeField .percent field := by
      rw [encodeField, hencoded]
      exact List.mem_append_right _ (List.mem_cons_of_mem _ hd)
    exact endsValue_of_mem_encodeField hfield
  have hdrop : (rest ++ t).dropWhile (!endsValue ·) = t := by
    rw [List.dropWhile_append_of_pos, ht]
    intro d hd
    simpa using hmem d (List.mem_cons_of_mem _ hd)
  rw [encodeField, encode_secret hname, hencoded, List.append_assoc]
  show secretAt? (field.1.toList ++ '=' :: c :: (rest ++ t)) = _
  rw [secretAt?_of_name hname (hmem c List.mem_cons_self), hdrop]

/-! ## Fields that differ in secrets -/

/-- Fields that are the same when they are hidden are the same, or they are one secret with two values that are not empty. -/
theorem hideField_eq {field field' : String × String} (h : hideField field = hideField field') :
    field = field' ∨ field.1 = field'.1 ∧ field.1 ∈ Parameter.secretWireNames ∧ field.2 ≠ "" ∧ field'.2 ≠ "" := by
  obtain ⟨name, v⟩ := field
  obtain ⟨name', v'⟩ := field'
  obtain ⟨hname, hvalue⟩ := Prod.mk.inj h
  cases hname
  dsimp only at hvalue
  rw [hideNamed, hideNamed] at hvalue
  by_cases hsecret : Parameter.secretWireNames.contains name = true
  · rw [if_pos hsecret, if_pos hsecret, hidden_eq_hidden] at hvalue
    by_cases hv : v = ""
    · exact Or.inl (by rw [hv, hvalue.mp hv])
    · exact Or.inr ⟨rfl, List.contains_iff_mem.mp hsecret, hv, fun hv' => hv (hvalue.mpr hv')⟩
  · rw [if_neg hsecret, if_neg hsecret] at hvalue
    exact Or.inl (by rw [hvalue])

/-- Two texts that begin with an end of a value, if with anything, are replaced alike behind every text. -/
structure EndsAlike (t t' : List Char) : Prop where
  ends : t.dropWhile (!endsValue ·) = t
  ends' : t'.dropWhile (!endsValue ·) = t'
  behind : ∀ afterWord x, redactFrom afterWord (x ++ t) = redactFrom afterWord (x ++ t')

/-- Nothing is replaced alike behind every text. -/
theorem endsAlike_nil : EndsAlike [] [] := ⟨rfl, rfl, fun _ _ => rfl⟩

/-- Texts that are replaced alike are so behind every text and an ampersand. -/
theorem endsAlike_cons {q q' : List Char} (h : RedactedAlike q q') : EndsAlike ('&' :: q) ('&' :: q') :=
  ⟨rfl, rfl, fun afterWord x => h.redactFrom_append separates_ampersand (by decide) afterWord x⟩

/-- A field before such texts is replaced alike when it is the same but for a secret. -/
theorem redactedAlike_field {field field' : String × String} (h : hideField field = hideField field') {t t' : List Char}
    (ht : EndsAlike t t') :
    RedactedAlike (encodeField .percent field ++ t) (encodeField .percent field' ++ t') := by
  have hdrop (field : String × String) {t : List Char} (hends : t.dropWhile (!endsValue ·) = t) :
      (encodeField .percent field ++ t).dropWhile (!endsValue ·) = t := by
    rw [List.dropWhile_append_of_pos, hends]
    intro c hc
    simpa using endsValue_of_mem_encodeField hc
  constructor
  · rcases hideField_eq h with rfl | ⟨hname, hsecret, hv, hv'⟩
    · exact ht.behind false _
    · have hfound : secretBehind? false (encodeField .percent field ++ t) = some (field.1, t) :=
        secretAt?_encodeField hsecret hv ht.ends
      have hfound' : secretBehind? false (encodeField .percent field' ++ t') = some (field'.1, t') :=
        secretAt?_encodeField (hname ▸ hsecret) hv' ht.ends'
      have hbehind : redactFrom false t = redactFrom false t' := ht.behind false []
      rw [redactFrom_of_some hfound, redactFrom_of_some hfound', hname, hbehind]
  · rw [hdrop field ht.ends, hdrop field' ht.ends']
    exact ht.behind false []

/-- Fields that differ in the values of secrets only are replaced alike. -/
theorem redactedAlike_encode {fields fields' : List (String × String)} (h : fields.map hideField = fields'.map hideField) :
    RedactedAlike (encode .percent fields).toList (encode .percent fields').toList := by
  rw [encode, encode, String.toList_ofList, String.toList_ofList]
  induction fields generalizing fields' with
  | nil =>
    rw [List.map_nil, eq_comm, List.map_eq_nil_iff] at h
    rw [h]
    exact RedactedAlike.refl _
  | cons field fields ih =>
    cases fields' with
    | nil => cases h
    | cons field' fields' =>
      obtain ⟨hfield, hrest⟩ := List.cons.inj h
      cases fields with
      | nil =>
        rw [List.map_nil, eq_comm, List.map_eq_nil_iff] at hrest
        subst hrest
        simpa [join] using redactedAlike_field hfield endsAlike_nil
      | cons next fields =>
        cases fields' with
        | nil => cases hrest
        | cons next' fields' =>
          simpa [join] using redactedAlike_field hfield (endsAlike_cons (ih hrest))

end Form

namespace Store

variable {g : Grant} {ph : Phase} {s s' : Store Token} {u u' : String}

/-- The text of a form is what it asks of the store, written out. -/
theorem encodeUri_form (hph : ph ≠ .authorization) (hu : (encodeUri g ph s).result = .ok u) :
    ∃ uri fields, demand g ph true s = .ok (uri, fields) ∧ u = Form.encode .percent fields := by
  rw [encodeUri_form_result hph, formRequest_result] at hu
  cases hd : demand g ph true s with
  | error f =>
    rw [hd] at hu
    cases hu
  | ok request =>
    rw [hd] at hu
    exact ⟨request.1, request.2, rfl, (Except.ok.inj hu).symm⟩

/-- What is asked of stores that are alike has the same endpoint, and fields that differ in secrets only. -/
theorem fields_alike (h : s.Alike s') (hrefresh : s.tokenRefresh?.map hidden = s'.tokenRefresh?.map hidden) {form : Bool}
    {uri uri' : String} {fields fields' : List (String × String)} (hd : demand g ph form s = .ok (uri, fields))
    (hd' : demand g ph form s' = .ok (uri', fields')) : uri = uri' ∧ fields.map hideField = fields'.map hideField := by
  rcases h.demand hrefresh g ph form with ⟨f, hf, _⟩ | ⟨_, _, _, hr, hr', hfields⟩
  · rw [hd] at hf
    cases hf
  · rw [hd] at hr
    rw [hd'] at hr'
    cases hr
    cases hr'
    exact ⟨rfl, hfields⟩

/-- The texts of a request from stores that are alike are the same in a log. -/
theorem redact_encodeUri (h : s.Alike s') (hrefresh : s.tokenRefresh?.map hidden = s'.tokenRefresh?.map hidden)
    (hu : (encodeUri g ph s).result = .ok u) (hu' : (encodeUri g ph s').result = .ok u') : redact u = redact u' := by
  by_cases hph : ph = .authorization
  · rw [encodeUri, if_pos hph] at hu hu'
    rcases authorizationUrl_cases g s with ⟨_, _, hr⟩ | ⟨_, _, _, _, _, hr⟩ | ⟨base, fields, v, hd, happend, hr⟩ <;>
      rw [hr] at hu <;> cases hu
    rcases authorizationUrl_cases g s' with ⟨_, _, hr⟩ | ⟨_, _, _, _, _, hr⟩ | ⟨base', fields', v', hd', happend', hr⟩ <;>
      rw [hr] at hu' <;> cases hu'
    obtain ⟨rfl, hfields⟩ := fields_alike h hrefresh hd hd'
    have hne := Form.encode_ne_empty .percent (pairs_ne_nil hd)
    have hne' := Form.encode_ne_empty .percent (pairs_ne_nil hd')
    rcases Uri.appendQuery_uniform base with ⟨flaw, hfails⟩ | ⟨x, sep, hsep, hstands⟩
    · rw [hfails _ hne] at happend
      cases happend
    · rw [hstands _ hne] at happend
      rw [hstands _ hne'] at happend'
      cases happend
      cases happend'
      have halike := Form.redactedAlike_encode hfields
      rw [redact, redact, String.toList_ofList, String.toList_ofList]
      rcases hsep with rfl | rfl
      · rw [halike.redactFrom_append separates_questionMark (by decide)]
      · rw [halike.redactFrom_append separates_ampersand (by decide)]
  · obtain ⟨_, fields, hd, rfl⟩ := encodeUri_form hph hu
    obtain ⟨_, fields', hd', rfl⟩ := encodeUri_form hph hu'
    rw [redact, redact, (Form.redactedAlike_encode (fields_alike h hrefresh hd hd').2).start]

/-- Whatever the values of secrets are, a request shows none of them in a log: the text for a grant and a phase, from any two stores
that are alike and whose token responses have refresh tokens that are alike, becomes the same text where a message of it goes through
the log, however the message is made. -/
theorem encodeUri_logged (h : s.Alike s') (hrefresh : s.tokenRefresh?.map hidden = s'.tokenRefresh?.map hidden)
    (hu : (encodeUri g ph s).result = .ok u) (hu' : (encodeUri g ph s').result = .ok u') {m m' : Message}
    (hm : m.text = .ok u) (hm' : m'.text = .ok u') :
    ∃ r r' shown, m.redacted = .ok r ∧ m'.redacted = .ok r' ∧ r.text = .ok shown ∧ r'.text = .ok shown := by
  obtain ⟨r, hr, htext⟩ := Message.text_redacted hm
  obtain ⟨r', hr', htext'⟩ := Message.text_redacted hm'
  rw [← redact_encodeUri h hrefresh hu hu'] at htext'
  exact ⟨r, r', redact u, hr, hr', htext, htext'⟩

/-- A store at an endpoint that ends in the name of a secret, with a client of a given name. -/
def atEndpoint (clientId : String) : Store Token where
  values
    | .clientId => some clientId
    | .authorizationUrl => some "https://login.test/code=?"
    | _ => none

set_option maxRecDepth 10000 in
/-- The endpoint takes the name of the client for its own secret, and the log shows neither of two names. -/
theorem encodeUri_logged_atEndpoint :
    (encodeUri .clientCredentials .authorization (atEndpoint "a b&code=c")).result =
      .ok "https://login.test/code=?client_id=a%20b%26code%3Dc" ∧
    ∃ r r' shown, (Message.ofText "https://login.test/code=?client_id=a%20b%26code%3Dc").redacted = .ok r ∧
      (Message.ofText "https://login.test/code=?client_id=x").redacted = .ok r' ∧
      r.text = .ok shown ∧ r'.text = .ok shown := by
  have halike : (atEndpoint "a b&code=c").Alike (atEndpoint "x") := by
    refine ⟨fun p => ?_, rfl⟩
    cases p <;> rfl
  have hu : (encodeUri .clientCredentials .authorization (atEndpoint "a b&code=c")).result =
      .ok "https://login.test/code=?client_id=a%20b%26code%3Dc" := by rfl
  have hu' : (encodeUri .clientCredentials .authorization (atEndpoint "x")).result =
      .ok "https://login.test/code=?client_id=x" := by rfl
  exact ⟨hu, encodeUri_logged halike rfl hu hu' rfl rfl⟩

end Store

end OAuthClient
