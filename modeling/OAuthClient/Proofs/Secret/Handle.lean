import OAuthClient.Proofs.Secret.Store
import OAuthClient.Proofs.Sending
import OAuthClient.Session.Basic

/-!
# Handles and requests that differ in their secrets

A handle tells the log the same whatever the secrets in its store are, and so does a request whatever the secrets among its fields are,
when it is sent over a network that brings the same and when it is opened.
-/

namespace OAuthClient

variable {σ : Type} {R : σ → σ → Prop}

/-! ## Requests -/

/-- Two requests were built or keep the same failure, and forms go to the same endpoint and have fields of the same names. -/
inductive Request.Alike : Request → Request → Prop where
  | browser {target target' : Except Failure String} (h : TargetAlike Whatever target target') :
    Alike (.browser target) (.browser target')
  | form {nonblocking : Bool} {target target' : Except Failure FormRequest} (h : TargetAlike FormRequest.Alike target target') :
    Alike (.form nonblocking target) (.form nonblocking target')

/-- What is delivered for a form depends on where it goes only. -/
theorem Session.deliver_congr {out out' : Post} (h : out.uri = out'.uri) (delivery : Delivery) :
    Session.deliver delivery out = Session.deliver delivery out' := by
  have hway : (Session.onTheWay out).uri = (Session.onTheWay out').uri := by
    rw [Session.onTheWay, Session.onTheWay, h]
  cases delivery with
  | response r => rw [Session.deliver, Session.deliver, h, hway]
  | fault name message => rfl
  | noHost target => rfl

/-- Sending forms that differ in values only. -/
theorem Request.alike_post {network : Post → Delivery} (hnetwork : ∀ out out' : Post, out.uri = out'.uri → network out = network out')
    (timeout : Binary64) {target target' : FormRequest} (h : target.Alike target') :
    Act.Alike Whatever Eq Eq (Request.post network timeout target) (Request.post network timeout target') := by
  unfold Request.post
  rw [h.uri, h.names]
  refine (Act.Alike.tell _ _ _).bind fun _ _ _ => (Act.Alike.modify fun _ _ _ => trivial).bind fun _ _ _ => ?_
  rw [hnetwork ⟨target'.uri, Form.encode .plus target.params, timeout⟩ ⟨target'.uri, Form.encode .plus target'.params, timeout⟩
    rfl]
  cases network ⟨target'.uri, Form.encode .plus target'.params, timeout⟩ with
  | response r => exact (Act.Alike.tell _ _ _).bind fun _ _ _ => Act.Alike.pure rfl
  | fault name message =>
    dsimp only
    split
    · exact (Act.Alike.tell _ _ _).bind fun _ _ _ => Act.Alike.fail rfl
    · exact Act.Alike.fail rfl
  | noHost target => exact Act.Alike.fail rfl

/-- Sending requests that are alike over a network that looks at where a form goes only. -/
theorem Request.alike_send {network : Post → Delivery} (hnetwork : ∀ out out' : Post, out.uri = out'.uri → network out = network out')
    (timeout : Binary64) {r r' : Request} (h : r.Alike r') :
    Act.Alike Whatever Eq Eq (r.send network timeout) (r'.send network timeout) := by
  cases h with
  | browser h => exact Act.Alike.fail rfl
  | @form nonblocking _ _ h =>
    cases h with
    | error f => exact Act.Alike.fail rfl
    | ok h =>
      cases nonblocking with
      | false => exact Request.alike_post hnetwork timeout h
      | true =>
        show Act.Alike _ _ _ (postNonblocking network timeout _) (postNonblocking network timeout _)
        rw [postNonblocking_eq_post, postNonblocking_eq_post]
        exact Request.alike_post hnetwork timeout h

/-- Opening requests that are alike in a browser that does not look at them. -/
theorem Request.alike_openIn (browser : Bool) {r r' : Request} (h : r.Alike r') :
    Act.Alike Whatever Whatever Eq (r.openIn fun _ => browser) (r'.openIn fun _ => browser) := by
  cases h with
  | form h => exact Act.Alike.fail trivial
  | browser h =>
    cases h with
    | error f => exact Act.Alike.fail trivial
    | ok h =>
      refine (Act.Alike.tell _ _ _).bind fun _ _ _ => (Act.Alike.modify fun _ _ _ => trivial).bind fun _ _ _ => ?_
      cases browser with
      | true => exact Act.Alike.pure rfl
      | false => exact (Act.Alike.tell _ _ _).bind fun _ _ _ => Act.Alike.fail trivial

/-- Sending requests that are alike in a session. -/
theorem Session.alike_send (now : Instant) (timeout : Binary64) (delivery : Delivery) {r r' : Request} (h : r.Alike r') :
    Act.Alike R Eq Whatever (Session.send now r timeout delivery) (Session.send now r' timeout delivery) := by
  intro s s' hs
  have hsend := Request.alike_send (fun _ _ hout => Session.deliver_congr hout delivery) timeout h [] [] trivial
  unfold Session.send
  rcases hrun : r.send (Session.deliver delivery) timeout [] with ⟨result, posts, records⟩
  rcases hrun' : r'.send (Session.deliver delivery) timeout [] with ⟨result', posts', records'⟩
  rw [hrun, hrun'] at hsend
  obtain ⟨hrecords, _, hresult⟩ := hsend
  dsimp only at hrecords hresult ⊢
  rw [hrecords]
  cases hresult with
  | ok hresponse =>
    cases hresponse
    exact ⟨rfl, hs, .ok trivial⟩
  | error hfault => exact ⟨rfl, hs, .ok trivial⟩

/-- Opening requests that are alike in a session. -/
theorem Session.alike_openIn (browser : Bool) {r r' : Request} (h : r.Alike r') :
    Act.Alike R Eq Whatever (Session.openIn r browser) (Session.openIn r' browser) := by
  intro s s' hs
  obtain ⟨hrecords, _, _⟩ := Request.alike_openIn browser h [] [] trivial
  exact ⟨hrecords, hs, .ok trivial⟩

namespace Handle

/-! ## Handles -/

/-- Two handles are for the same grant and have stores that are alike, with tokens that are. -/
structure Alike (h h' : Handle) : Prop where
  family : h.family = h'.family
  nonblocking : h.nonblocking = h'.nonblocking
  grant : h.grant = h'.grant
  store : h.store.AlikeWith Token.Alike h'.store

/-- Two answers of handles: texts, whatever they are, or requests that are alike. -/
inductive Answer.Alike : Answer → Answer → Prop where
  | url (s s' : String) : Alike (.url s) (.url s')
  | request {r r' : Request} (h : r.Alike r') : Alike (.request r) (.request r')

variable {h h' : Handle} {α : Type} {Q : α → α → Prop}

/-- Acts on copies of stores that are alike. -/
theorem alike_onCopy (halike : h.Alike h') {act act' : Act (Store Token) α}
    (hact : Act.Alike (Store.AlikeWith Token.Alike) Eq Q act act') : Act.Alike R Eq Q (h.onCopy act) (h'.onCopy act') := by
  intro t t' ht
  obtain ⟨hrecords, _, hresult⟩ := hact _ _ halike.store
  exact ⟨hrecords, ht, hresult⟩

/-- The URL of the authorization. -/
theorem alike_authorizationUrl (halike : h.Alike h') : Act.Alike R Eq Whatever h.authorizationUrl h'.authorizationUrl := by
  unfold authorizationUrl
  rw [halike.grant]
  exact alike_onCopy halike (Store.alike_authorizationUrl h'.grant)

/-- The page for the browser. -/
theorem alike_browserRequest (halike : h.Alike h') : Act.Alike R Eq Request.Alike h.browserRequest h'.browserRequest := by
  unfold browserRequest
  rw [halike.grant]
  refine (alike_authorizationUrl halike).attempt.bind fun target target' htarget => ?_
  cases htarget with
  | ok h => exact (Act.Alike.pure (Q := Eq) rfl).bind fun _ _ _ => Act.Alike.pure (.browser (.ok h))
  | error f => exact (Act.Alike.tell _ _ _).bind fun _ _ _ => Act.Alike.pure (.browser (.error f))

/-- The form for a phase. -/
theorem alike_formRequest (halike : h.Alike h') (ph : Phase) :
    Act.Alike R Eq Request.Alike (h.formRequest ph) (h'.formRequest ph) := by
  unfold formRequest
  rw [halike.grant, halike.nonblocking]
  refine (alike_onCopy halike (Store.alike_formRequest h'.grant ph)).attempt.bind fun target target' htarget => ?_
  cases htarget with
  | ok h => exact (Act.Alike.pure (Q := Eq) rfl).bind fun _ _ _ => Act.Alike.pure (.form (.ok h))
  | error f => exact (Act.Alike.tell _ _ _).bind fun _ _ _ => Act.Alike.pure (.form (.error f))

/-- Calls on handles that are alike. -/
theorem alike_call (halike : h.Alike h') (c : Call) : Act.Alike R Eq Answer.Alike (h.call c) (h'.call c) := by
  have hoffers : h.offers c = h'.offers c := by
    cases c <;> simp only [offers, halike.family]
  have hurl : Act.Alike R Eq Answer.Alike (do return .url (← h.authorizationUrl)) (do return .url (← h'.authorizationUrl)) :=
    (alike_authorizationUrl halike).bind fun _ _ _ => Act.Alike.pure (.url _ _)
  have hrequest {act act' : Act σ Request} (hact : Act.Alike R Eq Request.Alike act act') :
      Act.Alike R Eq Answer.Alike (do return .request (← act)) (do return .request (← act')) :=
    hact.bind fun _ _ hr => Act.Alike.pure (.request hr)
  unfold call
  rw [hoffers]
  split
  · cases c with
    | url => exact hurl
    | authorizationUrl => exact hurl
    | browserAuthorization => exact hrequest (alike_browserRequest halike)
    | accessToken => exact hrequest (alike_formRequest halike .accessToken)
    | refreshToken => exact hrequest (alike_formRequest halike .refreshToken)
    | authorization => exact hrequest (alike_formRequest halike .authorization)
  · exact Act.Alike.fail rfl

end Handle

end OAuthClient
