import OAuthClient.Proofs.Sending
import OAuthClient.Proofs.Store.Outcome
import OAuthClient.Proofs.Uri.Form

/-!
# Forms on their way

A form is written in two ways: for a reader, with `%20` for a blank, and on its way to the endpoint, with a plus sign. The two come
from acts of their own, one on the store and one on a copy that a handle has, and each writes the fields with its own encoder. Both
texts read as the fields of the form, whatever characters are in them.
-/

namespace OAuthClient

namespace Store

variable {g : Grant} {ph : Phase} {s : Store Token} {r : FormRequest}

/-- A form that is built asks for what the phase demands. -/
theorem demand_of_formRequest (hr : (formRequest g ph s).result = .ok r) : demand g ph true s = .ok (r.uri, r.params) := by
  rw [formRequest_result] at hr
  cases hd : demand g ph true s with
  | error f =>
    rw [hd] at hr
    cases hr
  | ok request =>
    rw [hd] at hr
    cases hr
    rfl

/-- The fields of a form have different names. -/
theorem formRequest_nodup (hr : (formRequest g ph s).result = .ok r) : (r.params.map (·.1)).Nodup := by
  obtain ⟨_, _, hparams, _⟩ := demand_ok (demand_of_formRequest hr)
  rw [hparams]
  exact rows_nodup _ true (g.rules_wellFormed ph).wireNames_nodup

/-- The text of a form that is built has its fields, with `%20` for blanks. -/
theorem encodeUri_of_formRequest (hph : ph ≠ .authorization) (hr : (formRequest g ph s).result = .ok r) :
    (encodeUri g ph s).result = .ok (Form.encode .percent r.params) := by
  rw [encodeUri_form_result hph, hr]
  rfl

/-- A form can be built only for a phase that the grant has. -/
theorem supported_of_formRequest (hr : (formRequest g ph s).result = .ok r) : (g.rules ph).supported = true := by
  obtain ⟨_, _, _, hsup⟩ := demand_ok (demand_of_formRequest hr)
  exact Rules.supported_of_none hsup

end Store

namespace Handle

variable {g : Grant} {ph : Phase} {s : Store Token} {r : FormRequest}

/-- A form, as it can be looked at and as it is sent. -/
structure SentAsShown (g : Grant) (ph : Phase) (s : Store Token) (r : FormRequest) : Prop where
  /-- No field is there twice. -/
  nodup : (r.params.map (·.1)).Nodup
  /-- The text of the form reads as its fields, before the form was built from the store and after. -/
  shown : ∀ s' ∈ [s, (Store.formRequest g ph s).state],
    ∃ text, (Store.encodeUri g ph s').result = .ok text ∧ Form.ReadsAs text r.params
  /-- The store offers handles for the grant. -/
  offered : ∀ nonblocking, ∃ choice h, select? choice nonblocking s = some h ∧ h.grant = g
  /-- What any of them is asked to send goes to the endpoint, once, and its body reads as the fields, too. -/
  sent : ∀ choice nonblocking h, select? choice nonblocking s = some h → h.grant = g → ∃ request,
    (∀ (σ : Type) (t : σ), (h.call (.forPhase ph) t).result = .ok (.request request)) ∧
    ∀ network timeout trace, ∃ body, (request.send network timeout trace).state = trace ++ [⟨r.uri, body, timeout⟩] ∧
      Form.ReadsAs body r.params

/-- Every form for the token endpoint that can be built is sent as it is shown: the text that is written for a reader and the body
that a handle sends are read as the same fields, those of the form, in order and with every character as it was. -/
theorem sent_as_shown (hph : ph ≠ .authorization) (hr : (Store.formRequest g ph s).result = .ok r) : SentAsShown g ph s r where
  nodup := Store.formRequest_nodup hr
  shown := by
    have hshown : ∀ s', (Store.formRequest g ph s').result = .ok r →
        ∃ text, (Store.encodeUri g ph s').result = .ok text ∧ Form.ReadsAs text r.params :=
      fun s' hr' => ⟨_, Store.encodeUri_of_formRequest hph hr', Form.readsAs_encode .percent r.params⟩
    intro s' hs'
    rcases List.mem_pair.mp hs' with rfl | rfl
    · exact hshown _ hr
    · have hprepares := Store.prepares_formRequest g ph
      refine hshown _ ?_
      rw [hprepares.state, hprepares.result, hr]
  offered := by
    intro nonblocking
    obtain ⟨family, hselect⟩ := select?_choiceFor g nonblocking s
    exact ⟨choiceFor g, _, hselect, rfl⟩
  sent := by
    rintro choice nonblocking h hselect rfl
    obtain ⟨_, _, rfl, _⟩ := of_select? hselect
    have hoffers := offers_forPhase hselect hph (Store.supported_of_formRequest hr)
    refine ⟨.form h.nonblocking (.ok r), fun σ t => call_form hoffers hr t, ?_⟩
    intro network timeout trace
    refine ⟨_, ?_, Form.readsAs_encode .plus r.params⟩
    rw [Request.send_apply, FormRequest.posted]

/-- A store of a client that waits for an answer to its device code, which is an empty text. -/
def awaitingDevice (clientId : String) : Store Token where
  values
    | .clientId => some clientId
    | .deviceCode => some ""
    | .accessTokenUrl => some "https://login.test/token"
    | _ => none

set_option maxRecDepth 10000 in
/-- The name of a client with blanks, separators, a percent sign and letters beyond ASCII is sent as it is shown. -/
theorem sent_as_shown_awaitingDevice :
    SentAsShown .deviceCode .accessToken (awaitingDevice "Zoë + 1 = 100%&more")
      ⟨"https://login.test/token", [("grant_type", "urn:ietf:params:oauth:grant-type:device_code"),
        ("client_id", "Zoë + 1 = 100%&more"), ("device_code", "")]⟩ :=
  sent_as_shown (by decide) (by rfl)

end Handle

end OAuthClient
