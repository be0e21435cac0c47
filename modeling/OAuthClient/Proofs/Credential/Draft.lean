import OAuthClient.Proofs.Act
import OAuthClient.Session.Credential

/-!
# The draft of a session on credentials

What a step can do to the draft is said once: it sets one value by its setter, it draws a verifier for an authorization URL, it draws a
nonce for a sign-in, or it leaves the draft as it is. Whatever is built, asked for or sent works on copies.
-/

namespace OAuthClient

namespace CredentialSession

open OAuthClient.Session

/-! ## Runs -/

/-- What happens to a session. -/
inductive Event where
  /-- A step is done, whatever comes of it. -/
  | step (s : Step)
  /-- The clock shows another time. -/
  | clock (now : Instant)

/-- The session after an event. -/
def Event.apply (f : CredentialSession) : Event → CredentialSession
  | .step s => (perform s f).state
  | .clock now => { f with supply := { f.supply with now := now } }

/-- The session after some events. -/
def play (f : CredentialSession) (events : List Event) : CredentialSession :=
  events.foldl Event.apply f

/-! ## One step -/

/-- What a step does to the draft. -/
inductive Change (step : Step) (f : CredentialSession) : Prop where
  | set (setter : String) (v : Json) (d : Draft) (hstep : step = .set setter v) (hset : f.draft.setValue setter v = .ok d)
      (hdraft : (perform step f).state.draft = d)
  | pkce (u : CodeUrl) (hstep : step = .setPkce) (hfrom : f.draft = .codeUrl u)
      (hdraft : (perform step f).state.draft = .codeUrl (u.setPkce (.ofOctets (f.supply.random f.supply.draws))))
  | scope (u : OpenIdUrl) (hstep : step = .setDefaultScope) (hfrom : f.draft = .openIdUrl u)
      (hdraft : (perform step f).state.draft =
        .openIdUrl (u.setDefaultScope (OpenIdUrl.nonceOf (f.supply.random f.supply.draws))))
  | none (hdraft : (perform step f).state.draft = f.draft)

section

variable {d : Draft} {α : Type}

/-- An act on the supply leaves the draft. -/
theorem draft_onSupply (act : Act Supply α) : (onSupply act).Preserves fun f => f.draft = d :=
  Act.Preserves.within fun _ hf => hf

/-- Keeping what was built leaves the draft. -/
theorem draft_keep (name : String) (built : Draft) : (keep name built).Preserves fun f => f.draft = d :=
  Act.Preserves.bind (Act.Preserves.modify fun _ hf => hf) fun _ => Act.Preserves.pure _

/-- An act on a fresh store leaves the draft. -/
theorem draft_onFresh (act : Act (Store Token) α) : (Credential.onFresh act).Preserves fun f : CredentialSession => f.draft = d :=
  Act.Preserves.of_state_eq fun _ => rfl

/-- The URL of any draft leaves the one of the session. -/
theorem draft_urlOf (other : Draft) (host : Option Json) : (urlOf other host).Preserves fun f => f.draft = d := by
  cases other with
  | code c => exact Act.Preserves.fail _
  | codeUrl u => exact draft_onFresh _
  | tokenFlowUrl u => exact draft_onFresh _
  | openIdUrl u => exact draft_onFresh _

/-- Building a request leaves the draft, whether it fails or not. -/
theorem draft_request (c : CodeCredential) (nonblocking : Bool) (cloud : Cloud) :
    (c.request nonblocking cloud).Preserves fun f : CredentialSession => f.draft = d := by
  have hbuild : (c.uri cloud >>= fun uri => c.form >>= fun params => Act.pure (⟨uri, params⟩ : FormRequest)).Preserves
      fun f : CredentialSession => f.draft = d :=
    (draft_onFresh _).bind fun _ => (draft_onFresh _).bind fun _ => Act.Preserves.pure _
  exact hbuild.attempt.bind fun _ => Act.Preserves.pure _

/-- Steps on what was built leave the draft. -/
theorem draft_perform (step : Step) (hset : ∀ setter v, step ≠ .set setter v) (hpkce : step ≠ .setPkce)
    (hscope : step ≠ .setDefaultScope) : (perform step).Preserves fun f => f.draft = d := by
  have hlift : ∀ {β : Type} (result : Except Fault β), (lift result).Preserves fun f : CredentialSession => f.draft = d :=
    fun result => Act.Preserves.ofExcept result
  cases step with
  | set setter v => exact absurd rfl (hset setter v)
  | setPkce => exact absurd rfl hpkce
  | setDefaultScope => exact absurd rfl hscope
  | build name => exact Act.Preserves.get.bind fun _ => draft_keep name _
  | new arguments name =>
    exact Act.Preserves.get.bind fun _ => (draft_onSupply _).bind fun _ => (hlift _).bind fun _ => draft_keep name _
  | create members name =>
    exact Act.Preserves.get.bind fun _ => (draft_onSupply _).bind fun _ => (hlift _).bind fun _ => draft_keep name _
  | fields name => exact Act.Preserves.get.bind fun _ => (hlift _).bind fun _ => Act.Preserves.pure _
  | grant name =>
    refine Act.Preserves.get.bind fun _ => (hlift _).bind fun built => ?_
    cases built with
    | tokenFlowUrl u => exact Act.Preserves.fail _
    | _ => exact Act.Preserves.pure _
  | url name host =>
    refine Act.Preserves.get.bind fun _ => ?_
    cases name with
    | none => exact (draft_urlOf _ host).bind fun _ => Act.Preserves.pure _
    | some name => exact (hlift _).bind fun _ => (draft_urlOf _ host).bind fun _ => Act.Preserves.pure _
  | uri name host =>
    exact Act.Preserves.get.bind fun _ => (hlift _).bind fun _ => (hlift _).bind fun _ => (draft_onFresh _).bind fun _ =>
      Act.Preserves.pure _
  | form name =>
    exact Act.Preserves.get.bind fun _ => (hlift _).bind fun _ => (draft_onFresh _).bind fun _ => Act.Preserves.pure _
  | request name nonblocking host keepAs =>
    exact Act.Preserves.get.bind fun _ => (hlift _).bind fun c => (hlift _).bind fun cloud =>
      (draft_request c nonblocking cloud).bind fun _ =>
        Act.Preserves.bind (Act.Preserves.modify fun _ hf => hf) fun _ => Act.Preserves.pure _
  | send name timeout delivery =>
    refine Act.Preserves.get.bind fun _ => (hlift _).bind fun _ => Act.Preserves.bind (Act.Preserves.of_state_eq fun f => ?_)
      fun _ => Act.Preserves.pure _
    unfold Session.send
    dsimp only
    split <;> rfl

end

/-- Every step does one of these things to the draft. -/
theorem change (step : Step) (f : CredentialSession) : Change step f := by
  cases step with
  | set setter v =>
    cases hset : f.draft.setValue setter v with
    | ok d =>
      have hrun : perform (.set setter v) f = ⟨.ok .itself, { f with draft := d }, []⟩ := by
        show ((lift (f.draft.setValue setter v) >>= fun d => _ : Act _ _) f) = _
        rw [hset]
        rfl
      exact .set setter v d rfl hset (by rw [hrun])
    | error fault =>
      have hrun : perform (.set setter v) f = ⟨.error fault, f, []⟩ := by
        show ((lift (f.draft.setValue setter v) >>= fun d => _ : Act _ _) f) = _
        rw [hset]
        rfl
      exact .none (by rw [hrun])
  | setPkce =>
    rcases f with ⟨draft, built, requests, supply⟩
    cases draft with
    | codeUrl u => exact .pkce u rfl rfl rfl
    | _ => exact .none rfl
  | setDefaultScope =>
    rcases f with ⟨draft, built, requests, supply⟩
    cases draft with
    | openIdUrl u => exact .scope u rfl rfl rfl
    | _ => exact .none rfl
  | _ =>
    refine .none (draft_perform _ ?_ ?_ ?_ f rfl)
    · exact fun _ _ => nofun
    · nofun
    · nofun

end CredentialSession

end OAuthClient
