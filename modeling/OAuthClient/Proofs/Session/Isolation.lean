import OAuthClient.Proofs.Session.Run

/-!
# Handles stand on their own

A handle keeps the store that it was made from as it was. Whatever happens to the session afterwards, to its stores, to its tokens
or to other handles, and however often the handle itself is called, a call gives what it would have given at once, until something
is set in the store of the handle.
-/

namespace OAuthClient.StoreSession

open OAuthClient.Session

/-! ## What a handle keeps -/

/-- The handle that an event makes or writes to, by its name. -/
def Event.writtenHandle? : Event → Option String
  | .step s => s.writtenHandle?
  | .clock _ => none

/-- Every property that says nothing is kept. -/
theorem invariant_trivial {τ : Type} : Store.Invariant (fun _ => True) (fun _ => True) fun _ : Store τ => True :=
  ⟨fun _ _ _ _ => trivial, fun _ _ => trivial, fun _ _ => trivial, fun _ _ _ => trivial⟩

/-- What is kept under one name does not depend on what is put under another. -/
theorem lookup_cons_of_ne {α : Type} {name other : String} (hne : other ≠ name) (a : α) (names : List (String × α)) :
    ((other, a) :: names).lookup name = names.lookup name := by
  rw [List.lookup_cons, beq_eq_false_iff_ne.mpr (Ne.symm hne)]

/-- A step that makes or writes to another handle, or to none, keeps the handle of a name. -/
theorem keptBySteps_handle (name : String) (h : Handle) :
    KeptBySteps (fun _ => True) (fun _ => True) (fun f => f.handles.lookup name = some h) fun other => other ≠ name where
  store _ _ := trivial
  putStore _ _ hf _ := hf
  resolve _ _ _ := trivial
  unresolve _ _ _ _ := trivial
  supply _ _ hf := hf
  tokens _ _ _ hf := hf
  handle f other h' hne _ hf := by
    rw [lookup_cons_of_ne hne]
    exact hf
  handleInsert f other h' p v hne _ hf := by
    rw [lookup_cons_of_ne hne]
    exact hf
  requests _ _ hf := hf

/-- Events that make or write to other handles, or to none, keep the handle of a name. -/
theorem lookup_play {f : StoreSession} {name : String} {h : Handle} {events : List Event}
    (he : ∀ e ∈ events, e.writtenHandle? ≠ some name) (hf : f.handles.lookup name = some h) :
    (f.play events).handles.lookup name = some h := by
  refine play_keeps (I := fun f => f.handles.lookup name = some h) ?_ hf
  intro e hmem f hf
  cases e with
  | clock now => exact hf
  | step step =>
    refine (keptBySteps_handle name h).perform invariant_trivial invariant_trivial step ?_ (fun _ _ => trivial) (fun _ _ => trivial)
      ?_ (fun _ _ _ _ _ hf => hf) f hf
    · rintro other hother rfl
      exact he (.step step) hmem hother
    · intro saved _ f hf
      obtain ⟨tokens, token, hsave⟩ := f.saveAs_eq saved
      rw [hsave]
      exact hf

/-! ## Calls -/

/-- The answer of a session to what a call on a handle gave. -/
def Answer.ofCall : Handle.Answer → Answer
  | .url s => .text s
  | .request r => .request r

/-- What a session keeps of what a call on a handle gave: a request that is to be kept under a name. -/
def keptRequests : Option String → Handle.Answer → List (String × Request)
  | some name, .request r => [(name, r)]
  | _, _ => []

/-- What a call on a handle answers: what is built from the store of the handle. -/
def callOutcome (h : Handle) (call : String) : Except Fault Answer :=
  match Handle.Call.ofName? call with
  | none => .error .unknownOperation
  | some c =>
    if h.offers c then (Handle.outcome h.grant h.nonblocking h.store c).map Answer.ofCall else .error .unknownOperation

/-- An act that begins with looking up a handle that is there goes on with the handle. -/
theorem named_bind {α : Type} {f : StoreSession} {name : String} {h : Handle} (hf : f.handles.lookup name = some h)
    (next : StoreSession → Handle → Act StoreSession α) :
    (Act.get >>= fun f => lift (named name f.handles) >>= next f) f = next f h f := by
  have hnamed : (lift (named name f.handles) : Act StoreSession Handle) f = ⟨.ok h, f, []⟩ := by
    rw [named, hf]
    rfl
  rw [Act.bind_of_ok (Act.get_apply f), Act.bind_of_ok hnamed]
  rfl

/-- A call on a handle answers with what is built from its store, tells the log the same in every session, and changes nothing but
the requests of the session. -/
theorem perform_handleCall (name call : String) (keepAs : Option String) (h : Handle) :
    ∃ records, ∀ f : StoreSession, f.handles.lookup name = some h → ∃ requests,
      perform (.handleCall name call keepAs) f = ⟨callOutcome h call, { f with requests := requests }, records⟩ := by
  unfold callOutcome perform
  dsimp only
  cases hc : Handle.Call.ofName? call with
  | none =>
    refine ⟨[], fun f hf => ⟨f.requests, ?_⟩⟩
    rw [named_bind hf]
    rfl
  | some c =>
    dsimp only
    cases hoffers : h.offers c with
    | false =>
      refine ⟨[], fun f hf => ⟨f.requests, ?_⟩⟩
      rw [named_bind hf, Act.bind_of_error (h.call_of_not_offers hoffers f)]
      rfl
    | true =>
      obtain ⟨records, hcall⟩ := h.call_apply (σ := StoreSession) hoffers
      rw [if_pos rfl]
      cases houtcome : Handle.outcome h.grant h.nonblocking h.store c with
      | error fault =>
        refine ⟨records, fun f hf => ⟨f.requests, ?_⟩⟩
        rw [named_bind hf, Act.bind_of_error (by rw [hcall, houtcome])]
        rfl
      | ok answer =>
        rw [houtcome] at hcall
        refine ⟨records ++ [], fun f hf => ⟨keptRequests keepAs answer ++ f.requests, ?_⟩⟩
        rw [named_bind hf, Act.bind_of_ok (hcall f)]
        cases answer <;> cases keepAs <;> rfl

/-- A call on a handle changes nothing about a session but its requests: no store, no token, no handle. -/
theorem handleCall_state (f : StoreSession) (name call : String) (keepAs : Option String) :
    ∃ requests, (perform (.handleCall name call keepAs) f).state = { f with requests := requests } := by
  cases hf : f.handles.lookup name with
  | none =>
    have hnamed : (lift (named name f.handles) : Act StoreSession Handle) f = ⟨.error (.unknownName name), f, []⟩ := by
      rw [named, hf]
      rfl
    refine ⟨f.requests, ?_⟩
    unfold perform
    dsimp only
    rw [Act.bind_of_ok (Act.get_apply f), Act.bind_of_error hnamed]
  | some h =>
    obtain ⟨records, hcall⟩ := perform_handleCall name call keepAs h
    obtain ⟨requests, hrun⟩ := hcall f hf
    exact ⟨requests, by rw [hrun]⟩

/-- Making a handle puts it under its name and changes nothing else. -/
theorem perform_handle {f : StoreSession} {choice : String} {nonblocking : Bool} {h : Handle}
    (hselect : Handle.select? choice nonblocking f.resolved = some h) (name : String) :
    perform (.handle name choice nonblocking) f = ⟨.ok (.handle h), { f with handles := (name, h) :: f.handles }, []⟩ := by
  unfold perform
  dsimp only
  rw [Act.bind_of_ok (Act.get_apply f), hselect]
  rfl

/-! ## Isolation -/

/-- Once a handle is made from the current store of a session, then after any events that do not make or write to a handle of its
name, whatever they do to the session otherwise, a call on it answers and tells the log what it would have at once. The answer to a
call that the handle offers is what is built from the store as it stood when the handle was made. No call on any handle changes
anything about any session but its requests. -/
theorem handle_isolated {f : StoreSession} {choice : String} {nonblocking : Bool} {h : Handle}
    (hselect : Handle.select? choice nonblocking f.resolved = some h) (name : String) {events : List Event}
    (hevents : ∀ e ∈ events, e.writtenHandle? ≠ some name) (call : String) (keepAs : Option String) :
    ∃ built, perform (.handle name choice nonblocking) f = ⟨.ok (.handle h), built, []⟩ ∧
      (perform (.handleCall name call keepAs) (built.play events)).result =
        (perform (.handleCall name call keepAs) built).result ∧
      (perform (.handleCall name call keepAs) (built.play events)).records =
        (perform (.handleCall name call keepAs) built).records ∧
      (∀ c, Handle.Call.ofName? call = some c → h.offers c = true →
        (perform (.handleCall name call keepAs) (built.play events)).result =
          (Handle.outcome h.grant h.nonblocking f.resolved c).map Answer.ofCall) ∧
      ∀ (other : StoreSession) (name call : String) (keepAs : Option String), ∃ requests,
        (perform (.handleCall name call keepAs) other).state = { other with requests := requests } := by
  refine ⟨_, perform_handle hselect name, ?_⟩
  have hbuilt : ((name, h) :: f.handles).lookup name = some h := List.lookup_cons_self
  have hlater : ({ f with handles := (name, h) :: f.handles }.play events).handles.lookup name = some h :=
    lookup_play hevents hbuilt
  obtain ⟨records, hcall⟩ := perform_handleCall name call keepAs h
  obtain ⟨_, hfirst⟩ := hcall { f with handles := (name, h) :: f.handles } hbuilt
  obtain ⟨_, hagain⟩ := hcall _ hlater
  rw [hfirst, hagain]
  refine ⟨rfl, rfl, ?_, fun other => handleCall_state other⟩
  intro c hc hoffers
  rw [callOutcome, hc, store_of_select? hselect]
  dsimp only
  rw [if_pos hoffers]

set_option maxRecDepth 10000 in
/-- A handle of a client gives the page of the client after the name of the client has changed and the handle was called. -/
theorem handle_isolated_ofClient :
    ∃ built, perform (.handle "page" "token_flow" true) (ofClient "app" "https://login.test/authorize") =
        ⟨.ok (.handle ⟨.browserOnly, true, .tokenFlow, (ofClient "app" "https://login.test/authorize").resolved⟩), built, []⟩ ∧
      (perform (.handleCall "page" "browser_authorization" none) (built.play
        [.step (.set "client_id" (.str "other")), .step (.handleCall "page" "url" none), .clock 5, .step .clearScopes])).result =
        .ok (.request (.browser (.ok
          "https://login.test/authorize?client_id=app&redirect_uri=app%3Aback&scope=mail&response_type=token"))) := by
  have hselect : Handle.select? "token_flow" true (ofClient "app" "https://login.test/authorize").resolved = some _ := rfl
  have hevents : ∀ e ∈ ([.step (.set "client_id" (.str "other")), .step (.handleCall "page" "url" none), .clock 5,
      .step .clearScopes] : List Event), e.writtenHandle? ≠ some "page" := by decide
  obtain ⟨built, hbuilt, _, _, hresult, _⟩ := handle_isolated hselect "page" hevents "browser_authorization" none
  exact ⟨built, hbuilt, (hresult .browserAuthorization rfl rfl).trans (by rfl)⟩

end OAuthClient.StoreSession
