import OAuthClient.Credential.Code
import OAuthClient.Proofs.Handle

/-!
# Sending and opening

A request that was built is sent or opened once, and what comes back is what the network or the browser says. A request that could
not be built gives the failure it keeps, and nothing goes out. There are two clients, one that waits for the network and one that
hands a form over and goes on later. Each has a text of its own, and they come to the same: the same form goes out, the same comes
back, and the log is told the same.
-/

namespace OAuthClient

/-! ## The two clients -/

/-- The failure of a form that the network failed to bring to its endpoint. -/
def transportFailure (uri : String) (fault : OutsideFault) : Failure :=
  .transport ("Request to " ++ uri ++ " failed: " ++ fault.message) none .null .null (some (.network fault))

/-- What comes back to the sender of a form when the network delivers. -/
def Delivery.outcome (uri : String) : Delivery → Except Fault Token.Response
  | .response r => .ok r
  | .fault name message =>
    if name ∈ transportFaults then .error (transportFailure uri ⟨name, message⟩) else .error (.network ⟨name, message⟩)
  | .noHost rest => .error (.noHost rest)

namespace Delivery

variable {uri : String} {delivery : Delivery}

/-- The outcome is a response when the network brings it. -/
theorem outcome_ok_iff {r : Token.Response} : delivery.outcome uri = .ok r ↔ delivery = .response r := by
  cases delivery with
  | response own => simp [outcome]
  | fault name message => rw [outcome]; split <;> simp
  | noHost rest => simp [outcome]

/-- The outcome is a failure of the library when the transport fails. -/
theorem outcome_failure_iff {f : Failure} : delivery.outcome uri = .error (.failure f) ↔
    ∃ name message, delivery = .fault name message ∧ name ∈ transportFaults ∧ f = transportFailure uri ⟨name, message⟩ := by
  cases delivery with
  | response own => simp [outcome]
  | noHost rest => simp [outcome]
  | fault name message =>
    by_cases hname : name ∈ transportFaults
    · rw [outcome, if_pos hname]
      constructor
      · rintro ⟨⟩
        exact ⟨name, message, rfl, hname, rfl⟩
      · rintro ⟨_, _, ⟨⟩, _, rfl⟩
        rfl
    · rw [outcome, if_neg hname]
      constructor
      · rintro ⟨⟩
      · rintro ⟨_, _, ⟨⟩, hmem, _⟩
        exact absurd hmem hname

/-- The outcome is any other fault when the network ends in it. -/
theorem outcome_other_iff {fault : Fault} (hfault : ∀ f, fault ≠ .failure f) : delivery.outcome uri = .error fault ↔
    (∃ name message, delivery = .fault name message ∧ name ∉ transportFaults ∧ fault = .network ⟨name, message⟩) ∨
      ∃ rest, delivery = .noHost rest ∧ fault = .noHost rest := by
  cases delivery with
  | response own => simp [outcome]
  | noHost rest => simp [outcome, eq_comm]
  | fault name message =>
    by_cases hname : name ∈ transportFaults
    · rw [outcome, if_pos hname]
      constructor
      · rintro ⟨⟩
        exact absurd rfl (hfault _)
      · rintro (⟨_, _, ⟨⟩, hmem, _⟩ | ⟨_, ⟨⟩, _⟩)
        exact absurd hname hmem
    · rw [outcome, if_neg hname]
      constructor
      · rintro ⟨⟩
        exact .inl ⟨name, message, rfl, hname, rfl⟩
      · rintro (⟨_, _, ⟨⟩, _, rfl⟩ | ⟨_, ⟨⟩, _⟩)
        rfl

end Delivery

/-- What the log is told when the network delivers. -/
def Delivery.told (uri : String) : Delivery → List Log.Record
  | .response r => [⟨.debug, Log.requestLogger, "Response status: " ++ toString r.status⟩]
  | .fault name message =>
    if name ∈ transportFaults then [⟨.error, Log.requestLogger, "Request to " ++ uri ++ " failed: " ++ message⟩] else []
  | .noHost _ => []

/-- A form as it goes out. -/
def FormRequest.posted (target : FormRequest) (timeout : Binary64) : Post :=
  ⟨target.uri, Form.encode .plus target.params, timeout⟩

/-- What the log is told of a form that goes out: the names of its fields. -/
def FormRequest.announced (target : FormRequest) : Log.Record :=
  ⟨.debug, Log.requestLogger,
    "POST " ++ target.uri ++ " (fields: " ++ ", ".intercalate (target.params.map (·.1)) ++ ")"⟩

namespace Request

variable (network : Post → Delivery) (timeout : Binary64) (target : FormRequest) (trace : List Post)

/-- A client that waits. -/
theorem post_apply : post network timeout target trace =
    ⟨(network (target.posted timeout)).outcome target.uri, trace ++ [target.posted timeout],
      target.announced :: (network (target.posted timeout)).told target.uri⟩ := by
  rw [post, Act.bind_of_ok (Act.tell_apply _ _ _ _), Act.bind_of_ok (Act.modify_apply _ _)]
  unfold FormRequest.posted
  cases network ⟨target.uri, Form.encode .plus target.params, timeout⟩ with
  | response r => rfl
  | fault name message =>
    by_cases hname : name ∈ transportFaults
    · simp only [List.contains_eq_mem, hname, decide_true, if_true, Delivery.outcome, Delivery.told]
      rfl
    · simp only [List.contains_eq_mem, hname, decide_false, Bool.false_eq_true, if_false, Delivery.outcome, Delivery.told]
      rfl
  | noHost rest => rfl

/-- The first half of a client that does not wait. -/
theorem handOver_apply : handOver timeout target trace =
    ⟨.ok (target.posted timeout), trace ++ [target.posted timeout], [target.announced]⟩ := rfl

/-- The second half of a client that does not wait. -/
theorem resume_apply (delivery : Delivery) :
    resume target delivery trace = ⟨delivery.outcome target.uri, trace, delivery.told target.uri⟩ := by
  cases delivery with
  | response r => rfl
  | fault name message =>
    by_cases hname : name ∈ transportFaults
    · simp only [resume, List.contains_eq_mem, hname, decide_true, if_true, Delivery.outcome, Delivery.told]
      rfl
    · simp only [resume, List.contains_eq_mem, hname, decide_false, Bool.false_eq_true, if_false, Delivery.outcome, Delivery.told]
      rfl
  | noHost rest => rfl

/-- A client that does not wait. -/
theorem postNonblocking_apply : postNonblocking network timeout target trace =
    ⟨(network (target.posted timeout)).outcome target.uri, trace ++ [target.posted timeout],
      target.announced :: (network (target.posted timeout)).told target.uri⟩ := by
  rw [postNonblocking, Act.bind_of_ok (handOver_apply timeout target trace), resume_apply]
  rfl

/-- The two clients come to the same, whatever they send and whatever the network does with it. -/
theorem postNonblocking_eq_post : postNonblocking network timeout target = post network timeout target := by
  funext trace
  rw [post_apply, postNonblocking_apply]

/-- Either client sends a form that was built. -/
theorem send_apply (nonblocking : Bool) : send network timeout (.form nonblocking (.ok target)) trace =
    ⟨(network (target.posted timeout)).outcome target.uri, trace ++ [target.posted timeout],
      target.announced :: (network (target.posted timeout)).told target.uri⟩ := by
  cases nonblocking with
  | false => exact post_apply network timeout target trace
  | true => exact postNonblocking_apply network timeout target trace

/-- The same request for a client that waits, or for one that does not. A page for the browser is for either. -/
def withClient (nonblocking : Bool) : Request → Request
  | .browser target => .browser target
  | .form _ target => .form nonblocking target

/-- It does not matter which client sends a request. -/
theorem send_withClient (nonblocking : Bool) (r : Request) :
    (r.withClient nonblocking).send network timeout = r.send network timeout := by
  funext trace
  cases r with
  | browser target => rfl
  | form own target =>
    cases target with
    | error f => rfl
    | ok target =>
      show send network timeout (.form nonblocking (.ok target)) trace = _
      rw [send_apply, send_apply]

/-! ## What goes out and what comes back -/

/-- What sending a form comes to when it goes out: once, as `out`, and whoever sent it gets what the network says. -/
structure SentOnce (network : Post → Delivery) (out : Post) (trace : List Post) (run : Run (List Post) Token.Response) :
    Prop where
  /-- One form goes out. -/
  state : run.state = trace ++ [out]
  /-- A response is given as it is. -/
  response : ∀ r, run.result = .ok r ↔ network out = .response r
  /-- An error of the transport is the cause of a failure. -/
  wrapped : ∀ f, run.result = .error (.failure f) ↔
    ∃ name message, network out = .fault name message ∧ name ∈ transportFaults ∧
      f = .transport ("Request to " ++ out.uri ++ " failed: " ++ message) none .null .null (some (.network ⟨name, message⟩))
  /-- Any other error passes as it is. -/
  passed : ∀ fault, (∀ f, fault ≠ .failure f) → (run.result = .error fault ↔
    (∃ name message, network out = .fault name message ∧ name ∉ transportFaults ∧ fault = .network ⟨name, message⟩) ∨
      ∃ rest, network out = .noHost rest ∧ fault = .noHost rest)

/-- What opening a page comes to when the browser is asked: once, for this page, and only its refusal is a failure. -/
structure OpenedOnce (browser : String → Bool) (uri : String) (opened : List String) (run : Run (List String) Unit) : Prop where
  /-- One page is opened. -/
  state : run.state = opened ++ [uri]
  /-- Nothing is wrong when the browser says so. -/
  done : run.result = .ok () ↔ browser uri = true
  /-- The only failure is the one for a browser that could not be started. -/
  refused : ∀ fault, run.result = .error fault ↔ browser uri = false ∧ fault = .failure (.browser uri)

variable {network timeout target trace}

/-- What comes back is what the network says. -/
theorem sentOnce_send (nonblocking : Bool) :
    SentOnce network (target.posted timeout) trace (send network timeout (.form nonblocking (.ok target)) trace) := by
  rw [send_apply]
  exact ⟨rfl, fun r => Delivery.outcome_ok_iff, fun f => Delivery.outcome_failure_iff, fun fault => Delivery.outcome_other_iff⟩

/-- A page that was built is opened once. -/
theorem openedOnce_openIn (browser : String → Bool) (uri : String) (opened : List String) :
    OpenedOnce browser uri opened (openIn browser (.browser (.ok uri)) opened) := by
  rw [openIn, Act.bind_of_ok (Act.tell_apply _ _ _ _), Act.bind_of_ok (Act.modify_apply _ _)]
  cases hbrowser : browser uri with
  | true =>
    refine ⟨rfl, ⟨fun _ => hbrowser, fun _ => rfl⟩, fun fault => ⟨nofun, ?_⟩⟩
    rintro ⟨hrefused, _⟩
    exact Bool.noConfusion (hbrowser.symm.trans hrefused)
  | false =>
    refine ⟨rfl, ⟨nofun, fun h => Bool.noConfusion (hbrowser.symm.trans h)⟩, fun fault => ⟨?_, ?_⟩⟩
    · intro h
      exact ⟨hbrowser, (Except.error.inj h).symm⟩
    · rintro ⟨_, rfl⟩
      rfl

/-- What a caller gets from a request, whoever built it. -/
structure Exact (r : Request) : Prop where
  /-- A form that could not be built gives the failure that it keeps, and nothing is sent. -/
  unsent : ∀ settings network given trace f, r.params?.isSome = true → r.failure? = some f →
    r.sendUnder settings network given trace = ⟨.error (.failure f), trace, []⟩
  /-- A page that could not be built gives the failure that it keeps, and nothing is opened. -/
  unopened : ∀ browser opened f, r.params? = none → r.failure? = some f →
    r.openIn browser opened = ⟨.error (.failure f), opened, []⟩
  /-- Any other form goes to its URL, with its fields as the body and with the seconds to wait that the caller or the settings say. -/
  sent : ∀ (settings : Settings) network given trace params, r.params? = some params → r.failure? = none →
    SentOnce network ⟨r.uri, Form.encode .plus params, given.getD settings.timeout⟩ trace
      (r.sendUnder settings network given trace)
  /-- Any other page is opened at its URL. -/
  opened : ∀ browser opened, r.params? = none → r.failure? = none →
    OpenedOnce browser r.uri opened (r.openIn browser opened)
  /-- The client that waits and the one that does not send the same, get the same and tell the log the same. -/
  client : ∀ nonblocking settings network given,
    (r.withClient nonblocking).sendUnder settings network given = r.sendUnder settings network given

/-- Every request is exact. -/
theorem exact_of_request (r : Request) : r.Exact where
  unsent := by
    intro settings network given trace f hform hf
    cases r with
    | browser target => cases hform
    | form nonblocking target =>
      cases target with
      | ok target => cases hf
      | error own =>
        obtain rfl : own = f := Option.some.inj hf
        rfl
  unopened := by
    intro browser opened f hpage hf
    cases r with
    | form nonblocking target => cases target <;> cases hpage
    | browser target =>
      cases target with
      | ok uri => cases hf
      | error own =>
        obtain rfl : own = f := Option.some.inj hf
        rfl
  sent := by
    intro settings network given trace params hparams hbuilt
    cases r with
    | browser target => cases hparams
    | form nonblocking target =>
      cases target with
      | error f => cases hbuilt
      | ok target =>
        obtain rfl : target.params = params := Option.some.inj hparams
        exact sentOnce_send nonblocking
  opened := by
    intro browser opened hpage hbuilt
    cases r with
    | form nonblocking target => cases target <;> cases hpage
    | browser target =>
      cases target with
      | error f => cases hbuilt
      | ok uri => exact openedOnce_openIn browser uri opened
  client := by
    intro nonblocking settings network given
    exact send_withClient network _ nonblocking r

end Request

/-! ## Where requests come from -/

/-- The same run with its value changed. -/
def Run.map {σ α β : Type} (f : α → β) (run : Run σ α) : Run σ β :=
  ⟨run.result.map f, run.state, run.records⟩

/-- Nothing is changed in a run whose value is left alone. -/
theorem Run.map_id {σ α : Type} (run : Run σ α) : run.map id = run := by
  rcases run with ⟨result, s, records⟩
  cases result <;> rfl

/-- What comes behind a changed value is a changed value, if it is so behind every value. -/
theorem Act.bind_map {σ α β : Type} {act act' : Act σ α} {next next' : α → Act σ β} {f : α → α} {g : β → β} {s : σ}
    (hact : act' s = (act s).map f) (hnext : ∀ a t, next' (f a) t = (next a t).map g) :
    (act' >>= next') s = ((act >>= next) s).map g := by
  rcases hrun : act s with ⟨result, s', records⟩
  rw [hrun] at hact
  cases result with
  | error fault =>
    rw [Act.bind_of_error hrun, Act.bind_of_error hact]
    rfl
  | ok a =>
    rw [Act.bind_of_ok hrun, Act.bind_of_ok hact, hnext]
    rfl

namespace Handle

variable {σ : Type}

/-- The same handle for a client that waits, or for one that does not. -/
def withClient (nonblocking : Bool) (h : Handle) : Handle := { h with nonblocking }

/-- The same answer for a client that waits, or for one that does not. -/
def Answer.withClient (nonblocking : Bool) : Answer → Answer
  | .url s => .url s
  | .request r => .request (r.withClient nonblocking)

/-- A store offers the same handles to either client. -/
theorem select?_withClient (choice : String) (nonblocking own : Bool) (s : Store Token) :
    select? choice nonblocking s = (select? choice own s).map (withClient nonblocking) := by
  rw [select?, select?, Option.map_map]
  rfl

/-- A handle builds the same page for either client. -/
theorem browserRequest_withClient (nonblocking : Bool) (h : Handle) (t : σ) :
    (h.withClient nonblocking).browserRequest t = (h.browserRequest t).map (Request.withClient nonblocking) := by
  refine Act.bind_map (Run.map_id _).symm fun target t => ?_
  cases target <;> rfl

/-- A handle builds the same form for either client. -/
theorem formRequest_withClient (nonblocking : Bool) (h : Handle) (ph : Phase) (t : σ) :
    (h.withClient nonblocking).formRequest ph t = (h.formRequest ph t).map (Request.withClient nonblocking) := by
  refine Act.bind_map (Run.map_id _).symm fun target t => ?_
  cases target <;> rfl

/-- A handle answers every call with the same for either client. -/
theorem call_withClient (nonblocking : Bool) (h : Handle) (c : Call) (t : σ) :
    (h.withClient nonblocking).call c t = (h.call c t).map (Answer.withClient nonblocking) := by
  have hoffers : (h.withClient nonblocking).offers c = h.offers c := by cases c <;> rfl
  unfold call
  rw [hoffers]
  split
  · cases c with
    | url => exact Act.bind_map (Run.map_id _).symm fun _ _ => rfl
    | authorizationUrl => exact Act.bind_map (Run.map_id _).symm fun _ _ => rfl
    | browserAuthorization => exact Act.bind_map (browserRequest_withClient nonblocking h t) fun _ _ => rfl
    | accessToken => exact Act.bind_map (formRequest_withClient nonblocking h _ t) fun _ _ => rfl
    | refreshToken => exact Act.bind_map (formRequest_withClient nonblocking h _ t) fun _ _ => rfl
    | authorization => exact Act.bind_map (formRequest_withClient nonblocking h _ t) fun _ _ => rfl
  · rfl

end Handle

/-- A credential builds the same request for either client. -/
theorem CodeCredential.request_withClient {σ : Type} (c : CodeCredential) (nonblocking own : Bool) (cloud : Cloud) (t : σ) :
    c.request nonblocking cloud t = (c.request own cloud t).map (Request.withClient nonblocking) :=
  Act.bind_map (Run.map_id _).symm fun _ _ => rfl

/-- Every request is sent or opened exactly, or not at all, and handles and credentials build the same requests for a client that
waits and for one that does not. -/
theorem sending_exact :
    (∀ r : Request, r.Exact) ∧
    (∀ choice s, Handle.select? choice true s = (Handle.select? choice false s).map (Handle.withClient true)) ∧
    (∀ (σ : Type) (h : Handle) nonblocking c (t : σ),
      (h.withClient nonblocking).call c t = (h.call c t).map (Handle.Answer.withClient nonblocking)) ∧
    ∀ (σ : Type) (c : CodeCredential) cloud (t : σ),
      c.request true cloud t = (c.request false cloud t).map (Request.withClient true) :=
  ⟨Request.exact_of_request, fun choice s => Handle.select?_withClient choice true false s,
    fun _ h nonblocking c t => Handle.call_withClient nonblocking h c t,
    fun _ c cloud t => c.request_withClient true false cloud t⟩

/-- Settings that say nothing but how long to wait. -/
def patient (timeout : Binary64) : Settings where
  clientId := none
  clientSecret := none
  redirectUri := none
  tenant := commonAuthority
  cloud := .global
  timeout := timeout
  logLevel := "INFO"

/-- A form for an endpoint that refuses the connection goes out once, with the seconds of the settings, and the refusal is the cause of
the failure. -/
theorem sending_exact_refused :
    let run := (Request.form true (.ok ⟨"https://login.test/token", [("scope", "a b")]⟩)).sendUnder (patient (.ofInt 30))
      (fun _ => .fault "ConnectError" "refused") none []
    run.state = [⟨"https://login.test/token", "scope=a+b", .ofInt 30⟩] ∧
      run.result = .error (.failure (.transport "Request to https://login.test/token failed: refused" none .null .null
        (some (.network ⟨"ConnectError", "refused"⟩)))) := by
  have hsent := (sending_exact.1 (.form true (.ok ⟨"https://login.test/token", [("scope", "a b")]⟩))).sent
    (patient (.ofInt 30)) (fun _ => .fault "ConnectError" "refused") none [] _ rfl rfl
  have hbody : Form.encode .plus [("scope", "a b")] = "scope=a+b" := by decide
  refine ⟨?_, (hsent.wrapped _).mpr ⟨"ConnectError", "refused", rfl, by decide, by decide⟩⟩
  rw [hsent.state, hbody]
  rfl

end OAuthClient
