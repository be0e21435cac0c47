import OAuthClient.Proofs.Handle
import OAuthClient.Proofs.Store.WellFormed
import OAuthClient.Session.Store

/-!
# Runs of a session

A session starts with an empty store or with a store from settings; then steps happen and the clock moves, in any order, and a step
that fails leaves what it did before. What a step can do to a session is said once, for every property of sessions: it writes to
the current store, it draws random octets, it changes tokens, or it is one of the few steps that keep stores, handles or requests.
Which parameters it may write and fill in is said once, too, so a property of some parameters is kept by every step that writes
others.
-/

namespace OAuthClient.StoreSession

open OAuthClient.Session

/-! ## Reachable sessions -/

/-- What happens to a session. -/
inductive Event where
  /-- A step is done, whatever comes of it. -/
  | step (s : Step)
  /-- The clock shows another time. -/
  | clock (now : Instant)

/-- The session after an event. -/
def Event.apply (f : StoreSession) : Event → StoreSession
  | .step s => (perform s f).state
  | .clock now => { f with supply := { f.supply with now := now } }

/-- The session after some events. -/
def play (f : StoreSession) (events : List Event) : StoreSession :=
  events.foldl Event.apply f

/-- How a session begins. -/
inductive Start : StoreSession → Prop where
  /-- With an empty store. -/
  | empty (supply : Supply) : Start { supply }
  /-- With a store that takes over settings. -/
  | settings {supply : Supply} {s : Settings} {f : StoreSession} {records : List Log.Record}
      (h : onStore s.apply { supply } = ⟨.ok (), f, records⟩) : Start f

/-- A session that some events lead to. -/
def Reachable (f : StoreSession) : Prop :=
  ∃ start events, Start start ∧ play start events = f

/-- The session after one more event at the front. -/
@[simp] theorem play_cons (f : StoreSession) (e : Event) (events : List Event) :
    f.play (e :: events) = (e.apply f).play events := rfl

/-- The session after two rows of events. -/
theorem play_append (f : StoreSession) (first rest : List Event) :
    f.play (first ++ rest) = (f.play first).play rest :=
  List.foldl_append

/-- Events lead from a reachable session to a reachable session. -/
theorem Reachable.play {f : StoreSession} (h : f.Reachable) (events : List Event) : (f.play events).Reachable := by
  obtain ⟨start, before, hstart, rfl⟩ := h
  exact ⟨start, before ++ events, hstart, play_append start before events⟩

/-- What some events keep, one by one, they keep together. -/
theorem play_keeps {I : StoreSession → Prop} {events : List Event} (he : ∀ e ∈ events, ∀ f, I f → I (e.apply f))
    {f : StoreSession} (h : I f) : I (f.play events) := by
  induction events generalizing f with
  | nil => exact h
  | cons e events ih =>
    rw [play_cons]
    exact ih (fun e' he' => he e' (List.mem_cons_of_mem _ he')) (he e (by simp) f h)

/-- What holds at every start and is kept by every event holds of every reachable session. -/
theorem Reachable.of_invariant {I : StoreSession → Prop} (hstart : ∀ f, Start f → I f) (he : ∀ (e : Event) f, I f → I (e.apply f))
    {f : StoreSession} (h : f.Reachable) : I f := by
  obtain ⟨start, events, hs, rfl⟩ := h
  exact play_keeps (fun e _ => he e) (hstart start hs)

/-- The session of a client that is ready to sign in at an endpoint, as far as the endpoint is taken. -/
def ofClient (clientId endpoint : String) : StoreSession :=
  play { supply := { now := 0, random := fun _ => [] } }
    [.step (.set "client_id" (.str clientId)), .step (.set "redirect_uri" (.str "app:back")),
      .step (.set "authorization_url" (.str endpoint)), .step (.addScope "mail")]

/-- The session of a client is reachable. -/
theorem reachable_ofClient (clientId endpoint : String) : (ofClient clientId endpoint).Reachable :=
  ⟨_, _, .empty _, rfl⟩

/-! ## Writes to a session -/

/-- The parameter of a setter. -/
def Setting.parameter : Setting → Parameter
  | .plain p => p
  | .flag p => p
  | .joined p => p

/-- A setter stores a text for its parameter. -/
theorem Setting.parameter_of_apply {setting : Setting} {v : Json} {d : Parameter × String} (h : setting.apply v = .ok d) :
    d.1 = setting.parameter := by
  cases setting with
  | plain p =>
    cases h
    rfl
  | flag p => cases v <;> cases h <;> rfl
  | joined p =>
    cases hitems : Token.itemsOf v with
    | error fault =>
      rw [Setting.apply, hitems] at h
      cases h
    | ok items =>
      rw [Setting.apply, hitems] at h
      cases h
      rfl

/-- The parameter that a value names, if it names one. -/
def namedParameter (v : Json) : List Parameter :=
  (parameter v).toOption.toList

/-- A value that names a parameter names it. -/
theorem mem_namedParameter {v : Json} {p : Parameter} (h : parameter v = .ok p) : p ∈ namedParameter v := by
  rw [namedParameter, h]
  exact List.mem_singleton.mpr rfl

/-- The parameters of the current store whose values a step may replace or take away. Filling in a value where there is none is no
such write, and what is set in the store of a handle is not set in the current store. -/
def Step.written : Step → List Parameter
  | .set setter _ => ((setting? setter).map Setting.parameter).toList
  | .insert p _ => namedParameter p
  | .remove p => namedParameter p
  | .extend pairs => pairs.flatMap fun d => namedParameter d.1
  | .legacyAuthority => Store.endpointParameters
  | .tenant _ => Store.endpointParameters
  | .authority _ _ => Store.endpointParameters
  | .adminConsent _ _ => Store.endpointParameters
  | .generatePkce => Store.pkceParameters
  | .idToken .. => Store.signInParameters
  | .acceptToken _ => [.refreshToken]
  | _ => []

/-- The parameters of the current store that a step may fill in where they have no value. -/
def Step.filled : Step → List Parameter
  | .entryWith p _ => namedParameter p
  | .idToken .. => [.state]
  | .prepare _ _ => Store.fixedParameters
  | .authorizationUrl _ => Store.fixedParameters
  | .formRequest _ _ => Store.fixedParameters
  | .encodeUri _ _ => Store.fixedParameters
  | _ => []

/-- A property of sessions that is kept when the current store is written to in ways that keep a property of stores, when the supply
changes and when tokens do. A store that is seen with the value of its token has a property of its own, which the values and the
scopes bring back. -/
structure KeptByWrites (J : Store Nat → Prop) (K : Store Token → Prop) (I : StoreSession → Prop) : Prop where
  store : ∀ f, I f → J f.store
  putStore : ∀ f s, I f → J s → I (f.putStore s)
  resolve : ∀ (f : StoreSession) s, J s → K (f.resolve s)
  unresolve : ∀ (t : Store Nat) s, J t → K s → J { t with values := s.values, scopes := s.scopes }
  supply : ∀ f supply, I f → I { f with supply := supply }
  tokens : ∀ f tokens names, I f → I { f with tokens := tokens, tokenNames := names }

/-- The answer of an act changes nothing about what it keeps. -/
theorem thenItself_preserves {I : StoreSession → Prop} {act : Act StoreSession Unit} (h : act.Preserves I) :
    (thenItself act).Preserves I :=
  h.bind fun _ => Act.Preserves.pure _

namespace KeptByWrites

variable {written filled : Parameter → Prop} {J : Store Nat → Prop} {K : Store Token → Prop} {I : StoreSession → Prop}
  (hI : KeptByWrites J K I)

include hI

/-- An act on the current store that keeps the property of stores. -/
theorem onStore {α : Type} {act : Act (Store Nat) α} (h : act.Preserves J) :
    (StoreSession.onStore act).Preserves I :=
  Act.Preserves.within fun f hf => hI.putStore f _ hf (h f.store (hI.store f hf))

/-- An act on the current store with the value of its token that keeps the property of such stores. -/
theorem onResolved {α : Type} {act : Act (Store Token) α} (h : act.Preserves K) : (StoreSession.onResolved act).Preserves I := by
  refine Act.Preserves.within fun f hf => hI.putStore f _ hf ?_
  have hstore : J f.store := hI.store f hf
  exact hI.unresolve _ _ hstore (h f.resolved (hI.resolve f _ hstore))

/-- Drawing random octets. -/
theorem draw : StoreSession.draw.Preserves I :=
  Act.Preserves.within fun f hf => hI.supply f _ hf

/-- Changing a token by name. -/
theorem onToken {α : Type} (name : String) (act : Instant → Act Token α) : (StoreSession.onToken name act).Preserves I := by
  intro f hf
  unfold StoreSession.onToken
  split
  · exact hf
  · split
    · exact hf
    · exact hI.tokens f _ f.tokenNames hf

/-- Steps that work on the current store only. -/
theorem storeStep (hJ : Store.Invariant written filled J) (step : Step) (h : ∀ p ∈ step.written, written p)
    (hfill : ∀ p ∈ step.filled, filled p) : (StoreSession.storeStep step).Preserves I := by
  have hwrite : ∀ {act : Act (Store Nat) Unit}, act.Preserves J → (thenItself (StoreSession.onStore act)).Preserves I :=
    fun h => thenItself_preserves (hI.onStore h)
  cases step with
  | set setter value =>
    refine thenItself_preserves ?_
    split
    · exact Act.Preserves.fail _
    · next setting hsetting =>
      refine Act.Preserves.behind fun d hd => hI.onStore (hJ.insert (h d.1 ?_) d.2)
      rw [Setting.parameter_of_apply hd, Step.written, hsetting]
      exact List.mem_singleton.mpr rfl
  | insert p v =>
    exact thenItself_preserves (Act.Preserves.behind fun q hq => hI.onStore (hJ.insert (h q (mem_namedParameter hq)) _))
  | entryWith p v =>
    exact Act.Preserves.behind fun q hq => (hI.onStore (hJ.entryWith (hfill q (mem_namedParameter hq)) _)).bind fun _ =>
      Act.Preserves.pure _
  | get p => exact (Act.Preserves.ofExcept _).bind fun _ => Act.Preserves.get.bind fun _ => Act.Preserves.pure _
  | getOrElse p =>
    exact (Act.Preserves.ofExcept _).bind fun _ => Act.Preserves.get.bind fun _ =>
      (Act.Preserves.ofExcept _).bind fun _ => Act.Preserves.pure _
  | contains p => exact (Act.Preserves.ofExcept _).bind fun _ => Act.Preserves.get.bind fun _ => Act.Preserves.pure _
  | remove p =>
    exact thenItself_preserves (Act.Preserves.behind fun q hq => hI.onStore (hJ.remove (h q (mem_namedParameter hq))))
  | containsKey wireName => exact Act.Preserves.get.bind fun _ => Act.Preserves.pure _
  | extend pairs =>
    refine thenItself_preserves (Act.Preserves.each ?_)
    intro d hd
    refine Act.Preserves.behind fun q hq => hI.onStore (hJ.insert (h q ?_) _)
    exact List.mem_flatMap.mpr ⟨d, hd, mem_namedParameter hq⟩
  | addScope s => exact hwrite (hJ.changeScopes _)
  | removeScope s => exact hwrite (hJ.changeScopes _)
  | containsScope s => exact Act.Preserves.get.bind fun _ => Act.Preserves.pure _
  | extendScopes v =>
    exact thenItself_preserves ((Act.Preserves.ofExcept _).bind fun _ => hI.onStore (hJ.changeScopes _))
  | scopes => exact Act.Preserves.get.bind fun _ => Act.Preserves.pure _
  | joinScopes sep => exact Act.Preserves.get.bind fun _ => Act.Preserves.pure _
  | clearScopes => exact hwrite (hJ.changeScopes _)
  | legacyAuthority => exact hwrite (hJ.setEndpoints h _)
  | generatePkce => exact thenItself_preserves (hI.draw.bind fun _ => hI.onStore (hJ.setPkce h _))
  | describe => exact Act.Preserves.get.bind fun _ => Act.Preserves.pure _
  | tenant v => exact hwrite (hJ.setEndpoints h _)
  | authority host v => exact thenItself_preserves ((Act.Preserves.ofExcept _).bind fun _ => hI.onStore (hJ.setEndpoints h _))
  | adminConsent host v =>
    exact thenItself_preserves ((Act.Preserves.ofExcept _).bind fun _ => hI.onStore (hJ.setEndpoints h _))
  | idToken source room =>
    exact thenItself_preserves ((Act.Preserves.ofExcept _).bind fun t =>
      hI.onStore (hJ.acceptIdToken h (hfill .state (List.mem_singleton.mpr rfl)) t))
  | _ => exact Act.Preserves.fail _

/-- Steps that build requests from the current store or read its refresh token, and all before. -/
theorem requestStep (hJ : Store.Invariant written filled J) (hK : Store.Invariant written filled K) (step : Step)
    (h : ∀ p ∈ step.written, written p) (hfill : ∀ p ∈ step.filled, filled p) : (StoreSession.requestStep step).Preserves I := by
  cases step with
  | refreshToken =>
    exact Act.Preserves.get.bind fun _ => (Act.Preserves.ofExcept _).bind fun _ => Act.Preserves.pure _
  | prepare g ph =>
    exact (Act.Preserves.ofExcept _).bind fun g => (Act.Preserves.ofExcept _).bind fun ph =>
      (hI.onResolved (hK.prepare hfill g ph)).bind fun _ => Act.Preserves.pure _
  | encodeQuery required optional =>
    exact (Act.Preserves.ofExcept _).bind fun _ => (Act.Preserves.ofExcept _).bind fun _ => Act.Preserves.get.bind fun _ =>
      (Act.Preserves.ofExcept _).bind fun _ => Act.Preserves.pure _
  | formParams required optional =>
    exact (Act.Preserves.ofExcept _).bind fun _ => (Act.Preserves.ofExcept _).bind fun _ => Act.Preserves.get.bind fun _ =>
      (Act.Preserves.ofExcept _).bind fun _ => Act.Preserves.pure _
  | authorizationUrl g =>
    exact (Act.Preserves.ofExcept _).bind fun g =>
      (hI.onResolved (hK.authorizationUrl hfill g)).bind fun _ => Act.Preserves.pure _
  | formRequest g ph =>
    exact (Act.Preserves.ofExcept _).bind fun g => (Act.Preserves.ofExcept _).bind fun ph =>
      (hI.onResolved (hK.formRequest hfill g ph)).bind fun _ => Act.Preserves.pure _
  | encodeUri g ph =>
    exact (Act.Preserves.ofExcept _).bind fun g => (Act.Preserves.ofExcept _).bind fun ph =>
      (hI.onResolved (hK.encodeUri hfill g ph)).bind fun _ => Act.Preserves.pure _
  | _ => exact hI.storeStep hJ _ h hfill

/-- Steps that keep or use a token, and all before. -/
theorem tokenStep (hJ : Store.Invariant written filled J) (hK : Store.Invariant written filled K) (step : Step)
    (h : ∀ p ∈ step.written, written p) (hfill : ∀ p ∈ step.filled, filled p) : (StoreSession.tokenStep step).Preserves I := by
  cases step with
  | token name data =>
    refine Act.Preserves.get.bind fun f => (Act.Preserves.ofExcept _).bind fun t => Act.Preserves.bind ?_ fun _ =>
      Act.Preserves.pure _
    exact Act.Preserves.modify fun f hf => hI.tokens f _ _ hf
  | tokenSet name field value => exact hI.onToken name _
  | acceptToken name =>
    exact thenItself_preserves (Act.Preserves.get.bind fun f => (Act.Preserves.ofExcept _).bind fun place =>
      hI.onStore (hJ.acceptToken (h .refreshToken (List.mem_singleton.mpr rfl)) place _))
  | currentToken => exact Act.Preserves.get.bind fun _ => Act.Preserves.pure _
  | _ => exact hI.requestStep hJ hK _ h hfill

end KeptByWrites

/-! ## Steps of a session -/

/-- The handle that a step makes or writes to, by its name. -/
def Step.writtenHandle? : Step → Option String
  | .handle name _ _ => some name
  | .handleInsert name _ _ => some name
  | _ => none

/-- What a session keeps under a name is one of the things that it keeps. -/
theorem mem_of_named {α : Type} {name : String} {names : List (String × α)} {a : α} (h : named name names = .ok a) :
    (name, a) ∈ names := by
  unfold named at h
  split at h
  · next hl =>
    cases h
    obtain ⟨before, after, hnames, _⟩ := List.lookup_eq_some_iff.mp hl
    rw [hnames]
    simp
  · cases h

/-- A handle is made with the store that it is made from. -/
theorem store_of_select? {choice : String} {nonblocking : Bool} {s : Store Token} {h : Handle}
    (hh : Handle.select? choice nonblocking s = some h) : h.store = s :=
  (Handle.of_select? hh).2.2.1

/-- The current store after it was put in its place. -/
theorem store_putStore {f : StoreSession} (h : f.current < f.stores.length) (s : Store Nat) : (f.putStore s).store = s := by
  rw [store, putStore, List.getD_eq_getElem?_getD, List.getElem?_set_self h]
  rfl

/-- Saving adds a copy of the current store and, with its token, a copy of that. -/
theorem saveAs_eq (f : StoreSession) (name : String) : ∃ tokens token, f.saveAs name =
    { f with tokens := tokens, stores := f.stores ++ [{ f.store with token := token }],
             saved := (name, f.stores.length) :: f.saved } := by
  unfold saveAs
  cases f.resolved.token with
  | none =>
    refine ⟨f.tokens, none, ?_⟩
    simp
  | some t =>
    refine ⟨f.tokens ++ [t], some f.tokens.length, ?_⟩
    simp [addToken]

/-- Saving leaves the current store as it is. -/
theorem store_saveAs {f : StoreSession} (h : f.current < f.stores.length) (name : String) : (f.saveAs name).store = f.store := by
  obtain ⟨tokens, token, hsave⟩ := f.saveAs_eq name
  rw [hsave, store, store, List.getD_eq_getElem?_getD, List.getD_eq_getElem?_getD, List.getElem?_append_left h]

/-- A property of sessions that is kept by every step that makes or writes to none but certain handles and neither saves nor restores a
store. -/
structure KeptBySteps (J : Store Nat → Prop) (K : Store Token → Prop) (I : StoreSession → Prop) (handles : String → Prop) : Prop
    extends KeptByWrites J K I where
  handle : ∀ f name h, handles name → h.store = f.resolved → I f → I { f with handles := (name, h) :: f.handles }
  handleInsert : ∀ f name h p v, handles name → (name, h) ∈ f.handles → I f →
    I { f with handles := (name, { h with store := (Store.insert p v h.store).state }) :: f.handles }
  requests : ∀ f requests, I f → I { f with requests := requests }

/-- A call on a handle leaves every state as it is. -/
theorem call_preserves {σ : Type} {I : σ → Prop} (h : Handle) (c : Handle.Call) : (h.call c : Act σ Handle.Answer).Preserves I := by
  apply Act.Preserves.of_state_eq
  intro t
  cases hc : h.offers c with
  | true =>
    obtain ⟨records, hrun⟩ := h.call_apply (σ := σ) hc
    rw [hrun]
  | false => rw [h.call_of_not_offers hc]

/-- Every step keeps such a property, whether it fails or not, as long as it writes what may be written and fills in what may be
filled in, and as long as saving and restoring a store keep the property, too. -/
theorem KeptBySteps.perform {written filled : Parameter → Prop} {J : Store Nat → Prop} {K : Store Token → Prop}
    {I : StoreSession → Prop} {handles : String → Prop} (hI : KeptBySteps J K I handles) (hJ : Store.Invariant written filled J)
    (hK : Store.Invariant written filled K) (step : Step) (hstep : ∀ name, step.writtenHandle? = some name → handles name)
    (hwritten : ∀ p ∈ step.written, written p) (hfilled : ∀ p ∈ step.filled, filled p)
    (hsave : ∀ name, step = .save name → ∀ f, I f → I (f.saveAs name))
    (hrestore : ∀ name, step = .restore name → ∀ f place, named name f.saved = .ok place → I f → I { f with current := place }) :
    (StoreSession.perform step).Preserves I := by
  cases step with
  | save name => exact (Act.Preserves.modify fun f hf => hsave name rfl f hf).bind fun _ => Act.Preserves.pure _
  | restore name =>
    refine Act.Preserves.get_bind fun f hf => Act.Preserves.ofExcept_bind hf fun place hplace => ?_
    exact hrestore name rfl f place hplace hf
  | handle name choice nonblocking =>
    refine Act.Preserves.get_bind fun f hf => ?_
    cases hh : Handle.select? choice nonblocking f.resolved with
    | none => exact hf
    | some h => exact hI.handle f name h (hstep name rfl) (store_of_select? hh) hf
  | handleInsert name p v =>
    refine Act.Preserves.get_bind fun f hf => Act.Preserves.ofExcept_bind hf fun h hh => ?_
    refine Act.Preserves.ofExcept_bind hf fun p _ => Act.Preserves.bind_pure ?_
    exact hI.handleInsert f name h p _ (hstep name rfl) (mem_of_named hh) hf
  | handleCall name call keepAs =>
    refine Act.Preserves.get.bind fun f => (Act.Preserves.ofExcept _).bind fun h => ?_
    split
    · exact Act.Preserves.fail _
    · refine (call_preserves h _).bind fun answer => ?_
      cases answer with
      | url s => exact Act.Preserves.pure _
      | request r =>
        cases keepAs with
        | some name => exact (Act.Preserves.modify fun f hf => hI.requests f _ hf).bind fun _ => Act.Preserves.pure _
        | none => exact (Act.Preserves.pure ()).bind fun _ => Act.Preserves.pure _
  | send name timeout delivery =>
    refine Act.Preserves.get.bind fun f => (Act.Preserves.ofExcept _).bind fun r => ?_
    refine Act.Preserves.bind (Act.Preserves.of_state_eq fun f => ?_) fun _ => Act.Preserves.pure _
    unfold Session.send
    dsimp only
    split <;> rfl
  | openIn name browser =>
    refine Act.Preserves.get.bind fun f => (Act.Preserves.ofExcept _).bind fun r => ?_
    exact (Act.Preserves.of_state_eq fun _ => rfl).bind fun _ => Act.Preserves.pure _
  | _ => exact hI.tokenStep hJ hK _ hwritten hfilled

/-- A property of stores that the values and the scopes carry is kept in the current store. -/
theorem keptBySteps_store {J : Store Nat → Prop} {K : Store Token → Prop} (hresolve : ∀ (f : StoreSession) s, J s → K (f.resolve s))
    (hunresolve : ∀ (t : Store Nat) s, J t → K s → J { t with values := s.values, scopes := s.scopes }) :
    KeptBySteps J K (fun f => f.current < f.stores.length ∧ J f.store) fun _ => True where
  store _ hf := hf.2
  resolve := hresolve
  unresolve := hunresolve
  putStore f s hf hs := by
    refine ⟨?_, ?_⟩
    · rw [putStore, List.length_set]
      exact hf.1
    · rw [store_putStore hf.1]
      exact hs
  supply _ _ hf := hf
  tokens _ _ _ hf := hf
  handle _ _ _ _ _ hf := hf
  handleInsert _ _ _ _ _ _ _ hf := hf
  requests _ _ hf := hf

/-- Saving keeps a property of the current store. -/
theorem kept_saveAs {J : Store Nat → Prop} {f : StoreSession} (hf : f.current < f.stores.length ∧ J f.store) (name : String) :
    (f.saveAs name).current < (f.saveAs name).stores.length ∧ J (f.saveAs name).store := by
  refine ⟨?_, ?_⟩
  · obtain ⟨tokens, token, hsave⟩ := f.saveAs_eq name
    rw [hsave, List.length_append]
    exact Nat.lt_add_right _ hf.1
  · rw [store_saveAs hf.1]
    exact hf.2

end OAuthClient.StoreSession
