import OAuthClient.Proofs.Request
import OAuthClient.Proofs.Session.Isolation
import OAuthClient.Proofs.Session.Stores
import OAuthClient.Proofs.Store.RefreshToken

/-!
# Which refresh token a session uses

A refresh token is held twice: as a value of the store, and by the token that was kept last, which others may change afterwards. What
steps do about either is written down as a row of deeds for each store, so the value is the one that was written last and not taken
away since, and the token is the one that was kept last. The value wins unless there is none or it is empty.
-/

namespace OAuthClient

namespace StoreSession

open OAuthClient.Session

/-! ## Deeds -/

/-- What a step does about the refresh token of the current store. -/
inductive Deed where
  /-- Its value is written. -/
  | write (v : String)
  /-- Its value is taken away. -/
  | remove
  /-- The token at a place is kept. -/
  | keep (place : Nat)
  /-- The store is copied, and where it keeps a token, that is copied to a place. -/
  | copy (place : Option Nat)
  deriving DecidableEq

/-- The value that a deed leaves, when it is about the value. -/
def Deed.value? : Deed → Option (Option String)
  | .write v => some (some v)
  | .remove => some none
  | _ => none

/-- The place of the token that a deed leaves, when it is about the token. -/
def Deed.place? : Deed → Option (Option Nat)
  | .keep place => some (some place)
  | .copy place => some place
  | _ => none

/-- The value that was written last, unless it was taken away since. -/
def credential (deeds : List Deed) : Option String :=
  (deeds.filterMap Deed.value?).getLast?.join

/-- The place of the token that was kept last. -/
def lastToken (deeds : List Deed) : Option Nat :=
  (deeds.filterMap Deed.place?).getLast?.join

/-- A store holds what deeds left. -/
structure Follows (s : Store Nat) (deeds : List Deed) : Prop where
  value : s.values .refreshToken = credential deeds
  token : s.token = lastToken deeds

/-- What setting a parameter does about the refresh token. -/
def insertDeeds (p : Parameter) (v : String) : List Deed :=
  if p = .refreshToken then [.write v] else []

/-- What a row of pairs does about the refresh token, up to the first pair that names no parameter or has a value that is refused. -/
def extendDeeds : List (Json × Json) → List Deed
  | [] => []
  | (p, v) :: rest =>
    match parameter p with
    | .error _ => []
    | .ok q => if q.isUrl && !(Store.checkUrl q v.display).isOk then [] else insertDeeds q v.display ++ extendDeeds rest

/-- What a step does about the refresh token of the current store of a session. -/
def Step.deeds (f : StoreSession) : Step → List Deed
  | .set setter v => if setter = "refresh_token" then [.write v.display] else []
  | .insert p v => if .refreshToken ∈ namedParameter p then [.write v.display] else []
  | .entryWith p v =>
    if .refreshToken ∈ namedParameter p ∧ f.store.values .refreshToken = none then [.write v.display] else []
  | .remove p => if .refreshToken ∈ namedParameter p then [.remove] else []
  | .extend pairs => extendDeeds pairs
  | .acceptToken name =>
    match named name f.tokenNames with
    | .error _ => []
    | .ok place => (((f.tokens[place]?).bind Token.refreshToken?).toList.map Deed.write) ++ [.keep place]
  | _ => []

/-- What was done about the refresh token of each store of a session, by its place, after one more event. A store that is saved has
the past of the one that it is copied from. -/
def Event.record (f : StoreSession) (book : Nat → List Deed) : Event → Nat → List Deed
  | .clock _, k => book k
  | .step (.save _), k =>
    if k = f.stores.length then book f.current ++ [.copy (f.resolved.token.map fun _ => f.tokens.length)] else book k
  | .step s, k => if k = f.current then book k ++ s.deeds f else book k

/-- What was done about the refresh token of each store of a session after some events. -/
def record (f : StoreSession) (book : Nat → List Deed) : List Event → Nat → List Deed
  | [] => book
  | e :: events => record (e.apply f) (e.record f book) events

/-! ### What deeds leave -/

/-- No deed is as good as none. -/
theorem Follows.same {s s' : Store Nat} {deeds : List Deed} (h : Follows s deeds)
    (hvalue : s'.values .refreshToken = s.values .refreshToken) (htoken : s'.token = s.token) : Follows s' (deeds ++ []) := by
  rw [List.append_nil]
  exact ⟨hvalue.trans h.value, htoken.trans h.token⟩

theorem credential_append (deeds more : List Deed) :
    credential (deeds ++ more) = ((more.filterMap Deed.value?).getLast?.or (deeds.filterMap Deed.value?).getLast?).join := by
  rw [credential, List.filterMap_append, List.getLast?_append]

theorem lastToken_append (deeds more : List Deed) :
    lastToken (deeds ++ more) = ((more.filterMap Deed.place?).getLast?.or (deeds.filterMap Deed.place?).getLast?).join := by
  rw [lastToken, List.filterMap_append, List.getLast?_append]

/-- A value is written, and the token stays. -/
theorem Follows.write {s s' : Store Nat} {deeds : List Deed} (h : Follows s deeds) {v : String}
    (hvalue : s'.values .refreshToken = some v) (htoken : s'.token = s.token) : Follows s' (deeds ++ [.write v]) := by
  constructor
  · rw [hvalue, credential_append]
    rfl
  · rw [htoken, h.token, lastToken_append]
    rfl

/-- The value is taken away, and the token stays. -/
theorem Follows.remove {s s' : Store Nat} {deeds : List Deed} (h : Follows s deeds)
    (hvalue : s'.values .refreshToken = none) (htoken : s'.token = s.token) : Follows s' (deeds ++ [.remove]) := by
  constructor
  · rw [hvalue, credential_append]
    rfl
  · rw [htoken, h.token, lastToken_append]
    rfl

/-- A token is kept, and the value stays. -/
theorem Follows.keep {s s' : Store Nat} {deeds : List Deed} (h : Follows s deeds) {place : Nat}
    (hvalue : s'.values .refreshToken = s.values .refreshToken) (htoken : s'.token = some place) :
    Follows s' (deeds ++ [.keep place]) := by
  constructor
  · rw [hvalue, h.value, credential_append]
    rfl
  · rw [htoken, lastToken_append]
    rfl

/-- A copy has the value and a token of its own. -/
theorem Follows.copy {s s' : Store Nat} {deeds : List Deed} (h : Follows s deeds) {place : Option Nat}
    (hvalue : s'.values .refreshToken = s.values .refreshToken) (htoken : s'.token = place) :
    Follows s' (deeds ++ [.copy place]) := by
  constructor
  · rw [hvalue, h.value, credential_append]
    rfl
  · rw [htoken, lastToken_append]
    rfl

/-- Setting a parameter leaves what its deeds say, whether it is refused or not. -/
theorem Follows.insert {s : Store Nat} {deeds : List Deed} (h : Follows s deeds) (p : Parameter) (v : String) :
    Follows (Store.insert p v s).state (deeds ++ insertDeeds p v) := by
  unfold insertDeeds
  by_cases hp : p = .refreshToken
  · subst hp
    rw [if_pos rfl, Store.insert_of_accepts (by decide) (Store.accepts_of_not_isUrl rfl v)]
    exact h.write rfl rfl
  · rw [if_neg hp]
    rcases Store.insert_cases p v s with ⟨_, hrun⟩ | ⟨_, _, hrun⟩ | ⟨f, _, hrun⟩ <;> rw [hrun]
    · exact h.same rfl rfl
    · exact h.same (if_neg (Ne.symm hp)) rfl
    · exact h.same rfl rfl

/-- Filling in a refresh token writes it where there is none. -/
theorem Follows.entryWith {s : Store Nat} {deeds : List Deed} (h : Follows s deeds) (v : String) :
    Follows (Store.entryWith .refreshToken v s).state
      (deeds ++ if s.values .refreshToken = none then [.write v] else []) := by
  obtain ⟨_, _, hrun⟩ := Store.entryWith_plain (p := .refreshToken) (by decide) rfl v s
  rw [hrun]
  cases hvalue : s.values .refreshToken with
  | none =>
    rw [if_pos rfl, Store.withDefaults_of_none hvalue]
    exact h.write rfl rfl
  | some w =>
    rw [if_neg (Option.some_ne_none w), Store.withDefaults_of_some hvalue]
    exact h.same rfl rfl

/-- Keeping a token leaves its refresh token, if it has one, and the token. -/
theorem Follows.acceptToken {s : Store Nat} {deeds : List Deed} (h : Follows s deeds) (place : Nat) (refresh : Option String) :
    Follows (Store.acceptToken place refresh s).state (deeds ++ (refresh.toList.map Deed.write ++ [.keep place])) := by
  cases refresh with
  | none => exact h.keep rfl rfl
  | some v =>
    have hinsert := Store.insert_of_accepts (p := .refreshToken) (by decide) (Store.accepts_of_not_isUrl rfl v) s
    have hwritten : Follows (s.setValue .refreshToken v) (deeds ++ [.write v]) := h.write rfl rfl
    rw [Store.acceptToken, Act.bind_of_ok hinsert, ← List.append_assoc]
    exact hwritten.keep rfl rfl

/-! ### What a step leaves -/

/-- Operations that leave the refresh token alone keep its value and keep no other token. -/
theorem invariant_spared {τ : Type} (v : Option String) (T : Option τ → Prop) :
    Store.Invariant (· ≠ .refreshToken) (· ≠ .refreshToken) fun s : Store τ => s.values .refreshToken = v ∧ T s.token where
  setValue := by
    intro s p w _ _ hp h
    have hne : p ≠ .refreshToken := hp.elim And.right id
    exact ⟨(if_neg hne.symm).trans h.1, h.2⟩
  unsetValue hne h := ⟨(if_neg hne.symm).trans h.1, h.2⟩
  scopes _ h := h
  token _ hne _ := absurd rfl hne

variable {f : StoreSession}

/-- A session whose current store is in place and holds what deeds left. -/
def Holding (deeds : List Deed) (f : StoreSession) : Prop :=
  f.current < f.stores.length ∧ Follows f.store deeds

/-- A step that neither writes nor fills in the refresh token and restores no store does nothing about it. -/
theorem Holding.spared {deeds : List Deed} (h : Holding deeds f) {step : Step} (hwritten : .refreshToken ∉ step.written)
    (hfilled : .refreshToken ∉ step.filled) (hrestore : ∀ name, step ≠ .restore name) :
    Holding (deeds ++ []) (perform step f).state := by
  have hkept := (keptBySteps_store
      (J := fun s => s.values .refreshToken = f.store.values .refreshToken ∧ s.token = f.store.token)
      (K := fun s => s.values .refreshToken = f.store.values .refreshToken ∧ True)
      (fun _ _ hs => ⟨hs.1, trivial⟩) (fun _ _ ht hs => ⟨hs.1, ht.2⟩)).perform
    (invariant_spared _ (· = f.store.token)) (invariant_spared _ fun _ => True) step (fun _ _ => trivial)
    (fun p hp he => hwritten (he ▸ hp)) (fun p hp he => hfilled (he ▸ hp))
    (fun name _ f' hf' => kept_saveAs
      (J := fun s => s.values .refreshToken = f.store.values .refreshToken ∧ s.token = f.store.token) hf' name)
    (fun name hname => absurd hname (hrestore name)) f ⟨h.1, rfl, rfl⟩
  exact ⟨hkept.1, h.2.same hkept.2.1 hkept.2.2⟩

/-- An act on the current store does to it what it does to any store. -/
theorem Holding.onStore {deeds more : List Deed} (h : Holding deeds f) {α : Type} {act : Act (Store Nat) α}
    (hact : Follows (act f.store).state (deeds ++ more)) : Holding (deeds ++ more) (onStore act f).state := by
  refine ⟨?_, ?_⟩
  · show f.current < (f.putStore _).stores.length
    rw [putStore, List.length_set]
    exact h.1
  · show Follows (f.putStore _).store _
    rw [store_putStore h.1]
    exact hact

/-- Only one setter is for the refresh token, and it takes the text of any value. -/
theorem setting_of_parameter {setter : String} {setting : Setting} (h : setting? setter = some setting)
    (hp : setting.parameter = .refreshToken) : setter = "refresh_token" := by
  unfold setting? at h
  split at h
  case h_9 =>
    obtain ⟨p, hname, rfl⟩ := Option.map_eq_some_iff.mp h
    obtain rfl : p = .refreshToken := hp
    exact (of_decide_eq_true (List.find?_some hname :)).symm
  all_goals
    cases h <;> cases hp

/-- A parameter that a value names is the one that it stands for. -/
theorem parameter_of_mem {v : Json} {p : Parameter} (h : p ∈ namedParameter v) : parameter v = .ok p := by
  unfold namedParameter at h
  cases hv : parameter v with
  | error fault =>
    rw [hv] at h
    cases h
  | ok q =>
    rw [hv] at h
    rw [List.mem_singleton.mp h]

/-- An act leaves the same state whatever it answers. -/
theorem thenItself_state (act : Act StoreSession Unit) (f : StoreSession) : (thenItself act f).state = (act f).state :=
  congrArg Run.state (Act.bind_pure_apply act (fun _ => Answer.itself) f)

/-- The act that sets the parameter that the first of two values names to the text of the second. -/
def insertPair (pair : Json × Json) : Act StoreSession Unit := do
  let p ← lift (parameter pair.1)
  onStore (Store.insert p pair.2.display)

/-- A pair that is set is followed by the rest. -/
theorem extendDeeds_of_accepts {p v : Json} {q : Parameter} (hp : parameter p = .ok q) (h : Store.Accepts q v.display)
    (rest : List (Json × Json)) : extendDeeds ((p, v) :: rest) = insertDeeds q v.display ++ extendDeeds rest := by
  rw [extendDeeds, hp]
  dsimp only
  rw [(Store.accepts_iff q v.display).mp h, if_neg Bool.false_ne_true]

/-- A pair that is refused ends a row. -/
theorem extendDeeds_of_refused {p v : Json} {q : Parameter} (hp : parameter p = .ok q) (h : ¬ Store.Accepts q v.display)
    (rest : List (Json × Json)) : extendDeeds ((p, v) :: rest) = [] := by
  rw [extendDeeds, hp]
  dsimp only
  rw [if_pos (eq_true_of_ne_false fun hfalse => h ((Store.accepts_iff q v.display).mpr hfalse))]

/-- A row of pairs leaves what its deeds say. -/
theorem Holding.extend {deeds : List Deed} (h : Holding deeds f) (pairs : List (Json × Json)) :
    Holding (deeds ++ extendDeeds pairs) (Act.each insertPair pairs f).state := by
  induction pairs generalizing f deeds with
  | nil =>
    rw [extendDeeds, List.append_nil]
    exact h
  | cons pair rest ih =>
    obtain ⟨p, v⟩ := pair
    rw [Act.each_cons]
    cases hp : parameter p with
    | error fault =>
      have hfirst : insertPair (p, v) f = ⟨.error fault, f, []⟩ := by
        rw [insertPair, hp]
        rfl
      rw [Act.bind_of_error hfirst, extendDeeds, hp, List.append_nil]
      exact h
    | ok q =>
      have hpair : insertPair (p, v) f = StoreSession.onStore (Store.insert q v.display) f := by
        rw [insertPair, hp]
        rfl
      by_cases haccepts : Store.Accepts q v.display
      · obtain ⟨s, records, hrun⟩ := Store.insert_ok_of_accepts haccepts f.store
        have hfirst : insertPair (p, v) f = ⟨.ok (), f.putStore s, records⟩ := by
          rw [hpair, StoreSession.onStore, Act.within, hrun]
        have hheld := h.onStore (h.2.insert q v.display)
        rw [← hpair, hfirst] at hheld
        rw [Act.bind_of_ok hfirst, extendDeeds_of_accepts hp haccepts, ← List.append_assoc]
        exact ih hheld
      · obtain ⟨cause, hrun⟩ := Store.insert_error_of_refused haccepts f.store
        have hfirst : insertPair (p, v) f =
            ⟨.error (.failure (.invalidUrl q.wireName v.display cause)), f.putStore f.store, []⟩ := by
          rw [hpair, StoreSession.onStore, Act.within, hrun]
        rw [Act.bind_of_error hfirst, extendDeeds_of_refused hp haccepts]
        have hheld : Holding (deeds ++ []) (StoreSession.onStore (Act.pure ()) f).state := h.onStore (h.2.same rfl rfl)
        exact hheld

/-- Every step leaves what its deeds say, unless it restores a store. -/
theorem Holding.perform {deeds : List Deed} (h : Holding deeds f) {step : Step} (hrestore : ∀ name, step ≠ .restore name) :
    Holding (deeds ++ step.deeds f) (perform step f).state := by
  cases step with
  | set setter v =>
    by_cases hsetter : setter = "refresh_token"
    · subst hsetter
      rw [Step.deeds, if_pos rfl]
      exact h.onStore (h.2.insert .refreshToken v.display)
    · rw [Step.deeds, if_neg hsetter]
      refine h.spared ?_ List.not_mem_nil hrestore
      intro hmem
      rw [Step.written, Option.mem_toList, Option.map_eq_some_iff] at hmem
      obtain ⟨setting, hsetting, hparameter⟩ := hmem
      exact hsetter (setting_of_parameter hsetting hparameter)
  | insert p v =>
    by_cases hp : .refreshToken ∈ namedParameter p
    · have hstate : (StoreSession.perform (.insert p v) f).state =
          (StoreSession.onStore (Store.insert .refreshToken v.display) f).state := by
        show (thenItself (lift (parameter p) >>= fun p => StoreSession.onStore (Store.insert p v.display)) f).state = _
        rw [thenItself_state, parameter_of_mem hp]
        rfl
      rw [Step.deeds, if_pos hp, hstate]
      exact h.onStore (h.2.insert .refreshToken v.display)
    · rw [Step.deeds, if_neg hp]
      exact h.spared hp List.not_mem_nil hrestore
  | entryWith p v =>
    by_cases hp : .refreshToken ∈ namedParameter p
    · have hstate : (StoreSession.perform (.entryWith p v) f).state =
          (StoreSession.onStore (Store.entryWith .refreshToken v.display) f).state := by
        show ((lift (parameter p) >>= fun p => StoreSession.onStore (Store.entryWith p v.display) >>= fun w =>
          Act.pure (Answer.text w)) f).state = _
        rw [parameter_of_mem hp]
        exact congrArg Run.state (Act.bind_pure_apply (StoreSession.onStore (Store.entryWith .refreshToken v.display)) Answer.text f)
      rw [Step.deeds, hstate]
      simp only [hp, true_and]
      exact h.onStore (h.2.entryWith v.display)
    · rw [Step.deeds, if_neg fun hboth => hp hboth.1]
      exact h.spared List.not_mem_nil hp hrestore
  | remove p =>
    by_cases hp : .refreshToken ∈ namedParameter p
    · have hstate : (StoreSession.perform (.remove p) f).state =
          (StoreSession.onStore (Store.remove .refreshToken) f).state := by
        show (thenItself (lift (parameter p) >>= fun p => StoreSession.onStore (Store.remove p)) f).state = _
        rw [thenItself_state, parameter_of_mem hp]
        rfl
      rw [Step.deeds, if_pos hp, hstate]
      exact h.onStore (h.2.remove rfl rfl)
    · rw [Step.deeds, if_neg hp]
      exact h.spared hp List.not_mem_nil hrestore
  | extend pairs =>
    rw [show (StoreSession.perform (.extend pairs) f).state = (Act.each insertPair pairs f).state from thenItself_state _ f]
    exact h.extend pairs
  | acceptToken name =>
    have hstate : (StoreSession.perform (.acceptToken name) f).state = ((lift (named name f.tokenNames) >>= fun place =>
        StoreSession.onStore (Store.acceptToken place ((f.tokens[place]?).bind Token.refreshToken?))) f).state := by
      show (thenItself (Act.get >>= _) f).state = _
      rw [thenItself_state, Act.bind_of_ok (Act.get_apply f)]
    rw [hstate, Step.deeds]
    cases named name f.tokenNames with
    | error fault =>
      rw [List.append_nil]
      exact h
    | ok place => exact h.onStore (h.2.acceptToken place _)
  | _ =>
    exact h.spared (by simp [Step.written, Store.endpointParameters, Store.pkceParameters, Store.signInParameters])
      (by simp [Step.filled, Store.fixedParameters]) hrestore

/-! ### What a run leaves -/

/-- A step that neither saves nor restores a store leaves all stores but the current one as they are. -/
theorem stores_perform (hf : f.current < f.stores.length) {step : Step} (hsave : ∀ name, step ≠ .save name)
    (hrestore : ∀ name, step ≠ .restore name) :
    (perform step f).state.current = f.current ∧ ∃ s, (perform step f).state.stores = f.stores.set f.current s := by
  have hkept : KeptBySteps (fun _ => True) (fun _ => True)
      (fun f' => f'.current = f.current ∧ ∃ s, f'.stores = f.stores.set f.current s) fun _ => True :=
    { store := fun _ _ => trivial
      resolve := fun _ _ _ => trivial
      unresolve := fun _ _ _ _ => trivial
      putStore := by
        rintro f' s ⟨hcurrent, old, hstores⟩ _
        refine ⟨hcurrent, s, ?_⟩
        rw [putStore, hstores, hcurrent, List.set_set]
      supply := fun _ _ h => h
      tokens := fun _ _ _ h => h
      handle := fun _ _ _ _ _ h => h
      handleInsert := fun _ _ _ _ _ _ _ h => h
      requests := fun _ _ h => h }
  refine hkept.perform invariant_trivial invariant_trivial step (fun _ _ => trivial) (fun _ _ => trivial) (fun _ _ => trivial)
    (fun name hname => absurd hname (hsave name)) (fun name hname => absurd hname (hrestore name)) f ⟨rfl, f.stores[f.current], ?_⟩
  rw [List.set_getElem_self]

/-- Every store of a session holds what the deeds about it left. -/
def Recorded (book : Nat → List Deed) (f : StoreSession) : Prop :=
  ∀ k s, f.stores[k]? = some s → Follows s (book k)

/-- A step that saves no store is recorded for the current store only. -/
theorem record_step (f : StoreSession) (book : Nat → List Deed) {step : Step} (hsave : ∀ name, step ≠ .save name) (k : Nat) :
    (Event.step step).record f book k = if k = f.current then book k ++ step.deeds f else book k := by
  cases step with
  | save name => exact absurd rfl (hsave name)
  | _ => rfl

/-- Saving adds a copy of the current store, with a copy of its token at the next place. -/
theorem stores_saveAs (f : StoreSession) (name : String) : (f.saveAs name).stores =
    f.stores ++ [{ f.store with token := f.resolved.token.map fun _ => f.tokens.length }] := by
  unfold saveAs
  cases f.resolved.token with
  | none => rfl
  | some t => rfl

/-- The current store is the one at its place. -/
theorem getElem?_current (hf : f.current < f.stores.length) : f.stores[f.current]? = some f.store := by
  rw [store, List.getD_eq_getElem?_getD, List.getElem?_eq_getElem hf]
  rfl

/-- A store that is saved is recorded as a copy. -/
theorem Recorded.save {book : Nat → List Deed} (h : Recorded book f) (hf : f.WellFormed) (name : String) :
    Recorded ((Event.step (.save name)).record f book) (f.saveAs name) := by
  intro k s hs
  rw [stores_saveAs] at hs
  by_cases hk : k = f.stores.length
  · subst hk
    rw [List.getElem?_concat_length, Option.some.injEq] at hs
    subst hs
    rw [Event.record, if_pos rfl]
    exact (h _ _ (getElem?_current hf.current)).copy rfl rfl
  · rw [List.getElem?_append_left (by
      have hlt := (List.getElem?_eq_some_iff.mp hs).1
      rw [List.length_append, List.length_singleton] at hlt
      omega)] at hs
    rw [Event.record, if_neg hk]
    exact h k s hs

/-- A store that is restored is recorded already. -/
theorem Recorded.restore {book : Nat → List Deed} (h : Recorded book f) (name : String) :
    Recorded ((Event.step (.restore name)).record f book) (perform (.restore name) f).state := by
  have hstores : (perform (.restore name) f).state.stores = f.stores := by
    show ((Act.get >>= fun f => lift (named name f.saved) >>= fun place => _) f).state.stores = _
    rw [Act.bind_of_ok (Act.get_apply f)]
    cases named name f.saved <;> rfl
  intro k s hs
  rw [hstores] at hs
  have hdeeds : (Step.restore name).deeds f = [] := rfl
  rw [record_step f book (fun _ => Step.noConfusion), hdeeds, List.append_nil, ite_self]
  exact h k s hs

/-- An event is recorded. -/
theorem Recorded.apply {book : Nat → List Deed} (h : Recorded book f) (hf : f.WellFormed) (e : Event) :
    Recorded (e.record f book) (e.apply f) := by
  cases e with
  | clock now => exact h
  | step step =>
    by_cases hsave : ∃ name, step = .save name
    · obtain ⟨name, rfl⟩ := hsave
      exact h.save hf name
    by_cases hrestore : ∃ name, step = .restore name
    · obtain ⟨name, rfl⟩ := hrestore
      exact h.restore name
    have hsave' : ∀ name, step ≠ .save name := fun name he => hsave ⟨name, he⟩
    have hrestore' : ∀ name, step ≠ .restore name := fun name he => hrestore ⟨name, he⟩
    obtain ⟨hcurrent, s', hstores⟩ := stores_perform hf.current hsave' hrestore'
    intro k s hs
    rw [record_step f book hsave']
    by_cases hk : k = f.current
    · subst hk
      have hheld : Holding (book f.current ++ step.deeds f) (StoreSession.perform step f).state :=
        Holding.perform ⟨hf.current, h _ _ (getElem?_current hf.current)⟩ hrestore'
      have hstore : some s = some (StoreSession.perform step f).state.store := by
        rw [← getElem?_current hheld.1, hcurrent]
        exact hs.symm
      rw [if_pos rfl, Option.some.inj hstore]
      exact hheld.2
    · rw [if_neg hk]
      rw [Event.apply, hstores, List.getElem?_set_ne (Ne.symm hk)] at hs
      exact h k s hs

/-- Events are recorded. -/
theorem Recorded.play {book : Nat → List Deed} {events : List Event} (h : Recorded book f) (hf : f.Reachable) :
    Recorded (f.record book events) (f.play events) := by
  induction events generalizing f book with
  | nil => exact h
  | cons e events ih => exact ih (h.apply hf.wellFormed e) (hf.play [e])

/-- Nothing is recorded at the start. -/
theorem recorded_start (hf : Start f) : Recorded (fun _ => []) f := by
  have hempty : Follows Store.empty [] := ⟨rfl, rfl⟩
  have hsingle : ∀ {s : Store Nat}, Follows s [] → ∀ (k : Nat) s', [s][k]? = some s' → Follows s' [] := by
    intro s hs k s' hk
    rw [List.mem_singleton.mp (List.mem_of_getElem? hk)]
    exact hs
  cases hf with
  | empty supply => exact hsingle hempty
  | @settings supply settings f records hrun =>
    have hkept := (invariant_spared (τ := Nat) none (· = none)).settings (by decide) settings .empty ⟨rfl, rfl⟩
    have hstores : f.stores = [((settings.apply : Act (Store Nat) Unit) .empty).state] := by
      have hstate := congrArg (fun run => run.state.stores) hrun
      exact hstate.symm
    intro k s hs
    rw [hstores] at hs
    exact hsingle ⟨hkept.1, hkept.2⟩ k s hs

/-! ## Which refresh token is used -/

/-- The refresh token that the token kept last has now, where it has one that is not empty. -/
def held (f : StoreSession) (deeds : List Deed) : Option String :=
  (lastToken deeds).bind fun place => (f.tokens[place]?).bind Token.refreshToken?

/-- Which refresh token a session uses, after what was done about the refresh token of its current store. -/
structure Precedence (f : StoreSession) (deeds : List Deed) : Prop where
  /-- The value of the store is the one that was written last and not taken away since. -/
  value : f.store.get? .refreshToken = credential deeds
  /-- The token of the store is the one that was kept last. -/
  token : f.store.token = lastToken deeds
  /-- A value that is not empty is used. -/
  written : ∀ v, credential deeds = some v → v ≠ "" → f.resolved.refreshToken = .ok v
  /-- Otherwise the refresh token is used that the token has now. -/
  fallback : (credential deeds).getD "" = "" → ∀ v, f.held deeds = some v → f.resolved.refreshToken = .ok v
  /-- Otherwise it is missing. -/
  missing : (credential deeds).getD "" = "" → f.held deeds = none →
    f.resolved.refreshToken = .error (.missing "refresh_token" none)
  /-- It is never empty. -/
  nonempty : f.resolved.refreshToken ≠ .ok ""
  /-- Whoever asks for it gets it. -/
  asked : perform .refreshToken f = ⟨(f.resolved.refreshToken.mapError Fault.failure).map Answer.text, f, []⟩
  /-- A form has it in its field, and the text of a form is that of its fields. -/
  form : ∀ g ph r v, (Store.formRequest g ph f.resolved).result = .ok r → ("refresh_token", v) ∈ r.params →
    f.resolved.refreshToken = .ok v
  text : ∀ g ph u, ph ≠ .authorization → (Store.encodeUri g ph f.resolved).result = .ok u →
    ∃ r, (Store.formRequest g ph f.resolved).result = .ok r ∧ u = Form.encode .percent r.params
  /-- A form of a phase that sends one has the field, or it cannot be built for want of it. -/
  field : ∀ g ph, .refreshToken ∈ (g.rules ph).parameters →
    (∀ r, (Store.formRequest g ph f.resolved).result = .ok r → ∃ v, ("refresh_token", v) ∈ r.params) ∧
    (f.store.get? .refreshTokenUrl ≠ none → f.store.get? .clientId ≠ none → ∀ failure, f.resolved.refreshToken = .error failure →
      (Store.formRequest g ph f.resolved).result = .error (.failure failure))
  /-- A handle that is made now has it in the forms that it builds. -/
  handle : ∀ choice nonblocking h, Handle.select? choice nonblocking f.resolved = some h →
    ∀ (σ : Type) (t : σ) call own r v, (h.call call t).result = .ok (.request (.form own (.ok r))) →
      ("refresh_token", v) ∈ r.params → f.resolved.refreshToken = .ok v
  /-- Assigning to a token, whichever it is, leaves the store as it is. -/
  assigned : ∀ name field v, (perform (.tokenSet name field v) f).state.store = f.store
  /-- Assigning a refresh token to the token that was kept last shows at once, where the store has no value. -/
  visible : ∀ name place t v, named name f.tokenNames = .ok place → f.tokens[place]? = some t → lastToken deeds = some place →
    (credential deeds).getD "" = "" → v ≠ "" →
    (perform (.tokenSet name "refresh_token" (.str v)) f).state.resolved.refreshToken = .ok v
  /-- Keeping a token without a refresh token leaves the value as it is. -/
  spared : ∀ name place, named name f.tokenNames = .ok place → (f.tokens[place]?).bind Token.refreshToken? = none →
    (perform (.acceptToken name) f).state.store.get? .refreshToken = f.store.get? .refreshToken

/-- The store of a session, seen with its token, has the refresh token that is held for it. -/
theorem tokenRefresh?_resolved {deeds : List Deed} (h : Follows f.store deeds) : f.resolved.tokenRefresh? = f.held deeds := by
  rw [Store.tokenRefresh?, held, ← h.token]
  show (f.store.token.bind (f.tokens[·]?)).bind _ = _
  rw [Option.bind_assoc]

/-- A store that holds what deeds left answers by what they left. -/
theorem refreshToken_resolved {deeds : List Deed} (h : Follows f.store deeds) (hvalue : (credential deeds).getD "" = "") :
    f.resolved.refreshToken = match f.held deeds with
      | some v => .ok v
      | none => .error (.missing "refresh_token" none) := by
  rw [← tokenRefresh?_resolved h]
  refine Store.refreshToken_of_no_value fun v hv => ?_
  have hcredential : credential deeds = some v := h.value.symm.trans hv
  rw [hcredential] at hvalue
  exact hvalue

/-- Assigning a refresh token to a token changes this token only. -/
theorem state_tokenSet {name : String} {place : Nat} {t : Token} (hname : named name f.tokenNames = .ok place)
    (ht : f.tokens[place]? = some t) (v : Json) : (perform (.tokenSet name "refresh_token" v) f).state =
      { f with tokens := f.tokens.set place (t.setField .refreshToken v) } := by
  show (onToken name _ f).state = _
  unfold onToken
  rw [hname]
  dsimp only
  rw [ht]
  rfl

/-- A token has a refresh token that it was assigned, unless it is empty. -/
theorem refreshToken?_setField (t : Token) {v : String} (hv : v ≠ "") :
    (t.setField .refreshToken (.str v)).refreshToken? = some v := by
  rw [Token.refreshToken?]
  exact if_pos (decide_eq_true hv)

/-- Which refresh token a session uses follows from what its current store holds. -/
theorem precedence_of_holding {deeds : List Deed} (h : Holding deeds f) : Precedence f deeds where
  value := h.2.value
  token := h.2.token
  written v hv hne := Store.refreshToken_of_value (h.2.value.trans hv) hne
  fallback hvalue v hv := by
    rw [refreshToken_resolved h.2 hvalue, hv]
  missing hvalue hnone := by
    rw [refreshToken_resolved h.2 hvalue, hnone]
  nonempty := Store.refreshToken_ne_empty _
  asked := by
    show (Act.get >>= fun f => liftFailure f.resolved.refreshToken >>= fun v => Act.pure (Answer.text v)) f = _
    rw [Act.bind_of_ok (Act.get_apply f), Act.bind_pure_apply]
    rfl
  form g ph r v hr hv := Store.refreshToken_of_mem_form hr hv
  text g ph u hph hu := by
    rw [Store.encodeUri_form_result hph] at hu
    obtain ⟨r, hr, hru⟩ := Act.exists_of_map_ok hu
    exact ⟨r, hr, hru.symm⟩
  field g ph hp := ⟨fun r hr => Store.exists_mem_form hr hp, fun hendpoint hclient failure hf =>
    Store.formRequest_of_missing hp hendpoint hclient hf⟩
  handle choice nonblocking h' hselect σ t call own r v hcall hv := by
    obtain ⟨ph, hr⟩ := Handle.formRequest_of_call hcall
    rw [store_of_select? hselect] at hr
    exact Store.refreshToken_of_mem_form hr hv
  assigned name field v := by
    show (onToken name _ f).state.store = _
    unfold onToken
    split
    · rfl
    · split <;> rfl
  visible name place t v hname ht hlast hvalue hv := by
    have hplace : place < f.tokens.length := (List.getElem?_eq_some_iff.mp ht).1
    rw [state_tokenSet hname ht]
    have hfollows : Follows { f with tokens := f.tokens.set place (t.setField .refreshToken (.str v)) }.store deeds := h.2
    have hheld : held { f with tokens := f.tokens.set place (t.setField .refreshToken (.str v)) } deeds = some v := by
      rw [held, hlast, Option.bind_some, List.getElem?_set_self hplace]
      exact refreshToken?_setField t hv
    rw [refreshToken_resolved hfollows hvalue, hheld]
  spared name place hname hnone := by
    have hheld : Holding (deeds ++ Step.deeds f (.acceptToken name)) (StoreSession.perform (.acceptToken name) f).state :=
      h.perform fun _ => Step.noConfusion
    rw [Step.deeds, hname] at hheld
    dsimp only at hheld
    rw [hnone] at hheld
    show (StoreSession.perform (.acceptToken name) f).state.store.values .refreshToken = f.store.values .refreshToken
    rw [hheld.2.value, h.2.value, credential_append]
    rfl

/-- Whatever happens to a session from its start, it uses the refresh token that was written last to its current store and not taken
away since, unless there is none or it is empty; then it uses the refresh token that the token kept last has at that time; and when
that has none, either, the refresh token is missing. -/
theorem refresh_token_precedence {start : StoreSession} (hstart : Start start) (events : List Event) :
    Precedence (start.play events) (start.record (fun _ => []) events (start.play events).current) := by
  have hreachable : (start.play events).Reachable := ⟨start, events, hstart, rfl⟩
  have hcurrent := hreachable.wellFormed.current
  exact precedence_of_holding ⟨hcurrent,
    (recorded_start hstart).play ⟨start, [], hstart, rfl⟩ _ _ (getElem?_current hcurrent)⟩

/-- A session with an empty store and a clock that shows the beginning of time. -/
def blank : StoreSession := { supply := { now := 0, random := fun _ => [] } }

/-- A run in which a token is kept, gets another refresh token, and the value that it brought is taken away. -/
def reassigned : List Event :=
  [.step (.token "t" (.obj [("access_token", .str "a"), ("token_type", .str "Bearer"), ("expires_in", .int 60),
      ("refresh_token", .str "first")])),
    .step (.acceptToken "t"), .step (.tokenSet "t" "refresh_token" (.str "second")), .step .refreshToken,
    .step (.remove (.str "refresh_token"))]

set_option maxRecDepth 10000 in
/-- The value that a token brought is used while it is there, whatever the token is assigned, and afterwards what the token has. -/
theorem refresh_token_precedence_reassigned :
    (play blank (reassigned.take 4)).resolved.refreshToken = .ok "first" ∧
      (play blank reassigned).resolved.refreshToken = .ok "second" := by
  have hstart : Start blank := .empty _
  have hbefore := refresh_token_precedence hstart (reassigned.take 4)
  have hafter := refresh_token_precedence hstart reassigned
  exact ⟨hbefore.written "first" (by rfl) (by decide), hafter.fallback (by rfl) "second" (by rfl)⟩

end StoreSession

end OAuthClient
