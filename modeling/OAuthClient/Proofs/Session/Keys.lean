import OAuthClient.Proofs.Session.Endpoints
import OAuthClient.Proofs.Session.WellFormed
import OAuthClient.Proofs.Store.Keys

/-!
# Keys in a session

The steps of a session that set parameters name them by their wire names. What they do to the current store is what setting parameters
by these keys does to it, also where one of several fails.
-/

namespace OAuthClient

namespace StoreSession

open OAuthClient.Session

variable {f : StoreSession}

/-- A computation in front of an act on the current store may as well be part of it. -/
theorem lift_onStore {α β : Type} (result : Except Fault α) (next : α → Act (Store Nat) β) :
    (lift result >>= fun a => onStore (next a)) = onStore (Act.ofExcept result >>= next) := by
  funext f
  cases result with
  | ok a => rfl
  | error fault =>
    show (⟨.error fault, f, []⟩ : Run StoreSession β) = ⟨.error fault, f.putStore f.store, []⟩
    rw [putStore_store]

/-- Acts on the current store, one after another, are one act on it. -/
theorem onStore_each {α : Type} (g : α → Act (Store Nat) Unit) (l : List α) (hf : f.current < f.stores.length) :
    Act.each (fun a => onStore (g a)) l f = onStore (Act.each g l) f := by
  induction l generalizing f with
  | nil =>
    show (⟨.ok (), f, []⟩ : Run StoreSession Unit) = ⟨.ok (), f.putStore f.store, []⟩
    rw [putStore_store]
  | cons a l ih =>
    rcases hrun : g a f.store with ⟨result, s, records⟩
    have hstep : onStore (g a) f = ⟨result, f.putStore s, records⟩ := by
      rw [onStore, Act.within, hrun]
    cases result with
    | error fault =>
      rw [Act.each_cons, Act.bind_of_error hstep, onStore, Act.within, Act.each_cons, Act.bind_of_error hrun]
    | ok u =>
      have hcurrent : (f.putStore s).current < (f.putStore s).stores.length := by
        rw [putStore, List.length_set]
        exact hf
      have hput : ∀ s', (f.putStore s).putStore s' = f.putStore s' := fun s' => by
        simp only [putStore, List.set_set]
      rw [Act.each_cons_of_ok (f := fun a => onStore (g a)) hstep, ih hcurrent, onStore, Act.within, store_putStore hf, onStore, Act.within,
        Act.each_cons_of_ok hrun, hput]

/-- Acts that come to the same do so as steps. -/
theorem thenItself_congr {act act' : Act StoreSession Unit} (h : act f = act' f) : thenItself act f = thenItself act' f := by
  show Act.bind act _ f = Act.bind act' _ f
  rw [Act.bind, Act.bind, h]

/-- The steps of a session that set parameters by wire names do so in its current store. -/
structure SetsCurrent (f : StoreSession) : Prop where
  insert : ∀ p v, perform (.insert p v) f = thenItself (onStore (Store.insertBy (.name p) v)) f
  entryWith : ∀ p v, perform (.entryWith p v) f = (onStore (Store.entryWithBy (.name p) v) >>= fun t => Pure.pure (Answer.text t)) f
  extend : ∀ pairs, perform (.extend pairs) f =
    thenItself (onStore (Store.extendBy (.pairs (pairs.map fun d => (.name d.1, d.2))))) f

theorem Reachable.setsCurrent (hf : f.Reachable) : SetsCurrent f where
  insert p v := by
    rw [Store.insertBy, Key.read, ← lift_onStore]
    rfl
  entryWith p v := by
    rw [Store.entryWithBy, Key.read, ← lift_onStore, bind_assoc]
    rfl
  extend pairs := by
    have hpair : (fun d : Json × Json => lift (parameter d.1) >>= fun p => onStore (Store.insert p d.2.display)) =
        fun d => onStore (Store.insertBy (.name d.1) d.2) := by
      funext d
      rw [Store.insertBy, Key.read, ← lift_onStore]
    show thenItself (Act.each (fun d : Json × Json => lift (parameter d.1) >>= fun p => onStore (Store.insert p d.2.display)) pairs) f = _
    rw [hpair, Store.extendBy, Values.items, Act.each_map]
    exact thenItself_congr (onStore_each _ pairs (Reachable.wellFormed hf).current)

/-- Setting parameters by keys, in four parts.
1. Setting one is all or nothing. It fails exactly when the key names no parameter or the parameter refuses the text.
2. Filling one in is all or nothing. It fails for the same reasons, but never where the parameter is set.
3. Setting several is setting them one after another up to the first that fails, whether they come as pairs or as a mapping.
4. This is what the steps of a session do to its current store. -/
theorem writes_in_order {τ : Type} :
    (∀ (key : Key) (v : Json), (Store.insertBy key v : Act (Store τ) Unit).Atomic ∧
      ∀ (s : Store τ) (fault : Fault), (Store.insertBy key v s).result = .error fault ↔ Store.Refuses key v fault) ∧
    (∀ (key : Key) (v : Json), (Store.entryWithBy key v : Act (Store τ) String).Atomic ∧
      ∀ (s : Store τ) (fault : Fault), (Store.entryWithBy key v s).result = .error fault ↔
        Store.Refuses key v fault ∧ ∀ p, key.read = .ok p → s.contains p = false) ∧
    (∀ (values : Values) (s : Store τ), Store.SetsInOrder values s) ∧
    ∀ f : StoreSession, f.Reachable → SetsCurrent f :=
  ⟨fun key v => ⟨Store.insertBy_atomic key v, Store.insertBy_error_iff⟩,
    fun key v => ⟨Store.entryWithBy_atomic key v, Store.entryWithBy_error_iff⟩, Store.setsInOrder, fun _ => Reachable.setsCurrent⟩

/-- A mapping that names the scope twice, in two ways, with an endpoint in between that is no URL. -/
def halfway : Values :=
  .mapping [(.name (.str "client_id"), .str "app"), (.parameter .scope, .str "b a"), (.name (.str "authorization_url"), .str "login.test"),
    (.name (.str "scope"), .str "c")] (by decide)

/-- The mapping is taken up to the endpoint. -/
theorem writes_in_order_halfway :
    (Store.extendBy halfway (Store.empty : Store Nat)).result =
        .error (.failure (.invalidUrl "authorization_url" "login.test" none)) ∧
      (Store.extendBy halfway (Store.empty : Store Nat)).state.values .clientId = some "app" ∧
      (Store.extendBy halfway (Store.empty : Store Nat)).state.scopes.toList = ["a", "b"] := by
  obtain ⟨-, -, hrows, -⟩ := @writes_in_order Nat
  have hdone : Store.OneByOne (Store.empty : Store Nat) [(.name (.str "client_id"), .str "app"), (.parameter .scope, .str "b a")] _ :=
    .cons rfl (.cons rfl (.nil _))
  obtain ⟨hresult, hstate, -⟩ := (hrows halfway .empty).stopped _ (.name (.str "authorization_url")) (.str "login.test") _ _
    (.failure (.invalidUrl "authorization_url" "login.test" none)) rfl hdone (by rfl)
  rw [hresult, hstate]
  exact ⟨rfl, by rfl, by rfl⟩

end StoreSession

end OAuthClient
