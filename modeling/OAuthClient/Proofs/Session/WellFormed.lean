import OAuthClient.Proofs.Session.Run

/-!
# Well-formed sessions

Every store that a reachable session holds is well-formed: those of the session itself, whatever token is kept with them, and the
copies in its handles. The places of the current store and of the saved ones are places of stores.
-/

namespace OAuthClient.StoreSession

open OAuthClient.Session

/-- A session whose stores are well-formed and in place. -/
structure WellFormed (f : StoreSession) : Prop where
  stores : ∀ s ∈ f.stores, s.WellFormed
  handles : ∀ h ∈ f.handles, h.2.store.WellFormed
  current : f.current < f.stores.length
  saved : ∀ n ∈ f.saved, n.2 < f.stores.length

/-- A store that a session holds, with the value of its token: one of its own, or the one of a handle. -/
def Holds (f : StoreSession) (s : Store Token) : Prop :=
  (∃ t ∈ f.stores, s = f.resolve t) ∨ ∃ h ∈ f.handles, s = h.2.store

/-- The current store of a well-formed session is one of its stores. -/
theorem WellFormed.store_mem {f : StoreSession} (h : f.WellFormed) : f.store ∈ f.stores := by
  rw [store, List.getD_eq_getElem?_getD, List.getElem?_eq_getElem h.current]
  exact List.getElem_mem h.current

/-- The value of the token has no part in what makes a store well-formed. -/
theorem wellFormed_resolve (f : StoreSession) {s : Store Nat} (h : s.WellFormed) : (f.resolve s).WellFormed :=
  h.withToken s.scopes _

/-- Every store that a well-formed session holds is well-formed. -/
theorem WellFormed.of_holds {f : StoreSession} (h : f.WellFormed) {s : Store Token} (hs : f.Holds s) : s.WellFormed := by
  rcases hs with ⟨t, ht, rfl⟩ | ⟨k, hk, rfl⟩
  · exact f.wellFormed_resolve (h.stores t ht)
  · exact h.handles k hk

/-- A session with an empty store is well-formed. -/
theorem wellFormed_empty (supply : Supply) : WellFormed { supply } where
  stores := by
    intro s hs
    rw [List.mem_singleton.mp hs]
    exact Store.wellFormed_empty
  handles := by simp
  current := by simp
  saved := by simp

/-- Adding a well-formed store under a name keeps a session well-formed, whatever happens to the tokens. -/
theorem WellFormed.addStore {f : StoreSession} (h : f.WellFormed) {s : Store Nat} (hs : s.WellFormed) (tokens : List Token)
    (name : String) : WellFormed { f with
      tokens := tokens, stores := f.stores ++ [s], saved := (name, f.stores.length) :: f.saved } where
  stores := by
    intro t ht
    rw [List.mem_append, List.mem_singleton] at ht
    rcases ht with ht | rfl
    · exact h.stores t ht
    · exact hs
  handles := h.handles
  current := by
    rw [List.length_append]
    exact Nat.lt_add_right _ h.current
  saved := by
    rw [List.forall_mem_cons, List.length_append]
    exact ⟨Nat.lt_succ_self _, fun n hn => Nat.lt_add_right _ (h.saved n hn)⟩

/-- Every step keeps a session well-formed. -/
theorem keptBySteps_wellFormed : KeptBySteps Store.WellFormed Store.WellFormed WellFormed fun _ => True where
  store f hf := hf.stores _ hf.store_mem
  resolve f _ hs := f.wellFormed_resolve hs
  unresolve t s _ hs := hs.withToken s.scopes t.token
  putStore f s hf hs := by
    refine ⟨?_, hf.handles, ?_, ?_⟩
    · intro t ht
      rcases List.mem_or_eq_of_mem_set ht with ht | rfl
      · exact hf.stores t ht
      · exact hs
    · rw [putStore, List.length_set]
      exact hf.current
    · intro n hn
      rw [putStore, List.length_set]
      exact hf.saved n hn
  supply f supply hf := ⟨hf.stores, hf.handles, hf.current, hf.saved⟩
  tokens f tokens names hf := ⟨hf.stores, hf.handles, hf.current, hf.saved⟩
  handle f name h _ hh hf := by
    refine ⟨hf.stores, ?_, hf.current, hf.saved⟩
    rw [List.forall_mem_cons]
    refine ⟨?_, hf.handles⟩
    rw [hh]
    exact f.wellFormed_resolve (hf.stores _ hf.store_mem)
  handleInsert f name h p v _ hh hf := by
    refine ⟨hf.stores, ?_, hf.current, hf.saved⟩
    rw [List.forall_mem_cons]
    exact ⟨Store.invariant_wellFormed.insert trivial v _ (hf.handles _ hh), hf.handles⟩
  requests f requests hf := ⟨hf.stores, hf.handles, hf.current, hf.saved⟩

/-- Saving adds a well-formed store. -/
theorem WellFormed.saveAs {f : StoreSession} (h : f.WellFormed) (name : String) : (f.saveAs name).WellFormed := by
  obtain ⟨tokens, token, hsave⟩ := f.saveAs_eq name
  rw [hsave]
  exact h.addStore ((h.stores _ h.store_mem).withToken _ token) tokens name

/-- A store that is restored was well-formed already. -/
theorem WellFormed.restore {f : StoreSession} (h : f.WellFormed) {name : String} {place : Nat}
    (hplace : named name f.saved = .ok place) : WellFormed { f with current := place } :=
  ⟨h.stores, h.handles, h.saved _ (mem_of_named hplace), h.saved⟩

/-- Every reachable session is well-formed. -/
theorem Reachable.wellFormed {f : StoreSession} (h : f.Reachable) : f.WellFormed := by
  refine h.of_invariant ?_ ?_
  · intro f hstart
    cases hstart with
    | empty supply => exact wellFormed_empty supply
    | @settings supply s f records hrun =>
      have hkept := keptBySteps_wellFormed.onStore (Store.invariant_wellFormed.settings (fun _ _ => trivial) s) _
        (wellFormed_empty supply)
      rwa [hrun] at hkept
  · intro e f hf
    cases e with
    | step step =>
      exact keptBySteps_wellFormed.perform Store.invariant_wellFormed Store.invariant_wellFormed step (fun _ _ => trivial)
        (fun _ _ => trivial) (fun _ _ => trivial) (fun name _ f hf => hf.saveAs name)
        (fun _ _ _ _ hplace hf => hf.restore hplace) f hf
    | clock now => exact keptBySteps_wellFormed.supply f _ hf

end OAuthClient.StoreSession
