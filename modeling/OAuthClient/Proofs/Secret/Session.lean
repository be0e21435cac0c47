import OAuthClient.Proofs.Secret.Handle
import OAuthClient.Proofs.Session.Run

/-!
# Sessions that differ in their secrets

The relation between two sessions says what may differ: the values of secrets in stores, tokens, handles and requests, as long as both
are empty or neither is. Acts on the current store, on tokens and on what is kept under names run alike on such sessions when they do
on such stores and tokens.
-/

namespace OAuthClient

/-- Two sources of the time and of random octets read the same clock and were drawn from as often, and each draw gives octets in both
or in neither. -/
structure Session.Supply.Alike (s s' : Session.Supply) : Prop where
  now : s.now = s'.now
  draws : s.draws = s'.draws
  random : ∀ n, s.random n = [] ↔ s'.random n = []

namespace StoreSession

open OAuthClient.Session

/-! ## Lists that are alike -/

section

variable {α : Type} {Q : α → α → Prop}

/-- Two things are kept under the same name and are related. -/
def NamedAlike (Q : α → α → Prop) (n n' : String × α) : Prop :=
  n.1 = n'.1 ∧ Q n.2 n'.2

variable {l l' : List α}

/-- Both lists keep something at a place, which is related, or neither does. -/
theorem getElem?_alike (h : List.Forall₂ Q l l') (i : Nat) : Option.Rel Q l[i]? l'[i]? := by
  induction h generalizing i with
  | nil => exact .none
  | cons ha _ ih =>
    cases i with
    | zero => exact .some ha
    | succ i => exact ih i

/-- What two lists keep at a place is related, and so is what stands for it where they keep nothing. -/
theorem getD_alike (h : List.Forall₂ Q l l') {d d' : α} (hd : Q d d') (i : Nat) : Q (l.getD i d) (l'.getD i d') := by
  rw [List.getD_eq_getElem?_getD, List.getD_eq_getElem?_getD]
  rcases option_rel_cases (getElem?_alike h i) with ⟨hl, hl'⟩ | ⟨a, a', hl, hl', ha⟩
  · rw [hl, hl']
    exact hd
  · rw [hl, hl']
    exact ha

/-- Lists stay related when related things are put at the same place. -/
theorem set_alike (h : List.Forall₂ Q l l') {a a' : α} (ha : Q a a') (i : Nat) :
    List.Forall₂ Q (l.set i a) (l'.set i a') := by
  induction h generalizing i with
  | nil => exact .nil
  | cons hb h ih =>
    cases i with
    | zero => exact .cons ha h
    | succ i => exact .cons hb (ih i)

/-- Lists stay related when related things are added at the end. -/
theorem concat_alike (h : List.Forall₂ Q l l') {a a' : α} (ha : Q a a') : List.Forall₂ Q (l ++ [a]) (l' ++ [a']) :=
  List.rel_append h (.cons ha .nil)

/-- What is kept under a name is related, or nothing is. -/
theorem named_alike {names names' : List (String × α)} (h : List.Forall₂ (NamedAlike Q) names names') (name : String) :
    ResultAlike Whatever Q (named name names) (named name names') := by
  have hlookup : Option.Rel Q (names.lookup name) (names'.lookup name) := by
    induction h with
    | nil => exact .none
    | cons hn _ ih =>
      obtain ⟨hname, hvalue⟩ := hn
      rw [List.lookup_cons, List.lookup_cons, ← hname]
      split
      · exact .some hvalue
      · exact ih
  unfold named
  rcases option_rel_cases hlookup with ⟨hl, hl'⟩ | ⟨a, a', hl, hl', ha⟩
  · rw [hl, hl']
    exact .error trivial
  · rw [hl, hl']
    exact .ok ha

end

/-! ## Sessions that are alike -/

/-- Two sessions differ in the values of secrets only. -/
structure Alike (f f' : StoreSession) : Prop where
  tokens : List.Forall₂ Token.Alike f.tokens f'.tokens
  tokenNames : f.tokenNames = f'.tokenNames
  stores : List.Forall₂ (Store.AlikeWith Eq) f.stores f'.stores
  current : f.current = f'.current
  saved : f.saved = f'.saved
  handles : List.Forall₂ (NamedAlike Handle.Alike) f.handles f'.handles
  requests : List.Forall₂ (NamedAlike Request.Alike) f.requests f'.requests
  supply : f.supply.Alike f'.supply

namespace Alike

variable {f f' : StoreSession} (h : f.Alike f')

include h

/-- The current stores are alike and have their tokens at the same place. -/
theorem store : f.store.AlikeWith Eq f'.store := by
  rw [StoreSession.store, StoreSession.store, h.current]
  exact getD_alike h.stores ⟨.refl _, .none⟩ f'.current

/-- The current stores with the values of their tokens are alike. -/
theorem resolved : f.resolved.AlikeWith Token.Alike f'.resolved := by
  refine ⟨⟨h.store.values, h.store.scopes⟩, ?_⟩
  show Option.Rel Token.Alike (f.store.token.bind (f.tokens[·]?)) (f'.store.token.bind (f'.tokens[·]?))
  rcases option_rel_cases h.store.token with ⟨hs, hs'⟩ | ⟨place, _, hs, hs', rfl⟩
  · rw [hs, hs']
    exact .none
  · rw [hs, hs']
    exact getElem?_alike h.tokens place

/-- Replacing the current stores by stores that are alike. -/
theorem putStore {s s' : Store Nat} (hs : s.AlikeWith Eq s') : (f.putStore s).Alike (f'.putStore s') := by
  refine { h with stores := ?_ }
  show List.Forall₂ (Store.AlikeWith Eq) (f.stores.set f.current s) (f'.stores.set f'.current s')
  rw [h.current]
  exact set_alike h.stores hs f'.current

/-- Adding tokens that are alike. -/
theorem addToken {t t' : Token} (ht : t.Alike t') : (f.addToken t).Alike (f'.addToken t') :=
  { h with tokens := concat_alike h.tokens ht }

/-- Saving copies of the current stores. -/
theorem saveAs (name : String) : (f.saveAs name).Alike (f'.saveAs name) := by
  have hcopy (token : Option Nat) : ({ f.store with token := token } : Store Nat).AlikeWith Eq { f'.store with token := token } := by
    refine ⟨⟨h.store.values, h.store.scopes⟩, ?_⟩
    cases token with
    | none => exact .none
    | some place => exact .some rfl
  unfold StoreSession.saveAs
  rcases option_rel_cases h.resolved.token with ⟨hs, hs'⟩ | ⟨t, t', hs, hs', ht⟩
  · have hstores := concat_alike h.stores (hcopy none)
    rw [hs, hs']
    refine { h with stores := hstores, saved := ?_ }
    dsimp only
    rw [hstores.length_eq, h.saved]
  · have hstores := concat_alike h.stores (hcopy (some f'.tokens.length))
    rw [hs, hs']
    dsimp only
    rw [h.tokens.length_eq]
    refine { h.addToken ht with stores := hstores, saved := ?_ }
    dsimp only
    rw [hstores.length_eq]
    exact congrArg _ h.saved

end Alike

/-! ## Acts on parts of a session -/

variable {α : Type} {Q : α → α → Prop}

/-- The answer of acts that give nothing but the store itself. -/
theorem alike_thenItself {act act' : Act StoreSession Unit} (h : Act.Alike Alike Whatever Eq act act') :
    Act.Alike Alike Whatever Whatever (thenItself act) (thenItself act') :=
  h.bind fun _ _ _ => Act.Alike.pure trivial

/-- Acts on the current stores. -/
theorem alike_onStore {act act' : Act (Store Nat) α} (h : Act.Alike (Store.AlikeWith Eq) Eq Q act act') :
    Act.Alike Alike Whatever Q (onStore act) (onStore act') :=
  h.anyFault.within (fun _ _ hf => hf.store) fun _ _ _ _ hs hf => hf.putStore hs

/-- Acts on the current stores with the values of their tokens. -/
theorem alike_onResolved {act act' : Act (Store Token) α} (h : Act.Alike (Store.AlikeWith Token.Alike) Eq Q act act') :
    Act.Alike Alike Whatever Q (onResolved act) (onResolved act') :=
  h.anyFault.within (fun _ _ hf => hf.resolved)
    fun _ _ _ _ hs hf => hf.putStore ⟨⟨hs.values, hs.scopes⟩, hf.store.token⟩

/-- Drawing random octets. -/
theorem alike_draw : Act.Alike Alike Whatever (fun octets octets' => octets = [] ↔ octets' = []) draw draw := by
  intro f f' hf
  have hsupply := hf.supply
  refine ⟨rfl, { hf with supply := ⟨hsupply.now, congrArg (· + 1) hsupply.draws, hsupply.random⟩ }, .ok ?_⟩
  rw [hsupply.draws]
  exact hsupply.random _

/-- Changing a token by name. -/
theorem alike_onToken (name : String) {act act' : Instant → Act Token α}
    (h : ∀ now, Act.Alike Token.Alike Whatever Q (act now) (act' now)) :
    Act.Alike Alike Whatever Q (onToken name act) (onToken name act') := by
  intro f f' hf
  unfold onToken
  rw [hf.tokenNames, hf.supply.now]
  cases named name f'.tokenNames with
  | error fault => exact ⟨rfl, hf, .error trivial⟩
  | ok place =>
    dsimp only
    rcases option_rel_cases (getElem?_alike hf.tokens place) with ⟨hs, hs'⟩ | ⟨t, t', hs, hs', ht⟩
    · rw [hs, hs']
      exact ⟨rfl, hf, .error trivial⟩
    · rw [hs, hs']
      obtain ⟨hrecords, hstate, hresult⟩ := h f'.supply.now t t' ht
      exact ⟨hrecords, { hf with tokens := set_alike hf.tokens hstate place, tokenNames := rfl }, hresult⟩

end StoreSession

end OAuthClient
