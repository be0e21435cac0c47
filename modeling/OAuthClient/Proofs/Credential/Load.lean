import Mathlib.Data.List.Nodup
import OAuthClient.Credential.Basic
import OAuthClient.Proofs.Store.Demand

/-!
# Loading a store

A store is loaded item by item: with values, with scopes and with endpoints. An item leaves a value out that is not there. As long as
no two items have the same target, the order of the items does not matter: they leave the same store, or the endpoints are refused
with the same failure.
-/

namespace OAuthClient

/-! ## Endpoints -/

namespace Store

variable {τ : Type}

/-- The store with the URLs of endpoints set. -/
def withEndpoints (e : Endpoints) (s : Store τ) : Store τ :=
  ((s.setValue .authorizationUrl e.authorization).setValue .accessTokenUrl e.token).setValue .refreshTokenUrl e.token

/-- A parameter that is no URL is none that is. -/
theorem ne_of_isUrl {p q : Parameter} (hp : p.isUrl = false) (hq : q.isUrl = true) : p ≠ q := by
  rintro rfl
  exact Bool.noConfusion (hp.symm.trans hq)

/-- Endpoints leave parameters alone that are no URLs. -/
theorem withEndpoints_values {p : Parameter} (h : p.isUrl = false) (e : Endpoints) (s : Store τ) :
    (s.withEndpoints e).values p = s.values p := by
  have hfirst : p ≠ .authorizationUrl := ne_of_isUrl h rfl
  have hsecond : p ≠ .accessTokenUrl := ne_of_isUrl h rfl
  have hthird : p ≠ .refreshTokenUrl := ne_of_isUrl h rfl
  simp only [withEndpoints, setValue, if_neg hfirst, if_neg hsecond, if_neg hthird]

/-- A parameter that is no URL can be set before the endpoints or behind them. -/
theorem withEndpoints_setValue {p : Parameter} (h : p.isUrl = false) (v : String) (e : Endpoints) (s : Store τ) :
    (s.setValue p v).withEndpoints e = (s.withEndpoints e).setValue p v := by
  rw [withEndpoints, withEndpoints, setValue_comm (ne_of_isUrl h rfl), setValue_comm (ne_of_isUrl h rfl),
    setValue_comm (ne_of_isUrl h rfl)]

/-- A parameter that takes any text is set. -/
theorem leaves_insert_plain {p : Parameter} (hscope : p ≠ .scope) (hurl : p.isUrl = false) (v : String) (s : Store τ) :
    (insert p v).leaves s = .ok (s.setValue p v) := by
  rw [Act.leaves, insert_of_accepts hscope (accepts_of_not_isUrl hurl v)]
  rfl

/-- A value is refused by every store, with the same failure, or taken by every store. -/
theorem leaves_insert {p : Parameter} (hscope : p ≠ .scope) (v : String) :
    (∃ fault, ∀ s : Store τ, (insert p v).leaves s = .error fault) ∨
      ∀ s : Store τ, (insert p v).leaves s = .ok (s.setValue p v) := by
  cases hcheck : checkUrl p v with
  | ok u => exact Or.inr fun s => by rw [Act.leaves, insert_of_accepts hscope fun _ => hcheck]; rfl
  | error f =>
    by_cases hurl : p.isUrl = true
    · exact Or.inl ⟨.failure f, fun s => by rw [Act.leaves, insert_of_refused hurl hcheck]; rfl⟩
    · exact Or.inr (leaves_insert_plain hscope (Bool.eq_false_iff.mpr hurl) v)

/-- Pointing a store at endpoints is three writes, one behind another. -/
theorem setEndpoints_eq (e : Endpoints) : (setEndpoints e : Act (Store τ) Unit) =
    insert .authorizationUrl e.authorization >>= fun _ => insert .accessTokenUrl e.token >>= fun _ =>
      insert .refreshTokenUrl e.token >>= fun _ => Act.pure () := rfl

/-- Endpoints are refused by every store, with the same failure, or taken by every store. -/
theorem leaves_setEndpoints (e : Endpoints) :
    (∃ fault, ∀ s : Store τ, (setEndpoints e).leaves s = .error fault) ∨
      ∀ s : Store τ, (setEndpoints e).leaves s = .ok (s.withEndpoints e) := by
  have hrow : ∀ s : Store τ, (setEndpoints e).leaves s = (((insert .authorizationUrl e.authorization).leaves s).bind
      (insert .accessTokenUrl e.token).leaves).bind (insert .refreshTokenUrl e.token).leaves := by
    intro s
    rw [setEndpoints, extend, Act.leaves_each]
    rfl
  rcases leaves_insert (τ := τ) (p := .authorizationUrl) (by decide) e.authorization with ⟨fault, hfirst⟩ | hfirst
  · exact Or.inl ⟨fault, fun s => by rw [hrow, hfirst]; rfl⟩
  rcases leaves_insert (τ := τ) (p := .accessTokenUrl) (by decide) e.token with ⟨fault, hsecond⟩ | hsecond
  · exact Or.inl ⟨fault, fun s => by simp only [hrow, hfirst, Except.bind, hsecond]⟩
  rcases leaves_insert (τ := τ) (p := .refreshTokenUrl) (by decide) e.token with ⟨fault, hthird⟩ | hthird
  · exact Or.inl ⟨fault, fun s => by simp only [hrow, hfirst, Except.bind, hsecond, hthird]⟩
  · exact Or.inr fun s => by simp only [hrow, hfirst, Except.bind, hsecond, hthird, withEndpoints]

/-- Endpoints that are set are the ones that were given. -/
theorem state_of_setEndpoints {e : Endpoints} {s : Store τ} (h : (setEndpoints e s).result = .ok ()) :
    (setEndpoints e s).state = s.withEndpoints e := by
  rcases leaves_setEndpoints (τ := τ) e with ⟨fault, hrefused⟩ | htaken
  · have hleaves := hrefused s
    rw [Act.leaves, h] at hleaves
    cases hleaves
  · have hleaves := htaken s
    rw [Act.leaves, h] at hleaves
    exact Except.ok.inj hleaves

end Store

namespace Credential

/-! ## Values that must be there -/

/-- Whether a value is not there or blank. -/
def isBlank (v : Option String) : Bool :=
  v.all fun s => (Text.strip s).isEmpty

/-- A blank value is reported. -/
theorem insertRequired_of_isBlank {v : Option String} (h : isBlank v = true) (p : Parameter) (note : Option String) :
    insertRequired p v note = Act.fail (.failure (.missing p.wireName note)) := by
  cases v with
  | none => rfl
  | some s =>
    have hs : (Text.strip s).isEmpty = true := h
    rw [insertRequired, required, if_pos hs]
    rfl

/-- A value that is not blank is put as it is. -/
theorem insertRequired_of_not_isBlank {v : Option String} (h : isBlank v = false) (p : Parameter) (note : Option String) :
    insertRequired p v note = insertOptional p v := by
  cases v with
  | none => cases h
  | some s =>
    have hs : ¬ (Text.strip s).isEmpty = true := by
      rw [show (Text.strip s).isEmpty = false from h]
      decide
    rw [insertRequired, required, if_neg hs]
    rfl

/-- A value that is not blank is there. -/
theorem exists_of_not_isBlank {v : Option String} (h : isBlank v = false) : ∃ s, v = some s := by
  cases v with
  | none => cases h
  | some s => exact ⟨s, rfl⟩

/-! ## Items -/

/-- One thing that a store is loaded with. -/
inductive Item where
  /-- A value for a parameter, which is left out where it is not there. -/
  | value (p : Parameter) (v : Option String)
  /-- Scopes, each as it is. -/
  | scopes (list : List String)
  /-- The endpoints of a service. -/
  | endpoints (e : Endpoints)

namespace Item

/-- Puts an item into the store. -/
def put : Item → Act (Store Token) Unit
  | .value p v => insertOptional p v
  | .scopes list => addScopes list
  | .endpoints e => Store.setEndpoints e

/-- The store with an item in it, as long as the store takes it. -/
def write (s : Store Token) : Item → Store Token
  | .value p v => v.elim s (s.setValue p ·)
  | .scopes list => { s with scopes := s.scopes.insertAll list }
  | .endpoints e => s.withEndpoints e

/-- Where an item goes, with the authorization endpoint for all endpoints. -/
def target : Item → Parameter
  | .value p _ => p
  | .scopes _ => .scope
  | .endpoints _ => .authorizationUrl

/-- An item gives no scope and no URL as a value. -/
def IsPlain : Item → Prop
  | .value p _ => p ≠ .scope ∧ p.isUrl = false
  | .scopes _ => True
  | .endpoints _ => True

variable {i j : Item}

/-- A value is written. -/
theorem leaves_value {p : Parameter} {v : Option String} (h : (value p v).IsPlain) (s : Store Token) :
    (insertOptional p v).leaves s = .ok ((value p v).write s) := by
  cases v with
  | none => rfl
  | some v => exact Store.leaves_insert_plain h.1 h.2 v s

/-- An item is written, unless it is endpoints that every store refuses. -/
theorem leaves_put (h : i.IsPlain) :
    (i.target = .authorizationUrl ∧ ∃ fault, ∀ s, i.put.leaves s = .error fault) ∨ ∀ s, i.put.leaves s = .ok (i.write s) := by
  cases i with
  | value p v => exact Or.inr (leaves_value h)
  | scopes list => exact Or.inr fun s => rfl
  | endpoints e => exact (Store.leaves_setEndpoints e).imp_left fun hrefused => ⟨rfl, hrefused⟩

/-- Items with different targets can be written in any order. -/
theorem write_comm (hi : i.IsPlain) (hj : j.IsPlain) (h : i.target ≠ j.target) (s : Store Token) :
    j.write (i.write s) = i.write (j.write s) := by
  cases i with
  | value p v =>
    cases v with
    | none => rfl
    | some v =>
      cases j with
      | value q w =>
        cases w with
        | none => rfl
        | some w => exact Store.setValue_comm h v w s
      | scopes list => rfl
      | endpoints e => exact Store.withEndpoints_setValue hi.2 v e s
  | scopes list =>
    cases j with
    | value q w => cases w <;> rfl
    | scopes list' => exact absurd rfl h
    | endpoints e => rfl
  | endpoints e =>
    cases j with
    | value q w =>
      cases w with
      | none => rfl
      | some w => exact (Store.withEndpoints_setValue hj.2 w e s).symm
    | scopes list => rfl
    | endpoints e' => exact absurd rfl h

/-- Items with different targets can be put in any order. -/
theorem leaves_put_comm (hi : i.IsPlain) (hj : j.IsPlain) (h : i.target ≠ j.target) (left : Except Fault (Store Token)) :
    (left.bind i.put.leaves).bind j.put.leaves = (left.bind j.put.leaves).bind i.put.leaves := by
  cases left with
  | error fault => rfl
  | ok s =>
    rcases leaves_put hi with ⟨hi', fault, hrefused⟩ | hput
    · rcases leaves_put hj with ⟨hj', _⟩ | hput'
      · exact absurd (hi'.trans hj'.symm) h
      · simp only [Except.bind, hrefused, hput']
    · rcases leaves_put hj with ⟨_, fault, hrefused'⟩ | hput'
      · simp only [Except.bind, hput, hrefused']
      · simp only [Except.bind, hput, hput', write_comm hi hj h]

end Item

/-- What is built behind a value that must be there: nothing when it is blank, which is reported, and what a store with the value gives
otherwise. -/
theorem result_insertRequired {α : Type} {p : Parameter} (hscope : p ≠ .scope) (hurl : p.isUrl = false) (v note : Option String)
    (next : Unit → Act (Store Token) α) (s : Store Token) : ((insertRequired p v note >>= next) s).result =
      if isBlank v then .error (.failure (.missing p.wireName note)) else (next () ((Item.value p v).write s)).result := by
  cases hblank : isBlank v with
  | true =>
    rw [insertRequired_of_isBlank hblank]
    rfl
  | false =>
    rw [insertRequired_of_not_isBlank hblank, Act.result_behind, Item.leaves_value ⟨hscope, hurl⟩]
    rfl

/-- What is built behind a value that must be there is built from a store that has it. -/
theorem of_insertRequired {α : Type} {p : Parameter} {v note : Option String} {next : Unit → Act (Store Token) α} {s : Store Token}
    {a : α} (hscope : p ≠ .scope) (hurl : p.isUrl = false) (h : ((insertRequired p v note >>= next) s).result = .ok a) :
    ∃ x, v = some x ∧ (next () (s.setValue p x)).result = .ok a := by
  rw [result_insertRequired hscope hurl] at h
  split at h
  · cases h
  next hblank =>
  obtain ⟨x, rfl⟩ := exists_of_not_isBlank (Bool.not_eq_true _ ▸ hblank)
  exact ⟨x, rfl, h⟩

/-! ## Rows of items -/

/-- Loads a store with items, one after another. -/
def load (items : List Item) : Act (Store Token) Unit :=
  Act.each Item.put items

/-- Loading two rows of items is loading one after the other. -/
theorem load_append (items items' : List Item) : load (items ++ items') = load items >>= fun _ => load items' :=
  Act.each_append Item.put items items'

/-- Items that are no endpoints are written one after another. -/
theorem leaves_load_plain {items : List Item} (h : ∀ i ∈ items, i.IsPlain ∧ i.target ≠ .authorizationUrl) (s : Store Token) :
    (load items).leaves s = .ok (items.foldl Item.write s) := by
  induction items generalizing s with
  | nil => rfl
  | cons i items ih =>
    obtain ⟨hplain, htarget⟩ := h i (by simp)
    have hput : ∀ s, i.put.leaves s = .ok (i.write s) :=
      (Item.leaves_put hplain).resolve_left fun hrefused => htarget hrefused.1
    rw [load, Act.each_cons, Act.leaves_bind, hput]
    exact ih (fun j hj => h j (List.mem_cons_of_mem _ hj)) _

/-- Items leave parameters alone that are no target of theirs. -/
theorem foldl_write_values {items : List Item} {p : Parameter} (h : p ∉ items.map Item.target) (hurl : p.isUrl = false)
    (s : Store Token) : (items.foldl Item.write s).values p = s.values p := by
  induction items generalizing s with
  | nil => rfl
  | cons i items ih =>
    rw [List.map_cons, List.mem_cons, not_or] at h
    rw [List.foldl_cons, ih h.2]
    cases i with
    | value q v =>
      cases v with
      | none => rfl
      | some v => exact if_neg h.1
    | scopes list => rfl
    | endpoints e => exact Store.withEndpoints_values hurl e s

/-- Items that can be put in any order. -/
structure Orderless (items : List Item) : Prop where
  plain : ∀ i ∈ items, i.IsPlain
  apart : (items.map Item.target).Nodup

/-- The order of such items does not matter. -/
theorem Orderless.leaves_load {items items' : List Item} (h : Orderless items) (hperm : items'.Perm items) (s : Store Token) :
    (load items').leaves s = (load items).leaves s := by
  rw [load, load, Act.leaves_each, Act.leaves_each]
  refine (hperm.symm.foldl_eq' ?_ _).symm
  intro i hi j hj left
  by_cases he : i = j
  · rw [he]
  · refine Item.leaves_put_comm (h.plain i hi) (h.plain j hj) ?_ left
    intro htarget
    exact he (List.inj_on_of_nodup_map h.apart hi hj htarget)

end Credential

end OAuthClient
