import Mathlib.Data.List.Dedup
import OAuthClient.Proofs.Json.Members
import OAuthClient.Proofs.Store.Build
import OAuthClient.Proofs.Store.Scopes

/-!
# The order of writes

Parameters that are set in a row may be set in any order, as long as none but the scope is set twice: the store is the same, so all
that can be asked of it is. This is also true of a store that is kept as a map, in the order in which its values came, and as a set, in
any order at all. What such a store shows is sorted, and sorted it is what the store shows here, where values are shown in the order
of the table and scopes are kept in increasing order.
-/

namespace OAuthClient

/-! ## The order of the table -/

/-- Every parameter is in the table by wire names. -/
theorem Parameter.mem_sorted (p : Parameter) : p ∈ Parameter.sorted := by
  cases p <;> decide

/-- The table by wire names is in increasing order. -/
theorem Parameter.sorted_increasing : (Parameter.sorted.map Parameter.wireName).Pairwise (· < ·) := by
  decide

namespace Store

variable {τ : Type} {s : Store τ}

/-- The entries of a store under their wire names. -/
def named (s : Store τ) : List (String × String) :=
  s.entries.map fun d => (d.1.wireName, d.2)

/-- The entries of a store are the values of its parameters. -/
theorem mem_named {name v : String} : (name, v) ∈ s.named ↔ ∃ p : Parameter, p.wireName = name ∧ s.values p = some v := by
  simp only [named, entries, List.mem_map, List.mem_filterMap, Option.map_eq_some_iff, Prod.mk.injEq]
  constructor
  · rintro ⟨_, ⟨p, _, w, hw, rfl⟩, rfl, rfl⟩
    exact ⟨p, rfl, hw⟩
  · rintro ⟨p, rfl, hv⟩
    exact ⟨(p, v), ⟨p, p.mem_sorted, v, hv, rfl⟩, rfl, rfl⟩

/-- The entries of a store are in increasing order of their wire names. -/
theorem named_increasing (s : Store τ) : (s.named.map (·.1)).Pairwise (· < ·) := by
  have hnamed : s.named = Parameter.sorted.filterMap fun p => (s.values p).map (p.wireName, ·) := by
    rw [named, entries, List.map_filterMap]
    apply List.filterMap_congr
    intro p _
    cases s.values p <;> rfl
  rw [hnamed]
  exact Parameter.sorted_increasing.sublist (Parameter.wireNames_sublist s.values Parameter.sorted)

/-! ## Rows of writes -/

/-- The store with a parameter set, as long as the parameter takes the value. -/
def write (s : Store τ) (d : Parameter × String) : Store τ :=
  if d.1 = .scope then { s with scopes := s.scopes.insertAll (Text.words d.2) } else s.setValue d.1 d.2

/-- Values that their parameters take are written one after another. -/
theorem extend_apply {pairs : List (Parameter × String)} (h : ∀ d ∈ pairs, Accepts d.1 d.2) (s : Store τ) :
    ∃ records, extend pairs s = ⟨.ok (), pairs.foldl write s, records⟩ := by
  induction pairs generalizing s with
  | nil => exact ⟨[], rfl⟩
  | cons d pairs ih =>
    obtain ⟨p, v⟩ := d
    obtain ⟨first, hfirst⟩ : ∃ records, insert p v s = ⟨.ok (), s.write (p, v), records⟩ := by
      by_cases hscope : p = .scope
      · subst hscope
        exact ⟨_, insert_scope v s⟩
      · rw [write, if_neg hscope]
        exact ⟨_, insert_of_accepts hscope (h (p, v) (by simp)) s⟩
    obtain ⟨rest, hrest⟩ := ih (fun e he => h e (List.mem_cons_of_mem _ he)) (s.write (p, v))
    have hrow : extend ((p, v) :: pairs) s = ⟨(extend pairs (s.write (p, v))).result, (extend pairs (s.write (p, v))).state,
        first ++ (extend pairs (s.write (p, v))).records⟩ := Act.bind_of_ok hfirst _
    refine ⟨first ++ rest, ?_⟩
    rw [hrow, hrest, List.foldl_cons]

/-- No parameter but the scope is set twice. -/
def SetsOnce (pairs : List (Parameter × String)) : Prop :=
  ((pairs.map (·.1)).filter (· ≠ .scope)).Nodup

/-- Two writes of a row that sets no parameter twice can be done in either order. -/
theorem write_comm {pairs : List (Parameter × String)} (h : SetsOnce pairs) {d e : Parameter × String} (hd : d ∈ pairs)
    (he : e ∈ pairs) (s : Store τ) : (s.write d).write e = (s.write e).write d := by
  by_cases hdscope : d.1 = .scope
  · by_cases hescope : e.1 = .scope
    · simp only [write, if_pos hdscope, if_pos hescope, Scopes.insertAll_comm]
    · simp only [write, if_pos hdscope, if_neg hescope]
      rfl
  · by_cases hescope : e.1 = .scope
    · simp only [write, if_neg hdscope, if_pos hescope]
      rfl
    · by_cases hparameter : d.1 = e.1
      · -- a parameter that is set once is set by one pair
        have hpairs : ((pairs.filter (·.1 ≠ .scope)).map (·.1)).Nodup := by
          rw [SetsOnce, List.filter_map] at h
          exact h
        have hsame : d = e := List.inj_on_of_nodup_map hpairs (List.mem_filter.mpr ⟨hd, decide_eq_true hdscope⟩)
          (List.mem_filter.mpr ⟨he, decide_eq_true hescope⟩) hparameter
        rw [hsame]
      · simp only [write, if_neg hdscope, if_neg hescope]
        exact setValue_comm hparameter d.2 e.2 s

/-- The order of writes does not matter. -/
theorem foldl_write_perm {pairs pairs' : List (Parameter × String)} (hperm : pairs'.Perm pairs) (h : SetsOnce pairs) (s : Store τ) :
    pairs'.foldl write s = pairs.foldl write s :=
  (hperm.symm.foldl_eq' (fun _ hd _ he t => write_comm h hd he t) s).symm

end Store

/-! ## Stores as maps and sets list them -/

/-- What a store lists that is kept as a map and a set: the values under their wire names in the order in which the map has them, and
the scopes in the order in which the set happens to have them. -/
structure Listing where
  values : List (String × String)
  scopes : List String

namespace Listing

/-- The scopes in increasing order, with a separator between neighbours. -/
def join (l : Listing) (sep : String) : String :=
  sep.intercalate (l.scopes.mergeSort fun x y => decide (x ≤ y))

/-- The value of a parameter. -/
def get? (l : Listing) (p : Parameter) : Option String :=
  if p = .scope then if l.scopes.isEmpty then none else some (l.join " ") else Json.find? p.wireName l.values

/-- The description: the values in increasing order of their names, those of secrets hidden, and the scopes in increasing order. -/
def describe (l : Listing) : String :=
  let shown := (l.values.mergeSort fun d e => decide (d.1 ≤ e.1)).map fun (name, v) =>
    (name, Text.quoted (if (Parameter.ofWireName? name).any Parameter.isSecret then redactedPlaceholder else v))
  let scopes := l.scopes.mergeSort fun x y => decide (x ≤ y)
  Text.description "OAuthSerializer" (shown ++ [("scopes", (Json.arr (scopes.map .str)).inspect)])

/-- The store that a listing and a token make. -/
def toStore {τ : Type} (l : Listing) (token : Option τ) : Store τ where
  values p := Json.find? p.wireName l.values
  scopes := Scopes.empty.insertAll l.scopes
  token := token

/-- What setting a parameter does to a listing. A map puts a value at the place of the one that it had under the name, or at the end. A
set takes in the words for the scope, and may come out in another order. -/
inductive Put : Listing → Parameter × String → Listing → Prop
  | value {l : Listing} {p : Parameter} {v : String} (hscope : p ≠ .scope) :
    Put l (p, v) { l with values := Json.put p.wireName v l.values }
  | scope {l : Listing} {v : String} {scopes : List String} (hnodup : scopes.Nodup)
    (hmem : ∀ x, x ∈ scopes ↔ x ∈ Text.words v ∨ x ∈ l.scopes) : Put l (.scope, v) { l with scopes := scopes }

/-- What setting parameters in a row does to a listing. -/
inductive PutAll : Listing → List (Parameter × String) → Listing → Prop
  | nil {l : Listing} : PutAll l [] l
  | cons {l l' l'' : Listing} {d : Parameter × String} {pairs : List (Parameter × String)} (hput : Put l d l')
    (hrest : PutAll l' pairs l'') : PutAll l (d :: pairs) l''

/-- Parameters can be set in any listing. -/
theorem exists_putAll (l : Listing) (pairs : List (Parameter × String)) : ∃ l', l.PutAll pairs l' := by
  induction pairs generalizing l with
  | nil => exact ⟨l, .nil⟩
  | cons d pairs ih =>
    obtain ⟨p, v⟩ := d
    obtain ⟨l', hput⟩ : ∃ l', l.Put (p, v) l' := by
      by_cases hscope : p = .scope
      · subst hscope
        exact ⟨_, .scope (List.nodup_dedup (Text.words v ++ l.scopes)) fun x => by rw [List.mem_dedup, List.mem_append]⟩
      · exact ⟨_, .value hscope⟩
    obtain ⟨l'', hrest⟩ := ih l'
    exact ⟨l'', .cons hput hrest⟩

/-- A listing is one of a store: it has the values and the scopes of the store, each once. -/
structure Lists {τ : Type} (l : Listing) (s : Store τ) : Prop where
  names : (l.values.map (·.1)).Nodup
  values : ∀ name v, (name, v) ∈ l.values ↔ ∃ p : Parameter, p.wireName = name ∧ s.values p = some v
  nodup : l.scopes.Nodup
  scopes : ∀ x, x ∈ l.scopes ↔ x ∈ s.scopes.toList

namespace Lists

variable {τ : Type} {l l' : Listing} {s : Store τ}

/-- Setting a parameter in a store and in a listing of it gives a listing of the new store. -/
theorem put (h : l.Lists s) {d : Parameter × String} (hput : l.Put d l') : l'.Lists (s.write d) := by
  cases hput with
  | @value p v hscope =>
    have hwrite : s.write (p, v) = s.setValue p v := if_neg hscope
    rw [hwrite]
    refine ⟨Json.nodup_put h.names p.wireName v, fun name w => ?_, h.nodup, h.scopes⟩
    rw [Json.mem_put h.names, h.values]
    constructor
    · rintro (⟨rfl, rfl⟩ | ⟨hne, q, rfl, hq⟩)
      · exact ⟨p, rfl, if_pos rfl⟩
      · refine ⟨q, rfl, (if_neg ?_).trans hq⟩
        rintro rfl
        exact hne rfl
    · rintro ⟨q, rfl, hq⟩
      by_cases hqp : q = p
      · subst hqp
        have hq' : some v = some w := (if_pos rfl).symm.trans hq
        exact Or.inl ⟨rfl, (Option.some.inj hq').symm⟩
      · exact Or.inr ⟨fun hname => hqp (Parameter.wireName_injective hname), q, rfl, (if_neg hqp).symm.trans hq⟩
  | @scope v scopes hnodup hmem =>
    have hwrite : s.write (.scope, v) = { s with scopes := s.scopes.insertAll (Text.words v) } := if_pos rfl
    rw [hwrite]
    refine ⟨h.names, h.values, hnodup, fun x => ?_⟩
    rw [hmem, h.scopes, Scopes.mem_insertAll]

/-- Setting parameters in a row in a store and in a listing of it gives a listing of the new store. -/
theorem putAll (h : l.Lists s) {pairs : List (Parameter × String)} (hput : l.PutAll pairs l') :
    l'.Lists (pairs.foldl Store.write s) := by
  induction hput generalizing s with
  | nil => exact h
  | cons hput _ ih => exact ih (h.put hput)

/-- The values of a listing in increasing order of their names are the entries of the store. -/
theorem mergeSort_values (h : l.Lists s) : l.values.mergeSort (fun d e => decide (d.1 ≤ e.1)) = s.named := by
  refine mergeSort_eq_of_increasing (fun d : String × String => d.1) h.names s.named_increasing ?_
  rintro ⟨name, v⟩
  rw [h.values, Store.mem_named]

/-- The scopes of a listing in increasing order are those of the store. -/
theorem mergeSort_scopes (h : l.Lists s) : l.scopes.mergeSort (fun x y => decide (x ≤ y)) = s.scopes.toList :=
  Scopes.mergeSort_eq h.nodup h.scopes

/-- A listing joins its scopes as the store does. -/
theorem join (h : l.Lists s) (sep : String) : l.join sep = s.scopes.join sep := by
  rw [Listing.join, h.mergeSort_scopes, Scopes.join]

/-- A listing has under the wire name of a parameter the value that the store has for it. -/
theorem find? (h : l.Lists s) (p : Parameter) : Json.find? p.wireName l.values = s.values p := by
  apply Option.ext
  intro v
  rw [Json.find?_eq_some_iff h.names, h.values]
  constructor
  · rintro ⟨q, hname, hq⟩
    rwa [← Parameter.wireName_injective hname]
  · intro hv
    exact ⟨p, rfl, hv⟩

/-- A listing gives a parameter the value that the store gives it. -/
theorem get? (h : l.Lists s) (p : Parameter) : l.get? p = s.get? p := by
  have hempty : l.scopes.isEmpty = s.scopes.isEmpty := by
    rw [Bool.eq_iff_iff, Scopes.isEmpty, List.isEmpty_iff, List.isEmpty_iff, List.eq_nil_iff_forall_not_mem,
      List.eq_nil_iff_forall_not_mem]
    simp only [h.scopes]
  rw [Listing.get?, Store.get?, hempty, h.join, h.find?]

/-- A store is made by a listing of it and its token. -/
theorem toStore {υ : Type} (h : l.Lists s) (token : Option υ) :
    l.toStore token = { values := s.values, scopes := s.scopes, token := token } := by
  have hscopes : Scopes.empty.insertAll l.scopes = s.scopes := by
    apply Scopes.ext_of_mem
    intro x
    rw [Scopes.mem_insertAll, h.scopes]
    exact or_iff_left List.not_mem_nil
  rw [Listing.toStore, hscopes, funext h.find?]

/-- A listing is described as the store is. -/
theorem describe (h : l.Lists s) : l.describe = s.describe := by
  have hshown : (s.named.map fun d =>
      (d.1, Text.quoted (if (Parameter.ofWireName? d.1).any Parameter.isSecret then redactedPlaceholder else d.2))) =
      s.entries.map fun d => (d.1.wireName, Text.quoted (if d.1.isSecret then redactedPlaceholder else d.2)) := by
    rw [Store.named, List.map_map]
    apply List.map_congr_left
    intro d _
    simp only [Function.comp_apply, Parameter.ofWireName?_wireName, Option.any_some]
  rw [Listing.describe, h.mergeSort_values, h.mergeSort_scopes]
  exact congrArg (fun shown => Text.description "OAuthSerializer" (shown ++ [("scopes", (Json.arr (s.scopes.toList.map .str)).inspect)]))
    hshown

end Lists

/-- Two listings that nothing can tell apart, whatever token comes with them. -/
structure Indistinguishable (l l' : Listing) : Prop where
  get : ∀ p, l.get? p = l'.get? p
  join : ∀ sep, l.join sep = l'.join sep
  describe : l.describe = l'.describe
  requests : ∀ (token : Option Token) (b : Store.Build), (b.run (l.toStore token)).result = (b.run (l'.toStore token)).result

/-- Listings of one store cannot be told apart. -/
theorem Lists.indistinguishable {τ : Type} {l l' : Listing} {s : Store τ} (h : l.Lists s) (h' : l'.Lists s) :
    l.Indistinguishable l' where
  get p := (h.get? p).trans (h'.get? p).symm
  join sep := (h.join sep).trans (h'.join sep).symm
  describe := h.describe.trans h'.describe.symm
  requests token b := by rw [h.toStore, h'.toStore]

end Listing

namespace Store

/-! ## Any order of writes -/

/-- Two stores that nothing can tell apart. -/
structure Indistinguishable (s s' : Store Token) : Prop where
  get : ∀ p, s.get? p = s'.get? p
  contains : ∀ p, s.contains p = s'.contains p
  containsKey : ∀ name, s.containsKey name = s'.containsKey name
  join : ∀ sep, s.scopes.join sep = s'.scopes.join sep
  describe : s.describe = s'.describe
  requests : ∀ b : Build, (b.run s).result = (b.run s').result

/-- The order in which parameters are set does not matter: values that their parameters take, no two of them for one parameter but the
scope, are taken in any order, and nothing can tell the stores apart that they leave. It does not matter either in which order a store
lists what it has: however the values in the map came there and however the set comes out, what is left once all values are set cannot
be told from what is left when they are set in another order. -/
theorem extend_perm {pairs pairs' : List (Parameter × String)} (hperm : pairs'.Perm pairs) (honce : SetsOnce pairs)
    (haccepts : ∀ d ∈ pairs, Accepts d.1 d.2) (s : Store Token) :
    (extend pairs s).result = .ok () ∧ (extend pairs' s).result = .ok () ∧
      Indistinguishable (extend pairs s).state (extend pairs' s).state ∧
      ∀ l l' : Listing, l.Lists s → l'.Lists s → (∃ k, l.PutAll pairs k) ∧ (∃ k', l'.PutAll pairs' k') ∧
        ∀ k k', l.PutAll pairs k → l'.PutAll pairs' k' → k.Indistinguishable k' := by
  obtain ⟨records, hrun⟩ := extend_apply haccepts s
  obtain ⟨records', hrun'⟩ := extend_apply (fun d hd => haccepts d (hperm.mem_iff.mp hd)) s
  have hstate := foldl_write_perm hperm honce s
  rw [hrun, hrun', hstate]
  refine ⟨rfl, rfl, ⟨fun _ => rfl, fun _ => rfl, fun _ => rfl, fun _ => rfl, rfl, fun _ => rfl⟩, ?_⟩
  intro l l' hl hl'
  refine ⟨l.exists_putAll pairs, l'.exists_putAll pairs', fun k k' hput hput' => ?_⟩
  have hk := hl.putAll hput
  have hk' := hl'.putAll hput'
  rw [hstate] at hk'
  exact hk.indistinguishable hk'

/-- Scopes that are set twice, in a row with a value and an endpoint, and the row the other way round. -/
theorem extend_perm_scopes :
    [(Parameter.scope, "b a"), (.authorizationUrl, "https://a.test"), (.clientId, "app"), (.scope, "a c")].Perm
        [(.scope, "a c"), (.clientId, "app"), (.authorizationUrl, "https://a.test"), (.scope, "b a")] ∧
      SetsOnce [(.scope, "a c"), (.clientId, "app"), (.authorizationUrl, "https://a.test"), (.scope, "b a")] ∧
      (∀ d ∈ [(.scope, "a c"), (.clientId, "app"), (.authorizationUrl, "https://a.test"), (.scope, "b a")],
        Accepts d.1 d.2) ∧
      Indistinguishable
        (extend [(.scope, "a c"), (.clientId, "app"), (.authorizationUrl, "https://a.test"), (.scope, "b a")] empty).state
        (extend [(.scope, "b a"), (.authorizationUrl, "https://a.test"), (.clientId, "app"), (.scope, "a c")] empty).state := by
  have hperm : [(Parameter.scope, "b a"), (.authorizationUrl, "https://a.test"), (.clientId, "app"), (.scope, "a c")].Perm
      [(.scope, "a c"), (.clientId, "app"), (.authorizationUrl, "https://a.test"), (.scope, "b a")] := by decide
  have honce : SetsOnce [(.scope, "a c"), (.clientId, "app"), (.authorizationUrl, "https://a.test"), (.scope, "b a")] := by
    unfold SetsOnce
    decide
  have haccepts : ∀ d ∈ [(Parameter.scope, "a c"), (.clientId, "app"), (.authorizationUrl, "https://a.test"), (.scope, "b a")],
      Accepts d.1 d.2 := by
    unfold Accepts
    decide +kernel
  exact ⟨hperm, honce, haccepts, (extend_perm hperm honce haccepts empty).2.2.1⟩

end Store

end OAuthClient
