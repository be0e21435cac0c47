import OAuthClient.Proofs.Store.Keys
import OAuthClient.Proofs.Store.Scopes
import OAuthClient.Proofs.Text.Words
import OAuthClient.Proofs.Token.Scope

/-!
# Scopes as a text

What is written under the scope leaves a store as one text: its words, each once and in order, with single spaces between them. A store
cuts a text at every blank character and a token cuts it at spaces only, and both read the same scopes from this text.
-/

namespace OAuthClient

open OAuthClient.Text

variable {τ : Type} {word text : String} {list : List String} {scopes : Scopes}

/-! ## Words of texts -/

/-- A text is a word of another: it stands there between blank characters or ends and holds none. -/
def IsWord (word text : String) : Prop :=
  ∃ ws, HasWords isBlank text.toList ws ∧ word.toList ∈ ws

/-- The words that a text is cut into are its words. -/
theorem mem_words : word ∈ Text.words text ↔ IsWord word text := by
  have hwords : Text.words text = (fullPieces isBlank text.toList).map String.ofList := rfl
  rw [hwords, List.mem_map]
  constructor
  · rintro ⟨w, hw, rfl⟩
    exact ⟨_, hasWords_fullPieces isBlank text.toList, by rwa [String.toList_ofList]⟩
  · rintro ⟨ws, hws, hword⟩
    exact ⟨word.toList, hws.eq_fullPieces ▸ hword, String.ofList_toList⟩

/-- A word is not empty and has no blank character. -/
theorem IsWord.no_blank (h : IsWord word text) : word.toList ≠ [] ∧ ∀ c ∈ word.toList, isBlank c = false := by
  obtain ⟨ws, hws, hword⟩ := h
  exact hws.of_mem hword

/-- Texts without a certain kind of characters, to which the space belongs, are what a text of them is cut into. -/
theorem pieces_of_spaced {p : Char → Bool} (hspace : p ' ' = true)
    (h : ∀ x ∈ list, x.toList ≠ [] ∧ ∀ c ∈ x.toList, p c = false) :
    (fullPieces p (" ".intercalate list).toList).map String.ofList = list := by
  have hws : ∀ w ∈ list.map String.toList, w ≠ [] ∧ ∀ c ∈ w, p c = false := by
    intro w hw
    obtain ⟨x, hx, rfl⟩ := List.mem_map.mp hw
    exact h x hx
  have htext : (" ".intercalate list).toList = [' '].intercalate (list.map String.toList) := String.toList_intercalate
  rw [htext, fullPieces_intercalate hspace hws, List.map_map]
  simp

/-! ## Writing scopes -/

namespace Store

/-- An act adds some scopes to those of a store and does nothing else. -/
def AddsScopes (act : Act (Store τ) Unit) (list : List String) : Prop :=
  ∀ s, act s = ⟨.ok (), { s with scopes := s.scopes.insertAll list }, []⟩

/-- A row of acts adds the scopes that they add. -/
theorem AddsScopes.each {α : Type} {f : α → Act (Store τ) Unit} {added : α → List String} {l : List α}
    (h : ∀ a ∈ l, AddsScopes (f a) (added a)) : AddsScopes (Act.each f l) (l.flatMap added) := by
  induction l with
  | nil => exact fun s => rfl
  | cons a l ih =>
    intro s
    have hrest := ih fun b hb => h b (List.mem_cons_of_mem _ hb)
    rw [Act.each_cons_of_ok (h a List.mem_cons_self s), hrest, List.flatMap_cons, Scopes.insertAll, Scopes.insertAll, Scopes.insertAll,
      List.foldl_append]
    rfl

/-- A value under a key that names the scope adds the words of its text. -/
theorem addsScopes_insertBy {key : Key} (h : key.read = .ok .scope) (v : Json) :
    AddsScopes (insertBy key v : Act (Store τ) Unit) (Text.words v.display) := by
  intro s
  rw [(insertBy_of_read h v).1, insert_scope]

end Store

/-- A call that writes parameters, one or several. -/
inductive WriteCall where
  | insert (key : Key) (v : Json)
  | extend (values : Values)

namespace WriteCall

/-- The keys with their values. -/
def items : WriteCall → List (Key × Json)
  | insert key v => [(key, v)]
  | extend values => values.items

/-- What a call does. -/
def act : WriteCall → Act (Store τ) Unit
  | insert key v => Store.insertBy key v
  | extend values => Store.extendBy values

/-- A call writes scopes only. -/
def WritesScopes (call : WriteCall) : Prop :=
  ∀ item ∈ call.items, item.1.read = .ok .scope

/-- A call that writes scopes only adds the words of its values. -/
theorem WritesScopes.adds {call : WriteCall} (h : call.WritesScopes) :
    Store.AddsScopes (call.act : Act (Store τ) Unit) (call.items.flatMap fun item => Text.words item.2.display) := by
  cases call with
  | insert key v =>
    have hkey : key.read = .ok .scope := h (key, v) List.mem_cons_self
    rw [items, List.flatMap_singleton]
    exact Store.addsScopes_insertBy hkey v
  | extend values => exact .each fun item hitem => Store.addsScopes_insertBy (h item hitem) item.2

end WriteCall

/-! ## The text of the scopes -/

/-- Scopes travel in a text: those who read it have them. -/
structure TravelIn (scopes : Scopes) (text : String) : Prop where
  /-- A store without scopes that is given the text for its scope has these scopes, and is the same otherwise. -/
  store : ∀ {τ : Type} (key : Key) (s : Store τ), key.read = .ok .scope → s.scopes = ∅ →
    Store.insertBy key (.str text) s = ⟨.ok (), { s with scopes }, []⟩
  /-- A response with the text for its scope gives the token that it gives without it, with the list of these scopes. -/
  token : ∀ (now : Instant) (members : List (String × Json)), Json.find? "scope" members = some (.str text) →
    Token.ofJson now (.obj members) =
      (Token.ofJson now (.obj (Token.without ["scope"] members))).map (Token.setField .scope (.arr (scopes.toList.map .str)))

/-- Scopes that are not empty and have no blank characters travel in the text with single spaces between them. -/
theorem travelIn_intercalate (h : ∀ x ∈ scopes.toList, x.toList ≠ [] ∧ ∀ c ∈ x.toList, isBlank c = false) :
    TravelIn scopes (" ".intercalate scopes.toList) where
  store key s hkey hs := by
    have hwords : Text.words (" ".intercalate scopes.toList) = scopes.toList := pieces_of_spaced (by decide) h
    rw [Store.addsScopes_insertBy hkey (.str (" ".intercalate scopes.toList)) s, Json.display, hwords, hs, Scopes.insertAll_toList]
  token now members hscope := by
    have hspaces : ∀ x ∈ scopes.toList, x.toList ≠ [] ∧ ∀ c ∈ x.toList, (c == ' ') = false := by
      intro x hx
      obtain ⟨hne, hblank⟩ := h x hx
      refine ⟨hne, fun c hc => beq_eq_false_iff_ne.mpr ?_⟩
      rintro rfl
      exact absurd (hblank ' ' hc) (by decide)
    have hread : Token.readScopes (Token.given members .scope) = .ok scopes.toList := by
      rw [Token.given, show Token.Field.scope.name = "scope" from rfl, hscope]
      exact congrArg Except.ok (pieces_of_spaced (by decide) hspaces)
    exact Token.ofJson_of_readScopes hread now

/-- Whatever is written under the scope of a store without scopes, its scopes are the words of all that was written. Read from the store
they are one text, in strictly increasing order with single spaces between them, and in this text they travel. -/
theorem scopes_travel (calls : List WriteCall) (h : ∀ call ∈ calls, call.WritesScopes) (s : Store τ) (hs : s.scopes = ∅) :
    ∃ scopes : Scopes,
      Act.each WriteCall.act calls s = ⟨.ok (), { s with scopes }, []⟩ ∧
      (∀ x, x ∈ scopes.toList ↔ ∃ call ∈ calls, ∃ item ∈ call.items, IsWord x item.2.display) ∧
      scopes.toList.Pairwise (· < ·) ∧
      ({ s with scopes } : Store τ).get? .scope = (if scopes.toList = [] then none else some (" ".intercalate scopes.toList)) ∧
      TravelIn scopes (" ".intercalate scopes.toList) := by
  have hadds := Store.AddsScopes.each (f := WriteCall.act (τ := τ)) fun call hcall => (h call hcall).adds
  refine ⟨_, hadds s, ?_⟩
  rw [hs]
  generalize hscopes : (∅ : Scopes).insertAll _ = scopes
  have hmem : ∀ x, x ∈ scopes.toList ↔ ∃ call ∈ calls, ∃ item ∈ call.items, IsWord x item.2.display := by
    intro x
    rw [← hscopes, Scopes.mem_insertAll, or_iff_left Scopes.not_mem_empty, List.mem_flatMap]
    simp only [List.mem_flatMap, mem_words]
  refine ⟨hmem, scopes.increasing, ?_, travelIn_intercalate fun x hx => ?_⟩
  · simp [Store.get?, Scopes.isEmpty, Scopes.join]
  · obtain ⟨call, -, item, -, hword⟩ := (hmem x).mp hx
    exact hword.no_blank

/-- Scopes with a wide blank, a line break and a repetition among them, written in two ways. -/
def spacedOut : List WriteCall :=
  [.insert (.name (.str "scope")) (.str "User.Read\u2003 Mail.Send "), .extend (.pairs [(.parameter .scope, .str "openid\nUser.Read")])]

/-- The members of a response with these scopes. -/
def spacedOutResponse : List (String × Json) :=
  [("access_token", .str "a"), ("token_type", .str "Bearer"), ("expires_in", .int 3600), ("scope", .str "Mail.Send User.Read openid")]

/-- The scopes arrive in the token. -/
theorem scopes_travel_spacedOut :
    ∃ scopes : Scopes, Act.each WriteCall.act spacedOut (Store.empty : Store Nat) = ⟨.ok (), { Store.empty with scopes }, []⟩ ∧
      scopes.toList = ["Mail.Send", "User.Read", "openid"] ∧
      ∃ t, Token.ofJson 0 (.obj spacedOutResponse) = .ok t ∧
        t.values .scope = .arr [.str "Mail.Send", .str "User.Read", .str "openid"] := by
  obtain ⟨scopes, hrun, -, -, -, htravel⟩ :=
    scopes_travel (τ := Nat) spacedOut (List.forall_mem_cons.mpr ⟨List.forall_mem_singleton.mpr rfl,
      List.forall_mem_singleton.mpr (List.forall_mem_singleton.mpr rfl)⟩) Store.empty rfl
  have hscopes : scopes.toList = ["Mail.Send", "User.Read", "openid"] :=
    (congrArg (fun run => run.state.scopes.toList) hrun).symm.trans (by rfl)
  refine ⟨scopes, hrun, hscopes, ?_⟩
  rw [hscopes] at htravel
  rw [htravel.token 0 spacedOutResponse rfl, hscopes]
  exact ⟨_, rfl, rfl⟩

end OAuthClient
