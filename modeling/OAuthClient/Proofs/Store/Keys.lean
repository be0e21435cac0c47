import OAuthClient.Proofs.Act.Atomic
import OAuthClient.Proofs.Store.Insert
import OAuthClient.Session.Key

/-!
# Setting parameters by keys

Setting one parameter, or filling one in, is all or nothing: a key that names no parameter and a text that its parameter refuses leave
the store as it was. Setting several is setting them one after another, up to the first that fails, whether they come as pairs or as a
mapping, and what the ones before it have left stays.
-/

namespace OAuthClient

namespace Store

variable {τ : Type} {key : Key} {p : Parameter} {v : Json}

/-! ## One parameter -/

/-- A key and a value are refused: the key names no parameter, or its parameter does not take the text of the value. -/
inductive Refuses (key : Key) (v : Json) : Fault → Prop
  | unnamed {fault : Fault} (h : key.read = .error fault) : Refuses key v fault
  | url {p : Parameter} {f : Failure} (hkey : key.read = .ok p) (hurl : p.isUrl = true)
    (h : checkUrl p v.display = .error f) : Refuses key v (.failure f)

/-- A key that names a parameter sets and fills in this parameter. -/
theorem insertBy_of_read (h : key.read = .ok p) (v : Json) :
    (insertBy key v : Act (Store τ) Unit) = insert p v.display ∧
      (entryWithBy key v : Act (Store τ) String) = entryWith p v.display := by
  constructor
  · rw [insertBy, h]
    rfl
  · rw [entryWithBy, h]
    rfl

/-- A key that names no parameter sets nothing. -/
theorem insertBy_of_unnamed {fault : Fault} (h : key.read = .error fault) (v : Json) (s : Store τ) :
    insertBy key v s = ⟨.error fault, s, []⟩ ∧ entryWithBy key v s = ⟨.error fault, s, []⟩ := by
  constructor
  · rw [insertBy, h]
    rfl
  · rw [entryWithBy, h]
    rfl

/-- Setting a parameter is all or nothing. -/
theorem insert_atomic (p : Parameter) (v : String) : (insert p v : Act (Store τ) Unit).Atomic := by
  intro s fault hfault
  rcases insert_cases p v s with ⟨-, hrun⟩ | ⟨-, -, hrun⟩ | ⟨f, -, hrun⟩ <;> rw [hrun] at hfault <;> cases hfault
  exact hrun

/-- Filling in a parameter is all or nothing. -/
theorem entryWith_atomic (p : Parameter) (v : String) : (entryWith p v : Act (Store τ) String).Atomic := by
  intro s fault hfault
  cases hset : s.contains p with
  | true =>
    rw [entryWith_of_contains hset] at hfault
    cases hfault
  | false =>
    rw [entryWith_of_not_contains hset] at hfault ⊢
    exact (insert_atomic p v).then (fun _ _ => ⟨_, rfl⟩) s fault hfault

/-- Setting the parameter that a key names is all or nothing. -/
theorem insertBy_atomic (key : Key) (v : Json) : (insertBy key v : Act (Store τ) Unit).Atomic :=
  .behind fun p _ => insert_atomic p v.display

/-- Filling in the parameter that a key names is all or nothing. -/
theorem entryWithBy_atomic (key : Key) (v : Json) : (entryWithBy key v : Act (Store τ) String).Atomic :=
  .behind fun p _ => entryWith_atomic p v.display

/-- A parameter is not set exactly when it is a URL and the text is refused by the check of URLs. -/
theorem insert_error_iff {text : String} (s : Store τ) (fault : Fault) :
    (insert p text s).result = .error fault ↔ p.isUrl = true ∧ ∃ f, checkUrl p text = .error f ∧ fault = .failure f := by
  constructor
  · intro h
    by_cases haccepts : Accepts p text
    · obtain ⟨s', records, hrun⟩ := insert_ok_of_accepts haccepts s
      rw [hrun] at h
      cases h
    · rw [Accepts, Classical.not_imp] at haccepts
      obtain ⟨hurl, hcheck⟩ := haccepts
      cases hf : checkUrl p text with
      | ok u => exact absurd hf hcheck
      | error f =>
        rw [insert_of_refused hurl hf] at h
        exact ⟨hurl, f, rfl, (Except.error.inj h).symm⟩
  · rintro ⟨hurl, f, hcheck, rfl⟩
    rw [insert_of_refused hurl hcheck]

/-- Setting the parameter that a key names fails exactly when the key and the value are refused. -/
theorem insertBy_error_iff (s : Store τ) (fault : Fault) : (insertBy key v s).result = .error fault ↔ Refuses key v fault := by
  cases hkey : key.read with
  | error f =>
    rw [(insertBy_of_unnamed hkey v s).1]
    constructor
    · intro h
      cases h
      exact .unnamed hkey
    · rintro (h | ⟨h, -, -⟩) <;> rw [hkey] at h <;> cases h
      rfl
  | ok p =>
    rw [(insertBy_of_read hkey v).1, insert_error_iff]
    constructor
    · rintro ⟨hurl, f, hcheck, rfl⟩
      exact .url hkey hurl hcheck
    · rintro (h | ⟨h, hurl, hcheck⟩) <;> rw [hkey] at h <;> cases h
      exact ⟨hurl, _, hcheck, rfl⟩

/-- Filling in the parameter that a key names fails exactly when the key and the value are refused and the parameter, if there is one,
is not set. -/
theorem entryWithBy_error_iff (s : Store τ) (fault : Fault) : (entryWithBy key v s).result = .error fault ↔
    Refuses key v fault ∧ ∀ p, key.read = .ok p → s.contains p = false := by
  rw [← insertBy_error_iff s]
  cases hkey : key.read with
  | error f =>
    rw [(insertBy_of_unnamed hkey v s).1, (insertBy_of_unnamed hkey v s).2]
    exact ⟨fun h => ⟨congrArg Except.error (Except.error.inj h), nofun⟩, fun h => congrArg Except.error (Except.error.inj h.1)⟩
  | ok p =>
    rw [(insertBy_of_read hkey v).1, (insertBy_of_read hkey v).2]
    cases hset : s.contains p with
    | true =>
      rw [entryWith_of_contains hset]
      refine ⟨nofun, fun h => ?_⟩
      rw [h.2 p rfl] at hset
      cases hset
    | false =>
      rw [entryWith_of_not_contains hset]
      rcases hrun : insert p v.display s with ⟨result, s', records⟩
      cases result with
      | ok u =>
        -- reading the value that is there afterwards never fails
        rw [Act.bind_of_ok hrun]
        exact ⟨nofun, fun h => nomatch h.1⟩
      | error f =>
        rw [Act.bind_of_error hrun]
        have hnotSet : ∀ q, Except.ok (ε := Fault) p = .ok q → s.contains q = false := by
          rintro q ⟨⟩
          exact hset
        exact ⟨fun h => ⟨congrArg Except.error (Except.error.inj h), hnotSet⟩,
          fun h => congrArg Except.error (Except.error.inj h.1)⟩

/-! ## Several parameters -/

/-- Parameters are set one after another, each on what the ones before it have left, and none is refused. -/
def OneByOne (s : Store τ) (items : List (Key × Json)) (s' : Store τ) : Prop :=
  Act.Done (fun item => insertBy item.1 item.2) s items s'

/-- All that setting several parameters comes to. -/
structure SetsInOrder (values : Values) (s : Store τ) : Prop where
  /-- Parameters that can be set one after another are set so. -/
  done : ∀ s', OneByOne s values.items s' → (extendBy values s).result = .ok () ∧ (extendBy values s).state = s'
  /-- The first one that fails is the end, with its fault, and leaves what setting those before it leaves. -/
  stopped : ∀ before key v after s' fault, values.items = before ++ (key, v) :: after → OneByOne s before s' →
    (insertBy key v s').result = .error fault →
      (extendBy values s).result = .error fault ∧ (extendBy values s).state = s' ∧
        ∀ first : Values, first.items = before → (extendBy first s).result = .ok () ∧ (extendBy first s).state = s'
  /-- Either all can be set, or there is a first one that fails. -/
  cases : (∃ s', OneByOne s values.items s') ∨ ∃ before key v after s' fault, values.items = before ++ (key, v) :: after ∧
    OneByOne s before s' ∧ (insertBy key v s').result = .error fault
  /-- Setting some and, when that succeeds, setting others is setting all of them. -/
  append : ∀ first rest : Values, values.items = first.items ++ rest.items →
    extendBy values s = (extendBy first >>= fun _ => extendBy rest) s

/-- Pairs and mappings are set in order. -/
theorem setsInOrder (values : Values) (s : Store τ) : SetsInOrder values s where
  done s' h := Act.Done.each h
  stopped before key v after s' fault hitems h hfault := by
    obtain ⟨hresult, hstate⟩ := Act.Done.stop (a := (key, v)) (insertBy_atomic key v) h hfault after
    rw [extendBy, hitems]
    refine ⟨hresult, hstate, fun first hfirst => ?_⟩
    rw [extendBy, hfirst]
    exact Act.Done.each h
  cases := by
    rcases Act.done_or_stop (fun item : Key × Json => insertBy item.1 item.2) values.items s with
      hdone | ⟨before, ⟨key, v⟩, after, s', fault, hitems, hdone, hfault⟩
    · exact Or.inl hdone
    · exact Or.inr ⟨before, key, v, after, s', fault, hitems, hdone, hfault⟩
  append first rest hitems := by
    rw [extendBy, hitems, Act.each_append]
    rfl

end Store

end OAuthClient
