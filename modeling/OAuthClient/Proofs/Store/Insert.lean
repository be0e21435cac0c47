import OAuthClient.Proofs.Act
import OAuthClient.Store.Basic

/-!
# Setting a parameter

What `insert` and `entryWith` can do: add scopes, set a value that passes the check of its parameter, or refuse it and leave the
store as it is.
-/

namespace OAuthClient.Store

variable {τ : Type} {p : Parameter} {v : String}

/-- A parameter takes a value when it is no URL or the value passes the check of URLs. -/
def Accepts (p : Parameter) (v : String) : Prop :=
  p.isUrl = true → checkUrl p v = .ok ()

/-- A parameter that is no URL takes every value. -/
theorem accepts_of_not_isUrl (h : p.isUrl = false) (v : String) : Accepts p v := by
  intro hurl
  rw [h] at hurl
  cases hurl

/-- Whether a parameter takes a value can be checked. -/
theorem accepts_iff (p : Parameter) (v : String) : Accepts p v ↔ (p.isUrl && !(checkUrl p v).isOk) = false := by
  rw [Accepts]
  cases p.isUrl with
  | false => simp
  | true => cases checkUrl p v <;> simp [Except.isOk, Except.toBool]

/-- A text is short enough for a URL and has no control character. -/
def FitsUrl (v : String) : Prop :=
  v.length ≤ Uri.maxLength ∧ v.toList.any Uri.isControl = false

/-- A parameter that is a URL takes what is read as a URL reference with a scheme. -/
theorem accepts_iff_read (hurl : p.isUrl = true) :
    Accepts p v ↔ ∃ r, Uri.Reference.read Uri.isHostName v.toList = .ok r ∧ r.scheme ≠ [] := by
  rw [Accepts, checkUrl]
  cases Uri.Reference.read Uri.isHostName v.toList with
  | error flaw => simp [hurl]
  | ok r => simp [hurl]

/-- A URL that a parameter takes is read as a URL reference with a scheme. -/
theorem read_of_accepts {p : Parameter} {v : String} (hurl : p.isUrl = true) (h : Accepts p v) :
    ∃ r, Uri.Reference.read Uri.isHostName v.toList = .ok r ∧ r.scheme ≠ [] :=
  (accepts_iff_read hurl).mp h

/-- A URL that is refused is refused as an invalid one. -/
theorem invalidUrl_of_checkUrl {f : Failure} (h : checkUrl p v = .error f) : ∃ cause, f = .invalidUrl p.wireName v cause := by
  unfold checkUrl at h
  split at h
  · cases h
    exact ⟨_, rfl⟩
  · split at h <;> cases h
    exact ⟨_, rfl⟩

/-- What the log is told when a parameter is set. -/
def setRecord (p : Parameter) (v : String) : Log.Record :=
  ⟨.debug, Log.storeLogger, setMessage p v⟩

/-- Setting the scope adds the words of the value. -/
theorem insert_scope (v : String) (s : Store τ) :
    insert .scope v s = ⟨.ok (), { s with scopes := s.scopes.insertAll (Text.words v) }, []⟩ := rfl

/-- A value that its parameter takes is set. -/
theorem insert_of_accepts (hscope : p ≠ .scope) (h : Accepts p v) (s : Store τ) :
    insert p v s = ⟨.ok (), s.setValue p v, [setRecord p v]⟩ := by
  rw [insert, if_neg hscope]
  by_cases hurl : p.isUrl = true
  · rw [if_pos hurl, h hurl]
    rfl
  · rw [if_neg hurl]
    rfl

/-- A value that its parameter refuses leaves the store as it is. -/
theorem insert_of_refused {f : Failure} (hurl : p.isUrl = true) (h : checkUrl p v = .error f) (s : Store τ) :
    insert p v s = ⟨.error (.failure f), s, []⟩ := by
  have hscope : p ≠ .scope := by
    rintro rfl
    cases hurl
  rw [insert, if_neg hscope, if_pos hurl, h]
  rfl

/-- A value that its parameter refuses is an invalid URL, and the store stays as it is. -/
theorem insert_error_of_refused (h : ¬ Accepts p v) (s : Store τ) :
    ∃ cause, insert p v s = ⟨.error (.failure (.invalidUrl p.wireName v cause)), s, []⟩ := by
  rw [Accepts, Classical.not_imp] at h
  obtain ⟨hurl, hcheck⟩ := h
  cases hf : checkUrl p v with
  | ok u => exact absurd hf hcheck
  | error f =>
    obtain ⟨cause, rfl⟩ := invalidUrl_of_checkUrl hf
    exact ⟨cause, insert_of_refused hurl hf s⟩

/-- All that setting a parameter can come to. -/
theorem insert_cases (p : Parameter) (v : String) (s : Store τ) :
    (p = .scope ∧ insert p v s = ⟨.ok (), { s with scopes := s.scopes.insertAll (Text.words v) }, []⟩) ∨
    (p ≠ .scope ∧ Accepts p v ∧ insert p v s = ⟨.ok (), s.setValue p v, [setRecord p v]⟩) ∨
    (∃ f, checkUrl p v = .error f ∧ insert p v s = ⟨.error (.failure f), s, []⟩) := by
  by_cases hscope : p = .scope
  · subst hscope
    exact Or.inl ⟨rfl, insert_scope v s⟩
  by_cases h : Accepts p v
  · exact Or.inr (Or.inl ⟨hscope, h, insert_of_accepts hscope h s⟩)
  · rw [Accepts, Classical.not_imp] at h
    obtain ⟨hurl, hcheck⟩ := h
    cases hf : checkUrl p v with
    | ok u => exact absurd hf hcheck
    | error f => exact Or.inr (Or.inr ⟨f, rfl, insert_of_refused hurl hf s⟩)

/-- A value that its parameter takes is no failure. -/
theorem insert_ok_of_accepts (h : Accepts p v) (s : Store τ) : ∃ s' records, insert p v s = ⟨.ok (), s', records⟩ := by
  by_cases hscope : p = .scope
  · subst hscope
    exact ⟨_, _, insert_scope v s⟩
  · exact ⟨_, _, insert_of_accepts hscope h s⟩

/-- A value is set exactly when its parameter takes it. -/
theorem result_insert_ok_iff (s : Store τ) : (insert p v s).result = .ok () ↔ Accepts p v := by
  by_cases haccepts : Accepts p v
  · obtain ⟨s', records, hrun⟩ := insert_ok_of_accepts haccepts s
    simp [hrun, haccepts]
  · obtain ⟨cause, hrun⟩ := insert_error_of_refused haccepts s
    simp [hrun, haccepts]

/-- Different parameters can be set in any order. -/
theorem setValue_comm {q : Parameter} (h : p ≠ q) (v w : String) (s : Store τ) :
    (s.setValue p v).setValue q w = (s.setValue q w).setValue p v := by
  simp only [setValue, Store.mk.injEq, and_true]
  funext r
  by_cases hp : r = p
  · subst hp
    simp [h]
  · simp [hp]

/-- A parameter that is set keeps its value. -/
theorem entryWith_of_contains {s : Store τ} (h : s.contains p = true) (v : String) :
    entryWith p v s = ⟨.ok ((s.get? p).getD ""), s, []⟩ := by
  rw [entryWith, Act.bind_of_ok (Act.get_apply s), h]
  rfl

/-- A parameter that is not set is set as `insert` sets it. -/
theorem entryWith_of_not_contains {s : Store τ} (h : s.contains p = false) (v : String) :
    entryWith p v s = (insert p v >>= fun _ => Act.get >>= fun s => pure ((s.get? p).getD "")) s := by
  rw [entryWith, Act.bind_of_ok (Act.get_apply s), h]
  rfl

end OAuthClient.Store
