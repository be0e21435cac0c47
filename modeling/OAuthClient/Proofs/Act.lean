import OAuthClient.Act

/-!
# How acts run

What each building block of an act gives and which state it leaves, and the properties of the state that an act preserves. An act
preserves a property, whatever its result is, as soon as every part of it does: a fault stops an act in a state that its parts
have preserved.
-/

namespace OAuthClient.Act

variable {σ τ α β γ : Type}

/-! ## Results and states -/

@[simp] theorem pure_apply (a : α) (s : σ) : (pure a : Act σ α) s = ⟨.ok a, s, []⟩ := rfl

@[simp] theorem return_apply (a : α) (s : σ) : (Pure.pure a : Act σ α) s = ⟨.ok a, s, []⟩ := rfl

@[simp] theorem fail_apply (f : Fault) (s : σ) : (fail f : Act σ α) s = ⟨.error f, s, []⟩ := rfl

@[simp] theorem ofExcept_apply (result : Except Fault α) (s : σ) : (ofExcept result : Act σ α) s = ⟨result, s, []⟩ := rfl

@[simp] theorem get_apply (s : σ) : (get : Act σ σ) s = ⟨.ok s, s, []⟩ := rfl

@[simp] theorem modify_apply (f : σ → σ) (s : σ) : modify f s = ⟨.ok (), f s, []⟩ := rfl

@[simp] theorem tell_apply (level : Log.Level) (logger message : String) (s : σ) :
    tell level logger message s = ⟨.ok (), s, [⟨level, logger, message⟩]⟩ := rfl

/-- After an act that gives a value, the next one runs on the state it left. -/
theorem bind_of_ok {act : Act σ α} {s s' : σ} {a : α} {records : List Log.Record} (h : act s = ⟨.ok a, s', records⟩)
    (next : α → Act σ β) :
    (act >>= next) s = ⟨(next a s').result, (next a s').state, records ++ (next a s').records⟩ := by
  show Act.bind act next s = _
  rw [Act.bind, h]

/-- After an act that ends in a fault, nothing runs. -/
theorem bind_of_error {act : Act σ α} {s s' : σ} {f : Fault} {records : List Log.Record}
    (h : act s = ⟨.error f, s', records⟩) (next : α → Act σ β) : (act >>= next) s = ⟨.error f, s', records⟩ := by
  show Act.bind act next s = _
  rw [Act.bind, h]

/-- In a row of acts the rest runs on the state that the first one left. -/
theorem each_cons_of_ok {f : α → Act σ Unit} {a : α} {s s' : σ} {records : List Log.Record}
    (h : f a s = ⟨.ok (), s', records⟩) (l : List α) :
    each f (a :: l) s = ⟨(each f l s').result, (each f l s').state, records ++ (each f l s').records⟩ :=
  bind_of_ok h _

/-- An act with its value changed on the way. -/
theorem bind_pure_apply (act : Act σ α) (g : α → β) (s : σ) :
    (act >>= fun a => Act.pure (g a)) s = ⟨(act s).result.map g, (act s).state, (act s).records⟩ := by
  rcases h : act s with ⟨result, s', records⟩
  cases result with
  | ok a =>
    rw [bind_of_ok h, pure_apply, List.append_nil]
    rfl
  | error f =>
    rw [bind_of_error h]
    rfl

/-- A result that was changed on the way is the change of a result. -/
theorem exists_of_map_ok {ε : Type} {result : Except ε α} {g : α → β} {b : β} (h : result.map g = .ok b) :
    ∃ a, result = .ok a ∧ g a = b := by
  cases result with
  | ok a => exact ⟨a, rfl, Except.ok.inj h⟩
  | error e => cases h

/-- A result whose failures were changed on the way is there as it was. -/
theorem of_mapError_ok {ε ε' : Type} {result : Except ε α} {f : ε → ε'} {a : α} (h : result.mapError f = .ok a) :
    result = .ok a := by
  cases result with
  | ok b => exact congrArg Except.ok (Except.ok.inj h)
  | error e => cases h

/-- The result of two acts in a row. -/
theorem result_bind (act : Act σ α) (next : α → Act σ β) (s : σ) :
    ((act >>= next) s).result = (act s).result.bind fun a => (next a (act s).state).result := by
  rcases h : act s with ⟨result, s', records⟩
  cases result with
  | ok a => rw [bind_of_ok h]; rfl
  | error f => rw [bind_of_error h]; rfl

/-- A fault of two acts in a row is one of the first, or one of the second behind the first. -/
theorem error_of_bind {act : Act σ α} {next : α → Act σ β} {s : σ} {f : Fault} (h : ((act >>= next) s).result = .error f) :
    (act s).result = .error f ∨ ∃ a, (act s).result = .ok a ∧ (next a (act s).state).result = .error f := by
  rw [result_bind] at h
  cases hact : (act s).result with
  | error f' =>
    rw [hact] at h
    cases h
    exact Or.inl rfl
  | ok a =>
    rw [hact] at h
    exact Or.inr ⟨a, rfl, h⟩

/-- An act that does not fail gives its value as a result without a failure. -/
theorem result_attempt_of_ok {act : Act σ α} {s : σ} {a : α} (h : (act s).result = .ok a) :
    (attempt act s).result = .ok (.ok a) := by
  unfold attempt
  dsimp only
  rw [h]

/-- An act that fails with one of the library's failures gives that failure as its result. -/
theorem result_attempt_of_failure {act : Act σ α} {s : σ} {f : Failure} (h : (act s).result = .error (.failure f)) :
    (attempt act s).result = .ok (.error f) := by
  unfold attempt
  dsimp only
  rw [h]

/-! ## Acts in a row -/

theorem each_nil (f : α → Act σ Unit) : each f [] = Pure.pure () := rfl

theorem each_cons (f : α → Act σ Unit) (a : α) (l : List α) : each f (a :: l) = f a >>= fun _ => each f l := rfl

/-- Only the order of acts matters, not how they are grouped. -/
theorem bind_bind (act : Act σ α) (next : α → Act σ β) (rest : β → Act σ γ) :
    act >>= next >>= rest = act >>= fun a => next a >>= rest := by
  funext s
  rcases h : act s with ⟨result, s', records⟩
  cases result with
  | error f => rw [bind_of_error h, bind_of_error (bind_of_error h next)]
  | ok a =>
    have hboth := bind_of_ok h next
    rw [bind_of_ok h]
    rcases hnext : next a s' with ⟨result, s'', records'⟩
    rw [hnext] at hboth
    cases result with
    | error f => rw [bind_of_error hboth, bind_of_error hnext]
    | ok b => rw [bind_of_ok hboth, bind_of_ok hnext, List.append_assoc]

/-- Acts are put in a row as in any other monad. -/
instance : LawfulMonad (Act σ) := LawfulMonad.mk' (Act σ)
  (by
    intro α act
    funext s
    show (act >>= fun a => Act.pure a) s = act s
    rw [bind_pure_apply]
    rcases act s with ⟨result, s', records⟩
    cases result <;> rfl)
  (by
    intro α β a next
    funext s
    exact bind_of_ok (pure_apply a s) next)
  bind_bind

/-- Two rows of acts are one. -/
theorem each_append (f : α → Act σ Unit) (l l' : List α) : each f (l ++ l') = each f l >>= fun _ => each f l' := by
  induction l with
  | nil => rw [each_nil, pure_bind]; rfl
  | cons a l ih => rw [List.cons_append, each_cons, each_cons, ih, bind_assoc]

/-- A row of acts for the images of things is a row of acts for the things. -/
theorem each_map (f : β → Act σ Unit) (g : α → β) (l : List α) : each f (l.map g) = each (fun a => f (g a)) l := by
  induction l with
  | nil => rfl
  | cons a l ih => rw [List.map_cons, each_cons, each_cons, ih]

/-- The state that an act leaves, unless it fails. -/
def leaves (act : Act σ Unit) (s : σ) : Except Fault σ :=
  (act s).result.map fun _ => (act s).state

/-- What runs behind an act runs on the state that it leaves. -/
theorem result_behind (act : Act σ Unit) (next : Unit → Act σ β) (s : σ) :
    ((act >>= next) s).result = (act.leaves s).bind fun s' => (next () s').result := by
  rw [result_bind, leaves]
  cases (act s).result <;> rfl

/-- An act leaves what it leaves behind another one. -/
theorem leaves_bind (act : Act σ Unit) (next : Unit → Act σ Unit) (s : σ) :
    (act >>= next).leaves s = (act.leaves s).bind (next ()).leaves := by
  rcases h : act s with ⟨result, s', records⟩
  rw [leaves, leaves, h]
  cases result with
  | ok a => rw [bind_of_ok h]; rfl
  | error f => rw [bind_of_error h]; rfl

/-- A row of acts leaves what the last one leaves, one behind another. -/
theorem leaves_each (f : α → Act σ Unit) (l : List α) (s : σ) :
    (each f l).leaves s = l.foldl (fun left a => left.bind (f a).leaves) (.ok s) := by
  have hrow : ∀ left : Except Fault σ, left.bind (each f l).leaves = l.foldl (fun left a => left.bind (f a).leaves) left := by
    induction l with
    | nil =>
      intro left
      cases left <;> rfl
    | cons a l ih =>
      intro left
      rw [List.foldl_cons, ← ih]
      cases left with
      | error f => rfl
      | ok s => exact leaves_bind (f a) (fun _ => each f l) s
  exact hrow (.ok s)

/-! ## What acts preserve -/

/-- An act preserves a property of the state when the state it leaves has it whenever the state it starts from has. -/
def Preserves (I : σ → Prop) (act : Act σ α) : Prop :=
  ∀ s, I s → I (act s).state

variable {I : σ → Prop}

namespace Preserves

/-- An act that leaves the state as it is preserves every property. -/
theorem of_state_eq {act : Act σ α} (h : ∀ s, (act s).state = s) : act.Preserves I := by
  intro s hs
  rw [h s]
  exact hs

theorem pure (a : α) : (Act.pure a : Act σ α).Preserves I := fun _ hs => hs

theorem fail (f : Fault) : (Act.fail f : Act σ α).Preserves I := fun _ hs => hs

theorem ofExcept (result : Except Fault α) : (Act.ofExcept result : Act σ α).Preserves I := fun _ hs => hs

theorem get : (Act.get : Act σ σ).Preserves I := fun _ hs => hs

theorem modify {f : σ → σ} (h : ∀ s, I s → I (f s)) : (Act.modify f).Preserves I := h

/-- Two acts in a row preserve what each of them preserves. -/
theorem bind {act : Act σ α} {next : α → Act σ β} (h : act.Preserves I) (hn : ∀ a, (next a).Preserves I) :
    (act >>= next).Preserves I := by
  intro s hs
  have hact := h s hs
  rcases hr : act s with ⟨result, s', records⟩
  rw [hr] at hact
  cases result with
  | ok a =>
    rw [bind_of_ok hr]
    exact hn a s' hact
  | error f =>
    rw [bind_of_error hr]
    exact hact

/-- The second act may rely on what the first one found in the state. -/
theorem get_bind {next : σ → Act σ β} (h : ∀ s, I s → I (next s s).state) : (Act.get >>= next).Preserves I := by
  intro s hs
  rw [bind_of_ok (get_apply s)]
  exact h s hs

/-- An act behind a computation that may fail may rely on what the computation gave. -/
theorem ofExcept_bind {result : Except Fault α} {next : α → Act σ β} {s : σ} (hs : I s)
    (h : ∀ a, result = .ok a → I (next a s).state) : I ((Act.ofExcept result >>= next) s).state := by
  cases result with
  | ok a =>
    rw [bind_of_ok (ofExcept_apply (.ok a) s)]
    exact h a rfl
  | error f => exact hs

/-- What comes behind a computation that may fail may rely on what the computation gave, in every state. -/
theorem behind {result : Except Fault α} {next : α → Act σ β} (h : ∀ a, result = .ok a → (next a).Preserves I) :
    (Act.ofExcept result >>= next).Preserves I :=
  fun s hs => ofExcept_bind hs fun a ha => h a ha s hs

/-- Changing the value that an act gives changes nothing about the state that it leaves. -/
theorem bind_pure {act : Act σ α} {g : α → β} {s : σ} (h : I (act s).state) :
    I ((act >>= fun a => Act.pure (g a)) s).state := by
  rw [bind_pure_apply]
  exact h

/-- A row of acts preserves what each of them preserves. -/
theorem each {f : α → Act σ Unit} {l : List α} (h : ∀ a ∈ l, (f a).Preserves I) : (Act.each f l).Preserves I := by
  induction l with
  | nil => exact pure ()
  | cons a l ih => exact bind (h a (by simp)) fun _ => ih fun b hb => h b (List.mem_cons_of_mem _ hb)

/-- What is done with a text, where one is given that is not empty, preserves a property together with what follows. -/
theorem given {text : Option String} {act : String → Act σ α} {next : Act σ β} (h : ∀ t, (act t).Preserves I)
    (hn : next.Preserves I) :
    Preserves I (match text with
      | some t => if t ≠ "" then act t >>= fun _ => next else next
      | none => Act.pure () >>= fun _ => next) := by
  cases text with
  | some t =>
    dsimp only
    split
    · exact bind (h t) fun _ => hn
    · exact hn
  | none => exact bind (pure ()) fun _ => hn

/-- An act on a part of a state preserves a property when the part it leaves, put back, has it. -/
theorem within {part : τ → σ} {put : σ → τ → τ} {act : Act σ α} {J : τ → Prop}
    (h : ∀ t, J t → J (put (act (part t)).state t)) : (Act.within part put act).Preserves J := h

/-- Keeping failures as results changes nothing about the state. -/
theorem attempt {act : Act σ α} (h : act.Preserves I) : (Act.attempt act).Preserves I := by
  intro s hs
  have hact := h s hs
  unfold Act.attempt
  dsimp only
  split <;> exact hact

end Preserves

end OAuthClient.Act
