import Mathlib.Data.List.Forall2
import OAuthClient.Proofs.Act

/-!
# Acts that run alike

Two acts run alike, on states that are related, when they tell the log the same, leave states that are related, and both give values
that are related or both end in faults that are. Acts that are put together from acts that run alike run alike.
-/

namespace OAuthClient

variable {σ τ α β : Type}

/-- Nothing is asked of two values. -/
def Whatever {α : Type} (_ _ : α) : Prop := True

instance {α : Type} : Std.Refl (Whatever (α := α)) := ⟨fun _ => trivial⟩

/-- Two results are alike: values that are related, or faults that are. -/
inductive ResultAlike (E : Fault → Fault → Prop) (Q : α → α → Prop) : Except Fault α → Except Fault α → Prop where
  | ok {a a' : α} (h : Q a a') : ResultAlike E Q (.ok a) (.ok a')
  | error {f f' : Fault} (h : E f f') : ResultAlike E Q (.error f) (.error f')

/-- Two runs are alike. -/
structure Run.Alike (R : σ → σ → Prop) (E : Fault → Fault → Prop) (Q : α → α → Prop) (run run' : Run σ α) : Prop where
  records : run.records = run'.records
  state : R run.state run'.state
  result : ResultAlike E Q run.result run'.result

/-- Two acts run alike on states that are related. -/
def Act.Alike (R : σ → σ → Prop) (E : Fault → Fault → Prop) (Q : α → α → Prop) (act act' : Act σ α) : Prop :=
  ∀ s s', R s s' → Run.Alike R E Q (act s) (act' s')

variable {R : σ → σ → Prop} {E E' : Fault → Fault → Prop} {Q Q' : α → α → Prop} {P : β → β → Prop}

namespace ResultAlike

/-- A result is like itself when values and faults are. -/
theorem refl [Std.Refl E] [Std.Refl Q] (result : Except Fault α) : ResultAlike E Q result result := by
  cases result with
  | ok a => exact .ok (Std.Refl.refl a)
  | error f => exact .error (Std.Refl.refl f)

/-- Results are alike in a weaker sense. -/
theorem mono {result result' : Except Fault α} (h : ResultAlike E Q result result') (hQ : ∀ a a', Q a a' → Q' a a')
    (hE : ∀ f f', E f f' → E' f f') : ResultAlike E' Q' result result' := by
  cases h with
  | ok h => exact .ok (hQ _ _ h)
  | error h => exact .error (hE _ _ h)

/-- Results are alike when the faults are left out of account. -/
theorem anyFault {result result' : Except Fault α} (h : ResultAlike E Q result result') : ResultAlike Whatever Q result result' :=
  h.mono (fun _ _ hQ => hQ) fun _ _ _ => trivial

/-- Results are alike after a computation that keeps them alike. -/
theorem bind {next next' : α → Except Fault β} {result result' : Except Fault α} (h : ResultAlike E Q result result')
    (hnext : ∀ a a', Q a a' → ResultAlike E P (next a) (next' a')) : ResultAlike E P (result.bind next) (result'.bind next') := by
  cases h with
  | ok h => exact hnext _ _ h
  | error h => exact .error h

end ResultAlike

/-- A result that keeps failures as values is alike: values that are related, or the same failure. -/
inductive TargetAlike (Q : α → α → Prop) : Except Failure α → Except Failure α → Prop where
  | ok {a a' : α} (h : Q a a') : TargetAlike Q (.ok a) (.ok a')
  | error (f : Failure) : TargetAlike Q (.error f) (.error f)

namespace TargetAlike

/-- Results are alike after a computation that keeps them alike. -/
theorem bind {next next' : α → Except Failure β} {target target' : Except Failure α} (h : TargetAlike Q target target')
    (hnext : ∀ a a', Q a a' → TargetAlike P (next a) (next' a')) : TargetAlike P (target >>= next) (target' >>= next') := by
  cases h with
  | ok h => exact hnext _ _ h
  | error f => exact .error f

/-- Results that are alike stay so when their failures become faults. -/
theorem mapError [Std.Refl E] {target target' : Except Failure α} (h : TargetAlike Q target target') :
    ResultAlike E Q (target.mapError Fault.failure) (target'.mapError Fault.failure) := by
  cases h with
  | ok h => exact .ok h
  | error f => exact .error (Std.Refl.refl _)

end TargetAlike

/-- Two optional values are there or not, whatever they are. -/
theorem option_rel_of_isSome {o o' : Option α} (h : o.isSome = o'.isSome) : Option.Rel Whatever o o' := by
  cases o with
  | none =>
    cases o' with
    | none => exact .none
    | some _ => cases h
  | some _ =>
    cases o' with
    | none => cases h
    | some _ => exact .some trivial

/-- Two optional values that are related are both there or both not. -/
theorem option_rel_cases {o o' : Option α} (h : Option.Rel Q o o') :
    (o = none ∧ o' = none) ∨ ∃ a a', o = some a ∧ o' = some a' ∧ Q a a' := by
  cases h with
  | none => exact Or.inl ⟨rfl, rfl⟩
  | some h => exact Or.inr ⟨_, _, rfl, rfl, h⟩

namespace Act.Alike

theorem pure {a a' : α} (h : Q a a') : Alike R E Q (Act.pure a) (Act.pure a') :=
  fun _ _ hs => ⟨rfl, hs, .ok h⟩

theorem fail {f f' : Fault} (h : E f f') : Alike R E Q (Act.fail f) (Act.fail f') :=
  fun _ _ hs => ⟨rfl, hs, .error h⟩

theorem ofExcept {result result' : Except Fault α} (h : ResultAlike E Q result result') :
    Alike R E Q (Act.ofExcept result) (Act.ofExcept result') :=
  fun _ _ hs => ⟨rfl, hs, h⟩

/-- The same computation gives the same value or ends in the same fault. -/
theorem same [Std.Refl E] (result : Except Fault α) : Alike R E Eq (Act.ofExcept result) (Act.ofExcept result) :=
  ofExcept (.refl result)

theorem get : Alike R E R Act.get Act.get :=
  fun _ _ hs => ⟨rfl, hs, .ok hs⟩

theorem tell (level : Log.Level) (logger message : String) :
    Alike R E Eq (Act.tell level logger message) (Act.tell level logger message) :=
  fun _ _ hs => ⟨rfl, hs, .ok rfl⟩

theorem modify {f f' : σ → σ} (h : ∀ s s', R s s' → R (f s) (f' s')) : Alike R E Eq (Act.modify f) (Act.modify f') :=
  fun s s' hs => ⟨rfl, h s s' hs, .ok rfl⟩

/-- Acts run alike in a weaker sense. -/
theorem mono {act act' : Act σ α} (h : Alike R E Q act act') (hQ : ∀ a a', Q a a' → Q' a a') (hE : ∀ f f', E f f' → E' f f') :
    Alike R E' Q' act act' := by
  intro s s' hs
  obtain ⟨hrecords, hstate, hresult⟩ := h s s' hs
  exact ⟨hrecords, hstate, hresult.mono hQ hE⟩

/-- Acts run alike when the faults are left out of account. -/
theorem anyFault {act act' : Act σ α} (h : Alike R E Q act act') : Alike R Whatever Q act act' :=
  h.mono (fun _ _ hQ => hQ) fun _ _ _ => trivial

/-- The second run starts from the states and with the value of the first, as far as it comes. -/
theorem run_bind {act act' : Act σ α} {next next' : α → Act σ β} {s s' : σ} (h : Run.Alike R E Q (act s) (act' s'))
    (hnext : ∀ a a' t t', Q a a' → R t t' → Run.Alike R E P (next a t) (next' a' t')) :
    Run.Alike R E P ((act >>= next) s) ((act' >>= next') s') := by
  obtain ⟨hrecords, hstate, hresult⟩ := h
  rcases hrun : act s with ⟨result, t, records⟩
  rcases hrun' : act' s' with ⟨result', t', records'⟩
  rw [hrun, hrun'] at hrecords hstate hresult
  cases hresult with
  | ok hvalue =>
    obtain ⟨hrecords', hstate', hresult'⟩ := hnext _ _ t t' hvalue hstate
    rw [bind_of_ok hrun, bind_of_ok hrun']
    refine ⟨?_, hstate', hresult'⟩
    dsimp only at hrecords ⊢
    rw [hrecords, hrecords']
  | error hfault =>
    rw [bind_of_error hrun, bind_of_error hrun']
    exact ⟨hrecords, hstate, .error hfault⟩

/-- Two acts in a row run alike when both do. -/
theorem bind {act act' : Act σ α} {next next' : α → Act σ β} (h : Alike R E Q act act')
    (hnext : ∀ a a', Q a a' → Alike R E P (next a) (next' a')) : Alike R E P (act >>= next) (act' >>= next') :=
  fun s s' hs => run_bind (h s s' hs) fun a a' t t' hvalue ht => hnext a a' hvalue t t' ht

/-- Acts behind the same computation run alike when they do for the value that it gives. -/
theorem same_bind [Std.Refl E] {result : Except Fault α} {next next' : α → Act σ β}
    (hnext : ∀ a, Alike R E P (next a) (next' a)) :
    Alike R E P (Act.ofExcept result >>= next) (Act.ofExcept result >>= next') := by
  refine (same result).bind ?_
  rintro a _ rfl
  exact hnext a

/-- A row of acts runs alike when each of them does. -/
theorem each {δ : Type} {D : δ → δ → Prop} {f f' : δ → Act σ Unit} (h : ∀ d d', D d d' → Alike R E Eq (f d) (f' d'))
    {l l' : List δ} (hl : List.Forall₂ D l l') : Alike R E Eq (Act.each f l) (Act.each f' l') := by
  induction hl with
  | nil => exact pure rfl
  | cons hd _ ih => exact bind (h _ _ hd) fun _ _ _ => ih

/-- Acts on parts of states run alike when the parts are related and putting them back relates the states. -/
theorem within {S : τ → τ → Prop} {part part' : τ → σ} {put put' : σ → τ → τ} {act act' : Act σ α} (h : Alike R E Q act act')
    (hpart : ∀ t t', S t t' → R (part t) (part' t')) (hput : ∀ s s' t t', R s s' → S t t' → S (put s t) (put' s' t')) :
    Alike S E Q (Act.within part put act) (Act.within part' put' act') := by
  intro t t' ht
  obtain ⟨hrecords, hstate, hresult⟩ := h _ _ (hpart t t' ht)
  exact ⟨hrecords, hput _ _ t t' hstate ht, hresult⟩

/-- Keeping failures as values, acts run alike that end in the same faults. -/
theorem attempt {act act' : Act σ α} (h : Alike R Eq Q act act') :
    Alike R Eq (TargetAlike Q) (Act.attempt act) (Act.attempt act') := by
  intro s s' hs
  obtain ⟨hrecords, hstate, hresult⟩ := h s s' hs
  rcases hrun : act s with ⟨result, t, records⟩
  rcases hrun' : act' s' with ⟨result', t', records'⟩
  rw [hrun, hrun'] at hrecords hstate hresult
  unfold Act.attempt
  rw [hrun, hrun']
  cases hresult with
  | ok hvalue => exact ⟨hrecords, hstate, .ok (.ok hvalue)⟩
  | @error f _ hfault =>
    cases hfault
    cases f with
    | failure f => exact ⟨hrecords, hstate, .ok (.error f)⟩
    | _ => exact ⟨hrecords, hstate, .error rfl⟩

end Act.Alike

/-- An act that changes nothing and tells the log nothing. -/
def Act.Quiet (act : Act σ α) : Prop :=
  ∀ s, (act s).state = s ∧ (act s).records = []

namespace Act.Quiet

theorem pure (a : α) : (Act.pure a : Act σ α).Quiet := fun _ => ⟨rfl, rfl⟩

theorem get : (Act.get : Act σ σ).Quiet := fun _ => ⟨rfl, rfl⟩

theorem ofExcept (result : Except Fault α) : (Act.ofExcept result : Act σ α).Quiet := fun _ => ⟨rfl, rfl⟩

/-- What an act leaves and tells is not changed by a quiet act behind it. -/
theorem bind_eq {next : α → Act σ β} (h : ∀ a, (next a).Quiet) (act : Act σ α) (s : σ) :
    ((act >>= next) s).state = (act s).state ∧ ((act >>= next) s).records = (act s).records := by
  rcases hrun : act s with ⟨result, t, records⟩
  cases result with
  | ok a =>
    rw [bind_of_ok hrun]
    dsimp only
    rw [(h a t).1, (h a t).2, List.append_nil]
    exact ⟨rfl, rfl⟩
  | error f =>
    rw [bind_of_error hrun]
    exact ⟨rfl, rfl⟩

/-- Two quiet acts in a row are quiet. -/
theorem bind {act : Act σ α} {next : α → Act σ β} (h : act.Quiet) (hnext : ∀ a, (next a).Quiet) : (act >>= next).Quiet := by
  intro s
  obtain ⟨hstate, hrecords⟩ := bind_eq hnext act s
  rw [hstate, hrecords]
  exact h s

end Act.Quiet

end OAuthClient
