import OAuthClient.Proofs.Store.Outcome

/-!
# Building requests

A request is built from a store in one of three ways: as an authorization URL, as a form, or as the text of either. All three come to
the demand of the phase, and they tell what it came to: a failure of the library is one of the demand, and what is built tells the fields
that it was built of.
-/

namespace OAuthClient.Store

/-- A request that is built from a store, in one of three ways. -/
inductive Build where
  /-- An authorization URL. -/
  | url (g : Grant)
  /-- A form. -/
  | form (g : Grant) (ph : Phase)
  /-- The text of a request: an authorization URL, or the body of a form. -/
  | text (g : Grant) (ph : Phase)

/-- What building a request gives. -/
inductive Built where
  | text (s : String)
  | form (r : FormRequest)

namespace Build

/-- The grant of a request. -/
def grant : Build → Grant
  | .url g => g
  | .form g _ => g
  | .text g _ => g

/-- The phase of a request. -/
def phase : Build → Phase
  | .url _ => .authorization
  | .form _ ph => ph
  | .text _ ph => ph

/-- The rules of a request. -/
def rules (b : Build) : Rules :=
  b.grant.rules b.phase

/-- Builds a request. -/
def run : Build → Act (Store Token) Built
  | .url g => do return .text (← authorizationUrl g)
  | .form g ph => do return .form (← formRequest g ph)
  | .text g ph => do return .text (← encodeUri g ph)

/-- Whether the parameters of a request are taken as those of a form. -/
def isForm : Build → Bool
  | .url _ => false
  | .form _ _ => true
  | .text _ ph => ph ≠ .authorization

/-- What a request makes of an endpoint and the fields for it. -/
def finish (b : Build) (request : String × List (String × String)) : Except Fault Built :=
  match b with
  | .form _ _ => .ok (.form ⟨request.1, request.2⟩)
  | b =>
    if b.isForm then .ok (.text (Form.encode .percent request.2))
    else ((Uri.appendQuery request.1 (Form.encode .percent request.2)).mapError Fault.uri).map .text

/-- The values that a request fills in where there are none: the fixed ones of its phase, if the grant has it. -/
def filled (b : Build) : List (Parameter × String) :=
  if b.rules.supported then b.rules.defaults else []

/-- Building a request fills in values and changes nothing else. -/
theorem run_state (b : Build) (s : Store Token) : (b.run s).state = s.withDefaults b.filled := by
  have hfilled : s.withDefaults b.filled = if b.rules.supported then s.withDefaults b.rules.defaults else s := by
    rw [filled]
    split
    · rfl
    · exact withDefaults_nil s
  rw [hfilled]
  cases b with
  | url g => exact (congrArg Run.state (Act.bind_pure_apply (authorizationUrl g) Built.text s)).trans (authorizationUrl_state g s)
  | form g ph => exact (congrArg Run.state (Act.bind_pure_apply (formRequest g ph) Built.form s)).trans (formRequest_state g ph s)
  | text g ph => exact (congrArg Run.state (Act.bind_pure_apply (encodeUri g ph) Built.text s)).trans (encodeUri_state g ph s)

/-- An authorization URL comes to the demand of its phase, made into a URL. -/
theorem map_authorizationUrl (g : Grant) (s : Store Token) : (authorizationUrl g s).result.map Built.text =
    ((demand g .authorization false s).mapError Fault.failure).bind (Build.url g).finish := by
  rw [authorizationUrl_result]
  cases demand g .authorization false s <;> rfl

/-- Building a request comes to the demand of its phase, made into a request. -/
theorem run_result (b : Build) (s : Store Token) :
    (b.run s).result = ((demand b.grant b.phase b.isForm s).mapError Fault.failure).bind b.finish := by
  cases b with
  | url g =>
    exact (congrArg Run.result (Act.bind_pure_apply (authorizationUrl g) Built.text s)).trans (map_authorizationUrl g s)
  | form g ph =>
    refine (congrArg Run.result (Act.bind_pure_apply (formRequest g ph) Built.form s)).trans ?_
    rw [formRequest_result]
    show _ = ((demand g ph true s).mapError Fault.failure).bind _
    cases demand g ph true s <;> rfl
  | text g ph =>
    refine (congrArg Run.result (Act.bind_pure_apply (encodeUri g ph) Built.text s)).trans ?_
    by_cases hph : ph = .authorization
    · subst hph
      exact map_authorizationUrl g s
    · have hform : (Build.text g ph).isForm = true := decide_eq_true hph
      rw [encodeUri_form_result hph, formRequest_result, hform]
      show _ = ((demand g ph true s).mapError Fault.failure).bind _
      cases demand g ph true s with
      | error f => rfl
      | ok request =>
        show _ = finish (.text g ph) request
        rw [finish, if_pos hform]
        · rfl
        · nofun

/-- An endpoint with fields becomes a request that tells the fields, or it cannot be cut into parts whatever the fields are. -/
theorem finish_uniform (b : Build) (base : String) :
    (∃ flaw, ∀ pairs, pairs ≠ [] → b.finish (base, pairs) = .error (.uri flaw)) ∨
    ∃ make : List (String × String) → Built, Function.Injective make ∧
      ∀ pairs, pairs ≠ [] → b.finish (base, pairs) = .ok (make pairs) := by
  -- the fields are read back from a text that shows them
  have hencode : Function.Injective (Form.encode .percent) :=
    Function.LeftInverse.injective (Form.decodeLenient_encode .percent)
  by_cases hform : b.isForm = true
  · right
    cases b with
    | url g => cases hform
    | form g ph =>
      refine ⟨fun pairs => .form ⟨base, pairs⟩, ?_, fun _ _ => rfl⟩
      intro pairs pairs' h
      cases h
      rfl
    | text g ph =>
      refine ⟨fun pairs => .text (Form.encode .percent pairs), ?_, fun pairs _ => if_pos hform⟩
      intro pairs pairs' h
      exact hencode (Built.text.inj h)
  · have hfinish : ∀ pairs, b.finish (base, pairs) =
        ((Uri.appendQuery base (Form.encode .percent pairs)).mapError Fault.uri).map .text := by
      intro pairs
      cases b with
      | url g => rfl
      | form g ph => exact absurd rfl hform
      | text g ph => exact if_neg hform
    rcases Uri.appendQuery_uniform base with ⟨flaw, hfails⟩ | ⟨x, sep, _, hstands⟩
    · refine Or.inl ⟨flaw, fun pairs hne => ?_⟩
      rw [hfinish, hfails _ (Form.encode_ne_empty .percent hne)]
      rfl
    · refine Or.inr ⟨fun pairs => .text (String.ofList (x ++ sep :: (Form.encode .percent pairs).toList)), ?_, fun pairs hne => ?_⟩
      · intro pairs pairs' h
        have htext := List.cons.inj (List.append_cancel_left (String.ofList_injective (Built.text.inj h)))
        exact hencode (String.toList_injective htext.2)
      · rw [hfinish, hstands _ (Form.encode_ne_empty .percent hne)]
        rfl

/-- A request whose demand is met is made of the endpoint and the fields. -/
theorem run_of_ok {b : Build} {s : Store Token} {request : String × List (String × String)}
    (h : demand b.grant b.phase b.isForm s = .ok request) : (b.run s).result = b.finish request := by
  rw [run_result, h]
  rfl

/-- A request fails with a failure of the library exactly when the demand of its phase does. -/
theorem run_failure_iff {b : Build} {s : Store Token} {f : Failure} :
    (b.run s).result = .error (.failure f) ↔ demand b.grant b.phase b.isForm s = .error f := by
  cases hd : demand b.grant b.phase b.isForm s with
  | error f' =>
    rw [run_result, hd]
    simp [Except.mapError, Except.bind]
  | ok request =>
    obtain ⟨base, pairs⟩ := request
    have hne := pairs_ne_nil hd
    rw [run_of_ok hd]
    rcases b.finish_uniform base with ⟨flaw, hfails⟩ | ⟨make, _, hmake⟩
    · simp [hfails pairs hne]
    · simp [hmake pairs hne]

/-- Two requests with the same endpoint are made alike: of both something is made that tells their fields, or neither can be made. -/
theorem run_uniform {b : Build} {s s' : Store Token} {base : String} {pairs pairs' : List (String × String)}
    (h : demand b.grant b.phase b.isForm s = .ok (base, pairs)) (h' : demand b.grant b.phase b.isForm s' = .ok (base, pairs')) :
    (∃ fault, (b.run s).result = .error fault ∧ (b.run s').result = .error fault) ∨
    ∃ a a', (b.run s).result = .ok a ∧ (b.run s').result = .ok a' ∧ (a' = a ↔ pairs' = pairs) := by
  rw [run_of_ok h, run_of_ok h']
  rcases b.finish_uniform base with ⟨flaw, hfails⟩ | ⟨make, hinjective, hmake⟩
  · exact Or.inl ⟨.uri flaw, hfails _ (pairs_ne_nil h), hfails _ (pairs_ne_nil h')⟩
  · exact Or.inr ⟨make pairs, make pairs', hmake _ (pairs_ne_nil h), hmake _ (pairs_ne_nil h'), hinjective.eq_iff⟩

end Build

end OAuthClient.Store
