import OAuthClient.Proofs.Store.Build
import OAuthClient.Proofs.Store.Rules
import OAuthClient.Proofs.Store.WellFormed

/-!
# One phase after another on one store

Building a request fills in the fixed values of its phase and leaves them in the store, where a later request finds them. So requests
that are built one after another on one store are not independent. What a request comes to then is what it comes to on the store as it
was, with the fixed values of the earlier requests filled in, the first of several for one parameter; and when the request could have
been built at once, it is the same exactly when nothing else was filled in for what it sends. (A handle builds each request from a
fresh copy, so none finds what another has filled in.)
-/

namespace OAuthClient.Store

/-! ## What a phase finds filled in -/

section

variable {g : Grant} {ph : Phase} {form : Bool} {s : Store Token} {p : Parameter} {fixed : List (Parameter × String)}

/-- A parameter of a phase is disturbed by what was filled in before: it had no value, and it was given another one than the phase has
for it. -/
def Disturbed (s : Store Token) (fixed : List (Parameter × String)) (r : Rules) (p : Parameter) : Prop :=
  s.values p = none ∧ ∃ v, fixed.lookup p = some v ∧ r.defaults.lookup p ≠ some v

/-- A parameter that a phase may fill in is available as its value. -/
theorem available?_fixed (h : p ∈ fixedParameters) (s : Store Token) (form : Bool) : s.available? form p = s.values p := by
  have hne : p ≠ .scope ∧ p ≠ .refreshToken := by
    constructor <;> rintro rfl <;> exact absurd h (by decide)
  rw [available?_eq_get? (Or.inr hne.2), get?, if_neg hne.1]

/-- A phase that the grant does not have is refused all the same. -/
theorem demand_filled_refused {f : Failure} (h : demand g ph form s = .error f)
    (hf : ∀ p : Parameter, f ≠ .missing p.wireName none) : demand g ph form (s.withDefaults fixed) = .error f := by
  rcases demand_cases g ph form s with ⟨reason, hsup, hd⟩ | ⟨_, _, hd⟩ | ⟨_, _, p, _, _, hd⟩ | ⟨_, _, _, _, hd⟩ <;>
    rw [hd] at h <;> cases h
  · rw [demand, hsup]
  · exact absurd rfl (hf _)
  · exact absurd rfl (hf p)

variable (hfixed : ∀ d ∈ fixed, d.1 ∈ fixedParameters)

include hfixed

/-- A parameter that was filled in is available. -/
theorem available?_of_filled {v : String} (h : fixed.lookup p = some v) :
    ((s.withDefaults fixed).withDefaults (g.rules ph).defaults).available? form p ≠ none := by
  have hp : p ∈ fixedParameters := by
    refine Decidable.byContradiction fun hp => ?_
    rw [lookup_of_notMem_fixedParameters hfixed hp] at h
    cases h
  rw [available?_fixed hp, withDefaults_values, withDefaults_values, h]
  cases s.values p <;> simp

/-- The same is available of a parameter as without what was filled in before exactly when it is not disturbed. -/
theorem available?_eq_iff : ((s.withDefaults fixed).withDefaults (g.rules ph).defaults).available? form p =
    (s.withDefaults (g.rules ph).defaults).available? form p ↔ ¬ Disturbed s fixed (g.rules ph) p := by
  by_cases hp : p ∈ fixedParameters
  · rw [available?_fixed hp, available?_fixed hp, withDefaults_values, withDefaults_values, withDefaults_values, Disturbed]
    cases s.values p with
    | some w => simp
    | none =>
      cases fixed.lookup p with
      | none => simp
      | some v => simp [eq_comm]
  · have hlookup := lookup_of_notMem_fixedParameters hfixed hp
    refine iff_of_true (available?_congr ?_ rfl rfl) ?_
    · rw [withDefaults_values, withDefaults_values, withDefaults_values, hlookup, Option.or_none]
    · rintro ⟨_, v, hv, _⟩
      rw [hlookup] at hv
      cases hv

/-- What is available stays available. -/
theorem available?_ne_none (h : (s.withDefaults (g.rules ph).defaults).available? form p ≠ none) :
    ((s.withDefaults fixed).withDefaults (g.rules ph).defaults).available? form p ≠ none := by
  by_cases hdisturbed : Disturbed s fixed (g.rules ph) p
  · obtain ⟨_, v, hv, _⟩ := hdisturbed
    exact available?_of_filled hfixed hv
  · rwa [(available?_eq_iff hfixed).mpr hdisturbed]

/-- Nothing was filled in for the endpoint. -/
theorem lookup_endpoint : fixed.lookup (g.rules ph).endpoint = none := by
  refine lookup_of_notMem_fixedParameters hfixed fun hmem => ?_
  have hurl := (g.rules_wellFormed ph).endpoint_isUrl
  have hplain : ∀ p ∈ fixedParameters, p.isUrl = false := by decide
  rw [hplain _ hmem] at hurl
  cases hurl

/-- The endpoint is the same. -/
theorem values_endpoint : (s.withDefaults fixed).values (g.rules ph).endpoint = s.values (g.rules ph).endpoint := by
  rw [withDefaults_values, lookup_endpoint hfixed, Option.or_none]

/-- A demand that is met is met, at the same endpoint. -/
theorem demand_filled_ok {base : String} {pairs : List (String × String)} (h : demand g ph form s = .ok (base, pairs)) :
    demand g ph form (s.withDefaults fixed) = .ok (base, rows g ph form (s.withDefaults fixed)) := by
  obtain ⟨hbase, hrequired, _, hsup⟩ := demand_ok h
  refine demand_complete (Rules.supported_of_none hsup) ((values_endpoint hfixed).trans hbase) ?_
  intro p hp
  exact available?_ne_none hfixed (hrequired p hp)

/-- The rows are the same exactly when no parameter of the phase is disturbed. -/
theorem rows_filled_iff : rows g ph form (s.withDefaults fixed) = rows g ph form s ↔
    ∀ p ∈ (g.rules ph).parameters, ¬ Disturbed s fixed (g.rules ph) p := by
  simp only [rows_eq_iff, available?_eq_iff hfixed]

/-- A parameter that is missing is still the one that is missing exactly when it was not filled in. -/
theorem demand_filled_missing (h : demand g ph form s = .error (.missing p.wireName none)) :
    demand g ph form (s.withDefaults fixed) = .error (.missing p.wireName none) ↔ fixed.lookup p = none := by
  rcases demand_cases g ph form s with ⟨_, _, hd⟩ | ⟨hsup, huri, hd⟩ | ⟨hsup, uri, q, huri, hfind, hd⟩ | ⟨_, _, _, _, hd⟩
  · rw [hd] at h
    cases h
  · -- the endpoint is missing
    rw [hd] at h
    have hname : (g.rules ph).endpoint.wireName = p.wireName := by simpa using h
    cases Parameter.wireName_injective hname
    refine iff_of_true ?_ (lookup_endpoint hfixed)
    exact (demand_endpoint (Rules.supported_of_none hsup)).mpr ((values_endpoint hfixed).trans huri)
  · rw [hd] at h
    have hname : q.wireName = p.wireName := by simpa using h
    cases Parameter.wireName_injective hname
    have huri' : (s.withDefaults fixed).values (g.rules ph).endpoint ≠ none := by
      rw [values_endpoint hfixed, huri]
      exact Option.some_ne_none uri
    rw [demand_required (Rules.supported_of_none hsup) huri']
    constructor
    · intro hfind'
      have hfound := List.find?_some hfind'
      rw [Option.isNone_iff_eq_none] at hfound
      exact Option.eq_none_iff_forall_ne_some.mpr fun v hv => available?_of_filled hfixed hv hfound
    · intro hlookup
      obtain ⟨hnone, before, behind, hsplit, hbefore⟩ := List.find?_eq_some_iff_append.mp hfind
      refine List.find?_eq_some_iff_append.mpr ⟨?_, before, behind, hsplit, ?_⟩
      · have hcalm : ¬ Disturbed s fixed (g.rules ph) p := by
          rintro ⟨_, v, hv, _⟩
          rw [hlookup] at hv
          cases hv
        rwa [(available?_eq_iff hfixed).mpr hcalm]
      · intro r hr
        have havailable := hbefore r hr
        simp only [Bool.not_eq_true', Option.isNone_eq_false_iff, Option.isSome_iff_ne_none] at havailable ⊢
        exact available?_ne_none hfixed havailable
  · rw [hd] at h
    cases h

end

/-! ## Requests in a row -/

namespace Build

/-- A store after requests have been built from it, one after another. -/
def after (s : Store Token) (builds : List Build) : Store Token :=
  builds.foldl (fun t b => (b.run t).state) s

/-- What requests that are built one after another fill in, in the order in which they do. -/
def leftBehind (builds : List Build) : List (Parameter × String) :=
  builds.flatMap filled

/-- Requests leave behind what they fill in, and nothing else. -/
theorem after_eq (s : Store Token) (builds : List Build) : after s builds = s.withDefaults (leftBehind builds) := by
  induction builds generalizing s with
  | nil => exact (withDefaults_nil s).symm
  | cons b builds ih =>
    have hcons : leftBehind (b :: builds) = b.filled ++ leftBehind builds := List.flatMap_cons
    rw [hcons, withDefaults_append, ← run_state]
    exact ih (b.run s).state

/-- Requests leave behind values of the parameters that a phase may fill in. -/
theorem mem_leftBehind (builds : List Build) : ∀ d ∈ leftBehind builds, d.1 ∈ fixedParameters := by
  intro d hd
  obtain ⟨b, _, hb⟩ := List.mem_flatMap.mp hd
  rw [filled] at hb
  split at hb
  · exact mem_fixedParameters b.grant b.phase d hb
  · cases hb

/-- What building a request comes to after other requests, next to what it comes to before them. -/
structure Sequel (s : Store Token) (earlier : List Build) (b : Build) : Prop where
  /-- It is built from the store with what the earlier requests fill in where there was nothing, the first of several values. -/
  state : after s earlier = s.withDefaults (leftBehind earlier)
  /-- A request that could be built before can be built, and it is the same exactly when none of its parameters is disturbed. -/
  built : ∀ a, (b.run s).result = .ok a → (∃ a', (b.run (after s earlier)).result = .ok a') ∧
    ((b.run (after s earlier)).result = .ok a ↔ ∀ p ∈ b.rules.parameters, ¬ Disturbed s (leftBehind earlier) b.rules p)
  /-- A parameter that was reported as missing before is reported as missing exactly when it was not filled in. -/
  missing : ∀ p : Parameter, (b.run s).result = .error (.failure (.missing p.wireName none)) →
    ((b.run (after s earlier)).result = .error (.failure (.missing p.wireName none)) ↔ (leftBehind earlier).lookup p = none)
  /-- Any other failure is the same. -/
  failed : ∀ fault, (b.run s).result = .error fault → (∀ p : Parameter, fault ≠ .failure (.missing p.wireName none)) →
    (b.run (after s earlier)).result = .error fault

/-- Requests that are built one after another on one store depend on each other by what they fill in, and in no other way. Whatever was
built before and whatever came of it, a request is built from the store with the fixed values of the earlier phases filled in: it is the
same as before unless one of its parameters had no value and was given another one than its own phase has for it, or was the one
missing. -/
theorem run_after (s : Store Token) (earlier : List Build) (b : Build) : Sequel s earlier b := by
  have hfixed := mem_leftBehind earlier
  constructor
  · exact after_eq s earlier
  · intro a ha
    rw [after_eq]
    cases hd : demand b.grant b.phase b.isForm s with
    | error f =>
      rw [run_failure_iff.mpr hd] at ha
      cases ha
    | ok request =>
      obtain ⟨base, pairs⟩ := request
      obtain ⟨_, _, rfl, _⟩ := demand_ok hd
      rcases run_uniform hd (demand_filled_ok hfixed hd) with ⟨fault, hfault, _⟩ | ⟨a₀, a', hbuilt, hbuilt', hsame⟩
      · rw [hfault] at ha
        cases ha
      · rw [hbuilt] at ha
        cases ha
        rw [hbuilt', Except.ok.injEq, hsame]
        exact ⟨⟨a', rfl⟩, rows_filled_iff hfixed⟩
  · intro p hmissing
    rw [after_eq, run_failure_iff]
    exact demand_filled_missing hfixed (run_failure_iff.mp hmissing)
  · intro fault hfault hother
    rw [after_eq]
    cases hd : demand b.grant b.phase b.isForm s with
    | error f =>
      rw [run_failure_iff.mpr hd] at hfault
      cases hfault
      refine run_failure_iff.mpr (demand_filled_refused hd fun p hp => ?_)
      exact hother p (congrArg Fault.failure hp)
    | ok request =>
      obtain ⟨base, pairs⟩ := request
      rcases run_uniform hd (demand_filled_ok hfixed hd) with ⟨_, hfails, hfails'⟩ | ⟨_, _, hbuilt, _, _⟩
      · rw [hfails] at hfault
        cases hfault
        exact hfails'
      · rw [hbuilt] at hfault
        cases hfault

/-- A store from which an authorization code can be redeemed and a fresh token asked for. -/
def redeemable : Store Token where
  values
    | .clientId => some "app"
    | .redirectUri => some "app:back"
    | .authorizationCode => some "c"
    | .refreshToken => some "r"
    | .accessTokenUrl => some "https://a.test/token"
    | .refreshTokenUrl => some "https://a.test/token"
    | _ => none

/-- It is well-formed. -/
theorem wellFormed_redeemable : redeemable.WellFormed := by
  constructor
  · rfl
  · intro p v h
    cases hurl : p.isUrl with
    | false => exact accepts_of_not_isUrl hurl v
    | true =>
      cases p <;> cases hurl <;> cases h
      · exact fun _ => by decide +kernel
      · exact fun _ => by decide +kernel

/-- Requests on one store are not independent: the form that redeems a code leaves its kind of grant behind, and the form that asks for
a fresh token then names that kind. -/
theorem run_after_depends : ¬ ∀ (s : Store Token) (earlier : List Build) (b : Build), s.WellFormed →
    (∀ p ∈ fixedParameters, s.values p = none) → (b.run (after s earlier)).result = (b.run s).result := by
  intro h
  have hsame := h redeemable [.form .authorizationCode .accessToken] (.form .authorizationCode .refreshToken)
    wellFormed_redeemable (by decide)
  have hbefore : ((form .authorizationCode .refreshToken).run redeemable).result = .ok (.form ⟨"https://a.test/token",
      [("client_id", "app"), ("refresh_token", "r"), ("grant_type", "refresh_token")]⟩) := rfl
  have hafter : ((form .authorizationCode .refreshToken).run (after redeemable [.form .authorizationCode .accessToken])).result =
      .ok (.form ⟨"https://a.test/token",
        [("client_id", "app"), ("refresh_token", "r"), ("grant_type", "authorization_code")]⟩) := rfl
  rw [hbefore, hafter] at hsame
  simp at hsame

end Build

end OAuthClient.Store
