import OAuthClient.Proofs.Token.Payload

/-!
# Times that a response carries

The times of a token come from the clock and from nowhere else. Two times that a response may carry are looked at all the same: where
one of them is no time the response is malformed. Where both pass, the response gives what it gives without them, be it a token or a
failure.
-/

namespace OAuthClient

open OAuthClient.Text OAuthClient.Validation

namespace Token

/-! ## Without the times -/

/-- The members of a response without its times. -/
def withoutTimes (members : List (String × Json)) : List (String × Json) :=
  members.filter fun m => !timeNames.contains m.1

/-- The members of a response, some of whose names are no texts, without its times. -/
def withoutTimesNamed (members : List (List Nat × Json)) : List (List Nat × Json) :=
  members.filter fun m => !(timeNames.map Json.str).contains (Json.ofCodes m.1)

/-- A response without its times. -/
def responseWithoutTimes : Json → Json
  | .obj members => .obj (withoutTimes members)
  | .illNamed members => .illNamed (withoutTimesNamed members)
  | v => v

/-- The times that a response carries pass for times: each of them is not there, null, or a date with a time. -/
def TimesPass (members : List (String × Json)) : Prop :=
  ∀ name ∈ timeNames, momentOrNull ((Json.find? name members).getD .null) = .ok ()

variable {members : List (String × Json)}

/-- Leaving out the times leaves the other members. -/
theorem find?_withoutTimes (name : String) (members : List (String × Json)) :
    Json.find? name (withoutTimes members) = if name ∈ timeNames then none else Json.find? name members :=
  find?_without timeNames name members

/-- A time that passes has no issue. -/
theorem momentIssues_of_ok {name : String} (h : momentOrNull ((Json.find? name members).getD .null) = .ok ()) :
    momentIssues members name = [] := by
  rw [momentIssues, h]

/-- A response whose times pass is read as it is read without them. -/
theorem readAlike_withoutTimes (h : TimesPass members) : ReadAlike members (withoutTimes members) where
  lifetime := (readField_without (by decide) members 0 readLifetime).symm
  hasLifetime := by rw [find?_withoutTimes, if_neg (by decide)]
  times := by
    intro name hname
    rw [momentIssues_of_ok (h name hname), momentIssues_of_ok]
    rw [find?_withoutTimes, if_pos hname]
    rfl
  fields := by
    intro f
    rw [find?_withoutTimes, if_neg]
    cases f <;> decide
  extra := (extra_without (by decide) members).symm

/-- The same required fields are missing without the times. -/
theorem missingNames_withoutTimes (members : List (String × Json)) : missingNames (withoutTimes members) = missingNames members :=
  missingNames_without (by decide) members

/-- Names that are texts are left out as such. -/
theorem wellNamed_withoutTimesNamed (members : List (List Nat × Json)) :
    Json.wellNamed (withoutTimesNamed members) = withoutTimes (Json.wellNamed members) := by
  rw [withoutTimes, Json.wellNamed, Json.wellNamed, withoutTimesNamed, List.filter_map, List.filter_filter, List.filter_filter]
  refine congrArg _ (List.filter_congr fun m _ => ?_)
  cases hhalf : m.1.any Json.isHalf with
  | true => simp
  | false =>
    rw [Json.ofCodes, hhalf]
    simp [timeNames]

/-- What is wrong with a response in which some name is no text is the same without the times. -/
theorem illNamedFailure_withoutTimes (members : List (List Nat × Json)) :
    illNamedFailure (withoutTimesNamed members) = illNamedFailure members := by
  rw [illNamedFailure, wellNamed_withoutTimesNamed, missingNames_withoutTimes, illNamedFailure]

/-- The times of a response that describes a token pass. -/
theorem timesPass_of_ofMembers {t : Token} (h : ofMembers members = .ok t) : TimesPass members := by
  have hpass : ∀ name, momentIssues members name = [] → momentOrNull ((Json.find? name members).getD .null) = .ok () := by
    intro name hissues
    unfold momentIssues at hissues
    split at hissues
    · next hmoment => exact hmoment
    · cases hissues
  unfold ofMembers at h
  dsimp only at h
  split at h
  · next hissues =>
    simp only [List.append_eq_nil_iff] at hissues
    obtain ⟨⟨-, htimestamp⟩, hexpiry⟩ := hissues
    intro name hname
    rcases List.mem_cons.mp hname with rfl | hname
    · exact hpass _ htimestamp
    · obtain rfl := List.mem_singleton.mp hname
      exact hpass _ hexpiry
  · cases h

/-! ## Outcomes -/

/-- The times that a response carries pass for times, where it is an object and its names are texts. -/
def TimesPassIn : Json → Prop
  | .obj members => TimesPass members
  | _ => True

/-- Two results are the same token or faults of the same kind. -/
inductive SameOutcome : Except Fault Token → Except Fault Token → Prop
  | same (result : Except Fault Token) : SameOutcome result result
  | malformed {fault fault' : Fault} (h : IsMalformed fault) (h' : IsMalformed fault') : SameOutcome (.error fault) (.error fault')

variable {now : Instant} {data : Json}

/-- Where the times pass, the result is the one without them. -/
theorem ofJson_of_timesPass (h : TimesPassIn data) : ofJson now data = ofJson now (responseWithoutTimes data) := by
  cases data with
  | obj members => exact (readAlike_withoutTimes h).ofResponseMembers_eq now
  | illNamed members =>
    show (.error (illNamedFailure members) : Except Fault Token) = .error (illNamedFailure (withoutTimesNamed members))
    rw [illNamedFailure_withoutTimes]
  | _ => rfl

/-- Where a time does not pass, the response is malformed. -/
theorem isMalformed_of_not_timesPass (now : Instant) (h : ¬ TimesPassIn data) :
    ∃ fault, ofJson now data = .error fault ∧ IsMalformed fault := by
  cases data with
  | obj members =>
    have hreads := reads_members now members
    show ∃ fault, ofResponseMembers now members = .error fault ∧ _
    cases hread : ofResponseMembers now members with
    | error fault =>
      rw [hread] at hreads
      cases hreads with
      | beyond _ draft hpayload hdescribes _ =>
        cases hpayload
        exact absurd (timesPass_of_ofMembers hdescribes.fields) h
      | malformed _ _ hfault => exact ⟨fault, rfl, hfault⟩
    | ok t =>
      rw [hread] at hreads
      cases hreads with
      | issued _ draft hpayload hdescribes _ =>
        cases hpayload
        exact absurd (timesPass_of_ofMembers hdescribes.fields) h
  | _ => exact absurd trivial h

/-- A token that is read was issued at the reading of the clock. -/
theorem issuedAt_of_ofJson {t : Token} (h : ofJson now data = .ok t) : t.IssuedAt now := by
  cases data with
  | obj members =>
    have hreads := reads_members now members
    have h : ofResponseMembers now members = .ok t := h
    rw [h] at hreads
    cases hreads with
    | issued _ draft _ _ _ => exact issuedAt_spec now draft
  | _ => cases h

/-- The times that a response carries never reach a token, in four parts.
1. Where they pass for times, the result is the one without them: the same token or the same fault.
2. Where one of them does not pass, the response is malformed.
3. A token is always the one without them, and its times are those of the clock.
4. So the outcome is the one without them exactly where they pass or the rest of the response is malformed anyway. -/
theorem times_from_clock (now : Instant) (data : Json) :
    (TimesPassIn data → ofJson now data = ofJson now (responseWithoutTimes data)) ∧
    (¬ TimesPassIn data → ∃ fault, ofJson now data = .error fault ∧ IsMalformed fault) ∧
    (∀ t, ofJson now data = .ok t → ofJson now (responseWithoutTimes data) = .ok t ∧ t.IssuedAt now) ∧
    (SameOutcome (ofJson now data) (ofJson now (responseWithoutTimes data)) ↔
      TimesPassIn data ∨ ∃ fault, ofJson now (responseWithoutTimes data) = .error fault ∧ IsMalformed fault) := by
  refine ⟨ofJson_of_timesPass, isMalformed_of_not_timesPass now, ?_, ?_⟩
  · intro t h
    refine ⟨?_, issuedAt_of_ofJson h⟩
    by_cases hpass : TimesPassIn data
    · rw [← ofJson_of_timesPass hpass, h]
    · obtain ⟨fault, hfault, -⟩ := isMalformed_of_not_timesPass now hpass
      rw [h] at hfault
      cases hfault
  · constructor
    · intro hsame
      by_cases hpass : TimesPassIn data
      · exact Or.inl hpass
      · obtain ⟨fault, hfault, hmalformed⟩ := isMalformed_of_not_timesPass now hpass
        right
        rw [hfault] at hsame
        generalize ofJson now (responseWithoutTimes data) = result at hsame ⊢
        cases hsame with
        | same => exact ⟨fault, rfl, hmalformed⟩
        | malformed _ h' => exact ⟨_, rfl, h'⟩
    · rintro (hpass | ⟨fault', hfault', hmalformed'⟩)
      · rw [ofJson_of_timesPass hpass]
        exact .same _
      · by_cases hpass : TimesPassIn data
        · rw [ofJson_of_timesPass hpass]
          exact .same _
        · obtain ⟨fault, hfault, hmalformed⟩ := isMalformed_of_not_timesPass now hpass
          rw [hfault, hfault']
          exact .malformed hmalformed hmalformed'

/-- A response of ten seconds with a time of issue and without one of expiry. -/
def stamped (timestamp : Json) : List (String × Json) :=
  [("access_token", .str "a"), ("token_type", .str "Bearer"), ("expires_in", .int 10), ("timestamp", timestamp)]

/-- The turn of a year passes for a time and gives the token that there is without it; another text makes the response malformed. -/
theorem times_from_clock_stamped :
    ofJson 7 (.obj (stamped (.str "2000-01-01T00:00:00Z"))) = ofJson 7 (.obj (withoutTimes (stamped .null))) ∧
      ∃ fault, ofJson 7 (.obj (stamped (.str "x"))) = .error fault ∧ IsMalformed fault := by
  have hpass : TimesPassIn (.obj (stamped (.str "2000-01-01T00:00:00Z"))) := by
    simp only [TimesPassIn, TimesPass, timeNames, List.forall_mem_cons]
    exact ⟨by rfl, by rfl, List.forall_mem_nil _⟩
  have hfails : ¬ TimesPassIn (.obj (stamped (.str "x"))) := by
    intro h
    cases h "timestamp" (by decide)
  exact ⟨(times_from_clock 7 _).1 hpass, (times_from_clock 7 _).2.1 hfails⟩

/-- Not every time that a response carries is without effect: one that is no time makes a token a malformed response. -/
theorem not_every_time_is_ignored :
    ¬ ∀ (now : Instant) (members : List (String × Json)),
      SameOutcome (ofJson now (.obj members)) (ofJson now (.obj (withoutTimes members))) := by
  intro hall
  have hsame := hall 0 (stamped (.str "x"))
  have hwith : (ofJson 0 (.obj (stamped (.str "x")))).isOk = false := by decide +kernel
  have hwithout : (ofJson 0 (.obj (withoutTimes (stamped (.str "x"))))).isOk = true := by decide +kernel
  generalize ofJson 0 (.obj (withoutTimes (stamped (.str "x")))) = result at hsame hwithout
  cases hsame with
  | same =>
    rw [hwith] at hwithout
    cases hwithout
  | malformed => cases hwithout

end Token

end OAuthClient
