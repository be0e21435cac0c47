import OAuthClient.Proofs.Token.Body

/-!
# Rejected requests

A response without success is reported as such, whatever its body is, as long as the stack has room for it: no other body keeps the
failure from being built, and none hides the status. The failure carries the status and what the body says went wrong, and the log is told
once. A body that is nested too deep ends the call before anything is reported.
-/

namespace OAuthClient.Token

open OAuthClient.Text

/-! ## What a body says -/

/-- The error and its description that a body reports for which the stack has room. -/
inductive Reports (room : Nat) (body : List UInt8) : Json → Json → Prop
  /-- The body is an object: its members, each null where there is none. -/
  | object {v : Json} (hread : (Source.octets body).read room = .ok v) (hobject : v.IsObject) :
      Reports room body ((v.member? "error").getD .null) ((v.member? "error_description").getD .null)
  /-- The body is no JSON text, or another value. -/
  | other (hdeep : ¬ (Source.octets body).TooDeep room) (h : ∀ v, (Source.octets body).read room = .ok v → ¬ v.IsObject) :
      Reports room body .null .null

/-- What went wrong, in words: the error with its description where both count as set, the error alone where only it does, and the status
where it does not. -/
inductive Detail (status : Int) (error description : Json) : String → Prop
  | both (herror : error.truthy = true) (hdescription : description.truthy = true) :
      Detail status error description (error.display ++ ": " ++ description.display)
  | error (herror : error.truthy = true) (hdescription : description.truthy = false) : Detail status error description error.display
  | status (herror : error.truthy = false) : Detail status error description ("HTTP " ++ toString status)

/-- Only objects have members. -/
theorem member?_of_not_isObject {v : Json} (h : ¬ v.IsObject) (name : String) : v.member? name = none := by
  cases v with
  | obj members => exact absurd (Or.inl ⟨members, rfl⟩) h
  | illNamed members => exact absurd (Or.inr ⟨members, rfl⟩) h
  | _ => rfl

section

variable {room : Nat} {r : Response} {body : List UInt8} {error description error' description' : Json}

/-- A body reports an error and a description unless it is too deep, and then the response carries them. -/
theorem exists_reports (h : ¬ (Source.octets r.body).TooDeep room) :
    ∃ error description, Reports room r.body error description ∧ r.oauthError room = .ok (error, description) := by
  unfold Response.oauthError
  cases hread : (Source.octets r.body).read room with
  | error flaw =>
    cases flaw with
    | malformed message cause => exact ⟨_, _, .other h fun v hv => by (rw [hread] at hv; cases hv), rfl⟩
    | tooDeep => exact absurd hread h
  | ok v =>
    refine ⟨_, _, ?_, rfl⟩
    by_cases hobject : v.IsObject
    · exact .object hread hobject
    · simp only [member?_of_not_isObject hobject, Option.getD_none]
      refine .other h fun u hu => ?_
      rw [hread] at hu
      cases hu
      exact hobject

/-- A body that reports something is not too deep. -/
theorem Reports.not_tooDeep (h : Reports room body error description) : ¬ (Source.octets body).TooDeep room := by
  cases h with
  | object hread _ => exact fun hdeep => nomatch hread.symm.trans hdeep
  | other hdeep _ => exact hdeep

/-- A body reports one error and one description. -/
theorem Reports.unique (h : Reports room body error description) (h' : Reports room body error' description') :
    error = error' ∧ description = description' := by
  cases h with
  | object hread hobject =>
    cases h' with
    | object hread' _ =>
      cases hread.symm.trans hread'
      exact ⟨rfl, rfl⟩
    | other _ h' => exact absurd hobject (h' _ hread)
  | other _ h =>
    cases h' with
    | object hread' hobject' => exact absurd hobject' (h _ hread')
    | other _ _ => exact ⟨rfl, rfl⟩

/-- A response carries what its body reports. -/
theorem Reports.oauthError_eq (h : Reports room r.body error description) : r.oauthError room = .ok (error, description) := by
  obtain ⟨error', description', hreports, hcarries⟩ := exists_reports h.not_tooDeep
  obtain ⟨rfl, rfl⟩ := h.unique hreports
  exact hcarries

/-- Octets that hold an object report the last of its members with each name. -/
theorem reports_of_writes {members : List (String × Json)} (h : (Source.octets body).Writes room members) :
    Reports room body ((members.reverse.lookup "error").getD .null) ((members.reverse.lookup "error_description").getD .null) := by
  rw [← Json.find?_collect, ← Json.find?_collect]
  exact .object h.read_eq (Or.inl ⟨_, rfl⟩)

end

/-- The words of a response are those for what it carries. -/
theorem detail_of_response (r : Response) (error description : Json) :
    Detail r.status error description (r.detail error description) := by
  unfold Response.detail
  split
  · next herror =>
    split
    · next hdescription => exact .both herror hdescription
    · next hdescription => exact .error herror (by simpa using hdescription)
  · next herror => exact .status (by simpa using herror)

/-- There is one way to put it. -/
theorem Detail.unique {status : Int} {error description : Json} {text text' : String} (h : Detail status error description text)
    (h' : Detail status error description text') : text = text' := by
  cases h <;> cases h' <;> simp_all

/-! ## What comes of it -/

/-- A response counts as a success exactly with a status from 200 to 299. -/
theorem isSuccess_iff (r : Response) : r.isSuccess = true ↔ 200 ≤ r.status ∧ r.status ≤ 299 := by
  rw [Response.isSuccess, Bool.and_eq_true, decide_eq_true_eq, decide_eq_true_eq]

section

variable {σ : Type} {room : Nat} {r : Response}

/-- A response without success is no success. -/
theorem not_isSuccess (h : r.status < 200 ∨ 299 < r.status) : ¬ r.isSuccess = true := by
  rw [isSuccess_iff]
  omega

/-- A response without success and with a body that is too deep ends in that. -/
theorem ofResponse_of_tooDeep (h : r.status < 200 ∨ 299 < r.status) (hdeep : (Source.octets r.body).TooDeep room) (now : Instant)
    (s : σ) : ofResponse now r room s = ⟨.error .tooDeep, s, []⟩ := by
  have hcarries : r.oauthError room = .error .tooDeep := by rw [Response.oauthError, hdeep]
  rw [ofResponse, if_neg (not_isSuccess h), hcarries, Act.bind_of_error (Act.ofExcept_apply _ s)]

/-- A response without success is told to the log and fails with what its body reports. -/
theorem ofResponse_of_reports (h : r.status < 200 ∨ 299 < r.status) {error description : Json} {detail : String}
    (hreports : Reports room r.body error description) (hdetail : Detail r.status error description detail) (now : Instant) (s : σ) :
    ofResponse now r room s =
      ⟨.error (.failure (.transport ("Token request failed: " ++ detail) (some r.status) error description none)), s,
        [⟨.error, Log.tokenLogger, "Token request failed (" ++ toString r.status ++ "): " ++ detail⟩]⟩ := by
  obtain rfl := hdetail.unique (detail_of_response r error description)
  rw [ofResponse, if_neg (not_isSuccess h), hreports.oauthError_eq, Act.bind_of_ok (Act.ofExcept_apply _ s)]
  dsimp only
  rw [Act.bind_of_ok (Act.tell_apply _ _ _ s)]
  rfl

end

/-- A response without success is reported as one unless its body is too deep, and the state stays as it is. The failure has the status,
the error and the description that the body reports, and one record goes to the log; both say in words what went wrong. What octets
report that hold an object are the last of its members with the names of the two. A body that is too deep has more brackets and braces
than the stack has room for; then nothing is reported, and the call ends in a fault that is no failure of a request. -/
theorem rejections_reported (now : Instant) (r : Response) (h : r.status < 200 ∨ 299 < r.status) (room : Nat) :
    (∀ error description detail, Reports room r.body error description → Detail r.status error description detail →
      ∀ (σ : Type) (s : σ), ofResponse now r room s =
        ⟨.error (.failure (.transport ("Token request failed: " ++ detail) (some r.status) error description none)), s,
          [⟨.error, Log.tokenLogger, "Token request failed (" ++ toString r.status ++ "): " ++ detail⟩]⟩) ∧
    ((∃ error description detail, Reports room r.body error description ∧ Detail r.status error description detail) ↔
      ¬ (Source.octets r.body).TooDeep room) ∧
    (∀ members, (Source.octets r.body).Writes room members → Reports room r.body
      ((members.reverse.lookup "error").getD .null) ((members.reverse.lookup "error_description").getD .null)) ∧
    ((Source.octets r.body).TooDeep room → room < Json.openings (Source.octets r.body).chars ∧
      ∀ (σ : Type) (s : σ), ofResponse now r room s = ⟨.error .tooDeep, s, []⟩) := by
  refine ⟨?_, ⟨?_, ?_⟩, fun members => reports_of_writes, ?_⟩
  · exact fun _ _ _ hreports hdetail _ s => ofResponse_of_reports h hreports hdetail now s
  · exact fun ⟨_, _, _, hreports, _⟩ => hreports.not_tooDeep
  · intro hdeep
    obtain ⟨error, description, hreports, -⟩ := exists_reports hdeep
    exact ⟨error, description, _, hreports, detail_of_response r error description⟩
  · exact fun hdeep => ⟨hdeep.lt_openings, fun _ s => ofResponse_of_tooDeep h hdeep now s⟩

/-- A rejection whose error is described, with another error before. -/
def rejection : List (String × String) :=
  [("error", "temporary"), ("error", "invalid_grant"), ("error_description", "expired")]

/-- The response of a rejection. -/
def rejected : Response where
  status := 400
  body := Utf8.encode (Json.writeChars (.obj (rejection.map fun m => (m.1, .str m.2))))

/-- The failure names the last error of the body and its description. -/
theorem rejections_reported_rejected :
    ofResponse 7 rejected Json.stackRoom () =
      ⟨.error (.failure (.transport "Token request failed: invalid_grant: expired" (some 400) (.str "invalid_grant")
          (.str "expired") none)), (),
        [⟨.error, Log.tokenLogger, "Token request failed (400): invalid_grant: expired"⟩]⟩ := by
  obtain ⟨hrun, -, hreports, -⟩ := rejections_reported 7 rejected (Or.inr (by decide)) Json.stackRoom
  have hwrites : (Source.octets rejected.body).Writes Json.stackRoom (rejection.map fun m => (m.1, .str m.2)) := by
    have hne : rejection ≠ [] := by decide
    have hblank : Json.Gap [] := rfl
    have hobject : Json.WritesObject Json.stackRoom _ _ := Json.writesObject_of_spells (Json.spells_writeChars hne)
    have hoctets := Source.Writes.octets hobject hblank hblank
    rwa [List.nil_append, List.append_nil] at hoctets
  exact hrun _ _ _ (hreports _ hwrites) (.both rfl rfl) Unit ()

/-- A response without success whose body opens a hundred thousand brackets. -/
def bracketed : Response where
  status := 400
  body := Utf8.encode (List.replicate 100000 '[')

/-- Not every response without success is reported as one. -/
theorem not_every_rejection_is_reported :
    ¬ ∀ (now : Instant) (r : Response), (r.status < 200 ∨ 299 < r.status) → ∃ error description detail,
      ofResponse now r Json.stackRoom () =
        ⟨.error (.failure (.transport ("Token request failed: " ++ detail) (some r.status) error description none)), (),
          [⟨.error, Log.tokenLogger, "Token request failed (" ++ toString r.status ++ "): " ++ detail⟩]⟩ := by
  intro hall
  have hfails : bracketed.status < 200 ∨ 299 < bracketed.status := Or.inr (by decide)
  have hdeep : (Source.octets bracketed.body).TooDeep Json.stackRoom := Source.tooDeep_octets_replicate (by decide)
  obtain ⟨error, description, detail, hrun⟩ := hall 0 bracketed hfails
  rw [ofResponse_of_tooDeep hfails hdeep] at hrun
  cases hrun

end OAuthClient.Token
