import OAuthClient.Proofs.Act
import OAuthClient.Proofs.IdToken.Reading

/-!
# Lifetimes

A token that is issued has the reading of the clock as its time of issue, and its time of expiry is exactly its lifetime later. A
lifetime that ends beyond the calendar is refused; nothing is cut short and nothing wraps around. Every way of making a token is a
reading of what was given, which does not look at the clock, followed by the issue.
-/

namespace OAuthClient

namespace Clock

/-- A count of microseconds is an instant of the calendar. -/
def InCalendar (t : Instant) : Prop := first ≤ t ∧ t ≤ last

instance (t : Instant) : Decidable (InCalendar t) := inferInstanceAs (Decidable (_ ∧ _))

/-- A number of seconds is a length of time: less than a thousand million days, either way. -/
def IsLength (seconds : Int) : Prop := -999999999 * 86400 ≤ seconds ∧ seconds < 1000000000 * 86400

/-- From an instant of the calendar to another one it is never more than a length of time. -/
theorem isLength_of_inCalendar {t n : Int} (ht : InCalendar t) (h : InCalendar (t + n * perSecond)) : IsLength n := by
  have hfirst : (-62135596800000000 : Int) ≤ t := ht.1
  have hlast : t ≤ (253402300799999999 : Int) := ht.2
  have hfirst' : (-62135596800000000 : Int) ≤ t + n * 1000000 := h.1
  have hlast' : t + n * 1000000 ≤ (253402300799999999 : Int) := h.2
  unfold IsLength
  omega

end Clock

namespace Token

open Clock

/-! ## Issuing -/

/-- A token was issued at an instant: that is its time of issue, and it expires when its lifetime has passed. -/
structure IssuedAt (t : Token) (u : Instant) : Prop where
  timestamp : t.timestamp = .instant u
  expiresOn : t.expiresOn = .instant (u + t.expiresIn * perSecond)

/-- The token with the times of an issue at an instant. -/
def issuedAt (u : Instant) (t : Token) : Token :=
  { t with timestamp := .instant u, expiresOn := .instant (u + t.expiresIn * perSecond) }

/-- A token with the times of an issue was issued then. -/
theorem issuedAt_spec (u : Instant) (t : Token) : (t.issuedAt u).IssuedAt u := ⟨rfl, rfl⟩

/-- A lifetime that ends inside the calendar gives the token its times. -/
theorem stamp_of_inCalendar {now : Instant} {t : Token} (h : InCalendar (now + t.expiresIn * perSecond)) :
    stamp now t = ⟨.ok (), t.issuedAt now, []⟩ := by
  have hafter : after? now t.expiresIn = some (now + t.expiresIn * perSecond) := if_pos h
  rw [stamp, Act.bind_of_ok (Act.modify_apply _ t), Act.bind_of_ok (Act.get_apply _)]
  dsimp only
  rw [hafter]
  rfl

/-- A lifetime that ends beyond the calendar is refused. -/
theorem stamp_of_beyond {now : Instant} {t : Token} (h : ¬ InCalendar (now + t.expiresIn * perSecond)) :
    stamp now t = ⟨.error .beyondCalendar, { t with timestamp := .instant now }, []⟩ := by
  have hafter : after? now t.expiresIn = none := if_neg h
  rw [stamp, Act.bind_of_ok (Act.modify_apply _ t), Act.bind_of_ok (Act.get_apply _)]
  dsimp only
  rw [hafter]
  rfl

/-- A new token is issued when its lifetime ends inside the calendar, and refused otherwise. -/
theorem issue_eq (now : Instant) (t : Token) :
    issue now t = if InCalendar (now + t.expiresIn * perSecond) then .ok (t.issuedAt now) else .error .beyondCalendar := by
  unfold issue
  split
  · next h => rw [stamp_of_inCalendar h]; rfl
  · next h => rw [stamp_of_beyond h]; rfl

/-- Calling a method preserves what the method preserves. -/
theorem preserves_call {α : Type} {act : Act Token α} {P : Token → Prop} (h : act.Preserves P) (method : String) :
    (call method act).Preserves P := by
  refine Act.Preserves.get.bind fun t => ?_
  split
  · exact h
  · exact Act.Preserves.fail _

/-- Setting a lifetime that can be read starts it anew, where the token has the method for that. -/
theorem setLifetime_of_ok {v : Json} {n : Int} (h : lifetimeOf v = .ok n) (now : Instant) (t : Token) :
    setLifetime now v t = call "gen_timestamp" (stamp now) { t with expiresIn := n } := by
  rw [setLifetime, h, Act.bind_of_ok (Act.ofExcept_apply _ t), Act.bind_of_ok (Act.modify_apply _ t)]
  rfl

/-- A lifetime that cannot be read leaves the token as it is. -/
theorem setLifetime_of_error {v : Json} {fault : Fault} (h : lifetimeOf v = .error fault) (now : Instant) (t : Token) :
    setLifetime now v t = ⟨.error fault, t, []⟩ := by
  rw [setLifetime, h, Act.bind_of_error (Act.ofExcept_apply _ t)]

/-- What keeps a lifetime from being read has nothing to do with the calendar. -/
theorem lifetimeOf_ne_beyondCalendar (v : Json) : lifetimeOf v ≠ .error .beyondCalendar := by
  have htext (s : String) : lifetimeOf.ofText s ≠ .error .beyondCalendar := by
    unfold lifetimeOf.ofText
    split <;> exact nofun
  cases v with
  | str s => exact htext s
  | illFormed codes => exact htext (Json.textOf codes)
  | _ => exact nofun

/-! ## What has nothing to do with the calendar -/

/-- A result that is changed on the way is a fault only when it was one. -/
theorem map_ne_beyondCalendar {α β : Type} {g : α → β} {result : Except Fault α} (h : result ≠ .error .beyondCalendar) :
    result.map g ≠ .error .beyondCalendar := by
  cases result with
  | ok a => exact nofun
  | error fault => exact fun he => h (congrArg _ (Except.error.inj he))

/-- What keeps a value from having items has nothing to do with the calendar. -/
theorem itemsOf_ne_beyondCalendar (v : Json) : itemsOf v ≠ .error .beyondCalendar := by
  cases v <;> exact nofun

/-- What keeps a text from being read as an id token has nothing to do with the calendar. -/
theorem idTokenText_ne_beyondCalendar (s : String) (room : Nat) : IdToken.ofText s room ≠ .error .beyondCalendar := by
  intro h
  rcases IdToken.malformed_or_tooDeep_of_ofText h with ⟨_, _, hfault⟩ | ⟨hfault, -⟩ <;> cases hfault

/-- What keeps an id token from being made has nothing to do with the calendar. -/
theorem idToken_ne_beyondCalendar (source : IdToken.Source) (room : Nat) : IdToken.ofSource source room ≠ .error .beyondCalendar := by
  have hfields (result : Except (List Validation.Issue) IdToken) : result.mapError Fault.fields ≠ .error .beyondCalendar := by
    cases result <;> exact nofun
  cases source with
  | members => exact hfields _
  | values => exact hfields _
  | pairs => exact hfields _
  | text s => exact idTokenText_ne_beyondCalendar s room
  | octets bs =>
    show IdToken.ofOctets bs room ≠ _
    unfold IdToken.ofOctets
    split
    · exact nofun
    · exact idTokenText_ne_beyondCalendar _ room

/-- What keeps the id token inside a token from being read has nothing to do with the calendar. -/
theorem readIdToken_ne_beyondCalendar (t : Token) (room : Nat) : t.readIdToken room ≠ .error .beyondCalendar := by
  unfold readIdToken
  split
  · exact nofun
  · exact map_ne_beyondCalendar (idTokenText_ne_beyondCalendar _ room)
  · exact nofun

/-- Whether a token is expired can be asked of every time of expiry that the calendar has. -/
theorem isExpired_ne_beyondCalendar (now : Instant) (t : Token) : t.isExpired now ≠ .error .beyondCalendar := by
  unfold isExpired
  split <;> exact nofun

/-- A whole lifetime is never beyond the calendar. -/
theorem elapsed_ne_beyondCalendar (t : Token) : t.elapsed ≠ .error .beyondCalendar := by
  unfold elapsed
  split <;> exact nofun

/-- The time left is never beyond the calendar. -/
theorem timeLeft_ne_beyondCalendar (now : Instant) (t : Token) : t.timeLeft now ≠ .error .beyondCalendar := by
  unfold timeLeft
  split <;> exact nofun

/-! ## Looking at the times -/

namespace IssuedAt

variable {t : Token} {u : Instant}

/-- The whole lifetime of an issued token is its lifetime. -/
theorem elapsed (h : t.IssuedAt u) : t.elapsed = .ok (some (t.expiresIn * perSecond)) := by
  have hlength (s d : Int) : s + d - s = d := by omega
  unfold Token.elapsed
  rw [h.expiresOn, h.timestamp]
  dsimp only
  rw [hlength]

/-- An issued token is expired when its time of expiry is past. -/
theorem isExpired (h : t.IssuedAt u) (now : Instant) :
    t.isExpired now = .ok (decide (u + t.expiresIn * perSecond < now)) := by
  unfold Token.isExpired
  rw [h.expiresOn]

/-- The time left of an issued token. -/
theorem timeLeft (h : t.IssuedAt u) (now : Instant) :
    t.timeLeft now = .ok (some (u + t.expiresIn * perSecond - now)) := by
  unfold Token.timeLeft
  rw [h.expiresOn]

end IssuedAt

/-! ## What keeps the times -/

/-- Two states of a token have the same lifetime and the same times. -/
structure SameTimes (t t' : Token) : Prop where
  expiresIn : t'.expiresIn = t.expiresIn
  timestamp : t'.timestamp = t.timestamp
  expiresOn : t'.expiresOn = t.expiresOn

/-- An issued token with the same times was issued at the same instant. -/
theorem IssuedAt.of_sameTimes {t t' : Token} {u : Instant} (h : t.IssuedAt u) (hsame : t.SameTimes t') : t'.IssuedAt u := by
  constructor
  · rw [hsame.timestamp, h.timestamp]
  · rw [hsame.expiresOn, hsame.expiresIn, h.expiresOn]

/-- An act has nothing to do with the times: it keeps them, and it does not fail at the end of the calendar. -/
def Timeless {α : Type} (act : Act Token α) : Prop :=
  ∀ t, t.SameTimes (act t).state ∧ (act t).result ≠ .error .beyondCalendar

namespace Timeless

variable {α β : Type}

theorem pure (a : α) : Timeless (Act.pure a) := fun _ => ⟨⟨rfl, rfl, rfl⟩, nofun⟩

theorem get : Timeless Act.get := fun _ => ⟨⟨rfl, rfl, rfl⟩, nofun⟩

theorem fail {fault : Fault} (h : fault ≠ .beyondCalendar) : Timeless (Act.fail fault : Act Token α) :=
  fun _ => ⟨⟨rfl, rfl, rfl⟩, fun he => h (Except.error.inj he)⟩

theorem ofExcept {result : Except Fault α} (h : result ≠ .error .beyondCalendar) : Timeless (Act.ofExcept result) :=
  fun _ => ⟨⟨rfl, rfl, rfl⟩, h⟩

theorem modify {f : Token → Token} (h : ∀ t : Token, t.SameTimes (f t)) : Timeless (Act.modify f) :=
  fun t => ⟨h t, nofun⟩

/-- Two acts in a row have nothing to do with the times when neither has. -/
theorem bind {act : Act Token α} {next : α → Act Token β} (h : Timeless act) (hnext : ∀ a, Timeless (next a)) :
    Timeless (act >>= next) := by
  intro t
  obtain ⟨hsame, hresult⟩ := h t
  rcases hrun : act t with ⟨result, t', records⟩
  rw [hrun] at hsame hresult
  cases result with
  | ok a =>
    obtain ⟨hsame', hresult'⟩ := hnext a t'
    rw [Act.bind_of_ok hrun]
    exact ⟨⟨hsame'.expiresIn.trans hsame.expiresIn, hsame'.timestamp.trans hsame.timestamp,
      hsame'.expiresOn.trans hsame.expiresOn⟩, hresult'⟩
  | error fault =>
    rw [Act.bind_of_error hrun]
    exact ⟨hsame, fun he => hresult (congrArg _ (Except.error.inj he))⟩

end Timeless

/-- Calling a method has nothing to do with the times when the method has not. -/
theorem Timeless.call {α : Type} {act : Act Token α} (h : Timeless act) (method : String) : Timeless (call method act) := by
  intro t
  by_cases hhas : t.Has method
  · rw [call_of_has hhas]
    exact h t
  · obtain ⟨kind, hcall⟩ := call_of_not_has (α := α) hhas
    rw [hcall act]
    exact ⟨⟨rfl, rfl, rfl⟩, nofun⟩

/-- Setting an attribute that is neither the lifetime nor one of the times has nothing to do with them. -/
theorem timeless_setAttribute {name : String} (hlifetime : name ≠ "expires_in") (htimestamp : name ≠ "timestamp")
    (hexpiry : name ≠ "expires_on") (now : Instant) (v : Json) : Timeless (setAttribute now name v) := by
  unfold setAttribute
  rw [if_neg hlifetime, if_neg htimestamp, if_neg hexpiry]
  split
  · exact Timeless.modify fun _ => ⟨rfl, rfl, rfl⟩
  · split
    · exact Timeless.modify fun _ => ⟨rfl, rfl, rfl⟩
    · split
      · exact Timeless.fail nofun
      · split
        · exact Timeless.modify fun _ => ⟨rfl, rfl, rfl⟩
        · split
          · exact Timeless.pure ()
          · exact Timeless.modify fun _ => ⟨rfl, rfl, rfl⟩

/-! ## Making a token -/

/-- The token that named values describe, before it is issued. -/
def draft (members : List (String × Json)) : Except Fault Token :=
  (ofMembers members).mapError .fields

/-- The token that a type, a lifetime, an access token and scopes describe, before it is issued. -/
def draftOfValues (tokenType lifetime accessToken scopes : Json) : Except Fault Token := do
  let items ← if scopes.truthy then itemsOf scopes else .ok []
  draft [("token_type", tokenType), ("expires_in", lifetime), ("access_token", accessToken), ("scope", .arr items)]

/-- The token that the members of a response describe, before it is issued. -/
def draftOfResponseMembers (members : List (String × Json)) : Except Fault Token :=
  match missingNames members with
  | [] => (ofMembers members).mapError fun issues => Failure.malformed "Invalid token response: " (some (.fields issues))
  | missing => .error (missingFailure missing)

/-- The token that a value describes, before it is issued. -/
def draftOfJson : Json → Except Fault Token
  | .obj members => draftOfResponseMembers members
  | .illNamed members => .error (illNamedFailure members)
  | _ => .error .unknownOperation

/-- The token of a response body, before it is issued. -/
def draftOfSource (source : Source) (room : Nat) : Except Fault Token :=
  match source.read room with
  | .error .tooDeep => .error .tooDeep
  | .error (.malformed message cause) =>
    .error (Failure.malformed ("Token response is not valid JSON: " ++ message) (some cause))
  | .ok (.obj members) => draftOfResponseMembers members
  | .ok (.illNamed members) => .error (illNamedFailure members)
  | .ok _ => .error (Failure.malformed "Token response must be a JSON object" none)

/-- The token of a response, before it is issued. -/
def draftOfResponse (r : Response) (room : Nat) : Except Fault Token :=
  if r.isSuccess then draftOfSource (.octets r.body) room
  else (r.oauthError room).bind fun (error, description) => .error (r.failure error description)

/-- Named values are read and then the token is issued. -/
theorem construct_eq (now : Instant) (members : List (String × Json)) :
    construct now members = (draft members).bind (issue now) := by
  unfold construct draft
  cases ofMembers members <;> rfl

/-- The values of a new token are read and then the token is issued. -/
theorem new_eq (now : Instant) (tokenType lifetime accessToken scopes : Json) :
    new now tokenType lifetime accessToken scopes = (draftOfValues tokenType lifetime accessToken scopes).bind (issue now) := by
  unfold new draftOfValues
  simp only [construct_eq]
  split
  · cases itemsOf scopes <;> rfl
  · rfl

/-- The members of a response are read and then the token is issued. -/
theorem ofResponseMembers_eq (now : Instant) (members : List (String × Json)) :
    ofResponseMembers now members = (draftOfResponseMembers members).bind (issue now) := by
  unfold ofResponseMembers draftOfResponseMembers
  cases missingNames members with
  | nil => cases ofMembers members <;> rfl
  | cons name names => rfl

/-- A value is read and then the token is issued. -/
theorem ofJson_eq (now : Instant) (v : Json) : ofJson now v = (draftOfJson v).bind (issue now) := by
  cases v with
  | obj members => exact ofResponseMembers_eq now members
  | _ => rfl

/-- A response body is read and then the token is issued. -/
theorem ofSource_eq (now : Instant) (source : Source) (room : Nat) :
    ofSource now source room = (draftOfSource source room).bind (issue now) := by
  unfold ofSource draftOfSource
  rcases source.read room with (⟨message, cause⟩ | _) | v
  · rfl
  · rfl
  · cases v with
    | obj members => exact ofResponseMembers_eq now members
    | _ => rfl

/-- A response is read and then the token is issued. -/
theorem ofResponse_eq {σ : Type} (now : Instant) (r : Response) (room : Nat) :
    ∃ records, ∀ s : σ, ofResponse now r room s = ⟨(draftOfResponse r room).bind (issue now), s, records⟩ := by
  unfold ofResponse draftOfResponse
  cases r.isSuccess with
  | true =>
    refine ⟨[], fun s => ?_⟩
    rw [if_pos rfl, if_pos rfl, ofSource_eq]
    rfl
  | false =>
    simp only [if_neg Bool.false_ne_true]
    cases r.oauthError room with
    | error fault => exact ⟨[], fun _ => rfl⟩
    | ok reported =>
      exact ⟨[⟨.error, Log.tokenLogger, "Token request failed (" ++ toString r.status ++ "): " ++ r.detail reported.1 reported.2⟩],
        fun _ => rfl⟩

/-- What keeps named values from describing a token has nothing to do with the calendar. -/
theorem draft_ne_beyondCalendar (members : List (String × Json)) : draft members ≠ .error .beyondCalendar := by
  unfold draft
  cases ofMembers members <;> exact nofun

/-- What keeps the values of a new token from describing one has nothing to do with the calendar. -/
theorem draftOfValues_ne_beyondCalendar (tokenType lifetime accessToken scopes : Json) :
    draftOfValues tokenType lifetime accessToken scopes ≠ .error .beyondCalendar := by
  unfold draftOfValues
  split
  · cases hitems : itemsOf scopes with
    | ok items => exact draft_ne_beyondCalendar _
    | error fault =>
      intro he
      exact itemsOf_ne_beyondCalendar scopes (hitems.trans (congrArg _ (Except.error.inj he)))
  · exact draft_ne_beyondCalendar _

/-- What keeps the members of a response from describing a token has nothing to do with the calendar. -/
theorem draftOfResponseMembers_ne_beyondCalendar (members : List (String × Json)) :
    draftOfResponseMembers members ≠ .error .beyondCalendar := by
  unfold draftOfResponseMembers
  split
  · cases ofMembers members <;> exact nofun
  · exact nofun

/-- What keeps a value from describing a token has nothing to do with the calendar. -/
theorem draftOfJson_ne_beyondCalendar (v : Json) : draftOfJson v ≠ .error .beyondCalendar := by
  cases v with
  | obj members => exact draftOfResponseMembers_ne_beyondCalendar members
  | _ => exact nofun

/-- What keeps a response body from describing a token has nothing to do with the calendar. -/
theorem draftOfSource_ne_beyondCalendar (source : Source) (room : Nat) : draftOfSource source room ≠ .error .beyondCalendar := by
  unfold draftOfSource
  split
  · exact nofun
  · exact nofun
  · exact draftOfResponseMembers_ne_beyondCalendar _
  · exact nofun
  · exact nofun

/-- What keeps a response from telling what went wrong has nothing to do with the calendar. -/
theorem oauthError_ne_beyondCalendar (r : Response) (room : Nat) : r.oauthError room ≠ .error .beyondCalendar := by
  unfold Response.oauthError
  split <;> exact nofun

/-- What keeps a response from describing a token has nothing to do with the calendar. -/
theorem draftOfResponse_ne_beyondCalendar (r : Response) (room : Nat) : draftOfResponse r room ≠ .error .beyondCalendar := by
  unfold draftOfResponse
  split
  · exact draftOfSource_ne_beyondCalendar _ room
  · cases hreported : r.oauthError room with
    | ok reported => exact nofun
    | error fault =>
      intro he
      exact oauthError_ne_beyondCalendar r room (hreported.trans (congrArg _ (Except.error.inj he)))

end Token

end OAuthClient
