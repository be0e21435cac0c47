import OAuthClient.Proofs.Store.RefreshToken

/-!
# The field for the refresh token

A form needs the refresh token, or sends it along where there is one. Where it needs it, an empty value counts as none and the token that
was kept last is asked. Where it sends it along, an empty value counts as a value and is sent. In all else the two are alike.
-/

namespace OAuthClient.Store

variable {s : Store Token} {required optional : List Parameter} {form : List (String × String)} {p : Parameter}

/-! ## Fields of a form -/

/-- Under the name of a parameter the rows of listed parameters have its value, where it is listed and has one. -/
theorem lookup_rows (has : Parameter → Option String) (p : Parameter) (ps : List Parameter) :
    (ps.filterMap fun q => (has q).map (q.wireName, ·)).lookup p.wireName = if p ∈ ps then has p else none := by
  induction ps with
  | nil => rfl
  | cons q ps ih =>
    rw [List.filterMap_cons]
    by_cases hq : p = q
    · subst hq
      rw [if_pos List.mem_cons_self]
      cases hp : has p with
      | none =>
        rw [hp, ite_self] at ih
        exact ih
      | some v => exact List.lookup_cons_self
    · have hname : (p.wireName == q.wireName) = false := beq_false_of_ne fun h => hq (Parameter.wireName_injective h)
      simp only [List.mem_cons, hq, false_or]
      cases has q with
      | none => exact ih
      | some v =>
        show List.lookup p.wireName ((q.wireName, v) :: _) = _
        rw [List.lookup_cons, hname]
        exact ih

/-- A form is built exactly when each parameter that it needs is available, and then of these and of those that it sends along. -/
theorem formParams_built_iff : s.formParams required optional = .ok form ↔
    (∀ p ∈ required, s.available? true p ≠ none) ∧
      form = Json.collect (required.filterMap (s.row? true) ++ s.optionalPairs true optional) := by
  rw [formParams, pairs, requiredPairs_eq]
  cases hfind : required.find? fun p => (s.available? true p).isNone with
  | some p =>
    have hmissing : s.available? true p = none := by simpa using List.find?_some hfind
    constructor
    · intro h
      cases h
    · intro h
      exact absurd hmissing (h.1 p (List.mem_of_find?_eq_some hfind))
  | none =>
    have havailable : ∀ p ∈ required, s.available? true p ≠ none := by simpa using hfind
    constructor
    · intro h
      exact ⟨havailable, (Except.ok.inj h).symm⟩
    · rintro ⟨-, rfl⟩
      rfl

/-- Under the name of a parameter a form has what it sends along for it, and otherwise what it needs. -/
theorem find?_formParams (h : s.formParams required optional = .ok form) (p : Parameter) : Json.find? p.wireName form =
    (if p ∈ optional then s.optionalValue true p else none).or (if p ∈ required then s.available? true p else none) := by
  have hoptional := lookup_rows (s.optionalValue true) p optional.reverse
  have hrequired := lookup_rows (s.available? true) p required.reverse
  rw [List.filterMap_reverse] at hoptional hrequired
  simp only [List.mem_reverse] at hoptional hrequired
  rw [(formParams_built_iff.mp h).2, Json.find?_collect, List.reverse_append, List.lookup_append]
  exact congrArg₂ Option.or hoptional hrequired

/-! ## Needed or sent along -/

/-- The other parameters of a form, needed or sent along, in front of the place of the refresh token and behind it. -/
structure Others where
  neededBefore : List Parameter
  neededAfter : List Parameter
  alongBefore : List Parameter
  alongAfter : List Parameter
  spared : .refreshToken ∉ neededBefore ++ neededAfter ∧ .refreshToken ∉ alongBefore ++ alongAfter

namespace Others

/-- The form that sends the refresh token along. -/
def sending (others : Others) (s : Store Token) : Except Failure (List (String × String)) :=
  s.formParams (others.neededBefore ++ others.neededAfter) (others.alongBefore ++ .refreshToken :: others.alongAfter)

/-- The form that needs the refresh token. -/
def needing (others : Others) (s : Store Token) : Except Failure (List (String × String)) :=
  s.formParams (others.neededBefore ++ .refreshToken :: others.neededAfter) (others.alongBefore ++ others.alongAfter)

/-- All other parameters that are needed are available. -/
def Available (others : Others) (s : Store Token) : Prop :=
  ∀ p ∈ others.neededBefore ++ others.neededAfter, s.available? true p ≠ none

variable {others : Others}

/-- The form that sends the refresh token along is built exactly when the others that are needed are available. -/
theorem exists_sending_iff : (∃ form, others.sending s = .ok form) ↔ others.Available s := by
  constructor
  · rintro ⟨form, h⟩
    exact (formParams_built_iff.mp h).1
  · intro h
    exact ⟨_, formParams_built_iff.mpr ⟨h, rfl⟩⟩

/-- The form that needs the refresh token is built exactly when the others that are needed are available and it is, too. -/
theorem exists_needing_iff : (∃ form, others.needing s = .ok form) ↔ others.Available s ∧ s.refreshToken? ≠ none := by
  have hneeded : (∀ p ∈ others.neededBefore ++ .refreshToken :: others.neededAfter, s.available? true p ≠ none) ↔
      others.Available s ∧ s.refreshToken? ≠ none := by
    rw [← available?_refreshToken, and_comm]
    exact (forall_congr' fun p => imp_congr_left List.perm_middle.mem_iff).trans List.forall_mem_cons
  rw [← hneeded]
  constructor
  · rintro ⟨form, h⟩
    exact (formParams_built_iff.mp h).1
  · intro h
    exact ⟨_, formParams_built_iff.mpr ⟨h, rfl⟩⟩

/-- What the form has that sends the refresh token along. -/
theorem find?_sending (h : others.sending s = .ok form) : Json.find? "refresh_token" form = s.optionalValue true .refreshToken := by
  have hfound := find?_formParams h .refreshToken
  rwa [if_pos (by simp), if_neg others.spared.1, Option.or_none] at hfound

/-- What the form has that needs the refresh token. -/
theorem find?_needing (h : others.needing s = .ok form) : Json.find? "refresh_token" form = s.refreshToken? := by
  have hfound := find?_formParams h .refreshToken
  rwa [if_neg others.spared.2, if_pos (by simp), Option.none_or, available?_refreshToken] at hfound

end Others

/-- What is sent along is the refresh token of the store, unless an empty value is set, which is sent. -/
theorem optionalValue_refreshToken (s : Store Token) :
    s.optionalValue true .refreshToken = if s.values .refreshToken = some "" then some "" else s.refreshToken? := by
  rw [optionalValue, refreshToken?, get?_refreshToken]
  cases s.values .refreshToken with
  | none => rfl
  | some v =>
    by_cases hv : v = ""
    · rw [if_pos (congrArg some hv), hv]
    · rw [if_neg fun h => hv (Option.some.inj h)]
      simp only [if_neg hv]

/-- In a form it makes no difference whether the refresh token is sent along or needed. -/
structure TreatedAlike (s : Store Token) (others : Others) : Prop where
  /-- The form that sends it along has it exactly when the form that needs it is built. -/
  has : (∃ form v, others.sending s = .ok form ∧ Json.find? "refresh_token" form = some v) ↔ ∃ form, others.needing s = .ok form
  /-- What both have is the refresh token of the store. -/
  same : ∀ form form' v, others.sending s = .ok form → others.needing s = .ok form' → Json.find? "refresh_token" form = some v →
    Json.find? "refresh_token" form' = some v ∧ s.refreshToken = .ok v

/-- It makes no difference exactly when no empty value is set or something else that is needed is not available. -/
theorem treatedAlike_iff (s : Store Token) (others : Others) :
    TreatedAlike s others ↔ ¬ (s.values .refreshToken = some "" ∧ others.Available s) := by
  constructor
  · rintro ⟨hhas, hsame⟩ ⟨hempty, havailable⟩
    obtain ⟨form, hform⟩ := Others.exists_sending_iff.mpr havailable
    have hfound : Json.find? "refresh_token" form = some "" := by
      rw [Others.find?_sending hform, optionalValue_refreshToken, if_pos hempty]
    obtain ⟨form', hform'⟩ := hhas.mp ⟨form, "", hform, hfound⟩
    exact s.refreshToken_ne_empty (hsame form form' "" hform hform' hfound).2
  · intro h
    have hsent : others.Available s → s.optionalValue true .refreshToken = s.refreshToken? := fun havailable => by
      rw [optionalValue_refreshToken, if_neg fun hempty => h ⟨hempty, havailable⟩]
    constructor
    · rw [Others.exists_needing_iff]
      constructor
      · rintro ⟨form, v, hform, hfound⟩
        have havailable := Others.exists_sending_iff.mp ⟨form, hform⟩
        rw [Others.find?_sending hform, hsent havailable] at hfound
        exact ⟨havailable, hfound ▸ nofun⟩
      · rintro ⟨havailable, hrefresh⟩
        obtain ⟨form, hform⟩ := Others.exists_sending_iff.mpr havailable
        obtain ⟨v, hv⟩ := Option.ne_none_iff_exists'.mp hrefresh
        exact ⟨form, v, hform, by rw [Others.find?_sending hform, hsent havailable, hv]⟩
    · intro form form' v hform hform' hfound
      rw [Others.find?_sending hform, hsent (Others.exists_sending_iff.mp ⟨form, hform⟩)] at hfound
      exact ⟨(Others.find?_needing hform').trans hfound, by rw [refreshToken, hfound]⟩

/-- It makes no difference whether the refresh token is sent along or needed, unless an empty value is set and all else that is needed is
available. The form that sends it along then has the empty value, which is never the refresh token of the store, and the form that needs
it has this refresh token. -/
theorem refresh_sent_or_needed (s : Store Token) (others : Others) :
    (TreatedAlike s others ↔ ¬ (s.values .refreshToken = some "" ∧ others.Available s)) ∧
    (s.values .refreshToken = some "" →
      (∀ form, others.sending s = .ok form → Json.find? "refresh_token" form = some "") ∧
      ∀ form, others.needing s = .ok form →
        ∃ v, v ≠ "" ∧ Json.find? "refresh_token" form = some v ∧ s.refreshToken = .ok v) := by
  refine ⟨treatedAlike_iff s others, fun hempty => ⟨fun form hform => ?_, fun form hform => ?_⟩⟩
  · rw [Others.find?_sending hform, optionalValue_refreshToken, if_pos hempty]
  · obtain ⟨v, hv⟩ := Option.ne_none_iff_exists'.mp (Others.exists_needing_iff.mp ⟨form, hform⟩).2
    have hrefresh : s.refreshToken = .ok v := by rw [refreshToken, hv]
    refine ⟨v, ?_, (Others.find?_needing hform).trans hv, hrefresh⟩
    rintro rfl
    exact s.refreshToken_ne_empty hrefresh

/-- A token response with a refresh token. -/
def renewable : Token where
  values := fun f => if f = .refreshToken then .str "r" else f.default
  expiresIn := 10
  timestamp := .value .null
  expiresOn := .value .null
  extra := []

/-- A store that has kept this response, and then was given an empty refresh token. -/
def blanked : Store Token :=
  ((acceptToken renewable renewable.refreshToken? >>= fun _ => insert .refreshToken "") (empty : Store Token)).state

/-- No other parameters. -/
def alone : Others where
  neededBefore := []
  neededAfter := []
  alongBefore := []
  alongAfter := []
  spared := by decide

/-- The store sends the empty value along, and sends the refresh token of the response where one is needed. -/
theorem refresh_sent_or_needed_blanked :
    alone.sending blanked = .ok [("refresh_token", "")] ∧ alone.needing blanked = .ok [("refresh_token", "r")] ∧
      ¬ TreatedAlike blanked alone ∧ Json.find? "refresh_token" [("refresh_token", "")] = some "" := by
  obtain ⟨halike, hforms⟩ := refresh_sent_or_needed blanked alone
  have hsending : alone.sending blanked = .ok [("refresh_token", "")] := by rfl
  have hempty : blanked.values .refreshToken = some "" := by rfl
  exact ⟨hsending, by rfl, fun h => halike.mp h ⟨hempty, nofun⟩, (hforms hempty).1 _ hsending⟩

/-- It does make a difference in some store. -/
theorem not_every_refresh_treated_alike : ¬ ∀ (s : Store Token) (others : Others), TreatedAlike s others := by
  intro hall
  obtain ⟨-, hsame⟩ := hall blanked alone
  have hsending : alone.sending blanked = .ok [("refresh_token", "")] := by rfl
  have hneeding : alone.needing blanked = .ok [("refresh_token", "r")] := by rfl
  exact absurd (hsame _ _ "" hsending hneeding rfl).1 (by decide)

end OAuthClient.Store
