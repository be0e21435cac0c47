import OAuthClient.Proofs.Uri.Parts
import OAuthClient.Proofs.Uri.Reference
import OAuthClient.Uri.Normal

/-!
# URLs with and without a host

An absolute URL has a scheme and a host. A text that is read may have a scheme and no host: what stands in front of its first colon is its
scheme whenever it may be one, and a host is looked for only behind two slashes. So a host with a port behind it is read as a scheme with
a path when the scheme is left out.
-/

namespace OAuthClient.Uri

open OAuthClient.Text

variable {scheme authority user host port rest tail cs : List Char}

/-- A text is an absolute URL: it is read, and has a scheme and a host. -/
def IsAbsolute (text : String) : Prop :=
  ∃ r, Reference.read isHostName text.toList = .ok r ∧ r.isAbsolute = true

/-- A text may stand in front of a host: it is empty, or user information with its at sign. -/
def IsUserPart (cs : List Char) : Prop :=
  cs = [] ∨ ∃ user, cs = user ++ ['@']

/-- A text may stand behind a host: it is empty, or a colon with a number or nothing behind it. -/
def IsPortPart (cs : List Char) : Prop :=
  cs = [] ∨ ∃ port, cs = ':' :: port ∧ '@' ∉ port ∧ (port = [] ∨ ∃ n, Integer.read port = .ok n)

/-- A text has a scheme and names no host. -/
inductive Hostless : List Char → Prop
  /-- There is no authority. -/
  | noAuthority {scheme rest : List Char} (hscheme : isSchemeName scheme = true) (hrest : ¬ ['/', '/'] <+: rest) :
      Hostless (scheme ++ ':' :: rest)
  /-- There is an authority, with nothing between the user information and the port. -/
  | emptyHost {scheme user port tail : List Char} (hscheme : isSchemeName scheme = true) (huser : IsUserPart user)
      (hport : IsPortPart port) (hinside : ∀ c ∈ user ++ port, endsAuthority c = false) (hends : EndsAuthority tail) :
      Hostless (scheme ++ ':' :: '/' :: '/' :: (user ++ port ++ tail))

/-! ## The scheme -/

/-- The text is its scheme, a colon and what is left, if it has a scheme. -/
theorem scheme_ne_nil_iff :
    (Reference.ofText cs).scheme ≠ [] ↔ ∃ scheme rest, isSchemeName scheme = true ∧ cs = scheme ++ ':' :: rest := by
  have hcut : (Reference.ofText cs).scheme = (cutReferenceScheme cs).1 := rfl
  rw [hcut]
  constructor
  · intro h
    by_cases hcolon : ':' ∈ cs
    · obtain ⟨scheme, rest, rfl, hscheme⟩ := List.eq_append_cons_of_mem hcolon
      rw [cutReferenceScheme_colon hscheme] at h
      by_cases hname : isSchemeName scheme = true
      · exact ⟨scheme, rest, hname, rfl⟩
      · rw [if_neg hname] at h
        split at h <;> exact absurd rfl h
    · rw [cutReferenceScheme_of_notMem hcolon] at h
      exact absurd rfl h
  · rintro ⟨scheme, rest, hname, rfl⟩
    rw [cutReferenceScheme_of_isSchemeName hname]
    exact List.isEmpty_eq_false_iff.mp (isEmpty_of_isSchemeName hname)

/-! ## The host -/

/-- What stands in front of a host ends at the last at sign. -/
theorem exists_userPart (authority : List Char) : ∃ user rest, authority = user ++ rest ∧ IsUserPart user ∧ '@' ∉ rest := by
  by_cases hat : '@' ∈ authority
  · obtain ⟨user, rest, rfl, hrest⟩ := exists_last_of_mem hat
    exact ⟨user ++ ['@'], rest, by simp, Or.inr ⟨user, rfl⟩, hrest⟩
  · exact ⟨[], authority, rfl, Or.inl rfl, hat⟩

/-- What stands in front of a host has no part in the host and the port. -/
theorem cutHost_append (huser : IsUserPart user) (hrest : '@' ∉ rest) : (cutHost (user ++ rest)).2 = (cutHost rest).2 := by
  rcases huser with rfl | ⟨user, rfl⟩
  · rfl
  · rw [List.append_assoc, List.singleton_append]
    unfold cutHost
    rw [cutLast_append_cons hrest, cutLast_of_notMem hrest]
    rfl

/-- There is no host exactly when nothing or a colon stands where it would begin. -/
theorem host_eq_nil_iff (hrest : '@' ∉ rest) : (cutHost rest).2.1 = [] ↔ rest = [] ∨ ∃ port, rest = ':' :: port := by
  unfold cutHost
  rw [cutLast_of_notMem hrest]
  dsimp only [Option.getD_none]
  cases rest with
  | nil => simp
  | cons c rest =>
    split
    · -- a host in brackets keeps its closing bracket
      next before after hbracket hlast =>
      cases hbracket
      simp
    · by_cases hc : c = ':'
      · simp [hc]
      · simp [hc]

/-- Behind a colon that begins an authority stands the port. -/
theorem cutHost_colon (hport : '@' ∉ port) : cutHost (':' :: port) = ([], [], port) := by
  unfold cutHost
  rw [cutLast_of_notMem (by simpa using hport)]
  simp

/-- What may stand behind a host is an authority of its own, without a host and with a port that is left out or a number. -/
theorem isPortPart_iff : IsPortPart rest ↔
    '@' ∉ rest ∧ (cutHost rest).2.1 = [] ∧ ((cutHost rest).2.2 = [] ∨ ∃ n, Integer.read (cutHost rest).2.2 = .ok n) := by
  constructor
  · rintro (rfl | ⟨port, rfl, hat, hnumber⟩)
    · exact ⟨List.not_mem_nil, rfl, Or.inl rfl⟩
    · rw [cutHost_colon hat]
      exact ⟨by simpa using hat, rfl, hnumber⟩
  · rintro ⟨hat, hhost, hnumber⟩
    rcases (host_eq_nil_iff hat).mp hhost with rfl | ⟨port, rfl⟩
    · exact Or.inl rfl
    · have hport : '@' ∉ port := fun hmem => hat (List.mem_cons_of_mem _ hmem)
      rw [cutHost_colon hport] at hnumber
      exact Or.inr ⟨port, rfl, hport, hnumber⟩

/-! ## The parts of a text with a scheme -/

/-- The parts of a text with a scheme and without an authority. -/
theorem ofText_noAuthority (hscheme : isSchemeName scheme = true) (hrest : ¬ ['/', '/'] <+: rest) :
    ∃ path query fragment, Reference.ofText (scheme ++ ':' :: rest) = ⟨scheme, [], [], [], path, query, fragment⟩ := by
  have hauthority : cutAuthority rest = (none, rest) :=
    cutAuthority_of_not_slashes fun behind hbehind => hrest ⟨behind, hbehind.symm⟩
  unfold Reference.ofText
  rw [cutReferenceScheme_of_isSchemeName hscheme]
  dsimp only
  rw [hauthority]
  exact ⟨_, _, _, rfl⟩

/-- A path behind an authority fits it. -/
theorem checkPath_stem (hends : EndsAuthority tail) (hasAuthority : Bool) : checkPath true hasAuthority (stem tail) = .ok () := by
  have hpath : stem tail = [] ∨ (stem tail).head? = some '/' := by
    cases tail with
    | nil => exact Or.inl rfl
    | cons c tail =>
      by_cases hslash : c = '/'
      · subst hslash
        right
        rw [stem_slash]
        rfl
      · left
        have hc := hends c rfl
        simp only [endsAuthority, Bool.or_eq_true, beq_iff_eq, hslash, false_or] at hc
        exact stem_of_trails fun d hd => Option.some.inj hd ▸ hc
  cases hasAuthority with
  | false => rfl
  | true => simp only [checkPath, List.isEmpty_iff, if_true, hpath, Bool.or_eq_true, decide_eq_true_eq]

/-- A reference has the number of a port when its port is left out or a number. -/
theorem exists_portNumber_iff (r : Reference) :
    (∃ n, r.portNumber = .ok n) ↔ r.port = [] ∨ ∃ n, Integer.read r.port = .ok n := by
  unfold Reference.portNumber
  by_cases hport : r.port = []
  · simp [hport]
  · cases Integer.read r.port <;> simp [hport]

/-! ## Texts without a host -/

/-- A text that is read with a scheme and without a host names none. -/
theorem hostless_of_read {isName : List Char → Bool} {r : Reference} (h : Reference.read isName cs = .ok r) (hscheme : r.scheme ≠ [])
    (hhost : r.host = []) : Hostless cs := by
  obtain ⟨-, -, rfl, -, n, hn, -⟩ := read_eq_ok_iff.mp h
  have hnumber := (exists_portNumber_iff _).mp ⟨n, hn⟩
  obtain ⟨scheme, rest, hname, rfl⟩ := scheme_ne_nil_iff.mp hscheme
  by_cases hslashes : ['/', '/'] <+: rest
  · obtain ⟨behind, rfl⟩ := hslashes
    obtain ⟨authority, tail, rfl, hinside, hends⟩ := exists_authority behind
    obtain ⟨user, port, rfl, huser, hat⟩ := exists_userPart authority
    obtain ⟨query, fragment, hparts⟩ := ofText_authority hname hinside hends
    rw [List.cons_append, List.cons_append, List.nil_append, hparts, cutHost_append huser hat] at hhost hnumber
    exact .emptyHost hname huser (isPortPart_iff.mpr ⟨hat, hhost, hnumber⟩) hinside hends
  · exact .noAuthority hname hslashes

/-- A text that names no host is read with its scheme and without a host when it is not too long and has no control character. -/
theorem Hostless.exists_read (h : Hostless cs) (hlength : cs.length ≤ maxLength) (hcontrol : cs.any isControl = false)
    (isName : List Char → Bool) : ∃ r, Reference.read isName cs = .ok r ∧ r.scheme ≠ [] ∧ r.host = [] := by
  cases h with
  | @noAuthority scheme rest hscheme hrest =>
    obtain ⟨path, query, fragment, hparts⟩ := ofText_noAuthority hscheme hrest
    have hempty := isEmpty_of_isSchemeName hscheme
    refine ⟨_, read_eq_ok_iff.mpr ⟨hlength, hcontrol, hparts.symm, rfl, none, rfl, ?_⟩, List.isEmpty_eq_false_iff.mp hempty, rfl⟩
    dsimp only
    rw [hempty]
    rfl
  | @emptyHost scheme user port tail hscheme huser hport hinside hends =>
    obtain ⟨query, fragment, hparts⟩ := ofText_authority hscheme hinside hends
    obtain ⟨hat, hhost, hnumber⟩ := isPortPart_iff.mp hport
    rw [cutHost_append huser hat, hhost] at hparts
    obtain ⟨n, hn⟩ := (exists_portNumber_iff ⟨scheme, _, [], (cutHost port).2.2, stem tail, query, fragment⟩).mpr hnumber
    have hempty := isEmpty_of_isSchemeName hscheme
    refine ⟨_, read_eq_ok_iff.mpr ⟨hlength, hcontrol, hparts.symm, rfl, n, hn, ?_⟩, List.isEmpty_eq_false_iff.mp hempty, rfl⟩
    dsimp only
    rw [hempty]
    exact checkPath_stem hends _

/-- A text that names no host is no absolute URL. -/
theorem Hostless.not_isAbsolute {text : String} (h : Hostless text.toList) : ¬ IsAbsolute text := by
  rintro ⟨r, hread, habsolute⟩
  obtain ⟨hlength, hcontrol, hparts, -⟩ := read_eq_ok_iff.mp hread
  obtain ⟨r', hread', -, hhost⟩ := h.exists_read hlength hcontrol isHostName
  cases hread.symm.trans hread'
  rw [Reference.isAbsolute, hhost] at habsolute
  simp at habsolute

/-! ## Texts without their scheme -/

/-- A character ends a host: it ends the authority or begins the port. -/
def endsHost (c : Char) : Bool :=
  endsAuthority c || c == ':'

/-- A URL without its scheme: a host and what stands behind it, which does not make the host a scheme with an authority. -/
structure SchemeLeftOut (host rest : List Char) : Prop where
  inside : ∀ c ∈ host, endsHost c = false
  behind : ∀ c ∈ rest.head?, endsHost c = true
  noSlashes : ¬ [':', '/', '/'] <+: rest

instance (host rest : List Char) : Decidable (SchemeLeftOut host rest) :=
  decidable_of_iff (host.all (!endsHost ·) = true ∧ rest.head?.all endsHost = true ∧ ¬ [':', '/', '/'] <+: rest) <| by
    rw [List.all_eq_true, Option.all_eq_true]
    exact ⟨fun ⟨hinside, hbehind, hslashes⟩ => ⟨by simpa using hinside, hbehind, hslashes⟩,
      fun h => ⟨by simpa using h.inside, h.behind, h.noSlashes⟩⟩

/-- No character of a scheme ends a host. -/
theorem endsHost_of_isSchemeChar {c : Char} (h : isSchemeChar c = true) : endsHost c = false := by
  rw [Bool.eq_false_iff]
  intro hends
  simp only [endsHost, endsAuthority, Bool.or_eq_true, beq_iff_eq] at hends
  rcases hends with ((rfl | rfl) | rfl) | rfl <;> cases h

/-- A URL whose scheme is left out begins with a scheme exactly when its host may be one and a colon stands behind it. -/
theorem SchemeLeftOut.exists_scheme_iff (h : SchemeLeftOut host rest) :
    (∃ scheme behind, isSchemeName scheme = true ∧ host ++ rest = scheme ++ ':' :: behind) ↔
      isSchemeName host = true ∧ rest.head? = some ':' := by
  constructor
  · rintro ⟨scheme, behind, hname, heq⟩
    -- both the host and the scheme go on to the first character that ends a host
    have hhost : (host ++ rest).takeWhile (!endsHost ·) = host := takeWhile_run h.inside h.behind
    have hscheme : (scheme ++ ':' :: behind).takeWhile (!endsHost ·) = scheme :=
      takeWhile_run (fun c hc => endsHost_of_isSchemeChar (isSchemeChar_of_mem hname hc)) (by rintro c ⟨⟩; rfl)
    obtain rfl : host = scheme := by rw [← hhost, heq, hscheme]
    rw [List.append_cancel_left heq]
    exact ⟨hname, rfl⟩
  · rintro ⟨hname, hcolon⟩
    obtain ⟨behind, rfl⟩ := List.head?_eq_some_iff.mp hcolon
    exact ⟨host, behind, hname, rfl⟩

/-- A URL whose scheme is left out names no host when its host is taken for a scheme. -/
theorem SchemeLeftOut.hostless (h : SchemeLeftOut host rest) (hname : isSchemeName host = true) (hcolon : rest.head? = some ':') :
    Hostless (host ++ rest) := by
  obtain ⟨behind, rfl⟩ := List.head?_eq_some_iff.mp hcolon
  refine .noAuthority hname fun hslashes => h.noSlashes ?_
  exact List.cons_prefix_cons.mpr ⟨rfl, hslashes⟩

end OAuthClient.Uri
