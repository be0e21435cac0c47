import Mathlib.Data.List.TakeWhile
import OAuthClient.Proofs.Text.Split
import OAuthClient.Proofs.Text.Words
import OAuthClient.Proofs.Uri.Parts
import OAuthClient.Uri.Reference

/-!
# Reading URL references

Statements about `Reference.read`: where a text is cut into its parts, and when these are read. For a text that begins with a scheme, a
plain host and a slash, whatever stands behind the slash is path, query and fragment and cannot reach back to the host, so such a text is
read exactly when it is not too long and has no control character.
-/

namespace OAuthClient.Uri

open OAuthClient.Text

/-- A name of ASCII characters that stands for a host wherever an authority may stand: nothing in it ends the authority, or cuts off
user information or a port, or looks like an address. -/
structure IsPlainHost (host : List Char) : Prop where
  ascii : ∀ c ∈ host, c.toNat < 0x80
  inside : ∀ c ∈ host, endsAuthority c = false
  noUser : '@' ∉ host
  noPort : ':' ∉ host
  noBracket : '[' ∉ host
  notNumeric : looksNumeric host = false

variable {c : Char} {scheme authority host rest tail : List Char}

/-- A text is a plain host when each character may stand in one and it does not look like an address. -/
theorem IsPlainHost.of_all (hchars : (host.all fun c => c.toNat < 0x80 && !endsAuthority c && !(['@', ':', '['].contains c)) = true)
    (hnumeric : looksNumeric host = false) : IsPlainHost host := by
  have hchar : ∀ c ∈ host, (c.toNat < 0x80 ∧ endsAuthority c = false) ∧ c ∉ ['@', ':', '['] := by
    intro c hc
    simpa using List.all_eq_true.mp hchars c hc
  have habsent : ∀ c ∈ ['@', ':', '['], c ∉ host := fun c hlist hc => (hchar c hc).2 hlist
  exact ⟨fun c hc => (hchar c hc).1.1, fun c hc => (hchar c hc).1.2, habsent '@' (by decide), habsent ':' (by decide),
    habsent '[' (by decide), hnumeric⟩

/-! ## Cutting -/

/-- What stands in front of the first colon is cut off as the scheme when it may be one. -/
theorem cutReferenceScheme_colon (h : ':' ∉ scheme) (rest : List Char) :
    cutReferenceScheme (scheme ++ ':' :: rest) =
      if isSchemeName scheme then (scheme, rest) else if scheme = [] then ([], rest) else ([], scheme ++ ':' :: rest) := by
  unfold cutReferenceScheme
  rw [cut_append_cons h]
  cases scheme with
  | nil => rfl
  | cons c scheme => rfl

/-- Without a colon there is no scheme. -/
theorem cutReferenceScheme_of_notMem (h : ':' ∉ rest) : cutReferenceScheme rest = ([], rest) := by
  unfold cutReferenceScheme
  rw [cut_of_notMem h]
  split
  · next hcut => cases hcut
  · next hcut => cases hcut
  · rfl

/-- A scheme is cut off. -/
theorem cutReferenceScheme_of_isSchemeName (h : isSchemeName scheme = true) (rest : List Char) :
    cutReferenceScheme (scheme ++ ':' :: rest) = (scheme, rest) := by
  rw [cutReferenceScheme_colon (notMem_of_isSchemeName h (by decide)), if_pos h]

/-- A text may stand behind an authority: it is empty or begins with a character that ends one. -/
def EndsAuthority (cs : List Char) : Prop :=
  ∀ c ∈ cs.head?, endsAuthority c = true

/-- A slash ends an authority. -/
theorem endsAuthority_slash (rest : List Char) : EndsAuthority ('/' :: rest) := by
  rintro c ⟨⟩
  rfl

/-- Every text begins with an authority, up to where one ends. -/
theorem exists_authority (cs : List Char) :
    ∃ authority tail, cs = authority ++ tail ∧ (∀ c ∈ authority, endsAuthority c = false) ∧ EndsAuthority tail :=
  ⟨cs.takeWhile (!endsAuthority ·), cs.dropWhile (!endsAuthority ·), List.takeWhile_append_dropWhile.symm,
    fun _ hc => not_of_mem_takeWhile hc, fun _ hc => of_mem_head?_dropWhile hc⟩

/-- An authority is cut off where it ends. -/
theorem cutAuthority_append (h : ∀ c ∈ host, endsAuthority c = false) (hends : EndsAuthority rest) :
    cutAuthority ('/' :: '/' :: (host ++ rest)) = (some host, rest) := by
  rw [cutAuthority, takeWhile_run h hends, dropWhile_run h hends]

/-- A plain host has neither user information nor a port. -/
theorem cutHost_of_isPlainHost (h : IsPlainHost host) : cutHost host = ([], host, []) := by
  have huser : cutLast '@' host = none := cutLast_of_notMem h.noUser
  have hcolon : ∀ c ∈ host, (c != ':') = true := by
    intro c hc
    rw [bne_iff_ne]
    rintro rfl
    exact h.noPort hc
  have htake : host.takeWhile (· != ':') = host := List.takeWhile_eq_self_iff.mpr hcolon
  have hdrop : host.dropWhile (· != ':') = [] := List.dropWhile_eq_nil_iff.mpr hcolon
  unfold cutHost
  rw [huser]
  dsimp only [Option.getD_none]
  split
  · exact absurd List.mem_cons_self h.noBracket
  · rw [htake, hdrop]

/-- The parts of a text with a scheme and an authority. -/
theorem ofText_authority (hscheme : isSchemeName scheme = true) (hinside : ∀ c ∈ authority, endsAuthority c = false)
    (hends : EndsAuthority tail) :
    ∃ query fragment, Reference.ofText (scheme ++ ':' :: '/' :: '/' :: (authority ++ tail)) =
      ⟨scheme, (cutHost authority).1, (cutHost authority).2.1, (cutHost authority).2.2, stem tail, query, fragment⟩ := by
  unfold Reference.ofText
  rw [cutReferenceScheme_of_isSchemeName hscheme]
  dsimp only
  rw [cutAuthority_append hinside hends]
  exact ⟨_, _, rfl⟩

/-! ## Reading -/

/-- A text is read when it is not too long and has no control character and its parts, which are what is read, pass their checks. -/
theorem read_eq_ok_iff {isName : List Char → Bool} {cs : List Char} {r : Reference} :
    Reference.read isName cs = .ok r ↔
      cs.length ≤ maxLength ∧ cs.any isControl = false ∧ r = Reference.ofText cs ∧ checkHost isName r.host = .ok () ∧
        ∃ port, r.portNumber = .ok port ∧
          checkPath (!r.scheme.isEmpty) (!r.userinfo.isEmpty || !r.host.isEmpty || port.isSome) r.path = .ok () := by
  unfold Reference.read
  constructor
  · intro h
    split at h
    · cases h
    next hlength =>
    split at h
    · cases h
    next hcontrol =>
    dsimp only at h
    cases hhost : checkHost isName (Reference.ofText cs).host with
    | error flaw =>
      rw [hhost] at h
      cases h
    | ok =>
      rw [hhost] at h
      cases hport : (Reference.ofText cs).portNumber with
      | error flaw =>
        rw [hport] at h
        cases h
      | ok port =>
        rw [hport] at h
        dsimp only [bind, Except.bind] at h
        split at h
        · cases h
        next hpath =>
        cases h
        exact ⟨Nat.le_of_not_lt hlength, Bool.eq_false_iff.mpr hcontrol, rfl, hhost, port, hport, hpath⟩
  · rintro ⟨hlength, hcontrol, rfl, hhost, port, hport, hpath⟩
    rw [if_neg (Nat.not_lt.mpr hlength), hcontrol, if_neg Bool.false_ne_true]
    dsimp only [bind, Except.bind]
    rw [hhost, hport]
    dsimp only
    rw [hpath]
    rfl

/-- What is read has the parts of the text. -/
theorem eq_ofText_of_read {isName : List Char → Bool} {cs : List Char} {r : Reference} (h : Reference.read isName cs = .ok r) :
    r = Reference.ofText cs :=
  (read_eq_ok_iff.mp h).2.2.1

/-- A text that is read as a URL reference has no controls. -/
theorem not_isControl_of_read {isName : List Char → Bool} {cs : List Char} {r : Reference}
    (h : Reference.read isName cs = .ok r) : ∀ c ∈ cs, isControl c = false := by
  intro c hc
  exact Bool.eq_false_iff.mpr (List.any_eq_false.mp (read_eq_ok_iff.mp h).2.1 c hc)

/-- The scheme, the host and the path of a text that begins with a scheme, a plain host and a slash. -/
theorem ofText_append (hfirst : isAsciiLetter c = true) (hscheme : scheme.all isSchemeChar = true) (hhost : IsPlainHost host)
    (rest : List Char) : ∃ path query fragment, Reference.ofText (c :: scheme ++ ':' :: '/' :: '/' :: (host ++ '/' :: rest)) =
      ⟨c :: scheme, [], host, [], '/' :: path, query, fragment⟩ := by
  have hname : isSchemeName (c :: scheme) = true := by
    rw [isSchemeName, hfirst, hscheme]
    rfl
  obtain ⟨query, fragment, hparts⟩ := ofText_authority hname hhost.inside (endsAuthority_slash rest)
  rw [cutHost_of_isPlainHost hhost, stem_slash] at hparts
  exact ⟨stem rest, query, fragment, hparts⟩

/-- A plain host passes the check of hosts. -/
theorem checkHost_of_isPlainHost (h : IsPlainHost host) (isName : List Char → Bool) : checkHost isName host = .ok () := by
  have hascii : (host.all fun c => c.toNat < 0x80) = true := by
    simpa using h.ascii
  have hbracket : ¬ (host.head? = some '[' ∧ host.getLast? = some ']') := fun hb => h.noBracket (List.mem_of_head? hb.1)
  unfold checkHost
  rw [h.notNumeric, hascii]
  split
  · rfl
  · simp [hbracket]

/-- A text that begins with a scheme, a plain host and a slash is read, unless it is too long or has a control character. -/
theorem read_append (hfirst : isAsciiLetter c = true) (hscheme : scheme.all isSchemeChar = true) (hhost : IsPlainHost host)
    {cs : List Char} (hcs : cs = c :: scheme ++ ':' :: '/' :: '/' :: (host ++ '/' :: rest)) (isName : List Char → Bool) :
    (maxLength < cs.length ∧ Reference.read isName cs = .error .tooLong) ∨
    (cs.length ≤ maxLength ∧ cs.any isControl = true ∧ Reference.read isName cs = .error .control) ∨
    (cs.length ≤ maxLength ∧ cs.any isControl = false ∧ ∃ r, Reference.read isName cs = .ok r ∧ r.scheme ≠ []) := by
  unfold Reference.read
  by_cases hlong : maxLength < cs.length
  · exact Or.inl ⟨hlong, if_pos hlong⟩
  rw [if_neg hlong]
  by_cases hcontrol : cs.any isControl = true
  · exact Or.inr (Or.inl ⟨Nat.le_of_not_lt hlong, hcontrol, if_pos hcontrol⟩)
  rw [if_neg hcontrol]
  refine Or.inr (Or.inr ⟨Nat.le_of_not_lt hlong, Bool.eq_false_iff.mpr hcontrol, ?_⟩)
  obtain ⟨path, query, fragment, hparts⟩ := ofText_append hfirst hscheme hhost rest
  rw [hcs, hparts]
  dsimp only
  rw [checkHost_of_isPlainHost hhost]
  refine ⟨⟨c :: scheme, [], host, [], '/' :: path, query, fragment⟩, ?_, List.cons_ne_nil c scheme⟩
  cases host <;> rfl

end OAuthClient.Uri
