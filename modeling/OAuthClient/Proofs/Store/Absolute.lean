import OAuthClient.Proofs.Store.Insert
import OAuthClient.Proofs.Uri.Absolute
import OAuthClient.Token.Basic

/-!
# Endpoints without a host

The check of URLs asks for a scheme and not for a host. So it takes every absolute URL, and beside these the texts that have a scheme and
name no host. A URL whose scheme is left out is one of them exactly when its host may be a scheme and a port stands behind it.
-/

namespace OAuthClient.Store

open OAuthClient.Uri

variable {τ : Type} {p : Parameter} {v : String} {host rest : List Char}

/-- What is read as a URL fits one. -/
theorem fitsUrl_of_read {r : Reference} (h : Reference.read isHostName v.toList = .ok r) : FitsUrl v := by
  obtain ⟨hlength, hcontrol, -⟩ := read_eq_ok_iff.mp h
  exact ⟨String.length_toList ▸ hlength, hcontrol⟩

/-- A URL parameter takes a text without a host exactly when it fits a URL. -/
theorem accepts_hostless_iff (hurl : p.isUrl = true) (h : Hostless v.toList) : Accepts p v ↔ FitsUrl v := by
  rw [accepts_iff_read hurl]
  constructor
  · rintro ⟨r, hread, -⟩
    exact fitsUrl_of_read hread
  · rintro ⟨hlength, hcontrol⟩
    obtain ⟨r, hread, hscheme, -⟩ := h.exists_read (by rwa [String.length_toList]) hcontrol isHostName
    exact ⟨r, hread, hscheme⟩

/-- A URL parameter takes absolute URLs and what names no host, as far as it fits a URL. -/
theorem accepts_iff_absolute_or_hostless (hurl : p.isUrl = true) : Accepts p v ↔ IsAbsolute v ∨ FitsUrl v ∧ Hostless v.toList := by
  constructor
  · intro haccepts
    obtain ⟨r, hread, hscheme⟩ := (accepts_iff_read hurl).mp haccepts
    by_cases hhost : r.host = []
    · exact Or.inr ⟨fitsUrl_of_read hread, hostless_of_read hread hscheme hhost⟩
    · exact Or.inl ⟨r, hread, by simp [Reference.isAbsolute, hscheme, hhost]⟩
  · rintro (⟨r, hread, habsolute⟩ | ⟨hfits, hhostless⟩)
    · have hparts : r.scheme ≠ [] ∧ r.host ≠ [] := by simpa [Reference.isAbsolute] using habsolute
      exact (accepts_iff_read hurl).mpr ⟨r, hread, hparts.1⟩
    · exact (accepts_hostless_iff hurl hhostless).mpr hfits

/-- A URL parameter takes a URL whose scheme is left out exactly when its host may be a scheme with a colon behind it, and it fits. -/
theorem accepts_schemeLeftOut_iff (hurl : p.isUrl = true) (hv : v.toList = host ++ rest) (h : SchemeLeftOut host rest) :
    Accepts p v ↔ FitsUrl v ∧ isSchemeName host = true ∧ rest.head? = some ':' := by
  constructor
  · intro haccepts
    obtain ⟨r, hread, hscheme⟩ := (accepts_iff_read hurl).mp haccepts
    rw [eq_ofText_of_read hread, scheme_ne_nil_iff, hv, h.exists_scheme_iff] at hscheme
    exact ⟨fitsUrl_of_read hread, hscheme⟩
  · rintro ⟨hfits, hname, hcolon⟩
    exact (accepts_hostless_iff hurl (hv ▸ h.hostless hname hcolon)).mpr hfits

/-- What becomes of a text that is given for a URL, in four parts.
1. It is set, or it is refused as an invalid URL and nothing is changed.
2. It is set exactly when it is an absolute URL or, being neither too long nor with a control character, has a scheme and names no host.
3. A text that names no host is never an absolute URL, so beside absolute URLs these texts and no others are set.
4. A URL whose scheme is left out is set exactly when its host may be a scheme and a colon stands behind it, and it is neither too long
nor with a control character. So it is refused when nothing or a path stands behind its host. -/
theorem urls_absolute_or_hostless (hurl : p.isUrl = true) (v : String) (s : Store τ) :
    (insert p v s = ⟨.ok (), s.setValue p v, [setRecord p v]⟩ ∨
      ∃ cause, insert p v s = ⟨.error (.failure (.invalidUrl p.wireName v cause)), s, []⟩) ∧
    ((insert p v s).result = .ok () ↔ IsAbsolute v ∨ FitsUrl v ∧ Hostless v.toList) ∧
    (Hostless v.toList → ¬ IsAbsolute v) ∧
    ∀ host rest, v.toList = host ++ rest → SchemeLeftOut host rest →
      ((insert p v s).result = .ok () ↔ FitsUrl v ∧ isSchemeName host = true ∧ rest.head? = some ':') := by
  refine ⟨?_, ?_, Hostless.not_isAbsolute, fun host rest hv h => ?_⟩
  · by_cases haccepts : Accepts p v
    · have hscope : p ≠ .scope := by
        rintro rfl
        cases hurl
      exact Or.inl (insert_of_accepts hscope haccepts s)
    · exact Or.inr (insert_error_of_refused haccepts s)
  · rw [result_insert_ok_iff, accepts_iff_absolute_or_hostless hurl]
  · rw [result_insert_ok_iff, accepts_schemeLeftOut_iff hurl hv h]

/-- The name of this machine with a port names no host: it is a scheme with a path. -/
theorem hostless_localhost : Hostless "localhost:8080".toList := by
  have hscheme : isSchemeName "localhost".toList = true := by decide
  have hrest : ¬ ['/', '/'] <+: "8080".toList := by decide
  exact .noAuthority hscheme hrest

/-- The name of this machine with a port is set, though it is no absolute URL; the number of this machine with a port and a host with a
path are refused. -/
theorem urls_absolute_or_hostless_localhost :
    ((insert .authorizationUrl "localhost:8080" (empty : Store Token)).result = .ok () ∧ ¬ IsAbsolute "localhost:8080") ∧
    (insert .accessTokenUrl "127.0.0.1:8080/token" (empty : Store Token)).result ≠ .ok () ∧
    (insert .refreshTokenUrl "login.test/token:8080" (empty : Store Token)).result ≠ .ok () := by
  obtain ⟨-, -, hhostless, hname⟩ := urls_absolute_or_hostless (p := .authorizationUrl) rfl "localhost:8080" (empty : Store Token)
  have hlocalhost : SchemeLeftOut "localhost".toList ":8080".toList := by decide
  obtain ⟨-, -, -, hnumber⟩ := urls_absolute_or_hostless (p := .accessTokenUrl) rfl "127.0.0.1:8080/token" (empty : Store Token)
  have hnumeric : SchemeLeftOut "127.0.0.1".toList ":8080/token".toList := by decide
  obtain ⟨-, -, -, hpath⟩ := urls_absolute_or_hostless (p := .refreshTokenUrl) rfl "login.test/token:8080" (empty : Store Token)
  have hhost : SchemeLeftOut "login.test".toList "/token:8080".toList := by decide
  refine ⟨⟨(hname _ _ rfl hlocalhost).mpr ⟨⟨by decide, by decide⟩, by decide, rfl⟩, hhostless hostless_localhost⟩, ?_, ?_⟩
  · rw [Ne, hnumber _ _ rfl hnumeric]
    exact fun h => absurd h.2.1 (by decide)
  · rw [Ne, hpath _ _ rfl hhost]
    exact fun h => absurd h.2.2 (by decide)

/-- Not everything that is set as an endpoint is an absolute URL. -/
theorem not_every_endpoint_is_absolute :
    ¬ ∀ p ∈ [Parameter.authorizationUrl, .accessTokenUrl, .refreshTokenUrl], ∀ (s : Store Token) (v : String),
      (insert p v s).result = .ok () → IsAbsolute v := by
  intro hall
  have hset : (insert .authorizationUrl "localhost:8080" (empty : Store Token)).result = .ok () := by rfl
  exact hostless_localhost.not_isAbsolute (hall _ List.mem_cons_self _ _ hset)

end OAuthClient.Store
