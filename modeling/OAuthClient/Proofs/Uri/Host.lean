import OAuthClient.Proofs.Uri.Append
import OAuthClient.Proofs.Uri.Reference
import OAuthClient.Uri.Normal

/-!
# Where a URL goes

A URL is cut in two ways, a lenient and a strict one, and they might take different parts of a text for the host. For a text that begins
with a scheme, a literal host and a slash they do not: both end the authority at that slash, whatever stands behind it, and whatever is
appended there.
-/

namespace OAuthClient.Uri

open OAuthClient.Text

/-- A plain host that is taken as it is written: no character of it is dropped or changed when the URL is cut or sent, and it is not
bracketed. -/
structure IsLiteralHost (host : List Char) : Prop extends IsPlainHost host where
  noControl : ∀ c ∈ host, isControl c = false
  noClosing : ']' ∉ host
  sent : sentHost host = host

/-- A text goes to a host: whichever way it is cut, its scheme is the one for secure connections, the host is all that stands in its
authority, and it has neither user information nor a port. -/
structure GoesTo (host u : String) : Prop where
  /-- The lenient cut is possible, and an authority that it finds has room for the host only. -/
  split : ∃ parts, Uri.split u = .ok parts ∧ String.ofList parts.scheme = "https" ∧ String.ofList parts.authority = host ∧
    '@' ∉ parts.authority ∧ ':' ∉ parts.authority
  /-- The strict reading, where it is possible, finds the same. -/
  read : ∀ isName r, Reference.read isName u.toList = .ok r → String.ofList r.scheme = "https" ∧ String.ofList r.host = host ∧
    r.userinfo = [] ∧ r.port = []
  /-- A request that follows that reading is sent there. -/
  sent : ∀ isName r, Reference.read isName u.toList = .ok r → String.ofList r.sentAuthority = host

variable {host rest cs : List Char}

/-- The text of a URL at a host, up to the slash behind it. -/
def atHost (host rest : List Char) : List Char :=
  'h' :: ['t', 't', 'p', 's'] ++ ':' :: '/' :: '/' :: (host ++ '/' :: rest)

/-! ## The lenient cut -/

/-- Cleaning changes nothing up to the slash behind a host. -/
theorem cleaned_atHost (h : IsLiteralHost host) (rest : List Char) :
    cleaned (atHost host rest) = atHost host (rest.filter fun c => c != '\t' && c != '\r' && c != '\n') := by
  have hfirst : (atHost host rest).dropWhile (fun c => decide (c.toNat ≤ 0x20)) = atHost host rest := rfl
  rw [cleaned, hfirst]
  simp [atHost, filter_of_not_isControl h.noControl]

/-- A literal host has no bracket that needs a partner. -/
theorem checkBrackets_of_isLiteralHost (h : IsLiteralHost host) : checkBrackets host = .ok () := by
  have hopening : host.contains '[' = false := by simpa using h.noBracket
  have hclosing : host.contains ']' = false := by simpa using h.noClosing
  rw [checkBrackets, hopening, hclosing]
  rfl

/-- No character of a literal host stands for a delimiter. -/
theorem not_delimiterLike_of_isLiteralHost (h : IsLiteralHost host) : ¬ (host.any fun c => delimiterLikes.contains c.toNat) = true := by
  have hbeyond : ∀ n ∈ delimiterLikes, 0x80 ≤ n := by decide
  rw [Bool.not_eq_true, List.any_eq_false]
  intro c hc hlike
  have hlow := hbeyond c.toNat (by simpa using hlike)
  have hhigh := h.ascii c hc
  omega

/-- The lenient cut of a text at a host. -/
theorem split_atHost (h : IsLiteralHost host) (rest : List Char) :
    ∃ parts, split (String.ofList (atHost host rest)) = .ok parts ∧ parts.scheme = ['h', 't', 't', 'p', 's'] ∧
      parts.authority = host := by
  have hscheme : cutScheme (atHost host (rest.filter fun c => c != '\t' && c != '\r' && c != '\n')) =
      (['h', 't', 't', 'p', 's'], '/' :: '/' :: (host ++ '/' :: rest.filter fun c => c != '\t' && c != '\r' && c != '\n')) := by
    exact cutScheme_colon (a := ['h', 't', 't', 'p', 's']) (by decide) _
  unfold split
  rw [String.toList_ofList, cleaned_atHost h, hscheme]
  dsimp only
  rw [cutAuthority_append h.inside (endsAuthority_slash _)]
  dsimp only [Option.getD_some]
  rw [checkBrackets_of_isLiteralHost h, if_neg (not_delimiterLike_of_isLiteralHost h)]
  exact ⟨_, rfl, rfl, rfl⟩

/-! ## The strict reading -/

/-- A text at a literal host goes to that host. -/
theorem goesTo_atHost {u : String} (h : IsLiteralHost host) (hu : u.toList = atHost host rest) : GoesTo (String.ofList host) u := by
  have htext : u = String.ofList (atHost host rest) := by rw [← hu, String.ofList_toList]
  have hread : ∀ isName r, Reference.read isName u.toList = .ok r → ∃ path query fragment,
      r = ⟨['h', 't', 't', 'p', 's'], [], host, [], '/' :: path, query, fragment⟩ := by
    intro isName r hr
    obtain ⟨path, query, fragment, hparts⟩ : ∃ path query fragment, Reference.ofText (atHost host rest) =
        ⟨['h', 't', 't', 'p', 's'], [], host, [], '/' :: path, query, fragment⟩ :=
      ofText_append (by decide) (by decide) h.toIsPlainHost rest
    exact ⟨path, query, fragment, by rw [eq_ofText_of_read hr, hu, hparts]⟩
  constructor
  · obtain ⟨parts, hsplit, hscheme, hauthority⟩ := split_atHost h rest
    refine ⟨parts, htext ▸ hsplit, ?_, ?_, ?_⟩
    · rw [hscheme]
    · rw [hauthority]
    · rw [hauthority]
      exact ⟨h.noUser, h.noPort⟩
  · intro isName r hr
    obtain ⟨path, query, fragment, rfl⟩ := hread isName r hr
    exact ⟨rfl, rfl, rfl, rfl⟩
  · intro isName r hr
    obtain ⟨path, query, fragment, rfl⟩ := hread isName r hr
    congr 1
    show [] ++ sentHost host ++ [] = host
    rw [List.nil_append, List.append_nil, h.sent]

/-- A text at a literal host is read when it is not too long and has no control character. -/
theorem read_atHost (h : IsLiteralHost host) (hcs : cs = atHost host rest) (hlength : cs.length ≤ maxLength)
    (hcontrol : cs.any isControl = false) (isName : List Char → Bool) : ∃ r, Reference.read isName cs = .ok r := by
  rcases read_append (by decide) (by decide) h.toIsPlainHost hcs isName with ⟨hlong, _⟩ | ⟨_, hany, _⟩ | ⟨_, _, r, hr, _⟩
  · exact absurd hlong (Nat.not_lt.mpr hlength)
  · rw [hcontrol] at hany
    cases hany
  · exact ⟨r, hr⟩

/-! ## Appending a query -/

/-- What a query is appended to stays in front. -/
theorem exists_of_appendQuery {base query u : String} (h : appendQuery base query = .ok u) : ∃ tail, u = base ++ tail := by
  rcases appendQuery_cases h with ⟨_, hu⟩ | ⟨_, _, hu⟩ | ⟨_, _, hu⟩ | ⟨_, _, _, parts, _, hu⟩
  · exact ⟨"", by rw [hu, String.append_empty]⟩
  · exact ⟨query, hu⟩
  · exact ⟨query, hu⟩
  · exact ⟨(if parts.query = [] then "?" else "&") ++ query, by rw [hu, String.append_assoc]⟩

end OAuthClient.Uri
