import OAuthClient.Proofs.Store.Insert
import OAuthClient.Proofs.Uri.Extend
import OAuthClient.Store.Encode

/-!
# Endpoints that take a query

The authorization endpoint may be any URL with a scheme, and the query of a request is put at its end. Whether the parameters then are
the query of the URL, behind the fields that it has, depends on how it ends and on whether it has a fragment.
-/

namespace OAuthClient.Store

/-- What is set as the authorization endpoint is a text without controls. -/
theorem not_isControl_of_insert {s : Store Token} {base : String} (h : (insert .authorizationUrl base s).result = .ok ()) :
    ∀ c ∈ base.toList, Uri.isControl c = false := by
  obtain ⟨r, hread, _⟩ := read_of_accepts rfl ((result_insert_ok_iff s).mp h)
  exact Uri.not_isControl_of_read hread

/-- The query of a store is the percent form of some fields. -/
theorem encodeQuery_ok {s : Store Token} {required optional : List Parameter} {query : String}
    (h : s.encodeQuery required optional = .ok query) : ∃ fields, query = Form.encode .percent fields := by
  rw [encodeQuery] at h
  cases hpairs : s.pairs false required optional with
  | error f =>
    rw [hpairs] at h
    cases h
  | ok fields =>
    rw [hpairs] at h
    cases h
    exact ⟨fields, rfl⟩

/-- A query of any store that is not empty is appended to every authorization endpoint that can be set and split. This adds its fields
behind those of the endpoint and changes nothing else exactly when the endpoint has no fragment, ends in an ampersand only behind a
question mark, and ends in a question mark only when that is its only one. -/
theorem appendQuery_extends_iff {s₀ s : Store Token} {base query : String} {parts : Uri.Split} {required optional : List Parameter}
    (hbase : (insert .authorizationUrl base s₀).result = .ok ()) (hparts : Uri.split base = .ok parts)
    (hquery : s.encodeQuery required optional = .ok query) (hne : query ≠ "") :
    ∃ u, Uri.appendQuery base query = .ok u ∧
      ((∃ parts', Uri.split u = .ok parts' ∧ parts.Extends parts' (Form.decodeLenient query)) ↔ Uri.TakesQuery base) := by
  obtain ⟨fields, rfl⟩ := encodeQuery_ok hquery
  rw [Form.decodeLenient_encode]
  refine Uri.appendQuery_extends_iff_takesQuery (not_isControl_of_insert hbase) ?_ hparts
  rintro rfl
  exact hne rfl

/-- A store with the name of a client. -/
def ofClientId (v : String) : Store Token :=
  empty.setValue .clientId v

set_option maxRecDepth 10000 in
/-- Behind an endpoint that ends within its query the name of a client is one more field, whatever characters it has. -/
theorem appendQuery_extends_inside :
    ∃ u parts', Uri.appendQuery "https://login.test/sign-in?tenant=a&" "client_id=%26%3D%23" = .ok u ∧ Uri.split u = .ok parts' ∧
      parts'.path = "/sign-in".toList ∧
      Form.decodeLenient (String.ofList parts'.query) = [("tenant", "a"), ("client_id", "&=#")] := by
  have hbase : (insert .authorizationUrl "https://login.test/sign-in?tenant=a&" (empty : Store Token)).result = .ok () := by rfl
  have hparts : Uri.split "https://login.test/sign-in?tenant=a&" =
      .ok ⟨"https".toList, "login.test".toList, "/sign-in".toList, "tenant=a&".toList, []⟩ := by rfl
  have hquery : (ofClientId "&=#").encodeQuery [.clientId] [] = .ok "client_id=%26%3D%23" := by rfl
  obtain ⟨u, hu, hextends⟩ := appendQuery_extends_iff hbase hparts hquery (by decide)
  obtain ⟨parts', hsplit, hparts'⟩ := hextends.mpr ⟨by decide, by decide, by decide⟩
  exact ⟨u, parts', hu, hsplit, hparts'.path, hparts'.fields.trans (by rfl)⟩

set_option maxRecDepth 10000 in
/-- Not every endpoint that can be set and split has a query added to it and nothing else: behind a fragment the parameters become
part of the fragment. -/
theorem not_every_endpoint_extends :
    ¬ ∀ (s₀ s : Store Token) (base query : String) (parts : Uri.Split) (required optional : List Parameter),
      (insert .authorizationUrl base s₀).result = .ok () → Uri.split base = .ok parts →
      s.encodeQuery required optional = .ok query → query ≠ "" →
      ∃ u parts', Uri.appendQuery base query = .ok u ∧ Uri.split u = .ok parts' ∧
        parts.Extends parts' (Form.decodeLenient query) := by
  intro hall
  have hbase : (insert .authorizationUrl "https://login.test/sign-in#top" (empty : Store Token)).result = .ok () := by rfl
  have hparts : Uri.split "https://login.test/sign-in#top" =
      .ok ⟨"https".toList, "login.test".toList, "/sign-in".toList, [], "top".toList⟩ := by rfl
  have hquery : (ofClientId "app").encodeQuery [.clientId] [] = .ok "client_id=app" := by rfl
  have hu : Uri.appendQuery "https://login.test/sign-in#top" "client_id=app" = .ok "https://login.test/sign-in#top?client_id=app" :=
    by rfl
  have hsplit : Uri.split "https://login.test/sign-in#top?client_id=app" =
      .ok ⟨"https".toList, "login.test".toList, "/sign-in".toList, [], "top?client_id=app".toList⟩ := by rfl
  obtain ⟨u, parts', happend, hsplit', hextends⟩ := hall _ _ _ _ _ _ _ hbase hparts hquery (by decide)
  rw [hu] at happend
  cases happend
  rw [hsplit] at hsplit'
  cases hsplit'
  exact absurd hextends.fragment (by decide)

end OAuthClient.Store
