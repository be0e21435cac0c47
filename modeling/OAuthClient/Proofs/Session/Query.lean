import OAuthClient.Proofs.Session.WellFormed
import OAuthClient.Proofs.Store.Outcome
import OAuthClient.Proofs.Store.Rules

/-!
# Authorization URLs are read back

The query of an authorization URL carries exactly the parameters of its phase behind what the endpoint brings along, whatever their
values are: no value of a store adds, drops, splits or alters a parameter.
-/

namespace OAuthClient.StoreSession

/-- An authorization URL keeps what stands before the query of the endpoint, and its query is read back as that of the endpoint, the
required parameters in order and those of the others that are available in order, in every store of a reachable session and for
every grant that has such a URL. Of the endpoint it is asked that it has no fragment, that it ends in an ampersand only within a
query, and that it ends in a question mark only where that is its only one. -/
theorem authorizationUrl_decodes {f : StoreSession} (hf : f.Reachable) {s : Store Token} (hs : f.Holds s) {g : Grant} {u : String}
    (hu : (Store.authorizationUrl g s).result = .ok u) :
    ∃ base, s.values .authorizationUrl = some base ∧
      ('#' ∉ base.toList → (base.toList.getLast? = some '&' → '?' ∈ base.toList) →
        (base.toList.getLast? = some '?' → base.toList.count '?' = 1) →
        Uri.beforeQuery u = Uri.beforeQuery base ∧
        Form.decodeLenient (Uri.ownQuery u) = Form.decodeLenient (Uri.ownQuery base) ++
          ((g.rules .authorization).required ++ (g.rules .authorization).optional.filter fun p =>
              ((s.withDefaults (g.rules .authorization).defaults).available? false p).isSome).map
            fun p => (p.wireName, ((s.withDefaults (g.rules .authorization).defaults).available? false p).getD "")) := by
  obtain ⟨base, hbase, hrequired, happend⟩ := Store.authorizationUrl_ok hu
  refine ⟨base, hbase, fun hfragment hamp hmark => ?_⟩
  have haccepts := (hf.wellFormed.of_holds hs).accepts .authorizationUrl base hbase
  obtain ⟨r, hread, _⟩ := Store.read_of_accepts rfl haccepts
  rw [← Store.rows_eq hrequired]
  exact Uri.appendQuery_decode (Uri.not_isControl_of_read hread) hfragment hamp hmark happend

set_option maxRecDepth 10000 in
/-- A client whose name holds the separators of a query, at an endpoint that brings a query along. -/
theorem authorizationUrl_decodes_ofClient :
    ∃ u, (Store.authorizationUrl .tokenFlow (ofClient "a&b=c #+%é" "https://login.test?x=1").resolved).result = .ok u ∧
      Form.decodeLenient (Uri.ownQuery u) =
        [("x", "1"), ("client_id", "a&b=c #+%é"), ("redirect_uri", "app:back"), ("scope", "mail"),
          ("response_type", "token")] := by
  have hholds : (ofClient "a&b=c #+%é" "https://login.test?x=1").Holds (ofClient _ _).resolved :=
    Or.inl ⟨_, (reachable_ofClient _ _).wellFormed.store_mem, rfl⟩
  have hu : (Store.authorizationUrl .tokenFlow (ofClient "a&b=c #+%é" "https://login.test?x=1").resolved).result = .ok
      "https://login.test?x=1&client_id=a%26b%3Dc%20%23%2B%25%C3%A9&redirect_uri=app%3Aback&scope=mail&response_type=token" := by
    rfl
  have hendpoint : (ofClient "a&b=c #+%é" "https://login.test?x=1").resolved.values .authorizationUrl =
      some "https://login.test?x=1" := by rfl
  obtain ⟨base, hbase, hdecode⟩ := authorizationUrl_decodes (reachable_ofClient _ _) hholds hu
  rw [hendpoint] at hbase
  cases hbase
  exact ⟨_, hu, (hdecode (by decide) (by decide) (by decide)).2.trans (by rfl)⟩

end OAuthClient.StoreSession
