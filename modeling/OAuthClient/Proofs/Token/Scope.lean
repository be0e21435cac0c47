import OAuthClient.Proofs.Token.Payload

/-!
# The scope of a response

A response whose scope can be read describes the token that it describes without it, but with the scopes.
-/

namespace OAuthClient.Token

open OAuthClient.Validation

variable {members : List (String × Json)} {scopes : List String}

/-- The fields that are texts or nothing have the issues that they have with the scope. -/
theorem optionalIssues_without_scope (members : List (String × Json)) :
    optionalTexts.flatMap (textIssues (without ["scope"] members) · false) = optionalTexts.flatMap (textIssues members · false) := by
  have hnames : ∀ f ∈ optionalTexts, f.name ∉ ["scope"] := by decide
  rw [List.flatMap_def, List.flatMap_def, List.map_congr_left fun f hf => textIssues_without (hnames f hf) members false]

/-- Without the scope there are no scopes. -/
theorem readScopes_without_scope (members : List (String × Json)) : readScopes (given (without ["scope"] members) .scope) = .ok [] := by
  rw [given, show Field.scope.name = "scope" from rfl, find?_without, if_pos (by decide)]
  rfl

/-- Members whose scope can be read describe what they describe without it, with the scopes, or the same is wrong with them. -/
theorem ofMembers_of_readScopes (h : readScopes (given members .scope) = .ok scopes) :
    ofMembers members = (ofMembers (without ["scope"] members)).map (setField .scope (.arr (scopes.map .str))) := by
  unfold ofMembers
  simp only [h, readScopes_without_scope, optionalIssues_without_scope, readField_without (show "expires_in" ∉ ["scope"] by decide),
    readField_without (show "ext_expires_in" ∉ ["scope"] by decide), momentIssues_without (show "timestamp" ∉ ["scope"] by decide),
    momentIssues_without (show "expires_on" ∉ ["scope"] by decide),
    textIssues_without (show Field.accessToken.name ∉ ["scope"] by decide),
    textIssues_without (show Field.tokenType.name ∉ ["scope"] by decide), extra_without (show ["scope"] ⊆ declaredNames by decide),
    issuesOf]
  -- what is left differs in the scopes only, and in no issue
  generalize readField "expires_in" members 0 readLifetime = lifetime
  generalize readField "ext_expires_in" members none integerOrNull = extLifetime
  generalize _ ++ momentIssues members "expires_on" = issues
  rcases lifetime with _ | lifetime
  · rfl
  rcases extLifetime with _ | extLifetime
  · rfl
  rcases issues with _ | ⟨issue, issues⟩
  · refine congrArg Except.ok (congrArg (Token.mk · _ _ _ _ _ _) (funext fun f => ?_))
    by_cases hf : f = .scope
    · rw [hf, if_pos rfl]
    · have hgiven : given (without ["scope"] members) f = given members f :=
        given_without (by cases f <;> first | decide | exact absurd rfl hf) members
      rw [if_neg hf]
      cases f <;> first | rfl | exact absurd rfl hf | exact hgiven.symm
  · rfl

/-- Issuing a token leaves the fields that hold whatever they were given. -/
theorem issue_setField (now : Instant) (f : Field) (v : Json) (t : Token) :
    issue now (setField f v t) = (issue now t).map (setField f v) := by
  rw [issue_eq, issue_eq]
  show (if Clock.InCalendar (now + t.expiresIn * Clock.perSecond) then _ else _) = _
  split <;> rfl

/-- A response whose scope can be read gives the token that it gives without it, with the scopes, or the same fault. -/
theorem ofJson_of_readScopes (h : readScopes (given members .scope) = .ok scopes) (now : Instant) :
    ofJson now (.obj members) = (ofJson now (.obj (without ["scope"] members))).map (setField .scope (.arr (scopes.map .str))) := by
  show ofResponseMembers now members = (ofResponseMembers now (without ["scope"] members)).map _
  rw [ofResponseMembers, ofResponseMembers, missingNames_without (by decide), ofMembers_of_readScopes h]
  cases missingNames members with
  | cons name names => rfl
  | nil =>
    cases ofMembers (without ["scope"] members) with
    | error issues => rfl
    | ok t => exact issue_setField now .scope _ t

end OAuthClient.Token
