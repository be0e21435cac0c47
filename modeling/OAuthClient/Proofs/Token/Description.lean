import OAuthClient.Proofs.Act
import OAuthClient.Proofs.Token.Reading

/-!
# What a description of a token shows

Whether the description of a token shows its secrets is a switch beside the fields. Nothing that is read from the wire sets it: a token
that is made hides its secrets, and a member that has the name of the switch is kept like any other. While they are hidden, a
description does not depend on them. Nor does anything from the wire override what the class has.
-/

namespace OAuthClient.Token

variable {t t' : Token} {members : List (String × Json)}

/-! ## Hidden and shown -/

/-- Two tokens are the same but for their secrets. -/
structure SameButSecrets (t t' : Token) : Prop where
  values : ∀ f : Field, f.isSecret = false → t.values f = t'.values f
  expiresIn : t.expiresIn = t'.expiresIn
  timestamp : t.timestamp = t'.timestamp
  expiresOn : t.expiresOn = t'.expiresOn
  extra : t.extra = t'.extra

/-- A token is the same as itself. -/
theorem SameButSecrets.refl (t : Token) : SameButSecrets t t := ⟨fun _ _ => rfl, rfl, rfl, rfl, rfl⟩

/-- The token with other secrets. -/
def withSecrets (accessToken refreshToken idToken : Json) (t : Token) : Token :=
  setField .idToken idToken (setField .refreshToken refreshToken (setField .accessToken accessToken t))

/-- A token with a secret set is the same but for its secrets. -/
theorem sameButSecrets_setField {f : Field} (h : f.isSecret = true) (v : Json) (t : Token) : SameButSecrets t (setField f v t) := by
  refine ⟨fun f' hf' => (if_neg ?_).symm, rfl, rfl, rfl, rfl⟩
  rintro rfl
  rw [h] at hf'
  cases hf'

/-- A token with other secrets is the same but for its secrets. -/
theorem sameButSecrets_withSecrets (accessToken refreshToken idToken : Json) (t : Token) :
    SameButSecrets t (t.withSecrets accessToken refreshToken idToken) := by
  refine ⟨fun f hf => ?_, rfl, rfl, rfl, rfl⟩
  cases f <;> first | rfl | cases hf

/-- Tokens that hide their secrets and are the same but for them show the same fields. -/
theorem SameButSecrets.shownFields (h : SameButSecrets t t') (ht : t.showSecrets = false) (ht' : t'.showSecrets = false) :
    t.shownFields = t'.shownFields := by
  have hfield (f : Field) : t.shownField f = t'.shownField f := by
    rw [shownField, shownField, ht, ht']
    cases hf : f.isSecret with
    | true => rfl
    | false => rw [h.values f hf]
  simp only [Token.shownFields, hfield, h.expiresIn, h.timestamp, h.expiresOn, h.extra]

/-- Tokens that hide their secrets and are the same but for them are described alike. -/
theorem SameButSecrets.described (h : SameButSecrets t t') (ht : t.showSecrets = false) (ht' : t'.showSecrets = false) :
    t.describe = t'.describe ∧ t.summary = t'.summary := by
  rw [describe, describe, summary, summary, h.shownFields ht ht']
  exact ⟨rfl, rfl⟩

/-- A description and a summary of a token list some fields. -/
structure Lists (t : Token) (fields : List (String × String)) : Prop where
  describe : t.describe = Text.description "MsalToken" fields
  summary : t.summary = Text.fieldTexts " " fields

/-- A token is described by the fields that it shows. -/
theorem lists_shownFields (t : Token) : t.Lists t.shownFields := ⟨rfl, rfl⟩

/-- A field is shown under its name. -/
theorem lookup_shownFields (t : Token) (f : Field) : t.shownFields.lookup f.name = some (t.shownField f).2 := by
  cases f <;> rfl

/-- A token that shows its secrets shows every field as it is stored. -/
theorem lookup_of_showSecrets (h : t.showSecrets = true) (f : Field) :
    t.shownFields.lookup f.name = some (t.values f).inspect := by
  rw [lookup_shownFields, shownField, h, Bool.not_true, Bool.and_false, if_neg Bool.false_ne_true]

/-! ## What is made -/

/-- A token hides its secrets and has everything that the class has. -/
structure Fresh (t : Token) : Prop where
  hides : t.showSecrets = false
  bare : t.overridden = []

/-- A token that members describe is fresh. -/
theorem fresh_of_ofMembers (h : ofMembers members = .ok t) : t.Fresh := by
  unfold ofMembers at h
  dsimp only at h
  split at h
  · cases h
    exact ⟨rfl, rfl⟩
  · cases h

/-- The token of a result is fresh, when there is one. -/
def IsFresh (result : Except Fault Token) : Prop :=
  ∀ t, result = .ok t → t.Fresh

/-- Where there is no token there is nothing to be fresh. -/
theorem isFresh_error (fault : Fault) : IsFresh (.error fault) := nofun

/-- A draft from named values is fresh. -/
theorem isFresh_draft (members : List (String × Json)) : IsFresh (draft members) := by
  intro t h
  exact fresh_of_ofMembers (Act.of_mapError_ok h)

/-- A draft from the values of a new token is fresh. -/
theorem isFresh_draftOfValues (tokenType lifetime accessToken scopes : Json) :
    IsFresh (draftOfValues tokenType lifetime accessToken scopes) := by
  unfold draftOfValues
  split
  · cases itemsOf scopes with
    | ok items => exact isFresh_draft _
    | error fault => exact isFresh_error fault
  · exact isFresh_draft _

/-- A draft from the members of a response is fresh. -/
theorem isFresh_draftOfResponseMembers (members : List (String × Json)) : IsFresh (draftOfResponseMembers members) :=
  fun _ h => fresh_of_ofMembers (draftOfResponseMembers_eq_ok_iff.mp h).fields

/-- A draft from a value is fresh. -/
theorem isFresh_draftOfJson (data : Json) : IsFresh (draftOfJson data) := by
  cases data with
  | obj members => exact isFresh_draftOfResponseMembers members
  | _ => exact isFresh_error _

/-- A draft from a response body is fresh. -/
theorem isFresh_draftOfSource (source : Source) (room : Nat) : IsFresh (draftOfSource source room) := by
  unfold draftOfSource
  split
  · exact isFresh_error _
  · exact isFresh_error _
  · exact isFresh_draftOfResponseMembers _
  · exact isFresh_error _
  · exact isFresh_error _

/-- A draft from a response is fresh. -/
theorem isFresh_draftOfResponse (response : Response) (room : Nat) : IsFresh (draftOfResponse response room) := by
  unfold draftOfResponse
  split
  · exact isFresh_draftOfSource _ room
  · cases response.oauthError room with
    | ok reported => exact isFresh_error _
    | error fault => exact isFresh_error fault

/-- A token that is issued is fresh when its draft is. -/
theorem IsFresh.issued {draft : Except Fault Token} (h : IsFresh draft) (now : Instant) : IsFresh (draft.bind (issue now)) := by
  cases draft with
  | error fault => exact isFresh_error fault
  | ok t =>
    intro t' ht'
    rw [Except.bind, issue_eq] at ht'
    split at ht'
    · cases ht'
      exact ⟨(h t rfl).hides, (h t rfl).bare⟩
    · cases ht'

/-! ## What methods preserve -/

/-- What is read off tokens has to do neither with their fields nor with their times. -/
structure Indifferent {β : Type} (view : Token → β) : Prop where
  field : ∀ (f : Field) (v : Json) (t : Token), view (setField f v t) = view t
  times : ∀ (n : Int) (timestamp expiresOn : Moment) (t : Token), view { t with expiresIn := n, timestamp, expiresOn } = view t
  extra : ∀ (members : List (String × Json)) (t : Token), view { t with extra := members } = view t

namespace Indifferent

variable {β : Type} {view : Token → β}

/-- Taking the time anew leaves what has nothing to do with it. -/
theorem stamp (h : Indifferent view) (now : Instant) (b : β) : (stamp now).Preserves fun t => view t = b := by
  unfold Token.stamp
  refine Act.Preserves.bind (Act.Preserves.modify fun t => (h.times _ _ _ t).trans) fun _ => Act.Preserves.get.bind fun t => ?_
  split
  · exact Act.Preserves.modify fun t => (h.times _ _ _ t).trans
  · exact Act.Preserves.fail _

/-- Setting the lifetime leaves what has nothing to do with it. -/
theorem setLifetime (h : Indifferent view) (now : Instant) (v : Json) (b : β) : (setLifetime now v).Preserves fun t => view t = b := by
  unfold Token.setLifetime
  refine (Act.Preserves.ofExcept _).bind fun _ =>
    Act.Preserves.bind (Act.Preserves.modify fun t => (h.times _ _ _ t).trans) fun _ => ?_
  exact preserves_call (h.stamp now b) _

/-- Setting an attribute leaves what has nothing to do with it. The attribute may be the switch or stand in the place of one of the class
where this is nothing to it. -/
theorem setAttribute (h : Indifferent view) {name : String}
    (hswitch : name = "_log_pii" → ∀ shown (t : Token), view { t with showSecrets := shown } = view t)
    (hoverride : isClassAttribute name = true → ∀ members (t : Token), view { t with overridden := members } = view t)
    (now : Instant) (v : Json) (b : β) : (setAttribute now name v).Preserves fun t => view t = b := by
  unfold Token.setAttribute
  split
  · exact h.setLifetime now v b
  · split
    · exact Act.Preserves.modify fun t => (h.times _ _ _ t).trans
    · split
      · exact Act.Preserves.modify fun t => (h.times _ _ _ t).trans
      · split
        · exact Act.Preserves.modify fun t => (h.field _ v t).trans
        · split
          · next hname => exact Act.Preserves.modify fun t => (hswitch hname _ t).trans
          · split
            · exact Act.Preserves.fail _
            · split
              · next hclass => exact Act.Preserves.modify fun t => (hoverride hclass _ t).trans
              · split
                · exact Act.Preserves.pure ()
                · exact Act.Preserves.modify fun t => (h.extra _ t).trans

end Indifferent

/-- The switch has nothing to do with fields and times. -/
theorem indifferent_showSecrets : Indifferent Token.showSecrets :=
  ⟨fun _ _ _ => rfl, fun _ _ _ _ => rfl, fun _ _ => rfl⟩

/-- What stands in the place of attributes of the class has nothing to do with fields and times. -/
theorem indifferent_overridden : Indifferent Token.overridden :=
  ⟨fun _ _ _ => rfl, fun _ _ _ _ => rfl, fun _ _ => rfl⟩

/-! ## The switch as an attribute -/

/-- Setting the attribute that is the switch turns it. -/
theorem setAttribute_switch (now : Instant) (v : Json) (t : Token) :
    setAttribute now "_log_pii" v t = ⟨.ok (), { t with showSecrets := v.truthy }, []⟩ := rfl

/-- Setting a field as an attribute sets the field. -/
theorem setAttribute_field (f : Field) (now : Instant) (v : Json) : setAttribute now f.name v = Act.modify (setField f v) := by
  cases f <;> rfl

end OAuthClient.Token
