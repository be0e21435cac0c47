import Mathlib.Data.List.Basic
import OAuthClient.Proofs.Json.Grammar

/-!
# How deep a text is nested

A reader is given room for so many levels. It runs out of it only in a text in which more brackets and braces open than there are levels,
and where it does not, more room makes no difference (`Keeps`). So a limit to the room has no effect but to give up some texts, among them
every row of brackets that is longer than the room.
-/

namespace OAuthClient.Json

open OAuthClient.Text

variable {α β : Type} {cs ds rest : List Char}

/-- Whether a character opens an array or an object. -/
def isOpening (c : Char) : Bool :=
  c == '[' || c == '\x7b'

/-- How many arrays and objects open in a text. Those that seem to open between quotes are counted, too. -/
def openings (cs : List Char) : Nat :=
  cs.countP isOpening

/-- An end of a text has no more openings than the text. -/
theorem openings_le_of_suffix (h : cs <:+ ds) : openings cs ≤ openings ds :=
  h.sublist.countP_le

/-! ## Readers that keep to a text -/

/-- A reader with some room keeps to a text. -/
structure Keeps (cs : List Char) (reader : Nat → Except Flaw (α × List Char)) : Prop where
  /-- What it leaves is an end of the text. -/
  suffix : ∀ {room a rest}, reader room = .ok (a, rest) → rest <:+ cs
  /-- It runs out of room only where there are more openings than levels. -/
  deep : ∀ {room flaw}, reader room = .error flaw → flaw.problem = .depth → room < openings cs
  /-- It does the same with more room, unless it ran out of it. -/
  more : ∀ {room room'}, room ≤ room' → (∀ flaw, reader room = .error flaw → flaw.problem ≠ .depth) → reader room' = reader room

namespace Keeps

/-- A reader that needs no room keeps to a text when what it leaves is an end of it. -/
theorem const {r : Except Flaw (α × List Char)} (hsuffix : ∀ a rest, r = .ok (a, rest) → rest <:+ cs)
    (hshallow : ∀ flaw, r = .error flaw → flaw.problem ≠ .depth) : Keeps cs fun _ => r :=
  ⟨hsuffix _ _, fun h hdepth => absurd hdepth (hshallow _ h), fun _ _ => rfl⟩

/-- Leaving an end of the text keeps to it. -/
theorem ok {a : α} (h : rest <:+ cs) : Keeps cs fun _ => .ok (a, rest) :=
  .const (fun _ _ he => (by cases he; exact h)) fun _ he => (by cases he)

/-- Giving up for another reason keeps to every text. -/
theorem error {flaw : Flaw} (h : flaw.problem ≠ .depth) : Keeps (α := α) cs fun _ => .error flaw :=
  .const (fun _ _ he => (by cases he)) fun _ he => (by cases he; exact h)

/-- What keeps to an end of a text keeps to the text. -/
theorem of_suffix {reader : Nat → Except Flaw (α × List Char)} (h : Keeps cs reader) (hends : cs <:+ ds) : Keeps ds reader where
  suffix hread := (h.suffix hread).trans hends
  deep hread hdepth := Nat.lt_of_lt_of_le (h.deep hread hdepth) (openings_le_of_suffix hends)
  more := h.more

/-- One reader after another keeps to a text when the second keeps to what the first leaves. -/
theorem bind {reader : Nat → Except Flaw (α × List Char)} {next : α × List Char → Nat → Except Flaw (β × List Char)}
    (h : Keeps cs reader) (hnext : ∀ r, r.2 <:+ cs → Keeps r.2 (next r)) : Keeps cs fun room => reader room >>= fun r => next r room := by
  constructor
  · intro room b rest hread
    cases hfirst : reader room with
    | error flaw =>
      rw [hfirst] at hread
      cases hread
    | ok r =>
      rw [hfirst] at hread
      have hleft := h.suffix hfirst
      exact ((hnext r hleft).suffix hread).trans hleft
  · intro room flaw hread hdepth
    cases hfirst : reader room with
    | error flaw' =>
      rw [hfirst] at hread
      cases hread
      exact h.deep hfirst hdepth
    | ok r =>
      rw [hfirst] at hread
      have hleft := h.suffix hfirst
      exact Nat.lt_of_lt_of_le ((hnext r hleft).deep hread hdepth) (openings_le_of_suffix hleft)
  · intro room room' hle hshallow
    cases hfirst : reader room with
    | error flaw =>
      have hsame := h.more hle fun flaw' hread => hshallow flaw' (by rw [hread]; rfl)
      rw [hsame, hfirst]
      rfl
    | ok r =>
      have hsame := h.more hle fun flaw hread => by rw [hfirst] at hread; cases hread
      rw [hsame, hfirst]
      exact (hnext r (h.suffix hfirst)).more hle fun flaw hread => hshallow flaw (by rw [hfirst]; exact hread)

/-- What is done with the value that was read has no say in what is left. -/
theorem map {reader : Nat → Except Flaw (α × List Char)} (h : Keeps cs reader) (f : α → β) :
    Keeps cs fun room => reader room >>= fun r => pure (f r.1, r.2) :=
  h.bind fun _ _ => .ok (List.suffix_refl _)

/-- Going down a level where one opens keeps to the text when what is read inside does. -/
theorem descend {c : Char} (hc : isOpening c = true) {inside : Nat → Except Flaw (α × List Char)} (h : Keeps cs inside) :
    Keeps (c :: cs) fun room => Json.descend room (c :: cs) inside := by
  have hopenings : openings (c :: cs) = openings cs + 1 := List.countP_cons_of_pos hc
  constructor
  · intro room a rest hread
    cases room with
    | zero => cases hread
    | succ room => exact (h.suffix hread).trans (List.suffix_cons c cs)
  · intro room flaw hread hdepth
    rw [hopenings]
    cases room with
    | zero => exact Nat.succ_pos _
    | succ room => exact Nat.succ_lt_succ (h.deep hread hdepth)
  · intro room room' hle hshallow
    cases room with
    | zero => exact absurd rfl (hshallow _ rfl)
    | succ room =>
      obtain ⟨room', rfl⟩ := Nat.exists_eq_add_of_le' (Nat.le_trans (Nat.succ_le_succ (Nat.zero_le room)) hle)
      exact h.more (Nat.le_of_succ_le_succ hle) hshallow

end Keeps

/-! ## The parts of a value -/

/-- Skipping blanks leaves an end of the text. -/
theorem skipGap_suffix (cs : List Char) : skipGap cs <:+ cs :=
  List.dropWhile_suffix _

/-- What follows a given beginning is an end of the text. -/
theorem after?_suffix {start : List Char} (h : after? start cs = some rest) : rest <:+ cs := by
  induction start generalizing cs with
  | nil =>
    cases h
    exact List.suffix_refl _
  | cons s start ih =>
    cases cs with
    | nil => cases h
    | cons c cs =>
      rw [after?] at h
      split at h
      · exact (ih h).trans (List.suffix_cons c cs)
      · cases h

/-- A code unit is read with what belongs to it, and then an end of the text is left. -/
theorem readUnit_keeps (u : Nat) (cs : List Char) : Keeps cs fun _ => readUnit u cs := by
  unfold readUnit
  split
  · split
    · next a b c d e rest =>
      split
      · exact .error (by simp)
      · split
        · exact .ok ⟨['\\', 'u', a, b, c, d], rfl⟩
        · exact .ok (List.suffix_refl _)
    · exact .ok (List.suffix_refl cs)
  · exact .ok (List.suffix_refl cs)

/-- An escape is read, and then an end of the text is left. -/
theorem readEscape_keeps (opening cs : List Char) : Keeps cs fun _ => readEscape opening cs := by
  unfold readEscape
  split
  · exact .error (by simp)
  · next cs =>
    split
    · next a b c d e rest =>
      split
      · exact .error (by simp)
      · exact (readUnit_keeps _ _).of_suffix ⟨['u', a, b, c, d], rfl⟩
    · exact .error (by simp)
  · next c cs _ =>
    split
    · exact .ok (List.suffix_cons c cs)
    · exact .error (by simp)

/-- A string is read up to its end, and then an end of the text is left. -/
theorem readString_keeps (halves : Halves) (opening : List Char) (fuel : Nat) (cs : List Char) :
    Keeps cs fun _ => readString halves opening fuel cs := by
  induction fuel generalizing cs with
  | zero => exact .error (by simp)
  | succ fuel ih =>
    cases cs with
    | nil => exact .error (by simp)
    | cons c cs =>
      have hlater := List.suffix_cons c cs
      simp only [readString]
      split
      · exact .ok hlater
      · split
        · exact ((readEscape_keeps opening cs).bind fun r _ => (ih r.2).map (r.1 :: ·)).of_suffix hlater
        · split
          · exact .error (by simp)
          · exact ((ih cs).map (codeAt halves c cs :: ·)).of_suffix hlater

/-- Taking digits leaves an end of the text. -/
theorem spanDigits_suffix (cs : List Char) : (spanDigits cs).2 <:+ cs :=
  List.dropWhile_suffix _

/-- Taking a sign leaves an end of the text. -/
theorem splitSign_suffix (cs : List Char) : (Integer.splitSign cs).2 <:+ cs := by
  unfold Integer.splitSign
  split
  · exact List.suffix_cons _ _
  · exact List.suffix_cons _ _
  · exact List.suffix_refl _

/-- Taking a fraction leaves an end of the text. -/
theorem readFraction_suffix {fraction : List Char} (h : readFraction cs = some (fraction, rest)) : rest <:+ cs := by
  unfold readFraction at h
  split at h
  · next cs =>
    dsimp only at h
    split at h
    · cases h
    · cases h
      exact (spanDigits_suffix cs).trans (List.suffix_cons _ _)
  · cases h

/-- Taking an exponent leaves an end of the text. -/
theorem readExponent_suffix {e : Int} (h : readExponent cs = some (e, rest)) : rest <:+ cs := by
  unfold readExponent at h
  split at h
  · next c cs =>
    split at h
    · dsimp only at h
      split at h
      · cases h
      · cases h
        exact ((spanDigits_suffix _).trans (splitSign_suffix cs)).trans (List.suffix_cons _ _)
    · cases h
  · cases h

/-- A number is read, and then an end of the text is left. -/
theorem readNumber_keeps (cs : List Char) : Keeps cs fun _ => readNumber cs := by
  unfold readNumber
  split
  next negative body hsign =>
  have hbody : body <:+ cs := by
    split at hsign <;> cases hsign
    · exact List.suffix_cons _ _
    · exact List.suffix_refl _
  split
  next whole rest hwhole =>
  have hrest : rest <:+ cs := by
    split at hwhole
    · cases hwhole
      exact (List.suffix_cons _ _).trans hbody
    · have hspan := spanDigits_suffix body
      rw [hwhole] at hspan
      exact hspan.trans hbody
  split
  · exact .error (by simp)
  · split
    · split
      · exact .error (by simp)
      · exact .ok hrest
    · next hexponent => exact .ok ((readExponent_suffix hexponent).trans hrest)
    · next fraction rest' hfraction =>
      have hleft := (readFraction_suffix hfraction).trans hrest
      cases hexponent : readExponent rest' with
      | none => exact .ok hleft
      | some r => exact .ok ((readExponent_suffix hexponent).trans hleft)

/-- Taking a word leaves an end of the text. -/
theorem readWord_suffix {v : Json} (h : readWord cs = some (v, rest)) : rest <:+ cs := by
  obtain ⟨⟨w, u⟩, -, hword⟩ := List.exists_of_findSome?_eq_some h
  obtain ⟨rest', hrest, hpair⟩ := Option.map_eq_some_iff.mp hword
  cases hpair
  exact after?_suffix hrest

/-! ## Values -/

/-- Reading a value, the items of an array or the members of an object keeps to the text. -/
theorem readValue_keeps (halves : Halves) (fuel : Nat) :
    (∀ cs, Keeps cs fun room => readValue halves room fuel cs) ∧
    (∀ cs, Keeps cs fun room => readItems halves room fuel cs) ∧
    ∀ cs, Keeps cs fun room => readMembers halves room fuel cs := by
  induction fuel with
  | zero =>
    exact ⟨fun cs => by simp only [readValue]; exact .error (by simp), fun cs => by simp only [readItems]; exact .error (by simp),
      fun cs => by simp only [readMembers]; exact .error (by simp)⟩
  | succ fuel ih =>
    obtain ⟨hvalue, hitems, hmembers⟩ := ih
    refine ⟨fun cs => ?value, fun cs => ?items, fun cs => ?members⟩
    case value =>
      cases cs with
      | nil =>
        simp only [readValue]
        exact .error (by simp)
      | cons c cs =>
        have hlater := List.suffix_cons c cs
        simp only [readValue]
        split
        · exact ((readString_keeps halves (c :: cs) (cs.length + 1) cs).map ofCodes).of_suffix hlater
        · split
          · next hbrace =>
            refine .descend (by simpa [isOpening] using Or.inr hbrace) ?_
            split
            · next hskip => exact .ok ((List.suffix_cons _ _).trans (hskip ▸ skipGap_suffix cs))
            · exact ((hmembers _).map ofMembers).of_suffix (skipGap_suffix cs)
          · split
            · next hbracket =>
              refine .descend (by simpa [isOpening] using Or.inl hbracket) ?_
              split
              · next hskip => exact .ok ((List.suffix_cons _ _).trans (hskip ▸ skipGap_suffix cs))
              · exact ((hitems _).map Json.arr).of_suffix (skipGap_suffix cs)
            · split
              · next found hword => exact .ok (readWord_suffix hword)
              · exact readNumber_keeps (c :: cs)
    case items =>
      simp only [readItems]
      refine (hvalue cs).bind ?_
      rintro ⟨item, rest⟩ -
      have hskip := skipGap_suffix rest
      dsimp only
      split
      · next hbracket => exact .ok ((List.suffix_cons _ _).trans (hbracket ▸ hskip))
      · next rest' hcomma =>
        have hleft : skipGap rest' <:+ rest := (skipGap_suffix rest').trans ((List.suffix_cons _ _).trans (hcomma ▸ hskip))
        exact ((hitems _).map (item :: ·)).of_suffix hleft
      · exact .error (by simp)
    case members =>
      simp only [readMembers]
      split
      · next body =>
        refine ((readString_keeps halves _ (body.length + 1) body).bind ?_).of_suffix (List.suffix_cons _ _)
        rintro ⟨name, rest⟩ -
        have hskip := skipGap_suffix rest
        dsimp only
        split
        · next rest' hcolon =>
          have hleft : skipGap rest' <:+ rest := (skipGap_suffix rest').trans ((List.suffix_cons _ _).trans (hcolon ▸ hskip))
          refine ((hvalue _).bind ?_).of_suffix hleft
          rintro ⟨value, rest⟩ -
          have hskip := skipGap_suffix rest
          dsimp only
          split
          · next hbrace => exact .ok ((List.suffix_cons _ _).trans (hbrace ▸ hskip))
          · next rest' hcomma =>
            have hleft : skipGap rest' <:+ rest := (skipGap_suffix rest').trans ((List.suffix_cons _ _).trans (hcomma ▸ hskip))
            exact ((hmembers _).map ((name, value) :: ·)).of_suffix hleft
          · exact .error (by simp)
        · exact .error (by simp)
      · exact .error (by simp)

/-! ## Texts -/

/-- A whole text is read to its end. -/
theorem readText_keeps (halves : Halves) (cs : List Char) : Keeps cs fun room => (·, []) <$> readText halves room cs := by
  unfold readText
  split
  · exact .error (by simp)
  · simp only [map_bind]
    refine (((readValue_keeps halves _).1 _).bind ?_).of_suffix (skipGap_suffix cs)
    rintro ⟨v, rest⟩ -
    dsimp only
    split
    · exact .ok List.nil_suffix
    · exact .error (by simp)

/-- The stack runs out of room only in a text with more openings than levels. -/
theorem lt_openings_of_readText {halves : Halves} {room : Nat} {flaw : Flaw} (h : readText halves room cs = .error flaw)
    (hdepth : flaw.problem = .depth) : room < openings cs :=
  (readText_keeps halves cs).deep (by rw [h]; rfl) hdepth

/-- Where the stack has room enough, more room makes no difference. -/
theorem readText_of_le {halves : Halves} {room room' : Nat} (hle : room ≤ room')
    (h : ∀ flaw, readText halves room cs = .error flaw → flaw.problem ≠ .depth) :
    readText halves room' cs = readText halves room cs := by
  have hsame := (readText_keeps halves cs).more hle fun flaw hread => h flaw <| by
    cases hroom : readText halves room cs with
    | error flaw' =>
      rw [hroom] at hread
      cases hread
      rfl
    | ok v =>
      rw [hroom] at hread
      cases hread
  cases hroom : readText halves room cs <;> cases hroom' : readText halves room' cs <;> rw [hroom, hroom'] at hsame <;> cases hsame <;> rfl

/-- A text is nested deeper than the stack has room for. -/
def TooDeep (cs : List Char) (room : Nat) : Prop :=
  ∃ place, read cs room = .error ⟨.depth, place⟩

/-- A text that is too deep has more openings than levels. -/
theorem TooDeep.lt_openings {room : Nat} (h : TooDeep cs room) : room < openings cs :=
  h.elim fun _ hread => lt_openings_of_readText hread rfl

/-- Where the stack has room enough for a text, more room makes no difference. -/
theorem read_of_le {room room' : Nat} (hle : room ≤ room') (h : ¬ TooDeep cs room) : read cs room' = read cs room :=
  readText_of_le hle fun flaw hread hdepth => h ⟨flaw.rest, hread.trans (by rw [← hdepth])⟩

/-! ## Rows of brackets -/

/-- Nothing is skipped before brackets. -/
theorem skipGap_replicate (n : Nat) : skipGap (List.replicate (n + 1) '[') = List.replicate (n + 1) '[' :=
  List.dropWhile_cons_of_neg (by decide)

/-- A value that begins with more brackets than there are levels is given up, given steps enough to get there. -/
theorem readValue_replicate {room n fuel : Nat} (hn : room < n) (hfuel : 2 * room < fuel) :
    ∃ place, readValue noHalves room fuel (List.replicate n '[') = .error ⟨.depth, place⟩ := by
  induction room generalizing n fuel with
  | zero =>
    obtain ⟨n, rfl⟩ := Nat.exists_eq_add_one_of_ne_zero (Nat.ne_of_gt hn)
    obtain ⟨fuel, rfl⟩ := Nat.exists_eq_add_one_of_ne_zero (Nat.ne_of_gt (Nat.zero_lt_of_lt hfuel))
    exact ⟨_, rfl⟩
  | succ room ih =>
    obtain ⟨n, rfl⟩ := Nat.exists_eq_add_of_le' (show 2 ≤ n by omega)
    obtain ⟨fuel, rfl⟩ := Nat.exists_eq_add_of_le' (show 2 ≤ fuel by omega)
    obtain ⟨place, hplace⟩ := @ih (n + 1) fuel (by omega) (by omega)
    refine ⟨place, ?_⟩
    have hitems : readItems noHalves room (fuel + 1) (List.replicate (n + 1) '[') = .error ⟨.depth, place⟩ := by
      rw [readItems, hplace]
      rfl
    show (readItems noHalves room (fuel + 1) (List.replicate (n + 1) '[') >>= _) = _
    rw [hitems]
    rfl

/-- More brackets than there are levels are too deep. -/
theorem tooDeep_replicate {room n : Nat} (h : room < n) : TooDeep (List.replicate n '[') room := by
  obtain ⟨n, rfl⟩ := Nat.exists_eq_add_one_of_ne_zero (Nat.ne_of_gt (Nat.zero_lt_of_lt h))
  obtain ⟨place, hplace⟩ := @readValue_replicate room (n + 1) (2 * (n + 1) + 2) h (by omega)
  have hunmarked : (List.replicate (n + 1) '[').head? ≠ some '\uFEFF' := fun he => absurd (Option.some.inj he) (by decide)
  refine ⟨place, ?_⟩
  rw [read_of_unmarked hunmarked, skipGap_replicate, List.length_replicate, hplace]
  rfl

end OAuthClient.Json
