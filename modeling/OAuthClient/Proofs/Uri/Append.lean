import Mathlib.Data.List.Basic
import Mathlib.Data.List.TakeWhile
import OAuthClient.Proofs.Text.Split
import OAuthClient.Proofs.Uri.Form
import OAuthClient.Proofs.Uri.Parts
import OAuthClient.Proofs.Uri.Reference

/-!
# Appending a query

Statements about `split` and `appendQuery`: the query that is found in a text without controls and without a fragment is what
stands behind its first question mark, and a query that is appended to such a text is read back behind the one it has.
-/

namespace OAuthClient.Uri

open OAuthClient.Text

/-- What stands before the first question mark of a text. -/
def beforeQuery (s : String) : String :=
  String.ofList (cut '?' s.toList).1

/-- What stands behind the first question mark of a text. -/
def ownQuery (s : String) : String :=
  String.ofList ((cut '?' s.toList).2.getD [])

/-! ## The query that is found -/

/-- Behind the first question mark of a text without a fragment stands its query. -/
theorem queryOf_eq_ownQuery {s : String} (hfragment : '#' ∉ s.toList) : String.ofList (queryOf s.toList) = ownQuery s := by
  rw [queryOf, cut_of_notMem hfragment, ownQuery]

/-- The query of a text without controls and without a fragment is what stands behind its first question mark. -/
theorem query_of_split_eq_ownQuery {s : String} {parts : Split} (hcontrol : ∀ c ∈ s.toList, isControl c = false)
    (hfragment : '#' ∉ s.toList) (h : split s = .ok parts) : String.ofList parts.query = ownQuery s := by
  rw [split_eq hcontrol] at h
  cases hstem : split (String.ofList (stem s.toList)) with
  | error flaw =>
    rw [hstem] at h
    cases h
  | ok front =>
    rw [hstem] at h
    cases h
    exact queryOf_eq_ownQuery hfragment

/-! ## The query that is appended -/

/-- The two sides of the first question mark. -/
theorem beforeQuery_ownQuery {a : List Char} (h : '?' ∉ a) (b : List Char) :
    beforeQuery (String.ofList (a ++ '?' :: b)) = String.ofList a ∧
      ownQuery (String.ofList (a ++ '?' :: b)) = String.ofList b := by
  rw [beforeQuery, ownQuery, String.toList_ofList, cut_append_cons h]
  exact ⟨rfl, rfl⟩

/-- All that appending a query can come to. -/
theorem appendQuery_cases {base query u : String} (h : appendQuery base query = .ok u) :
    (query = "" ∧ u = base) ∨
    (query ≠ "" ∧ base.toList.getLast? = some '?' ∧ u = base ++ query) ∨
    (query ≠ "" ∧ base.toList.getLast? = some '&' ∧ u = base ++ query) ∨
    (query ≠ "" ∧ base.toList.getLast? ≠ some '?' ∧ base.toList.getLast? ≠ some '&' ∧ ∃ parts, split base = .ok parts ∧
      u = base ++ (if parts.query = [] then "?" else "&") ++ query) := by
  unfold appendQuery at h
  by_cases hquery : query = ""
  · rw [if_pos (by rw [hquery]; rfl)] at h
    cases h
    exact Or.inl ⟨hquery, rfl⟩
  rw [if_neg (by rwa [String.isEmpty_iff])] at h
  by_cases hmark : base.toList.getLast? = some '?'
  · rw [if_pos (by simp [hmark])] at h
    cases h
    exact Or.inr (Or.inl ⟨hquery, hmark, rfl⟩)
  by_cases hamp : base.toList.getLast? = some '&'
  · rw [if_pos (by simp [hamp])] at h
    cases h
    exact Or.inr (Or.inr (Or.inl ⟨hquery, hamp, rfl⟩))
  rw [if_neg (by simp [hmark, hamp])] at h
  cases hsplit : split base with
  | error flaw =>
    rw [hsplit] at h
    cases h
  | ok parts =>
    rw [hsplit] at h
    cases h
    refine Or.inr (Or.inr (Or.inr ⟨hquery, hmark, hamp, parts, rfl, ?_⟩))
    simp only [List.isEmpty_iff]

/-- Appending a query fails exactly when there is one, the text does not end where it may follow, and the text cannot be cut. -/
theorem appendQuery_error_iff {base query : String} {flaw : SplitFlaw} :
    appendQuery base query = .error flaw ↔
      query ≠ "" ∧ base.toList.getLast? ≠ some '?' ∧ base.toList.getLast? ≠ some '&' ∧ split base = .error flaw := by
  unfold appendQuery
  by_cases hquery : query = ""
  · rw [if_pos (by rw [hquery]; rfl)]
    simp [hquery]
  rw [if_neg (by rwa [String.isEmpty_iff])]
  by_cases hend : base.toList.getLast? = some '?' ∨ base.toList.getLast? = some '&'
  · rw [if_pos (by simpa using hend)]
    rcases hend with hend | hend <;> simp [hend]
  rw [if_neg (by simpa using hend)]
  rw [not_or] at hend
  cases hsplit : split base with
  | error flaw' => simp [hquery, hend, bind, Except.bind]
  | ok parts => simp [bind, Except.bind, pure, Except.pure]

example : appendQuery "https://[" "x=1" = .error .brackets := by decide

/-- A text with something behind its question mark ends as that does. -/
theorem getLast?_behind {b : List Char} (h : b ≠ []) (a : List Char) : (a ++ '?' :: b).getLast? = b.getLast? := by
  rw [List.getLast?_append_of_ne_nil _ (List.cons_ne_nil _ _), List.getLast?_cons_of_ne_nil h]

/-- A text that does not end in its question mark has something behind it. -/
theorem behind_ne_nil {a b : List Char} (h : (a ++ '?' :: b).getLast? ≠ some '?') : b ≠ [] := by
  rintro rfl
  exact h List.getLast?_concat

/-- A text that ends in its only question mark has nothing behind it. -/
theorem behind_eq_nil {a b : List Char} (hlast : (a ++ '?' :: b).getLast? = some '?') (hcount : (a ++ '?' :: b).count '?' = 1) :
    b = [] := by
  refine Decidable.byContradiction fun hne => ?_
  rw [getLast?_behind hne] at hlast
  have hmem : '?' ∈ b := List.mem_of_getLast? hlast
  have hpos : 0 < b.count '?' := List.count_pos_iff.mpr hmem
  rw [List.count_append, List.count_cons_self] at hcount
  omega

/-- To read back a text with a question mark, it is enough to know what stands behind it. -/
theorem decode_of_behind {base u : String} {a b d : List Char} {fields : List (String × String)} (ha : '?' ∉ a)
    (hbase : base = String.ofList (a ++ '?' :: b)) (hu : u = String.ofList (a ++ '?' :: d))
    (h : Form.decodeLenient (String.ofList d) = Form.decodeLenient (String.ofList b) ++ fields) :
    beforeQuery u = beforeQuery base ∧
      Form.decodeLenient (ownQuery u) = Form.decodeLenient (ownQuery base) ++ fields := by
  obtain ⟨hbefore, hown⟩ := beforeQuery_ownQuery ha b
  obtain ⟨hbefore', hown'⟩ := beforeQuery_ownQuery ha d
  rw [hu, hbase, hbefore', hown', hbefore, hown]
  exact ⟨rfl, h⟩

/-- A query that is appended to a text with a question mark is read back behind the fields that the text has. -/
theorem appendQuery_decode_of_mem {base u : String} {fields : List (String × String)}
    (hcontrol : ∀ c ∈ base.toList, isControl c = false) (hfragment : '#' ∉ base.toList) (hmem : '?' ∈ base.toList)
    (hmark : base.toList.getLast? = some '?' → base.toList.count '?' = 1)
    (h : appendQuery base (Form.encode .percent fields) = .ok u) :
    beforeQuery u = beforeQuery base ∧
      Form.decodeLenient (ownQuery u) = Form.decodeLenient (ownQuery base) ++ fields := by
  obtain ⟨a, b, hsides, ha⟩ := List.eq_append_cons_of_mem hmem
  have hbase : base = String.ofList (a ++ '?' :: b) := by rw [← hsides, String.ofList_toList]
  rw [hsides] at hmark
  rcases appendQuery_cases h with ⟨hempty, hu⟩ | ⟨_, hlast, hu⟩ | ⟨_, hlast, hu⟩ | ⟨_, hlast, _, parts, hsplit, hu⟩
  · have hfields : fields = [] := Decidable.byContradiction fun hne => Form.encode_ne_empty .percent hne hempty
    apply decode_of_behind ha hbase (hu.trans hbase)
    rw [hfields, List.append_nil]
  · -- the query begins where the text ends
    rw [hsides] at hlast
    have hb : b = [] := behind_eq_nil hlast (hmark hlast)
    apply decode_of_behind (d := (Form.encode .percent fields).toList) ha hbase
    · rw [hu, hbase, hb]
      simp [String.ofList_append, String.append_assoc]
    · rw [String.ofList_toList, Form.decodeLenient_encode, hb]
      rfl
  · -- the last field of the text ends where the text ends
    rw [hsides] at hlast
    have hne : b ≠ [] := behind_ne_nil (a := a) (by rw [hlast]; decide)
    rw [getLast?_behind hne, List.getLast?_eq_some_iff] at hlast
    obtain ⟨c, hb⟩ := hlast
    have hend : Form.decodeLenient (String.ofList []) = [] := rfl
    apply decode_of_behind (d := c ++ '&' :: (Form.encode .percent fields).toList) ha hbase
    · rw [hu, hbase, hb]
      simp [String.ofList_append, String.append_assoc]
    · rw [hb, Form.decodeLenient_append_cons, Form.decodeLenient_append_cons, String.ofList_toList,
        Form.decodeLenient_encode, hend, List.append_nil]
  · rw [hsides] at hlast
    have hquery : parts.query ≠ [] := by
      have hparts := query_of_split_eq_ownQuery hcontrol hfragment hsplit
      rw [hbase, (beforeQuery_ownQuery ha b).2, String.ofList_inj] at hparts
      rw [hparts]
      exact behind_ne_nil hlast
    apply decode_of_behind (d := b ++ '&' :: (Form.encode .percent fields).toList) ha hbase
    · rw [hu, if_neg hquery, hbase]
      simp [String.ofList_append, String.append_assoc]
    · rw [Form.decodeLenient_append_cons, String.ofList_toList, Form.decodeLenient_encode]

/-- A query that is appended to a text without controls and without a fragment stands behind the first question mark, and its
fields are read back behind those that the text has. Of a text that ends in a question mark or an ampersand it is asked that this
is where its query begins or where a field of its query ends. -/
theorem appendQuery_decode {base u : String} {fields : List (String × String)}
    (hcontrol : ∀ c ∈ base.toList, isControl c = false) (hfragment : '#' ∉ base.toList)
    (hamp : base.toList.getLast? = some '&' → '?' ∈ base.toList)
    (hmark : base.toList.getLast? = some '?' → base.toList.count '?' = 1)
    (h : appendQuery base (Form.encode .percent fields) = .ok u) :
    beforeQuery u = beforeQuery base ∧
      Form.decodeLenient (ownQuery u) = Form.decodeLenient (ownQuery base) ++ fields := by
  by_cases hmem : '?' ∈ base.toList
  · exact appendQuery_decode_of_mem hcontrol hfragment hmem hmark h
  have hown : ownQuery base = "" := by rw [ownQuery, cut_of_notMem hmem]; rfl
  have hbefore : beforeQuery base = base := by rw [beforeQuery, cut_of_notMem hmem, String.ofList_toList]
  rcases appendQuery_cases h with ⟨hempty, hu⟩ | ⟨_, hlast, hu⟩ | ⟨_, hlast, hu⟩ | ⟨_, _, _, parts, hsplit, hu⟩
  · have hfields : fields = [] := Decidable.byContradiction fun hne => Form.encode_ne_empty .percent hne hempty
    rw [hu, hfields, List.append_nil]
    exact ⟨rfl, rfl⟩
  · exact absurd (List.mem_of_getLast? hlast) hmem
  · exact absurd (hamp hlast) hmem
  · have hquery : parts.query = [] := by
      have hparts := query_of_split_eq_ownQuery hcontrol hfragment hsplit
      rwa [hown, ← String.ofList_nil, String.ofList_inj] at hparts
    have hsides := beforeQuery_ownQuery hmem (Form.encode .percent fields).toList
    have hu' : u = String.ofList (base.toList ++ '?' :: (Form.encode .percent fields).toList) := by
      rw [hu, if_pos hquery]
      simp [String.ofList_append, String.append_assoc]
    rw [← hu', String.ofList_toList, String.ofList_toList] at hsides
    rw [hsides.1, hsides.2, hbefore, hown, Form.decodeLenient_encode]
    exact ⟨rfl, rfl⟩

/-- What appending a query comes to is decided by what it is appended to: it fails, or the query stands behind a question mark or an
ampersand. -/
theorem appendQuery_uniform (base : String) :
    (∃ flaw, ∀ query, query ≠ "" → appendQuery base query = .error flaw) ∨
    ∃ (x : List Char) (sep : Char), (sep = '?' ∨ sep = '&') ∧
      ∀ query, query ≠ "" → appendQuery base query = .ok (String.ofList (x ++ sep :: query.toList)) := by
  have hempty {query : String} (h : query ≠ "") : ¬ query.isEmpty = true := by simpa using h
  by_cases hlast : base.toList.getLast? = some '?' ∨ base.toList.getLast? = some '&'
  · have hsep : ∃ sep x, (sep = '?' ∨ sep = '&') ∧ base.toList = x ++ [sep] := by
      rcases hlast with h | h
      · obtain ⟨x, hx⟩ := List.getLast?_eq_some_iff.mp h
        exact ⟨'?', x, Or.inl rfl, hx⟩
      · obtain ⟨x, hx⟩ := List.getLast?_eq_some_iff.mp h
        exact ⟨'&', x, Or.inr rfl, hx⟩
    obtain ⟨sep, x, hsep, hx⟩ := hsep
    refine Or.inr ⟨x, sep, hsep, fun query hquery => ?_⟩
    rw [appendQuery, if_neg (hempty hquery), if_pos (by simpa using hlast)]
    congr 1
    rw [← String.toList_inj, String.toList_append, hx]
    simp
  · have hbase {query : String} (hquery : query ≠ "") : appendQuery base query = (split base).bind fun parts =>
        .ok (base ++ (if parts.query.isEmpty then "?" else "&") ++ query) := by
      rw [appendQuery, if_neg (hempty hquery), if_neg (by simpa using hlast)]
      rfl
    cases hsplit : split base with
    | error flaw => exact Or.inl ⟨flaw, fun query hquery => by rw [hbase hquery, hsplit]; rfl⟩
    | ok parts =>
      have hmark (sep : Char) (query : String) :
          base ++ String.ofList [sep] ++ query = String.ofList (base.toList ++ sep :: query.toList) := by
        rw [← String.toList_inj]
        simp
      cases hq : parts.query.isEmpty with
      | true =>
        refine Or.inr ⟨base.toList, '?', Or.inl rfl, fun query hquery => ?_⟩
        rw [hbase hquery, hsplit, Except.bind, hq, ← hmark]
        rfl
      | false =>
        refine Or.inr ⟨base.toList, '&', Or.inr rfl, fun query hquery => ?_⟩
        rw [hbase hquery, hsplit, Except.bind, hq, ← hmark]
        rfl

end OAuthClient.Uri
