import OAuthClient.Proofs.Uri.Append

/-!
# What appending a query does to the parts of a URL

Appending puts a query at the end of a text, wherever that end is. It is the end of the query, or the place for one, exactly when the
text has no fragment, ends in an ampersand only within its query, and ends in a question mark only where its query begins. Then the
scheme, the authority and the path stay, and the fields of the query are those that the text had and the new ones. Otherwise the text
that is appended becomes part of the fragment, of the path or the authority, or of the last field.
-/

namespace OAuthClient.Uri

open OAuthClient.Text

/-- A URL at the end of which a query may be put: it has no fragment, an ampersand ends it only behind a question mark, and a question
mark ends it only when it is the only one. -/
structure TakesQuery (base : String) : Prop where
  noFragment : '#' ∉ base.toList
  ampersand : base.toList.getLast? = some '&' → '?' ∈ base.toList
  questionMark : base.toList.getLast? = some '?' → base.toList.count '?' = 1

/-- The parts of a URL with fields added: its query has them behind the fields it had, and the other parts are what they were. -/
structure Split.Extends (parts parts' : Split) (fields : List (String × String)) : Prop where
  scheme : parts'.scheme = parts.scheme
  authority : parts'.authority = parts.authority
  path : parts'.path = parts.path
  fragment : parts'.fragment = parts.fragment
  fields : Form.decodeLenient (String.ofList parts'.query) = Form.decodeLenient (String.ofList parts.query) ++ fields

variable {base u query : String} {parts parts' : Split} {fields : List (String × String)}

/-! ## Parts of texts without controls -/

/-- The query and the fragment of a text without controls are those that its characters show. -/
theorem parts_of_split (hcontrol : ∀ c ∈ base.toList, isControl c = false) (h : split base = .ok parts) :
    parts.query = queryOf base.toList ∧ parts.fragment = fragmentOf base.toList := by
  rw [split_eq hcontrol] at h
  cases hstem : split (String.ofList (stem base.toList)) with
  | error flaw =>
    rw [hstem] at h
    cases h
  | ok front =>
    rw [hstem] at h
    cases h
    exact ⟨rfl, rfl⟩

/-- Texts without controls and without fragments that begin alike up to their queries have the same parts but for the query. -/
theorem split_of_beforeQuery (hcontrol : ∀ c ∈ base.toList, isControl c = false) (hfragment : '#' ∉ base.toList)
    (hcontrol' : ∀ c ∈ u.toList, isControl c = false) (hfragment' : '#' ∉ u.toList) (hbefore : beforeQuery u = beforeQuery base)
    (h : split base = .ok parts) : split u = .ok { parts with query := queryOf u.toList } := by
  have hstem {s : String} (hs : '#' ∉ s.toList) : String.ofList (stem s.toList) = beforeQuery s := by
    rw [stem, cut_of_notMem hs, beforeQuery]
  have hnone {s : String} (hs : '#' ∉ s.toList) : fragmentOf s.toList = [] := by
    rw [fragmentOf, cut_of_notMem hs, Option.getD_none]
  rw [split_eq hcontrol, hstem hfragment, hnone hfragment] at h
  rw [split_eq hcontrol', hstem hfragment', hnone hfragment', hbefore]
  cases hfront : split (beforeQuery base) with
  | error flaw =>
    rw [hfront] at h
    cases h
  | ok front =>
    rw [hfront] at h
    cases h
    rfl

/-! ## Where a query belongs -/

/-- A query that is not empty can be appended to a text that can be split, and comes at its end. -/
theorem exists_appendQuery (hquery : query ≠ "") (h : split base = .ok parts) :
    ∃ sep, appendQuery base query = .ok (base ++ sep ++ query) ∧ sep ∈ ["", "?", "&"] := by
  unfold appendQuery
  rw [if_neg (by rwa [String.isEmpty_iff])]
  split
  · exact ⟨"", by rw [String.append_empty], by decide⟩
  · rw [h]
    refine ⟨if parts.query.isEmpty then "?" else "&", rfl, ?_⟩
    split <;> decide

/-- The characters that appending adds are no controls and begin no fragment. -/
theorem mem_appended {sep : String} {c : Char} (hsep : sep ∈ ["", "?", "&"])
    (h : c ∈ (base ++ sep ++ Form.encode .percent fields).toList) : c ∈ base.toList ∨ isControl c = false ∧ c ≠ '#' := by
  rw [String.toList_append, String.toList_append, List.mem_append, List.mem_append] at h
  rcases h with (hbase | hc) | hquery
  · exact Or.inl hbase
  · have hall : ∀ sep ∈ ["", "?", "&"], sep.toList.all (fun c => !isControl c && c != '#') = true := by decide
    exact Or.inr (by simpa using List.all_eq_true.mp (hall sep hsep) c hc)
  · exact Or.inr (Form.of_mem_encode (p := fun c => isControl c = false ∧ c ≠ '#') (by decide) hquery)

/-- At the end of a URL that takes a query, a query is added to the fields and nothing else is changed. -/
theorem extends_of_takesQuery (hcontrol : ∀ c ∈ base.toList, isControl c = false) (htakes : TakesQuery base)
    (h : split base = .ok parts) (hu : appendQuery base (Form.encode .percent fields) = .ok u)
    (hcontrol' : ∀ c ∈ u.toList, isControl c = false) (hfragment' : '#' ∉ u.toList) :
    ∃ parts', split u = .ok parts' ∧ parts.Extends parts' fields := by
  obtain ⟨hbefore, hown⟩ := appendQuery_decode hcontrol htakes.noFragment htakes.ampersand htakes.questionMark hu
  refine ⟨_, split_of_beforeQuery hcontrol htakes.noFragment hcontrol' hfragment' hbefore h, rfl, rfl, rfl, rfl, ?_⟩
  dsimp only
  rw [queryOf_eq_ownQuery hfragment', query_of_split_eq_ownQuery hcontrol htakes.noFragment h, hown]

/-! ## Where it does not -/

/-- How many fields the lenient reading finds in a text. -/
def fieldCount (cs : List Char) : Nat :=
  (Form.decodeLenient (String.ofList cs)).length

/-- The fields around an ampersand are counted apart. -/
theorem fieldCount_append_cons (a b : List Char) : fieldCount (a ++ '&' :: b) = fieldCount a + fieldCount b := by
  rw [fieldCount, Form.decodeLenient_append_cons, List.length_append, fieldCount, fieldCount]

/-- A text without ampersands is one field unless it is empty. -/
theorem fieldCount_of_notMem {w : List Char} (hne : w ≠ []) (h : '&' ∉ w) : fieldCount w = 1 := by
  have hpiece : (pieces '&' w).filter (!·.isEmpty) = [w] := by
    rw [pieces_of_notMem h, List.filter_cons_of_pos (by simpa using hne), List.filter_nil]
  rw [fieldCount, Form.decodeLenient_eq, String.toList_ofList, hpiece]
  rfl

/-- A text without ampersands becomes part of the first field that it is put before. -/
theorem fieldCount_append_of_notMem {w : List Char} (h : '&' ∉ w) {d : Char} (hd : d ≠ '&') (y : List Char) :
    fieldCount (w ++ d :: y) = fieldCount (d :: y) := by
  have hone {z : List Char} (hz : '&' ∉ z) : fieldCount (w ++ d :: z) = fieldCount (d :: z) := by
    rw [fieldCount_of_notMem (by simp) (by simp [h, hz, Ne.symm hd]),
      fieldCount_of_notMem (by simp) (by simp [hz, Ne.symm hd])]
  by_cases hy : '&' ∈ y
  · obtain ⟨z, rest, rfl, hz⟩ := List.eq_append_cons_of_mem hy
    rw [← List.cons_append, ← List.append_assoc, fieldCount_append_cons, fieldCount_append_cons, hone hz]
  · exact hone hy

/-- Two texts that are joined without an ampersand between them have a field less than they had. -/
theorem fieldCount_join {c d : Char} (hc : c ≠ '&') (hd : d ≠ '&') (x y : List Char) :
    fieldCount ((x ++ [c]) ++ d :: y) + 1 = fieldCount (x ++ [c]) + fieldCount (d :: y) := by
  have hone {w : List Char} (hw : '&' ∉ w) :
      fieldCount ((w ++ [c]) ++ d :: y) + 1 = fieldCount (w ++ [c]) + fieldCount (d :: y) := by
    have hwc : '&' ∉ w ++ [c] := by simp [hw, Ne.symm hc]
    rw [fieldCount_append_of_notMem hwc hd, fieldCount_of_notMem (by simp) hwc, Nat.add_comm]
  by_cases hx : '&' ∈ x
  · -- the last ampersand of the first text separates all that is not joined
    obtain ⟨w, rest, hrev, hw⟩ := List.eq_append_cons_of_mem (List.mem_reverse.mpr hx)
    have hsides : x = rest.reverse ++ '&' :: w.reverse := by
      rw [← List.reverse_reverse x, hrev]
      simp
    have hjoined := hone (w := w.reverse) (by simpa using hw)
    have hleft : (x ++ [c]) ++ d :: y = rest.reverse ++ '&' :: ((w.reverse ++ [c]) ++ d :: y) := by simp [hsides]
    have hright : x ++ [c] = rest.reverse ++ '&' :: (w.reverse ++ [c]) := by simp [hsides]
    rw [hleft, hright, fieldCount_append_cons, fieldCount_append_cons]
    omega
  · exact hone hx

/-- What is put behind a fragment is part of it. -/
theorem fragmentOf_append_of_mem {cs : List Char} (h : '#' ∈ cs) (x : List Char) : fragmentOf (cs ++ x) = fragmentOf cs ++ x := by
  obtain ⟨a, b, rfl, ha⟩ := List.eq_append_cons_of_mem h
  rw [List.append_assoc, List.cons_append, fragmentOf, fragmentOf, cut_append_cons ha, cut_append_cons ha]
  rfl

/-- The text of some fields does not begin with an ampersand. -/
theorem exists_cons_encode (hne : fields ≠ []) : ∃ d y, (Form.encode .percent fields).toList = d :: y ∧ d ≠ '&' := by
  have htext : (Form.encode .percent fields).toList ≠ [] := fun h =>
    Form.encode_ne_empty .percent hne (String.toList_eq_nil_iff.mp h)
  obtain ⟨d, y, hcons⟩ := List.exists_cons_of_ne_nil htext
  refine ⟨d, y, hcons, ?_⟩
  rintro rfl
  -- what stands before the ampersand would be an encoded field, which has an equals sign
  have hpieces := Form.pieces_encode .percent hne
  have hempty : [] ∈ fields.map (Form.encodeField .percent) := by
    rw [← hpieces, hcons, ← List.nil_append ('&' :: y), pieces_append_cons]
    exact List.mem_append_left _ List.mem_cons_self
  obtain ⟨field, _, hfield⟩ := List.mem_map.mp hempty
  rw [Form.encodeField, List.append_eq_nil_iff] at hfield
  exact List.cons_ne_nil _ _ hfield.2

/-- Behind a text without a question mark there is no query to become part of. -/
theorem queryOf_append_of_notMem {cs q : List Char} (hcs : '?' ∉ cs) (hq : '?' ∉ q) (hsign : '#' ∉ cs ++ q) :
    queryOf (cs ++ q) = [] ∧ queryOf cs = [] := by
  have hsign' : '#' ∉ cs := fun h => hsign (List.mem_append_left _ h)
  have hmark : '?' ∉ cs ++ q := by simp [hcs, hq]
  rw [queryOf, cut_of_notMem hsign, cut_of_notMem hmark, queryOf, cut_of_notMem hsign', cut_of_notMem hcs]
  exact ⟨rfl, rfl⟩

/-- Behind a question mark that is not the first one a query becomes part of the last field. -/
theorem fieldCount_queryOf_append {cs y : List Char} {d : Char} (hlast : cs.getLast? = some '?') (hcount : cs.count '?' ≠ 1)
    (hd : d ≠ '&') (hsign : '#' ∉ cs ++ d :: y) :
    fieldCount (queryOf (cs ++ d :: y)) + 1 = fieldCount (queryOf cs) + fieldCount (d :: y) := by
  have hsign' : '#' ∉ cs := fun h => hsign (List.mem_append_left _ h)
  rw [queryOf, cut_of_notMem hsign, queryOf, cut_of_notMem hsign']
  obtain ⟨a, b, rfl, ha⟩ := List.eq_append_cons_of_mem (List.mem_of_getLast? hlast)
  have hb : b ≠ [] := by
    rintro rfl
    exact hcount (by simp [List.count_eq_zero.mpr ha])
  rw [getLast?_behind hb] at hlast
  obtain ⟨x, rfl⟩ := List.getLast?_eq_some_iff.mp hlast
  rw [List.append_assoc, List.cons_append, cut_append_cons ha, cut_append_cons ha]
  exact fieldCount_join (by decide) hd x y

/-- Behind a text that ends in a question mark or an ampersand a query follows at once. -/
theorem toList_of_appendQuery {e : Char} (he : e = '?' ∨ e = '&') (hlast : base.toList.getLast? = some e)
    (hu : appendQuery base query = .ok u) : u.toList = base.toList ++ query.toList := by
  rcases appendQuery_cases hu with ⟨rfl, rfl⟩ | ⟨_, _, rfl⟩ | ⟨_, _, rfl⟩ | ⟨_, hmark, hamp, _⟩
  · exact (List.append_nil _).symm
  · exact String.toList_append
  · exact String.toList_append
  · rcases he with rfl | rfl
    · exact absurd hlast hmark
    · exact absurd hlast hamp

/-- A URL whose query has fields added and whose other parts stay is one that takes a query. -/
theorem takesQuery_of_extends (hcontrol : ∀ c ∈ base.toList, isControl c = false) (hne : fields ≠ [])
    (h : split base = .ok parts) (hu : appendQuery base (Form.encode .percent fields) = .ok u)
    (hcontrol' : ∀ c ∈ u.toList, isControl c = false) (h' : split u = .ok parts') (hextends : parts.Extends parts' fields) :
    TakesQuery base := by
  obtain ⟨d, y, hquery, hd⟩ := exists_cons_encode hne
  obtain ⟨hquery₁, hfragment₁⟩ := parts_of_split hcontrol h
  obtain ⟨hquery₂, hfragment₂⟩ := parts_of_split hcontrol' h'
  have hfragment : '#' ∉ base.toList := by
    intro hmem
    obtain ⟨sep, happend, _⟩ := exists_appendQuery (Form.encode_ne_empty .percent hne) h
    rw [happend] at hu
    cases hu
    have hgrown := hextends.fragment
    rw [hfragment₁, hfragment₂, String.append_assoc, String.toList_append, fragmentOf_append_of_mem hmem,
      List.append_right_eq_self, String.toList_append, List.append_eq_nil_iff, hquery] at hgrown
    exact List.cons_ne_nil _ _ hgrown.2
  -- in the other cases the count of the fields tells that the new ones are no fields of their own
  have hlengths : fieldCount (queryOf u.toList) = fieldCount (queryOf base.toList) + fields.length := by
    have hfields := congrArg List.length hextends.fields
    rwa [List.length_append, hquery₁, hquery₂] at hfields
  have hpos : 0 < fields.length := List.length_pos_iff.mpr hne
  have hcount : fieldCount (d :: y) = fields.length := by
    rw [← hquery, fieldCount, String.ofList_toList, Form.decodeLenient_encode]
  have hsign : '#' ∉ base.toList ++ d :: y := by
    rw [← hquery, List.mem_append, not_or]
    exact ⟨hfragment, fun hmem => absurd rfl (Form.of_mem_encode (p := (· ≠ '#')) (by decide) hmem)⟩
  refine ⟨hfragment, fun hlast => ?_, fun hlast => ?_⟩
  · by_contra hbase
    have hmark : '?' ∉ d :: y := by
      rw [← hquery]
      exact fun hmem => absurd rfl (Form.of_mem_encode (p := (· ≠ '?')) (by decide) hmem)
    obtain ⟨hnone, hnone'⟩ := queryOf_append_of_notMem hbase hmark hsign
    rw [toList_of_appendQuery (Or.inr rfl) hlast hu, hquery, hnone, hnone'] at hlengths
    omega
  · by_contra hnot
    have hjoin := fieldCount_queryOf_append hlast hnot hd hsign
    rw [toList_of_appendQuery (Or.inl rfl) hlast hu, hquery] at hlengths
    omega

/-- Appending a query to a URL without controls that can be split adds the fields of the query and changes nothing else exactly when
the URL takes a query. -/
theorem appendQuery_extends_iff_takesQuery (hcontrol : ∀ c ∈ base.toList, isControl c = false) (hne : fields ≠ [])
    (h : split base = .ok parts) :
    ∃ u, appendQuery base (Form.encode .percent fields) = .ok u ∧
      ((∃ parts', split u = .ok parts' ∧ parts.Extends parts' fields) ↔ TakesQuery base) := by
  obtain ⟨sep, hu, hsep⟩ := exists_appendQuery (Form.encode_ne_empty .percent hne) h
  have hcontrol' : ∀ c ∈ (base ++ sep ++ Form.encode .percent fields).toList, isControl c = false := by
    intro c hc
    rcases mem_appended hsep hc with hbase | ⟨hfree, _⟩
    · exact hcontrol c hbase
    · exact hfree
  refine ⟨_, hu, fun ⟨parts', h', hextends⟩ => takesQuery_of_extends hcontrol hne h hu hcontrol' h' hextends, fun htakes => ?_⟩
  refine extends_of_takesQuery hcontrol htakes h hu hcontrol' fun hmem => ?_
  rcases mem_appended hsep hmem with hbase | ⟨_, hsign⟩
  · exact htakes.noFragment hbase
  · exact hsign rfl

end OAuthClient.Uri
