import OAuthClient.Proofs.Act
import OAuthClient.Proofs.Json.Members
import OAuthClient.Settings.Store

/-!
# Where settings come from

A source is a row of names, some with a value. The variables of the environment and of its file are taken in any case, the arguments of
a caller as they are spelled, and it is up to the library whether in other cases, too. Of several names that are the same the last one
counts, and the strongest source that has a value for a setting under one of its names supplies it. So a weaker source is not asked for
the tenant under one name when a stronger one has it under the other. All this holds for every library that does what the documentation
of the usual one says (`Library.Documented`).
-/

namespace OAuthClient.Settings

open OAuthClient.Validation

/-! ## What a source says -/

/-- What a source says, in order: names, each with a value or without one. -/
structure Origin where
  /-- The name that a spelling counts as. -/
  taken : String → String
  rows : List (String × Option Json)

/-- The last row of a source with a name has a value. -/
inductive Gives (o : Origin) (name : String) (v : Json) : Prop
  | last {before after : List (String × Option Json)} {spelled : String} (hrows : o.rows = before ++ (spelled, some v) :: after)
    (hname : o.taken spelled = name) (hlast : ∀ row ∈ after, o.taken row.1 ≠ name)

/-- A source supplies a setting with a value: it is given under the first of the names of the setting under which one is given. -/
inductive Supplies (o : Origin) (f : Field) (v : Json) : Prop
  | under {before after : List String} {name : String} (hnames : f.names = before ++ name :: after) (h : Gives o name v)
    (hfirst : ∀ other ∈ before, ∀ w, ¬ Gives o other w)

/-- The value of a setting when the sources are asked from the strongest on. -/
inductive Chosen (f : Field) (sources : List Origin) : Json → Prop
  /-- The strongest source that supplies the setting decides. -/
  | supplied {stronger weaker : List Origin} {o : Origin} {v : Json} (hsources : sources = stronger ++ o :: weaker)
    (h : Supplies o f v) (hstrongest : ∀ other ∈ stronger, ∀ w, ¬ Supplies other f w) : Chosen f sources v
  /-- A setting that no source supplies has its default. -/
  | default (h : ∀ o ∈ sources, ∀ w, ¬ Supplies o f w) : Chosen f sources f.default

/-- The arguments of a caller, whose spelling stands for a name. -/
def ofArguments (spelling : String → String) (given : List (String × Json)) : Origin :=
  ⟨spelling, given.map fun (name, v) => (name, some v)⟩

/-- Variables, whose names are spelled in any case. -/
def ofVariables (vars : List (String × Option String)) : Origin :=
  ⟨lower, vars.map fun (name, v) => (name, v.map .str)⟩

/-- What the inputs say, from the strongest source on: what a caller names, the variables of the environment, and an environment file. -/
def Inputs.origins (i : Inputs) (L : Library) : List Origin :=
  [ofArguments L.spelling i.named, ofVariables (i.environment.map fun (name, v) => (name, some v))] ++
    (i.file.map fun text => ofVariables (Dotenv.entries i.environment text)).toList

/-! ## What a library does -/

/-- A state holds what is there for each setting under its preferred name, and nothing under the others. -/
structure Holds (state : State) (has : Field → Option Json) : Prop where
  preferred : ∀ f : Field, Json.find? f.name state = has f
  others : ∀ f : Field, ∀ name ∈ f.names, name ≠ f.name → Json.find? name state = none

/-- What the documentation of a library says. -/
structure Library.Documented (L : Library) : Prop where
  /-- An argument that is spelled as a name of a setting counts as that name. -/
  spelling : ∀ f : Field, ∀ name ∈ f.names, L.spelling name = name
  /-- Arguments count under the first of the names of a setting that is in use. -/
  arguments : ∀ given, Holds (L.arguments given) fun f => f.names.findSome? (givenFor? L.spelling given)
  /-- A variable counts under the first of the names of a setting under which one has a value, in any case. Its value is a text. -/
  environment : ∀ vars, Holds (L.environment vars) fun f => (f.names.findSome? (setTo? vars)).map .str
  /-- What is in the stronger state alone, or in both unless two objects meet, is that of the stronger state. -/
  stronger : ∀ weaker stronger name v, Json.find? name stronger = some v →
    (∀ members, Json.find? name weaker ≠ some (.obj members)) → Json.find? name (L.merge weaker stronger) = some v
  /-- What is not in the stronger state is that of the weaker one. -/
  weaker : ∀ weaker stronger name, Json.find? name stronger = none →
    Json.find? name (L.merge weaker stronger) = Json.find? name weaker

section Spelled

/-- What is listed for settings under their preferred names is listed under some of these names. -/
theorem names_filterMap_sublist (has : Field → Option Json) (fields : List Field) :
    ((fields.filterMap fun f => (has f).map (f.name, ·)).map (·.1)).Sublist (fields.map Field.name) := by
  induction fields with
  | nil => exact .slnil
  | cons f fields ih =>
    rw [List.filterMap_cons, List.map_cons]
    cases has f with
    | none => exact ih.cons _
    | some v => exact ih.cons_cons _

/-- Different settings have different preferred names. -/
theorem Field.name_injective {f g : Field} (h : f.name = g.name) : f = g := by
  cases f <;> cases g <;> first | rfl | exact absurd h (by decide)

/-- A name of a setting that another prefers is the preferred name of both. -/
theorem Field.eq_of_name_mem {f g : Field} (h : g.name ∈ f.names) : g = f := by
  revert h
  cases f <;> cases g <;> decide

/-- Every setting is one of all. -/
theorem Field.mem_all (f : Field) : f ∈ all := by
  cases f <;> decide

/-- Values under the preferred names of settings are those that are there, and stand nowhere else. -/
theorem holds_preferred (has : Field → Option Json) : Holds (Library.preferred has) has := by
  have hnodup : ((Library.preferred has).map (·.1)).Nodup := (names_filterMap_sublist has Field.all).nodup (by decide)
  constructor
  · intro f
    ext v
    rw [Json.find?_eq_some_iff hnodup, Library.preferred, List.mem_filterMap]
    constructor
    · rintro ⟨g, -, hg⟩
      obtain ⟨w, hw, hpair⟩ := Option.map_eq_some_iff.mp hg
      obtain ⟨hname, rfl⟩ := Prod.mk.inj hpair
      rwa [Field.name_injective hname] at hw
    · intro h
      exact ⟨f, f.mem_all, by rw [h]; rfl⟩
  · intro f name hname hne
    refine Option.eq_none_iff_forall_ne_some.mpr fun v hv => ?_
    obtain ⟨g, -, hg⟩ := List.mem_filterMap.mp ((Json.find?_eq_some_iff hnodup).mp hv)
    obtain ⟨w, -, hpair⟩ := Option.map_eq_some_iff.mp hg
    obtain ⟨rfl, -⟩ := Prod.mk.inj hpair
    exact hne (congrArg Field.name (Field.eq_of_name_mem hname))

/-- What is kept beside the settings has none of their names. -/
theorem holds_append {state : State} {has : Field → Option Json} (h : Holds state has) (given : State) :
    Holds (state ++ given.filter fun m => !(Field.all.flatMap Field.names).contains m.1) has := by
  have hfound : ∀ f : Field, ∀ name ∈ f.names,
      Json.find? name (state ++ given.filter fun m => !(Field.all.flatMap Field.names).contains m.1) = Json.find? name state := by
    intro f name hname
    have hnone : Json.find? name (given.filter fun m => !(Field.all.flatMap Field.names).contains m.1) = none := by
      rw [Json.find?_filter fun n => !(Field.all.flatMap Field.names).contains n, if_neg]
      rw [Bool.not_eq_true, Bool.not_eq_false', List.contains_iff_mem]
      exact List.mem_flatMap.mpr ⟨f, f.mem_all, hname⟩
    rw [Json.find?_append, hnone, Option.or_none]
  exact ⟨fun f => (hfound f _ (by cases f <;> decide)).trans (h.preferred f),
    fun f name hname hne => (hfound f name hname).trans (h.others f name hname hne)⟩

/-- The library that takes arguments by a spelling does what its documentation says when the names of settings are spelled as
themselves. -/
theorem documented_spelled {spelling : String → String} (h : ∀ f : Field, ∀ name ∈ f.names, spelling name = name) :
    (Library.spelled spelling).Documented where
  spelling := h
  arguments _ := holds_append (holds_preferred _) _
  environment vars := holds_preferred fun f => (f.names.findSome? (setTo? vars)).map .str
  stronger weaker stronger name v h _ := by
    show Json.find? name (stronger ++ _) = _
    rw [Json.find?_append, h, Option.some_or]
  weaker weaker stronger name h := by
    show Json.find? name (stronger ++ _) = _
    rw [Json.find?_append, h, Option.none_or, Json.find?_filter fun n => (Json.find? n stronger).isNone, h]
    rfl

/-- The usual library does what its documentation says. -/
theorem documented_standard : Library.standard.Documented :=
  documented_spelled fun f => by cases f <;> decide

end Spelled

/-! ## Looking names up -/

variable {o : Origin} {sources : List Origin} {f : Field} {v : Json}

/-- What the last row of a source with a name has. -/
def found (o : Origin) (name : String) : Option Json :=
  (Json.find? name (Json.collect (o.rows.map fun row => (o.taken row.1, row.2)))).join

/-- A value is found under a name exactly when it is given. -/
theorem found_eq_some_iff {name : String} : found o name = some v ↔ Gives o name v := by
  rw [found, Json.find?_collect, Option.join_eq_some_iff, List.lookup_eq_some_iff]
  constructor
  · rintro ⟨after, before, hsplit, hlast⟩
    have hrows : o.rows.map (fun row => (o.taken row.1, row.2)) = before.reverse ++ (name, some v) :: after.reverse := by
      rw [← List.reverse_reverse (o.rows.map _), hsplit, List.reverse_append, List.reverse_cons, List.append_assoc,
        List.singleton_append]
    obtain ⟨front, rest, hfront, -, hrest⟩ := List.map_eq_append_iff.mp hrows
    obtain ⟨⟨spelled, value⟩, back, rfl, hrow, hback⟩ := List.map_eq_cons_iff.mp hrest
    obtain ⟨rfl, rfl⟩ := Prod.mk.inj hrow
    refine .last hfront rfl fun row hmem heq => ?_
    have hmapped : (o.taken row.1, row.2) ∈ after := by
      rw [← List.mem_reverse, ← hback]
      exact List.mem_map_of_mem hmem
    exact bne_iff_ne.mp (hlast _ hmapped) heq.symm
  · rintro ⟨hrows, rfl, hlast⟩
    rw [hrows]
    refine ⟨_, _, by rw [List.map_append, List.map_cons, List.reverse_append, List.reverse_cons, List.append_assoc]; rfl, ?_⟩
    intro row hmem
    obtain ⟨row', hrow', rfl⟩ := List.mem_map.mp (List.mem_reverse.mp hmem)
    exact bne_iff_ne.mpr (Ne.symm (hlast row' hrow'))

/-- An argument is found under the name that its spelling stands for. -/
theorem found_ofArguments (spelling : String → String) (given : List (String × Json)) (name : String) :
    found (ofArguments spelling given) name = givenFor? spelling given name := by
  have hrows : (ofArguments spelling given).rows.map (fun row => ((ofArguments spelling given).taken row.1, row.2)) =
      (given.map fun m => (spelling m.1, m.2)).map fun m => (m.1, some m.2) := by
    rw [ofArguments, List.map_map, List.map_map]
    rfl
  rw [found, hrows, Json.collect_map, Json.find?_map, givenFor?]
  cases Json.find? name (Json.collect (given.map fun m => (spelling m.1, m.2))) <;> rfl

/-- Where an argument counts as a name, one is given under it. -/
theorem exists_gives_of_mem {spelling : String → String} {given : List (String × Json)} {m : String × Json} (h : m ∈ given) :
    ∃ w, Gives (ofArguments spelling given) (spelling m.1) w := by
  have hfound : (found (ofArguments spelling given) (spelling m.1)).isSome = true := by
    rw [found_ofArguments, givenFor?, Json.find?_collect, ← Option.ne_none_iff_isSome, ne_eq, List.lookup_eq_none_iff]
    intro hnone
    have hmem : (spelling m.1, m.2) ∈ (given.map fun m => (spelling m.1, m.2)).reverse :=
      List.mem_reverse.mpr (List.mem_map_of_mem h)
    exact absurd (hnone _ hmem) (by simp)
  obtain ⟨w, hw⟩ := Option.isSome_iff_exists.mp hfound
  exact ⟨w, found_eq_some_iff.mp hw⟩

/-- A variable is found under a name in any case, as a text. -/
theorem found_ofVariables (vars : List (String × Option String)) (name : String) :
    found (ofVariables vars) name = (setTo? vars name).map .str := by
  have hrows : (ofVariables vars).rows.map (fun row => ((ofVariables vars).taken row.1, row.2)) =
      (vars.map fun m => (lower m.1, m.2)).map fun m => (m.1, m.2.map Json.str) := by
    rw [ofVariables, List.map_map, List.map_map]
    rfl
  rw [found, hrows, Json.collect_map, Json.find?_map, setTo?]
  exact Option.join_map_eq_map_join

/-! ## The strongest source -/

/-- What a source supplies for a setting. -/
def supplied? (f : Field) (o : Origin) : Option Json :=
  f.names.findSome? (found o)

/-- Where it is known when each value is there, there is none exactly when this is so of no value. -/
theorem eq_none_iff_of_some_iff {a : Option Json} {P : Json → Prop} (h : ∀ w, a = some w ↔ P w) : a = none ↔ ∀ w, ¬ P w := by
  rw [Option.eq_none_iff_forall_ne_some]
  exact forall_congr' fun w => not_congr (h w)

/-- What is supplied for a setting is given under the first of its names that has a value. -/
theorem supplied?_eq_some_iff : supplied? f o = some v ↔ Supplies o f v := by
  rw [supplied?, List.findSome?_eq_some_iff]
  constructor
  · rintro ⟨before, name, after, hnames, hname, hfirst⟩
    exact .under hnames (found_eq_some_iff.mp hname) fun other hother =>
      (eq_none_iff_of_some_iff fun _ => found_eq_some_iff).mp (hfirst other hother)
  · rintro ⟨hnames, hgives, hfirst⟩
    exact ⟨_, _, _, hnames, found_eq_some_iff.mpr hgives, fun other hother =>
      (eq_none_iff_of_some_iff fun _ => found_eq_some_iff).mpr (hfirst other hother)⟩

/-- A setting has the value that the strongest source supplies, and its default where none does. -/
theorem chosen_iff : Chosen f sources v ↔ (sources.findSome? (supplied? f)).getD f.default = v := by
  have hnone : ∀ o, supplied? f o = none ↔ ∀ w, ¬ Supplies o f w := fun o =>
    eq_none_iff_of_some_iff fun _ => supplied?_eq_some_iff
  constructor
  · rintro (⟨hsources, h, hstrongest⟩ | hdefault)
    · have hfound : sources.findSome? (supplied? f) = some v :=
        List.findSome?_eq_some_iff.mpr ⟨_, _, _, hsources, supplied?_eq_some_iff.mpr h, fun other hother =>
          (hnone other).mpr (hstrongest other hother)⟩
      rw [hfound, Option.getD_some]
    · have hfound : sources.findSome? (supplied? f) = none :=
        List.findSome?_eq_none_iff.mpr fun o ho => (hnone o).mpr (hdefault o ho)
      rw [hfound, Option.getD_none]
  · rintro rfl
    cases hfound : sources.findSome? (supplied? f) with
    | none => exact .default fun o ho => (hnone o).mp (List.findSome?_eq_none_iff.mp hfound o ho)
    | some w =>
      obtain ⟨stronger, o, weaker, hsources, ho, hstronger⟩ := List.findSome?_eq_some_iff.mp hfound
      exact .supplied hsources (supplied?_eq_some_iff.mp ho) fun other hother => (hnone other).mp (hstronger other hother)

/-- Sources behind one that gives a setting under one of its names do not count. -/
theorem chosen_append_iff {name : String} {w : Json} (hname : name ∈ f.names) (h : Gives o name w) (stronger weaker : List Origin) :
    Chosen f (stronger ++ o :: weaker) v ↔ Chosen f (stronger ++ [o]) v := by
  have hsupplied : (supplied? f o).isSome = true :=
    List.findSome?_isSome_iff.mpr ⟨name, hname, by rw [found_eq_some_iff.mpr h]; rfl⟩
  obtain ⟨u, hu⟩ := Option.isSome_iff_exists.mp hsupplied
  rw [chosen_iff, chosen_iff, List.findSome?_append, List.findSome?_append, List.findSome?_cons, List.findSome?_cons, hu]

/-! ## Merging -/

variable {L : Library}

/-- A state has no object under a name of a setting. -/
def Plain (state : State) : Prop :=
  ∀ f : Field, ∀ name ∈ f.names, ∀ members, Json.find? name state ≠ some (.obj members)

/-- A state that holds texts has no object under a name of a setting. -/
theorem plain_of_texts {state : State} {has : Field → Option String} (h : Holds state fun f => (has f).map .str) : Plain state := by
  intro f name hname members hfound
  by_cases hpreferred : name = f.name
  · rw [hpreferred, h.preferred f] at hfound
    obtain ⟨s, -, hs⟩ := Option.map_eq_some_iff.mp hfound
    cases hs
  · rw [h.others f name hname hpreferred] at hfound
    cases hfound

/-- Below what was gathered, a state without objects counts where nothing was gathered. -/
theorem find?_merge (h : L.Documented) {source : State} {name : String}
    (hplain : ∀ members, Json.find? name source ≠ some (.obj members)) (state : State) :
    Json.find? name (L.merge source state) = (Json.find? name state).or (Json.find? name source) := by
  cases hfound : Json.find? name state with
  | none => rw [h.weaker source state name hfound, Option.none_or]
  | some v => rw [h.stronger source state name v hfound hplain, Option.some_or]

/-- Under a name of a setting the gathered state has what the first of the states has that has something. Only the first may have
objects there. -/
theorem find?_gather (h : L.Documented) {name : String} (hname : name ∈ f.names) (first : State) {rest : List State}
    (hplain : ∀ state ∈ rest, Plain state) :
    Json.find? name (L.gather (first :: rest)) = (first :: rest).findSome? (Json.find? name) := by
  have hfold : ∀ gathered, Json.find? name (rest.foldl (fun state source => L.merge source state) gathered) =
      (Json.find? name gathered).or (rest.findSome? (Json.find? name)) := by
    induction rest with
    | nil => exact fun _ => Option.or_none.symm
    | cons source rest ih =>
      intro gathered
      rw [List.foldl_cons, ih fun state hmem => hplain state (List.mem_cons_of_mem _ hmem),
        find?_merge h (hplain source List.mem_cons_self f name hname), Option.or_assoc, List.findSome?_cons]
      cases Json.find? name source <;> rfl
  rw [Library.gather, List.foldl_cons, hfold, h.weaker first [] name rfl, List.findSome?_cons]
  cases Json.find? name first <;> rfl

/-- A state is the one of a source. -/
def IsStateOf (state : State) (o : Origin) : Prop :=
  Holds state fun f => supplied? f o

/-- The states of the inputs are those of what they say. -/
theorem isStateOf_states (h : L.Documented) (i : Inputs) : List.Forall₂ IsStateOf (i.states L) (i.origins L) := by
  have harguments : IsStateOf (L.arguments i.named) (ofArguments L.spelling i.named) := by
    have hfound : found (ofArguments L.spelling i.named) = givenFor? L.spelling i.named :=
      funext (found_ofArguments L.spelling i.named)
    have hholds := h.arguments i.named
    rwa [← hfound] at hholds
  have hvariables : ∀ vars, IsStateOf (L.environment vars) (ofVariables vars) := by
    intro vars
    have hfound : (fun f : Field => (f.names.findSome? (setTo? vars)).map Json.str) = fun f => supplied? f (ofVariables vars) := by
      funext f
      rw [supplied?, funext (found_ofVariables vars), List.map_findSome?]
      rfl
    have hholds := h.environment vars
    rwa [hfound] at hholds
  rw [Inputs.states, Inputs.origins]
  refine .cons harguments (.cons (hvariables _) ?_)
  cases i.file with
  | none => exact .nil
  | some text => exact .cons (hvariables _) .nil

/-- States of sources have under the preferred name of a setting what the strongest source supplies. -/
theorem findSome?_states {states : List State} (h : List.Forall₂ IsStateOf states sources) (f : Field) :
    states.findSome? (Json.find? f.name) = sources.findSome? (supplied? f) := by
  induction h with
  | nil => rfl
  | cons hstate _ ih => rw [List.findSome?_cons, List.findSome?_cons, hstate.preferred f, ih]

/-- States of sources have nothing under the other names of a setting. -/
theorem findSome?_states_other {states : List State} (h : List.Forall₂ IsStateOf states sources) {name : String}
    (hname : name ∈ f.names) (hne : name ≠ f.name) : states.findSome? (Json.find? name) = none := by
  induction h with
  | nil => rfl
  | cons hstate _ ih => rw [List.findSome?_cons, hstate.others f name hname hne, ih]

/-- The value of a setting in the gathered state is the one that the sources determine. -/
theorem chosen_iff_value (h : L.Documented) (i : Inputs) : Chosen f (i.origins L) v ↔ value (L.gather (i.states L)) f = v := by
  have hstates := isStateOf_states h i
  have hplain : ∀ state ∈ (L.environment (i.environment.map fun (name, v) => (name, some v)) ::
      (i.file.map fun text => L.environment (Dotenv.entries i.environment text)).toList), Plain state := by
    intro state hmem
    rcases List.mem_cons.mp hmem with rfl | hmem
    · exact plain_of_texts (h.environment _)
    · obtain ⟨text, -, rfl⟩ := Option.map_eq_some_iff.mp (Option.mem_toList.mp hmem)
      exact plain_of_texts (h.environment _)
  have hgathered : ∀ name ∈ f.names, Json.find? name (L.gather (i.states L)) = (i.states L).findSome? (Json.find? name) :=
    fun name hname => find?_gather h hname _ hplain
  have hvalue : f.names.findSome? (Json.find? · (L.gather (i.states L))) = (i.origins L).findSome? (supplied? f) := by
    rw [← findSome?_states hstates]
    cases f with
    | tenant =>
      show ["tenant", "tenant_id"].findSome? _ = _
      rw [List.findSome?_cons, List.findSome?_cons, hgathered "tenant" (by decide), hgathered "tenant_id" (by decide),
        findSome?_states_other hstates (show "tenant_id" ∈ Field.tenant.names by decide) (by decide)]
      show _ = (i.states L).findSome? (Json.find? "tenant")
      cases (i.states L).findSome? (Json.find? "tenant") <;> rfl
    | _ => exact List.findSome?_singleton.trans (hgathered _ (List.mem_singleton.mpr rfl))
  rw [chosen_iff, value, hvalue]

/-! ## What is read -/

/-- Settings follow what sources say: each has the value that is chosen for it, which for the cloud and the time to wait is read from what
the source has. -/
structure Follows (sources : List Origin) (s : Settings) : Prop where
  clientId : Chosen .clientId sources (Failure.optional s.clientId)
  clientSecret : Chosen .clientSecret sources (Failure.optional s.clientSecret)
  redirectUri : Chosen .redirectUri sources (Failure.optional s.redirectUri)
  /-- Users are sent back to a web address. -/
  web : ∀ uri ∈ s.redirectUri, uri.startsWith "https://" = true ∨ uri.startsWith "http://" = true
  tenant : Chosen .tenant sources (.str s.tenant)
  cloud : Chosen .cloud sources (.str s.cloud.url)
  timeout : ∃ v, Chosen .timeout sources v ∧ number v = .ok s.timeout
  /-- The time to wait is positive. -/
  positive : s.timeout.nonpositive = false
  logLevel : Chosen .logLevel sources (.str s.logLevel)

/-- A text or nothing is read from exactly this. -/
theorem textOrNull_eq_ok_iff {s : Option String} : textOrNull v = .ok s ↔ v = Failure.optional s := by
  cases v <;> cases s <;> simp [textOrNull, Failure.optional]

/-- A text is read from exactly this. -/
theorem text_eq_ok_iff {s : String} : text v = .ok s ↔ v = .str s := by
  cases v <;> simp [text]

/-- A redirect URI is read from exactly this where it is a web address. -/
theorem redirectUriOf_eq_ok_iff {s : Option String} : redirectUriOf v = .ok s ↔
    v = Failure.optional s ∧ ∀ uri ∈ s, uri.startsWith "https://" = true ∨ uri.startsWith "http://" = true := by
  rw [← textOrNull_eq_ok_iff, redirectUriOf]
  cases textOrNull v with
  | error p => exact ⟨nofun, fun h => nomatch h.1⟩
  | ok given =>
    cases given with
    | none =>
      constructor
      · intro h
        cases h
        exact ⟨rfl, nofun⟩
      · rintro ⟨h, -⟩
        exact h
    | some uri =>
      show (if uri.startsWith "https://" || uri.startsWith "http://" then Except.ok (some uri) else .error _) = .ok s ↔ _
      split
      · next hweb =>
        refine ⟨fun h => ⟨h, ?_⟩, And.left⟩
        cases h
        rintro _ ⟨⟩
        exact Bool.or_eq_true_iff.mp hweb
      · next hweb =>
        refine ⟨nofun, ?_⟩
        rintro ⟨⟨⟩, h⟩
        exact absurd (Bool.or_eq_true_iff.mpr (h uri rfl)) hweb

/-- A cloud is read from exactly its login host. -/
theorem cloudOf_eq_ok_iff {cloud : Cloud} : cloudOf v = .ok cloud ↔ v = .str cloud.url := by
  have hnamed : Cloud.ofJson? v = some cloud ↔ v = .str cloud.url := by
    constructor
    · intro h
      cases v with
      | str s =>
        have hfound : Cloud.all.find? (·.url = s) = some cloud := h
        have hurl := List.find?_some hfound
        rw [of_decide_eq_true hurl]
      | _ => cases h
    · rintro rfl
      cases cloud <;> rfl
  rw [← hnamed, cloudOf]
  cases Cloud.ofJson? v <;> simp

/-- A time to wait is read as a number, which must be positive. -/
theorem timeoutOf_eq_ok_iff {x : Binary64} : timeoutOf v = .ok x ↔ number v = .ok x ∧ x.nonpositive = false := by
  rw [timeoutOf]
  cases number v with
  | error p => exact ⟨nofun, fun h => nomatch h.1⟩
  | ok y =>
    show (if y.nonpositive then _ else Except.ok y) = _ ↔ _
    rw [Except.ok.injEq]
    split
    · next hpositive =>
      refine ⟨nofun, ?_⟩
      rintro ⟨rfl, h⟩
      rw [h] at hpositive
      cases hpositive
    · next hpositive =>
      rw [Except.ok.injEq]
      refine ⟨?_, And.left⟩
      rintro rfl
      exact ⟨rfl, by simpa using hpositive⟩

/-- A setting is read exactly when its value is. -/
theorem read_eq_ok_iff {α : Type} {state : State} {reader : Json → Except Problem α} {a : α} :
    read state f reader = .ok a ↔ reader (value state f) = .ok a := by
  refine ⟨Act.of_mapError_ok, fun h => ?_⟩
  rw [read, h]
  rfl

/-- A state gives settings exactly when each of them can be read. -/
theorem ofState_eq_ok_iff {state : State} {s : Settings} : ofState state = .ok s ↔
    textOrNull (value state .clientId) = .ok s.clientId ∧ textOrNull (value state .clientSecret) = .ok s.clientSecret ∧
      redirectUriOf (value state .redirectUri) = .ok s.redirectUri ∧ text (value state .tenant) = .ok s.tenant ∧
      cloudOf (value state .cloud) = .ok s.cloud ∧ timeoutOf (value state .timeout) = .ok s.timeout ∧
      text (value state .logLevel) = .ok s.logLevel := by
  simp only [← read_eq_ok_iff]
  unfold ofState
  dsimp only
  constructor
  · intro h
    split at h
    · next h₁ h₂ h₃ h₄ h₅ h₆ h₇ =>
      cases h
      exact ⟨h₁, h₂, h₃, h₄, h₅, h₆, h₇⟩
    · cases h
  · rintro ⟨h₁, h₂, h₃, h₄, h₅, h₆, h₇⟩
    rw [h₁, h₂, h₃, h₄, h₅, h₆, h₇]

/-- Inputs give settings exactly when the settings follow what the inputs say. -/
theorem load_eq_ok_iff (h : L.Documented) (i : Inputs) (s : Settings) : load i L = .ok s ↔ Follows (i.origins L) s := by
  have hload : load i L = .ok s ↔ ofState (L.gather (i.states L)) = .ok s := by
    refine ⟨Act.of_mapError_ok, fun h => ?_⟩
    rw [load, h]
    rfl
  have hchosen : ∀ f v, Chosen f (i.origins L) v ↔ value (L.gather (i.states L)) f = v := fun f v => chosen_iff_value h i
  rw [hload, ofState_eq_ok_iff, textOrNull_eq_ok_iff, textOrNull_eq_ok_iff, redirectUriOf_eq_ok_iff, text_eq_ok_iff,
    cloudOf_eq_ok_iff, timeoutOf_eq_ok_iff, text_eq_ok_iff]
  simp only [← hchosen]
  constructor
  · rintro ⟨hid, hsecret, ⟨huri, hweb⟩, htenant, hcloud, ⟨htimeout, hpositive⟩, hlevel⟩
    exact ⟨hid, hsecret, huri, hweb, htenant, hcloud, ⟨_, (hchosen _ _).mpr rfl, htimeout⟩, hpositive, hlevel⟩
  · rintro ⟨hid, hsecret, huri, hweb, htenant, hcloud, ⟨v, hv, htimeout⟩, hpositive, hlevel⟩
    rw [← (hchosen _ _).mp hv] at htimeout
    exact ⟨hid, hsecret, ⟨huri, hweb⟩, htenant, hcloud, ⟨htimeout, hpositive⟩, hlevel⟩

/-- Where settings come from when the library does what its documentation says, in four parts.
1. Inputs give settings exactly when the settings follow what the inputs say.
2. For each setting exactly one value is chosen.
3. When a source gives a setting under one of its names, those that are weaker do not count, under whatever name they give it.
4. An argument that is spelled as a name of a setting gives it under that name. -/
theorem strongest_source_counts (L : Library) (h : L.Documented) :
    (∀ i s, load i L = .ok s ↔ Follows (i.origins L) s) ∧
    (∀ f sources, ∃! v, Chosen f sources v) ∧
    (∀ (f : Field) name o w stronger weaker v, name ∈ f.names → Gives o name w →
      (Chosen f (stronger ++ o :: weaker) v ↔ Chosen f (stronger ++ [o]) v)) ∧
    ∀ (f : Field) name v given, name ∈ f.names → (name, v) ∈ given → ∃ w, Gives (ofArguments L.spelling given) name w := by
  refine ⟨load_eq_ok_iff h, fun f sources => ?_,
    fun f name o w stronger weaker v hname hgives => chosen_append_iff hname hgives stronger weaker, ?_⟩
  · exact ⟨_, chosen_iff.mpr rfl, fun v hv => (chosen_iff.mp hv).symm⟩
  · intro f name v given hname hmem
    have hgives := @exists_gives_of_mem L.spelling given (name, v) hmem
    rwa [h.spelling f name hname] at hgives

/-- Inputs in which an argument is spelled in upper case, the environment names the tenant twice under its second name, in different
cases, and the file under its first. -/
def mixed : Inputs where
  named := [("client_id", .str "app"), ("TENANT", .str "consumers")]
  environment := [("Tenant_Id", "contoso"), ("TENANT_ID", "fabrikam"), ("client_id", "other")]
  file := some "TENANT=organizations\nLog_Level=DEBUG\n"

/-- The settings that these inputs give, but for the tenant. -/
def mixedSettings (tenant : String) : Settings where
  clientId := some "app"
  clientSecret := none
  redirectUri := none
  tenant
  cloud := .global
  timeout := .ofInt 30
  logLevel := "DEBUG"

/-- What is loaded is known from the settings alone. -/
theorem load_eq_ok_of_toOption {i : Inputs} {s : Settings} (h : (load i L).toOption = some s) : load i L = .ok s := by
  cases hload : load i L with
  | ok s' =>
    rw [hload] at h
    exact congrArg Except.ok (Option.some.inj h)
  | error fault =>
    rw [hload] at h
    cases h

/-- The usual library takes the argument for the tenant. With one that asks for the exact spelling the environment decides, and what
the file says has no effect. -/
theorem strongest_source_counts_mixed :
    Follows (mixed.origins .standard) (mixedSettings "consumers") ∧
    Follows (mixed.origins (.spelled id)) (mixedSettings "fabrikam") ∧
    ∀ text v, Chosen .tenant ({ mixed with file := some text }.origins (.spelled id)) v ↔
      Chosen .tenant ({ mixed with file := none }.origins (.spelled id)) v := by
  obtain ⟨hload, -, -, -⟩ := strongest_source_counts .standard documented_standard
  obtain ⟨hexact, -, hstrongest, -⟩ := strongest_source_counts (.spelled id) (documented_spelled fun _ _ _ => rfl)
  refine ⟨(hload _ _).mp (load_eq_ok_of_toOption (by decide +kernel)), (hexact _ _).mp (load_eq_ok_of_toOption (by decide +kernel)),
    fun text v => ?_⟩
  have hgives : Gives (ofVariables (mixed.environment.map fun (name, v) => (name, some v))) "tenant_id" (.str "fabrikam") :=
    @Gives.last _ _ _ [("Tenant_Id", some (.str "contoso"))] [("client_id", some (.str "other"))] "TENANT_ID" rfl rfl (by decide)
  exact hstrongest .tenant "tenant_id" _ _ [ofArguments id mixed.named] _ v (by decide) hgives

end OAuthClient.Settings
