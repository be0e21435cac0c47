import OAuthClient.Log.Tree
import OAuthClient.Proofs.Act

/-!
# Handlers and who made them

A tree remembers the handlers of the last setup under each name by their serial numbers, and each logger has a row of handlers. The
two stay in step: what a setup takes off its logger is what stands there of the setups under the same name before. Two names can mean
the same logger, though, and only the root has two. What a setup under one of them put there, a setup under the other leaves.
-/

namespace OAuthClient.Log

/-- A logger that is not the root has one name. -/
theorem eq_of_canonical {m name : String} (h : canonical m = canonical name) (hroot : canonical name ≠ rootName) : m = name := by
  have hself : ∀ {k : String}, canonical k ≠ rootName → canonical k = k := by
    intro k hk
    unfold canonical at hk ⊢
    split at hk
    · exact absurd rfl hk
    · next hempty => exact if_neg hempty
  rw [hself hroot] at h
  rw [← h]
  exact (hself (by rw [h, ← hself hroot]; exact hroot)).symm

namespace Tree

variable {t t' : Tree}

/-! ## New handlers -/

/-- New handlers write to the targets, in order. -/
theorem target_newHandlers (next : Nat) (targets : List Target) : (newHandlers next targets).map Handler.target = targets := by
  induction targets generalizing next with
  | nil => rfl
  | cons target rest ih => rw [newHandlers, List.map_cons, ih]

/-- New handlers have the next serial numbers, in order. -/
theorem serial_newHandlers (next : Nat) (targets : List Target) :
    (newHandlers next targets).map Handler.serial = List.range' next targets.length := by
  induction targets generalizing next with
  | nil => rfl
  | cons target rest ih => rw [newHandlers, List.map_cons, ih, List.length_cons, List.range'_succ]

/-- Each new handler has exactly one filter, which redacts. -/
theorem filters_of_mem_newHandlers {next : Nat} {targets : List Target} {h : Handler} (hh : h ∈ newHandlers next targets) :
    h.filters = [.redacting] := by
  induction targets generalizing next with
  | nil => cases hh
  | cons target rest ih =>
    rcases List.mem_cons.mp hh with rfl | hrest
    · rfl
    · exact ih hrest

/-- The serial number of a new handler is one of those that were next. -/
theorem serial_of_mem_newHandlers {next : Nat} {targets : List Target} {h : Handler} (hh : h ∈ newHandlers next targets) :
    next ≤ h.serial ∧ h.serial < next + (newHandlers next targets).length := by
  have hserial : h.serial ∈ (newHandlers next targets).map Handler.serial := List.mem_map_of_mem hh
  have hlength : (newHandlers next targets).length = targets.length := by
    rw [← List.length_map Handler.target, target_newHandlers]
  rw [serial_newHandlers, List.mem_range'_1] at hserial
  rw [hlength]
  exact hserial

/-! ## Who made a handler -/

/-- The names under which handlers were made, by serial number, when those from one number up to another are given to a maker. -/
def assign (maker : Option String) (first next : Nat) (made : Nat → Option String) : Nat → Option String :=
  fun i => if first ≤ i ∧ i < next then maker else made i

/-- A number before the first keeps its maker. -/
theorem assign_of_lt {maker : Option String} {first next i : Nat} {made : Nat → Option String} (h : i < first) :
    assign maker first next made i = made i :=
  if_neg fun hi => absurd h (Nat.not_lt.mpr hi.1)

/-- A number in between is given to the maker. -/
theorem assign_of_mem {maker : Option String} {first next i : Nat} {made : Nat → Option String} (h : first ≤ i) (h' : i < next) :
    assign maker first next made i = maker :=
  if_pos ⟨h, h'⟩

/-- Without new numbers nothing is given to the maker. -/
theorem assign_self (maker : Option String) (first : Nat) (made : Nat → Option String) : assign maker first first made = made :=
  funext fun _ => if_neg fun hi => absurd hi.2 (Nat.not_lt.mpr hi.1)

/-- A tree is in step with the names under which its handlers were made, which are none for the handlers of others. -/
structure Tracked (made : Nat → Option String) (t : Tree) : Prop where
  /-- Every handler has a serial number that was given out. -/
  given : ∀ n, ∀ h ∈ (t.logger n).handlers, h.serial < t.next
  /-- The numbers that are remembered for a name were given to handlers that were made under it. -/
  remembered : ∀ name, ∀ i ∈ t.installed name, i < t.next ∧ made i = some name
  /-- A handler that was made under a name stands at the logger that the name means, is remembered for the name, and has exactly one
  filter, which redacts. -/
  home : ∀ n, ∀ h ∈ (t.logger n).handlers, ∀ m, made h.serial = some m →
    canonical m = n ∧ h.serial ∈ t.installed m ∧ h.filters = [.redacting]

/-- The handlers of others in a row of handlers. -/
def others (made : Nat → Option String) (handlers : List Handler) : List Handler :=
  handlers.filter fun h => made h.serial = none

variable {made : Nat → Option String}

/-- A tree in which nothing was set up: all its handlers are those of others, and none is remembered. -/
structure Unset (t : Tree) : Prop where
  given : ∀ n, ∀ h ∈ (t.logger n).handlers, h.serial < t.next
  remembered : ∀ name, t.installed name = []

/-- A tree in which nothing was set up is in step when no handler was made under a name. -/
theorem Tracked.of_unset (h : t.Unset) : Tracked (fun _ => none) t := by
  refine ⟨h.given, fun name i hi => ?_, nofun⟩
  rw [h.remembered name] at hi
  cases hi

/-- In the tree of a silent program nothing was set up. -/
theorem unset_silent : silent.Unset := by
  refine ⟨fun n h hh => ?_, fun _ => rfl⟩
  unfold silent at hh
  dsimp only at hh
  split at hh
  · obtain rfl := List.mem_singleton.mp hh
    exact Nat.zero_lt_one
  · cases hh

/-- A handler is remembered for a name exactly when it was made under it. -/
theorem Tracked.mem_installed_iff (ht : Tracked made t) {n : String} {h : Handler} (hh : h ∈ (t.logger n).handlers) (name : String) :
    h.serial ∈ t.installed name ↔ made h.serial = some name :=
  ⟨fun hi => (ht.remembered name _ hi).2, fun hm => (ht.home n h hh name hm).2.1⟩

/-- A tree whose handlers are among those of another one stays in step as that one. -/
theorem Tracked.of_subset (ht : Tracked made t) (hnext : t'.next = t.next) (hinstalled : t'.installed = t.installed)
    (hsub : ∀ n, ∀ h ∈ (t'.logger n).handlers, h ∈ (t.logger n).handlers) : Tracked made t' := by
  refine ⟨fun n h hh => ?_, fun name i hi => ?_, fun n h hh m hm => ?_⟩
  · rw [hnext]
    exact ht.given n h (hsub n h hh)
  · rw [hinstalled] at hi
    rw [hnext]
    exact ht.remembered name i hi
  · rw [hinstalled]
    exact ht.home n h (hsub n h hh) m hm

/-! ## What others do -/

/-- Others put a new handler at a logger. -/
def attach (name : String) (target : Target) (filters : List Filter) (t : Tree) : Tree :=
  { t with
    logger := fun n =>
      if n = canonical name then { t.logger n with handlers := (t.logger n).handlers ++ [⟨t.next, target, filters⟩] } else t.logger n
    next := t.next + 1 }

/-- Others take the handler with a serial number off a logger. -/
def detach (name : String) (serial : Nat) (t : Tree) : Tree :=
  { t with
    logger := fun n =>
      if n = canonical name then { t.logger n with handlers := (t.logger n).handlers.filter fun h => h.serial ≠ serial }
      else t.logger n }

/-- A handler behind an attachment was there before, or is the new one. -/
theorem mem_attach {name : String} {target : Target} {filters : List Filter} {n : String} {h : Handler}
    (hh : h ∈ ((t.attach name target filters).logger n).handlers) : h ∈ (t.logger n).handlers ∨ h = ⟨t.next, target, filters⟩ := by
  unfold attach at hh
  dsimp only at hh
  split at hh
  · rwa [List.mem_append, List.mem_singleton] at hh
  · exact Or.inl hh

/-- A handler behind a removal was there before. -/
theorem mem_of_mem_detach {name : String} {serial : Nat} {n : String} {h : Handler}
    (hh : h ∈ ((t.detach name serial).logger n).handlers) : h ∈ (t.logger n).handlers := by
  unfold detach at hh
  dsimp only at hh
  split at hh
  · exact (List.mem_filter.mp hh).1
  · exact hh

/-- A handler that others put at a logger was made under no name. -/
theorem Tracked.attach (ht : Tracked made t) (name : String) (target : Target) (filters : List Filter) :
    Tracked (assign none t.next (t.next + 1) made) (t.attach name target filters) := by
  refine ⟨fun n h hh => ?_, fun m i hi => ?_, fun n h hh m hm => ?_⟩
  · rcases mem_attach hh with hold | rfl
    · exact Nat.lt_succ_of_lt (ht.given n h hold)
    · exact Nat.lt_succ_self t.next
  · obtain ⟨hlt, hmade⟩ := ht.remembered m i hi
    exact ⟨Nat.lt_succ_of_lt hlt, (assign_of_lt hlt).trans hmade⟩
  · rcases mem_attach hh with hold | rfl
    · rw [assign_of_lt (ht.given n h hold)] at hm
      exact ht.home n h hold m hm
    · rw [assign_of_mem (Nat.le_refl _) (Nat.lt_succ_self _)] at hm
      cases hm

/-! ## Setting up -/

/-- The logger that is set up has the threshold, the handlers that are not remembered for the name, and the new ones. -/
theorem logger_install_self (name : String) (weight : Nat) (file : Option String) (t : Tree) :
    (install name weight file t).logger (canonical name) =
      ⟨weight, ((t.logger (canonical name)).handlers.filter fun h => !(t.installed name).contains h.serial) ++
        newHandlers t.next (targets file)⟩ :=
  if_pos rfl

/-- The handlers of the logger that is set up: those that were not made under the name, and the new ones. -/
theorem handlers_install (ht : Tracked made t) (name : String) (weight : Nat) (file : Option String) :
    ((install name weight file t).logger (canonical name)).handlers =
      ((t.logger (canonical name)).handlers.filter fun h => made h.serial ≠ some name) ++ newHandlers t.next (targets file) := by
  rw [logger_install_self]
  refine congrArg (· ++ _) (List.filter_congr fun h hh => ?_)
  have hiff := ht.mem_installed_iff hh name
  by_cases hm : made h.serial = some name
  · simp [hm, hiff.mpr hm]
  · have hnot : h.serial ∉ t.installed name := fun hi => hm (hiff.mp hi)
    simp [hm, hnot]

/-- The other loggers are as they were. -/
theorem logger_install_of_ne {name n : String} (h : n ≠ canonical name) (weight : Nat) (file : Option String) (t : Tree) :
    (install name weight file t).logger n = t.logger n :=
  if_neg h

/-- What is remembered for the name of a setup is what the setup made. -/
theorem installed_install (name : String) (weight : Nat) (file : Option String) (t : Tree) :
    (install name weight file t).installed name = (newHandlers t.next (targets file)).map Handler.serial :=
  if_pos rfl

/-- What is remembered for other names is as it was. -/
theorem installed_install_of_ne {name m : String} (h : m ≠ name) (weight : Nat) (file : Option String) (t : Tree) :
    (install name weight file t).installed m = t.installed m :=
  if_neg h

/-- A handler behind a setup was there before, and not made under the name if it stands at the logger, or it is a new one at the
logger. -/
theorem Tracked.mem_install (ht : Tracked made t) {name : String} {weight : Nat} {file : Option String} {n : String} {h : Handler}
    (hh : h ∈ ((install name weight file t).logger n).handlers) :
    (h ∈ (t.logger n).handlers ∧ (made h.serial = some name → n ≠ canonical name)) ∨
      (n = canonical name ∧ h ∈ newHandlers t.next (targets file)) := by
  by_cases hn : n = canonical name
  · subst hn
    rw [handlers_install ht, List.mem_append, List.mem_filter, decide_eq_true_eq] at hh
    rcases hh with ⟨hold, hne⟩ | hnew
    · exact Or.inl ⟨hold, fun hm => absurd hm hne⟩
    · exact Or.inr ⟨rfl, hnew⟩
  · rw [logger_install_of_ne hn] at hh
    exact Or.inl ⟨hh, fun _ => hn⟩

/-- A setup keeps the tree in step with the names, its own handlers being made under its name. -/
theorem Tracked.install (ht : Tracked made t) (name : String) (weight : Nat) (file : Option String) :
    Tracked (assign (some name) t.next (install name weight file t).next made) (Tree.install name weight file t) := by
  have hnext : (Tree.install name weight file t).next = t.next + (newHandlers t.next (targets file)).length := rfl
  rw [hnext]
  refine ⟨fun n h hh => ?_, fun m i hi => ?_, fun n h hh m hm => ?_⟩
  · rcases ht.mem_install hh with ⟨hold, -⟩ | ⟨-, hnew⟩
    · exact Nat.lt_of_lt_of_le (ht.given n h hold) (Nat.le_add_right _ _)
    · exact (serial_of_mem_newHandlers hnew).2
  · by_cases hm : m = name
    · subst hm
      rw [installed_install] at hi
      obtain ⟨h, hnew, rfl⟩ := List.mem_map.mp hi
      obtain ⟨hfirst, hlast⟩ := serial_of_mem_newHandlers hnew
      exact ⟨hlast, assign_of_mem hfirst hlast⟩
    · rw [installed_install_of_ne hm] at hi
      obtain ⟨hlt, hmade⟩ := ht.remembered m i hi
      exact ⟨Nat.lt_of_lt_of_le hlt (Nat.le_add_right _ _), (assign_of_lt hlt).trans hmade⟩
  · rcases ht.mem_install hh with ⟨hold, hne⟩ | ⟨rfl, hnew⟩
    · rw [assign_of_lt (ht.given n h hold)] at hm
      obtain ⟨hhome, hin, hfilters⟩ := ht.home n h hold m hm
      -- made under the name, it would stand at the logger and would not have been left
      have hother : m ≠ name := by
        rintro rfl
        exact hne hm hhome.symm
      rw [installed_install_of_ne hother]
      exact ⟨hhome, hin, hfilters⟩
    · obtain ⟨hfirst, hlast⟩ := serial_of_mem_newHandlers hnew
      rw [assign_of_mem hfirst hlast] at hm
      cases hm
      rw [installed_install]
      exact ⟨rfl, List.mem_map_of_mem hnew, filters_of_mem_newHandlers hnew⟩

/-- What setting up the logger of a name does to a tree, and the handlers that it makes. -/
structure SetUp (made : Nat → Option String) (name : String) (weight : Nat) (file : Option String) (t t' : Tree)
    (created : List Handler) : Prop where
  /-- One handler for the console is made, and one for the file where there is one. -/
  targets : created.map Handler.target = Tree.targets file
  /-- Each of them has exactly one filter, which redacts. -/
  filters : ∀ h ∈ created, h.filters = [.redacting]
  /-- None of them is a handler that was there. -/
  fresh : ∀ h ∈ created, ∀ n, ∀ h' ∈ (t.logger n).handlers, h'.serial ≠ h.serial
  /-- No two of them are the same. -/
  distinct : (created.map Handler.serial).Nodup
  /-- The logger has the threshold. -/
  threshold : (t'.logger (canonical name)).threshold = weight
  /-- The logger has the handlers that it had, but for those that were made under the name, and then the new ones. -/
  handlers : (t'.logger (canonical name)).handlers =
    ((t.logger (canonical name)).handlers.filter fun h => made h.serial ≠ some name) ++ created
  /-- These are the handlers of others and the new ones exactly when none was made under another name of the logger. -/
  exact_iff : (t'.logger (canonical name)).handlers = others made (t.logger (canonical name)).handlers ++ created ↔
    ∀ h ∈ (t.logger (canonical name)).handlers, ∀ m, made h.serial = some m → m = name
  /-- The other loggers are as they were. -/
  elsewhere : ∀ n, n ≠ canonical name → t'.logger n = t.logger n
  /-- The new handlers are remembered for the name. -/
  remembered : t'.installed name = created.map Handler.serial
  /-- What is remembered for other names is as it was. -/
  remembered_elsewhere : ∀ m, m ≠ name → t'.installed m = t.installed m

/-- Leaving out what was made under a name leaves the handlers of others exactly when no handler was made under another name. -/
theorem filter_ne_eq_others_iff (made : Nat → Option String) (name : String) (handlers : List Handler) :
    (handlers.filter fun h => made h.serial ≠ some name) = others made handlers ↔
      ∀ h ∈ handlers, ∀ m, made h.serial = some m → m = name := by
  constructor
  · intro heq h hh m hm
    by_cases hname : m = name
    · exact hname
    · have hmem : h ∈ handlers.filter fun h => made h.serial ≠ some name := by
        rw [List.mem_filter, decide_eq_true_eq, hm]
        exact ⟨hh, fun he => hname (Option.some.inj he)⟩
      rw [heq, others, List.mem_filter, decide_eq_true_eq, hm] at hmem
      cases hmem.2
  · intro hall
    refine List.filter_congr fun h hh => decide_eq_decide.mpr ?_
    cases hm : made h.serial with
    | none => exact ⟨fun _ => rfl, fun _ => nofun⟩
    | some m =>
      rw [hall h hh m hm]
      exact ⟨fun hne => absurd rfl hne, nofun⟩

/-- Setting up a logger of a tree that is in step. -/
theorem setUp_install (ht : Tracked made t) (name : String) (weight : Nat) (file : Option String) :
    SetUp made name weight file t (install name weight file t) (newHandlers t.next (targets file)) where
  targets := target_newHandlers t.next (targets file)
  filters := fun _ hh => filters_of_mem_newHandlers hh
  fresh := by
    intro h hh n h' hh' heq
    have hlt := ht.given n h' hh'
    rw [heq] at hlt
    exact absurd (serial_of_mem_newHandlers hh).1 (Nat.not_le.mpr hlt)
  distinct := by
    rw [serial_newHandlers]
    exact List.nodup_range'
  threshold := congrArg Logger.threshold (logger_install_self name weight file t)
  handlers := handlers_install ht name weight file
  exact_iff := by
    rw [handlers_install ht, List.append_cancel_right_eq]
    exact filter_ne_eq_others_iff made name _
  elsewhere := fun _ hn => logger_install_of_ne hn weight file t
  remembered := installed_install name weight file t
  remembered_elsewhere := fun _ hm => installed_install_of_ne hm weight file t

/-! ## Logging -/

/-- Two trees have the same loggers and remember the same handlers. -/
structure SameLoggers (t t' : Tree) : Prop where
  logger : t'.logger = t.logger
  installed : t'.installed = t.installed
  next : t'.next = t.next

/-- Writing a message changes no logger. -/
theorem preserves_write (t : Tree) (now : Instant) (name : String) (weight : Nat) (handlers : List Handler) (m : Message) :
    (write now name weight handlers m).Preserves (SameLoggers t) := by
  induction handlers generalizing m with
  | nil => exact Act.Preserves.pure ()
  | cons h rest ih =>
    refine (Act.Preserves.ofExcept _).bind fun filtered => (Act.Preserves.ofExcept _).bind fun text => ?_
    exact (Act.Preserves.modify fun _ hsame => ⟨hsame.logger, hsame.installed, hsame.next⟩).bind fun _ => ih filtered

/-- Logging a message changes no logger. -/
theorem preserves_log (t : Tree) (now : Instant) (name : String) (weight : Nat) (m : Message) :
    (log now name weight m).Preserves (SameLoggers t) := by
  refine Act.Preserves.get.bind fun current => ?_
  dsimp only
  split
  · exact preserves_write t now (canonical name) weight _ m
  · exact Act.Preserves.pure ()

end Tree

end OAuthClient.Log
