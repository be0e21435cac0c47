import OAuthClient.Proofs.Log.Handlers
import OAuthClient.Session.Logging

/-!
# Runs of setups

Loggers are set up under any names in any order, messages are logged in between, and others put handlers at loggers and take them off.
Beside a session it is written down under which name each handler was made. A setup then replaces what setups under its own name made,
and a setup with a level that is none changes nothing.
-/

namespace OAuthClient.LogSession

open OAuthClient.Log OAuthClient.Session

/-! ## One step -/

/-- The name under which a step makes handlers, where it makes some. -/
def Step.maker? : Step → Option String
  | .setup name _ _ => some (name.getD libraryLogger)
  | _ => none

/-- An act on the tree preserves for the session what it preserves for the tree. -/
theorem preserves_onTree {α : Type} {I : Tree → Prop} {act : Act Tree α} (h : act.Preserves I) :
    (onTree act).Preserves fun f => I f.tree :=
  fun f hf => h f.tree hf

/-- Setting up a logger with a level that is none fails and changes nothing. -/
theorem perform_setup_of_unknown {f : LogSession} {level : Option String} (h : weight? (level.getD f.level) = none)
    (name file : Option String) : perform (.setup name level file) f = ⟨.error .unknownOperation, f, []⟩ := by
  have hsetup : onTree (Tree.setup (name.getD libraryLogger) (level.getD f.level) file) f = ⟨.error .unknownOperation, f, []⟩ := by
    rw [Tree.setup, h]
    rfl
  rw [perform, Act.bind_of_ok (Act.get_apply f), Act.bind_of_error hsetup]
  rfl

/-- Setting up a logger with a level answers the logger. -/
theorem perform_setup_of_known {f : LogSession} {level : Option String} {weight : Nat}
    (h : weight? (level.getD f.level) = some weight) (name file : Option String) :
    perform (.setup name level file) f =
      ⟨.ok (.logger (canonical (name.getD libraryLogger))
          ((Tree.install (name.getD libraryLogger) weight file f.tree).logger (canonical (name.getD libraryLogger)))),
        { f with tree := Tree.install (name.getD libraryLogger) weight file f.tree }, []⟩ := by
  have hsetup : onTree (Tree.setup (name.getD libraryLogger) (level.getD f.level) file) f =
      ⟨.ok (), { f with tree := Tree.install (name.getD libraryLogger) weight file f.tree }, []⟩ := by
    rw [Tree.setup, h]
    rfl
  rw [perform, Act.bind_of_ok (Act.get_apply f), Act.bind_of_ok hsetup, Act.bind_of_ok (Act.get_apply _)]
  rfl

/-- A step that sets up nothing changes no logger. -/
theorem sameLoggers_of_maker?_eq_none {step : Step} (h : step.maker? = none) (f : LogSession) :
    Tree.SameLoggers f.tree (perform step f).state.tree := by
  have hpreserves : (perform step).Preserves fun g => Tree.SameLoggers f.tree g.tree := by
    cases step with
    | setup name level file => cases h
    | log name level message arguments =>
      refine Act.Preserves.get.bind fun s => ?_
      split
      · exact Act.Preserves.fail _
      · exact (preserves_onTree (Tree.preserves_log f.tree _ _ _ _)).bind fun _ => Act.Preserves.pure _
    | insert p v =>
      refine Act.Preserves.get.bind fun s => (Act.Preserves.ofExcept _).bind fun p => ?_
      refine (preserves_onTree (Act.Preserves.each fun r _ => Tree.preserves_log f.tree _ _ _ _)).bind fun _ => ?_
      exact (Act.Preserves.ofExcept _).bind fun _ => Act.Preserves.pure _
  exact hpreserves f ⟨rfl, rfl, rfl⟩

/-! ## Runs -/

/-- What happens to a session. -/
inductive Event where
  /-- A step is done, whatever comes of it. -/
  | step (s : Step)
  /-- Others put a new handler at the logger of a name. -/
  | attach (name : String) (target : Target) (filters : List Filter)
  /-- Others take a handler off the logger of a name. -/
  | detach (name : String) (serial : Nat)
  /-- The level for setups without one is another. -/
  | level (name : String)
  /-- The clock shows another time. -/
  | clock (instant : Instant)

/-- The session after an event. -/
def Event.apply (f : LogSession) : Event → LogSession
  | .step s => (perform s f).state
  | .attach name target filters => { f with tree := f.tree.attach name target filters }
  | .detach name serial => { f with tree := f.tree.detach name serial }
  | .level name => { f with level := name }
  | .clock instant => { f with now := instant }

/-- The name under which a setup makes handlers. What others make has none. -/
def Event.maker? : Event → Option String
  | .step s => s.maker?
  | _ => none

/-- A session, and beside it the names under which its handlers were made, by serial number. -/
structure Watch where
  session : LogSession
  made : Nat → Option String

namespace Watch

/-- The watch after an event: the handlers that are new were made under the name of the event. -/
def after (w : Watch) (e : Event) : Watch :=
  ⟨e.apply w.session, Tree.assign e.maker? w.session.tree.next (e.apply w.session).tree.next w.made⟩

/-- A watch comes by some events from a session that has not begun, whatever handlers others had put at the loggers before. -/
def ReachedBy (events : List Event) (w : Watch) : Prop :=
  ∃ tree level now, Tree.Unset tree ∧ w = events.foldl after ⟨{ tree, level, now }, fun _ => none⟩

/-- The tree of a session is in step with the names under which its handlers were made. -/
def Tracked (w : Watch) : Prop := w.session.tree.Tracked w.made

variable {w : Watch} {events : List Event}

/-- An event that makes no handlers and puts none anywhere keeps a watch in step. -/
theorem Tracked.of_subset (h : w.Tracked) {e : Event} (hnext : (e.apply w.session).tree.next = w.session.tree.next)
    (hinstalled : (e.apply w.session).tree.installed = w.session.tree.installed)
    (hsub : ∀ n, ∀ h ∈ ((e.apply w.session).tree.logger n).handlers, h ∈ (w.session.tree.logger n).handlers) :
    (w.after e).Tracked := by
  unfold Watch.after
  rw [hnext, Tree.assign_self]
  exact Tree.Tracked.of_subset h hnext hinstalled hsub

/-- A step that sets up nothing keeps a watch in step. -/
theorem Tracked.of_maker?_eq_none (h : w.Tracked) {s : Step} (hmaker : s.maker? = none) : (w.after (.step s)).Tracked := by
  have hsame := sameLoggers_of_maker?_eq_none hmaker w.session
  refine h.of_subset hsame.next hsame.installed fun n h hh => ?_
  have hlogger : (Event.apply w.session (.step s)).tree.logger = w.session.tree.logger := hsame.logger
  rwa [hlogger] at hh

/-- A setup keeps a watch in step. -/
theorem Tracked.setup (h : w.Tracked) (name level file : Option String) : (w.after (.step (.setup name level file))).Tracked := by
  cases hweight : weight? (level.getD w.session.level) with
  | none =>
    have hstate : (perform (.setup name level file) w.session).state = w.session := by rw [perform_setup_of_unknown hweight]
    have happly : Event.apply w.session (.step (.setup name level file)) = w.session := hstate
    exact h.of_subset (by rw [happly]) (by rw [happly]) fun n h hh => by rwa [happly] at hh
  | some weight =>
    have happly : Event.apply w.session (.step (.setup name level file)) = _ :=
      congrArg Run.state (perform_setup_of_known hweight name file)
    unfold Watch.after
    rw [happly]
    exact Tree.Tracked.install h (name.getD libraryLogger) weight file

/-- One event keeps a watch in step. -/
theorem Tracked.after (h : w.Tracked) (e : Event) : (w.after e).Tracked := by
  cases e with
  | step s =>
    cases s with
    | setup name level file => exact h.setup name level file
    | log name level message arguments => exact h.of_maker?_eq_none rfl
    | insert p v => exact h.of_maker?_eq_none rfl
  | attach name target filters => exact Tree.Tracked.attach h name target filters
  | detach name serial => exact h.of_subset rfl rfl fun n _ hh => Tree.mem_of_mem_detach hh
  | level name => exact h.of_subset rfl rfl fun _ _ hh => hh
  | clock instant => exact h.of_subset rfl rfl fun _ _ hh => hh

/-- A run keeps a watch in step. -/
theorem Tracked.play (h : w.Tracked) (events : List Event) : (events.foldl Watch.after w).Tracked := by
  induction events generalizing w with
  | nil => exact h
  | cons e events ih => exact ih (h.after e)

/-- Every watch that comes by some events is in step. -/
theorem ReachedBy.tracked (hw : w.ReachedBy events) : w.Tracked := by
  obtain ⟨tree, level, now, hunset, rfl⟩ := hw
  have hstart : Tracked ⟨{ tree, level, now }, fun _ => none⟩ := Tree.Tracked.of_unset hunset
  exact hstart.play events

/-- The name under which a handler was made is that of an event. -/
theorem ReachedBy.exists_maker (hw : w.ReachedBy events) {i : Nat} {m : String} (hm : w.made i = some m) :
    ∃ e ∈ events, e.maker? = some m := by
  -- by induction on the events for every watch to start from, since each event leaves another one
  have hrun : ∀ (events : List Event) (v : Watch), (events.foldl Watch.after v).made i = some m →
      v.made i = some m ∨ ∃ e ∈ events, e.maker? = some m := by
    intro events
    induction events with
    | nil => exact fun v hv => Or.inl hv
    | cons e events ih =>
      intro v hv
      rcases ih (v.after e) hv with hafter | ⟨e', he', hmaker⟩
      · unfold Watch.after Tree.assign at hafter
        dsimp only at hafter
        split at hafter
        · exact Or.inr ⟨e, List.mem_cons_self, hafter⟩
        · exact Or.inl hafter
      · exact Or.inr ⟨e', List.mem_cons_of_mem _ he', hmaker⟩
  obtain ⟨tree, level, now, -, rfl⟩ := hw
  exact (hrun events _ hm).resolve_left nofun

/-- The logger of a name is not the root, or events set it up under no other name. -/
def SoleName (events : List Event) (name : String) : Prop :=
  canonical name ≠ rootName ∨ ∀ e ∈ events, ∀ m, e.maker? = some m → canonical m = canonical name → m = name

/-- No handler at the logger of a name was made under another name, unless the logger is the root and was set up under another. -/
theorem ReachedBy.made_under (hw : w.ReachedBy events) {name : String} (hname : SoleName events name) :
    ∀ h ∈ (w.session.tree.logger (canonical name)).handlers, ∀ m, w.made h.serial = some m → m = name := by
  intro h hh m hm
  have hhome := (hw.tracked.home _ h hh m hm).1
  rcases hname with hroot | hevents
  · exact eq_of_canonical hhome hroot
  · obtain ⟨e, he, hmaker⟩ := hw.exists_maker hm
    exact hevents e he m hmaker hhome

end Watch

/-- What comes of setting up the logger of a name in a session that is watched, given the name, the level and the file. -/
inductive Setup (w : Watch) (name level file : Option String) : Run LogSession Answer → Prop
  /-- The level is none, and nothing is changed. -/
  | refused (h : weight? (level.getD w.session.level) = none) : Setup w name level file ⟨.error .unknownOperation, w.session, []⟩
  /-- The logger is set up, and answered as it is then. -/
  | done (weight : Nat) (tree : Tree) (created : List Handler) (h : weight? (level.getD w.session.level) = some weight)
      (hsetup : Tree.SetUp w.made (name.getD libraryLogger) weight file w.session.tree tree created) :
      Setup w name level file ⟨.ok (.logger (canonical (name.getD libraryLogger))
        (tree.logger (canonical (name.getD libraryLogger)))), { w.session with tree }, []⟩

/-- Setting up a logger of a session that is watched. -/
theorem setup_of_tracked {w : Watch} (htracked : w.Tracked) (name level file : Option String) :
    Setup w name level file (perform (.setup name level file) w.session) := by
  cases hweight : weight? (level.getD w.session.level) with
  | none =>
    rw [perform_setup_of_unknown hweight]
    exact .refused hweight
  | some weight =>
    rw [perform_setup_of_known hweight]
    exact .done weight _ _ hweight (Tree.setUp_install htracked (name.getD libraryLogger) weight file)

/-- Setups replace their own handlers, after whatever events, in three parts.
1. The tree is in step with the names under which its handlers were made.
2. A setup with a level that is none changes nothing. Any other one leaves of its logger's handlers those that were not made under its
name, adds its own, each with the one filter, and changes no other logger.
3. What it leaves are the handlers of others, unless the logger is the root and was set up under its other name. -/
theorem setups_replace_their_own {w : Watch} {events : List Event} (hw : w.ReachedBy events) :
    w.Tracked ∧
    (∀ name level file, Setup w name level file (perform (.setup name level file) w.session)) ∧
    ∀ name level file weight, weight? (level.getD w.session.level) = some weight →
      Watch.SoleName events (name.getD libraryLogger) →
      ∃ created : List Handler, created.map Handler.target = Tree.targets file ∧ (∀ h ∈ created, h.filters = [.redacting]) ∧
        ((perform (.setup name level file) w.session).state.tree.logger (canonical (name.getD libraryLogger))).handlers =
          Tree.others w.made (w.session.tree.logger (canonical (name.getD libraryLogger))).handlers ++ created := by
  refine ⟨hw.tracked, setup_of_tracked hw.tracked, fun name level file weight hweight hname => ?_⟩
  have hsetup := setup_of_tracked hw.tracked name level file
  generalize perform (.setup name level file) w.session = run at hsetup
  cases hsetup with
  | refused h => cases h.symm.trans hweight
  | done weight tree created h hsetup =>
    exact ⟨created, hsetup.targets, hsetup.filters, hsetup.exact_iff.mpr (hw.made_under hname)⟩

/-- The watch over a session in which some events happened, and the root had a handler before that writes nowhere. -/
def watched (events : List Event) : Watch := events.foldl Watch.after ⟨{ level := "INFO", now := 0 }, fun _ => none⟩

/-- It comes by these events. -/
theorem reachedBy_watched (events : List Event) : (watched events).ReachedBy events :=
  ⟨.silent, "INFO", 0, Tree.unset_silent, rfl⟩

/-- The library's logger is set up, others put a handler there, and it is set up again with a file. -/
def setUpAgain : List Event :=
  [.step (.setup none none none), .attach libraryLogger .console [], .step (.setup none (some "debug") (some "oauth.log"))]

/-- When the library's logger is set up once more without a file, it has the handler of others and a new one for the console. A level
that is none changes nothing. -/
theorem setups_replace_their_own_again :
    (perform (.setup none (some "loud") none) (watched setUpAgain).session).state = (watched setUpAgain).session ∧
    ∃ created : List Handler, created.map Handler.target = [.console] ∧ (∀ h ∈ created, h.filters = [.redacting]) ∧
      ((perform (.setup none none none) (watched setUpAgain).session).state.tree.logger libraryLogger).handlers =
        ⟨2, .console, []⟩ :: created := by
  obtain ⟨-, hsetup, hexact⟩ := setups_replace_their_own (reachedBy_watched setUpAgain)
  constructor
  · have hloud := hsetup none (some "loud") none
    generalize perform (.setup none (some "loud") none) (watched setUpAgain).session = run at hloud
    cases hloud with
    | refused h => rfl
    | done weight tree created h =>
      have hnone : weight? "loud" = none := by decide +kernel
      cases hnone.symm.trans h
  · have hweight : weight? (watched setUpAgain).session.level = some 20 := by decide +kernel
    have hothers : Tree.others (watched setUpAgain).made ((watched setUpAgain).session.tree.logger libraryLogger).handlers =
        [⟨2, .console, []⟩] := by decide +kernel
    obtain ⟨created, htargets, hfilters, hhandlers⟩ := hexact none none none 20 hweight (Or.inl (by decide))
    exact ⟨created, htargets, hfilters, hhandlers.trans (congrArg (· ++ created) hothers)⟩

/-- The root is set up under its name. -/
def rootSetUp : List Event := [.step (.setup (some "root") none none)]

/-- Setting up a logger does not always leave the handlers of others and its own: the root has two names. -/
theorem not_every_setup_is_exact :
    ¬ ∀ (events : List Event) (w : Watch) (name level file : Option String) (weight : Nat), w.ReachedBy events →
      weight? (level.getD w.session.level) = some weight →
      ∃ created : List Handler, created.map Handler.target = Tree.targets file ∧
        ((perform (.setup name level file) w.session).state.tree.logger (canonical (name.getD libraryLogger))).handlers =
          Tree.others w.made (w.session.tree.logger (canonical (name.getD libraryLogger))).handlers ++ created := by
  intro hall
  have hweight : weight? (watched rootSetUp).session.level = some 20 := by decide +kernel
  obtain ⟨created, htargets, hhandlers⟩ :=
    hall rootSetUp (watched rootSetUp) (some "") none none 20 (reachedBy_watched rootSetUp) hweight
  have hcount := congrArg List.length hhandlers
  have hothers : Tree.others (watched rootSetUp).made ((watched rootSetUp).session.tree.logger rootName).handlers =
      [⟨0, .nowhere, []⟩] := by
    decide +kernel
  have hthree : ((perform (.setup (some "") none none) (watched rootSetUp).session).state.tree.logger rootName).handlers.length = 3 := by
    decide +kernel
  have hone : created.length = 1 := by
    rw [← List.length_map Handler.target, htargets]
    rfl
  have hname : canonical ((some "").getD libraryLogger) = rootName := rfl
  rw [hname, hthree, hothers, List.length_append, hone] at hcount
  cases hcount

end OAuthClient.LogSession
