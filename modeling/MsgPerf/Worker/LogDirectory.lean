import Mathlib.Data.Nat.Nth
import MsgPerf.Library.Machine

/-!
# Log directories

Each test writes to a directory of its own below the log directory: `worker_log_fill_last_dir`
probes the numbers from zero on and takes the first one that does not exist, and `worker_log_init`
creates it.  At the end of a test the links `last`, `lastFailed` and `lastSuccessful` are set to it.

Several daemons may share a log directory.  Between the probe that finds a number and the creation
of the directory another daemon can find the same number; `gru_path_mkdirs` does not mind that a
directory exists, and both write their files to it.  As long as a number that was found is created
before the next one is probed, the tests get the free numbers in order.
-/

namespace MsgPerf.Worker

open MsgPerf.Library

/-! ## The functions -/

/-- `INT_MAX`. -/
def intMax : ℕ := 2 ^ 31 - 1

/-- One turn of the loop of `worker_log_fill_last_dir`. -/
inductive FillResult where
  | found (number : ℕ)
  | next (number : ℕ)
  | failed
  deriving DecidableEq, Repr

def workerLogFillLastDir (directories : Finset ℕ) (number : ℕ) : FillResult :=
  if number ∉ directories then .found number
  else if number + 1 < intMax then .next (number + 1)
  else .failed

inductive LinkName where
  | last | lastFailed | lastSuccessful
  deriving DecidableEq, Repr

/-- The links that are set at the end of a test, in order; the broker inspector begins with
`last`. -/
def linkNames (inspector successful : Bool) : List LinkName :=
  let verdict := if successful then .lastSuccessful else .lastFailed
  if inspector then [.last, verdict] else [verdict, .last]

/-- Where a daemon is with the directory of its test. -/
inductive LogPhase where
  | idle
  | probing (number : ℕ)
  | found (number : ℕ)
  | running (number : ℕ)
  | linking (number : ℕ) (names : List LinkName)
  | unlinked (number : ℕ) (name : LinkName) (names : List LinkName)
  deriving DecidableEq, Repr

namespace LogPhase

/-- The directory to which a daemon writes. -/
def directory? : LogPhase → Option ℕ
  | .running number | .linking number _ | .unlinked number _ _ => some number
  | _ => none

/-- The number that a daemon has come to. -/
def probed? : LogPhase → Option ℕ
  | .probing number | .found number => some number
  | _ => none

end LogPhase

/-! ## Daemons with one log directory -/

/-- The numbers and the links in the log directory and the phases of the daemons; the history is a
ghost field, the directories that tests have got, the first one first. -/
structure LogState (Daemon : Type) where
  directories : Finset ℕ
  links : LinkName → Option ℕ
  phase : Daemon → LogPhase
  history : List ℕ

inductive LogStep (Daemon : Type) where
  | start (daemon : Daemon)
  | probe (daemon : Daemon)
  | mkdirs (daemon : Daemon) (ok : Bool)
  | abort (daemon : Daemon)
  | finish (daemon : Daemon) (successful : Bool)
  | unlink (daemon : Daemon)
  | symlink (daemon : Daemon)
  | done (daemon : Daemon)
  deriving DecidableEq, Repr

variable {Daemon : Type} [DecidableEq Daemon]

namespace LogState

def setPhase (state : LogState Daemon) (daemon : Daemon) (phase : LogPhase) : LogState Daemon :=
  { state with phase := Function.update state.phase daemon phase }

/-- The loop goes on, or `worker_log_fill_last_dir` returns. -/
def filled (state : LogState Daemon) (daemon : Daemon) : FillResult → LogState Daemon
  | .found number => state.setPhase daemon (.found number)
  | .next number => state.setPhase daemon (.probing number)
  | .failed => state.setPhase daemon .idle

/-- The directory is created; it may have been created since it was probed. -/
def created (state : LogState Daemon) (daemon : Daemon) (number : ℕ) : LogState Daemon :=
  { state.setPhase daemon (.running number) with
    directories := insert number state.directories
    history := state.history ++ [number] }

def unlinked (state : LogState Daemon) (daemon : Daemon) (number : ℕ) (name : LinkName)
    (names : List LinkName) : LogState Daemon :=
  { state.setPhase daemon (.unlinked number name names) with
    links := Function.update state.links name none }

/-- `symlink` fails when the name exists; nobody reads its result. -/
def linked (state : LogState Daemon) (daemon : Daemon) (number : ℕ) (name : LinkName)
    (names : List LinkName) : LogState Daemon :=
  { state.setPhase daemon (.linking number names) with
    links := Function.update state.links name ((state.links name).or (some number)) }

/-- The steps of the daemons; an inspector that has a directory always comes to the links. -/
def next (inspector : Daemon → Bool) (state : LogState Daemon) :
    LogStep Daemon → Option (LogState Daemon)
  | .start daemon =>
      match state.phase daemon with
      | .idle => some (state.setPhase daemon (.probing 0))
      | _ => none
  | .probe daemon =>
      match state.phase daemon with
      | .probing number =>
          some (state.filled daemon (workerLogFillLastDir state.directories number))
      | _ => none
  | .mkdirs daemon ok =>
      match state.phase daemon with
      | .found number =>
          some (if ok then state.created daemon number else state.setPhase daemon .idle)
      | _ => none
  | .abort daemon =>
      match state.phase daemon with
      | .running _ => if inspector daemon then none else some (state.setPhase daemon .idle)
      | _ => none
  | .finish daemon successful =>
      match state.phase daemon with
      | .running number =>
          some (state.setPhase daemon (.linking number (linkNames (inspector daemon) successful)))
      | _ => none
  | .unlink daemon =>
      match state.phase daemon with
      | .linking number (name :: names) => some (state.unlinked daemon number name names)
      | _ => none
  | .symlink daemon =>
      match state.phase daemon with
      | .unlinked number name names => some (state.linked daemon number name names)
      | _ => none
  | .done daemon =>
      match state.phase daemon with
      | .linking _ [] => some (state.setPhase daemon .idle)
      | _ => none

end LogState

/-- Daemons that find some numbers in use. -/
def logMachine (inspector : Daemon → Bool) (existing : Finset ℕ) :
    Machine (LogState Daemon) (LogStep Daemon) where
  initial := ⟨existing, fun _ ↦ none, fun _ ↦ .idle, []⟩
  next := LogState.next inspector

/-- Nobody probes while another daemon has not created the number that it has found. -/
def CreatesFirst (state : LogState Daemon) : LogStep Daemon → Prop
  | .probe daemon => ∀ other number, other ≠ daemon → state.phase other ≠ .found number
  | _ => True

/-! ## What a step does -/

namespace LogState

/-- What a step does.  A daemon that keeps its directory or goes back to waiting changes nothing
else; the other cases concern the probe, the creation and the links. -/
inductive Case (state : LogState Daemon) (step : LogStep Daemon) : LogState Daemon → Prop where
  | released (daemon : Daemon) (phase : LogPhase)
      (probed : phase.probed? = none ∨ phase = .probing 0)
      (kept : phase.directory? = none ∨ phase.directory? = (state.phase daemon).directory?) :
      Case state step (state.setPhase daemon phase)
  | found (daemon : Daemon) (number : ℕ) (label : step = .probe daemon)
      (phase : state.phase daemon = .probing number) (free : number ∉ state.directories) :
      Case state step (state.setPhase daemon (.found number))
  | advanced (daemon : Daemon) (number : ℕ) (phase : state.phase daemon = .probing number)
      (used : number ∈ state.directories) :
      Case state step (state.setPhase daemon (.probing (number + 1)))
  | created (daemon : Daemon) (number : ℕ) (phase : state.phase daemon = .found number) :
      Case state step (state.created daemon number)
  | unlinked (daemon : Daemon) (number : ℕ) (name : LinkName) (names : List LinkName)
      (phase : (state.phase daemon).directory? = some number) :
      Case state step (state.unlinked daemon number name names)
  | linked (daemon : Daemon) (number : ℕ) (name : LinkName) (names : List LinkName)
      (phase : (state.phase daemon).directory? = some number) :
      Case state step (state.linked daemon number name names)

theorem next_cases {inspector : Daemon → Bool} {state after : LogState Daemon}
    {step : LogStep Daemon} (h : state.next inspector step = some after) :
    state.Case step after := by
  cases step with
  | start daemon =>
    simp only [next] at h
    split at h <;> cases h
    exact .released daemon _ (.inr rfl) (.inl rfl)
  | probe daemon =>
    simp only [next] at h
    split at h <;> cases h
    rename_i number hphase
    -- the three ways in which a turn of the loop ends
    unfold workerLogFillLastDir
    split
    · next hfree => exact .found daemon number rfl hphase hfree
    · next hused =>
      split
      · exact .advanced daemon number hphase (not_not.mp hused)
      · exact .released daemon _ (.inl rfl) (.inl rfl)
  | mkdirs daemon ok =>
    simp only [next] at h
    split at h <;> cases h
    rename_i number hphase
    cases ok with
    | true => exact .created daemon number hphase
    | false => exact .released daemon _ (.inl rfl) (.inl rfl)
  | abort daemon =>
    simp only [next] at h
    split at h <;> try cases h
    split at h <;> cases h
    exact .released daemon _ (.inl rfl) (.inl rfl)
  | finish daemon successful =>
    simp only [next] at h
    split at h <;> cases h
    rename_i number hphase
    exact .released daemon _ (.inl rfl) (.inr (by rw [hphase]; rfl))
  | unlink daemon =>
    simp only [next] at h
    split at h <;> cases h
    rename_i number name names hphase
    exact .unlinked daemon number name names (by rw [hphase]; rfl)
  | symlink daemon =>
    simp only [next] at h
    split at h <;> cases h
    rename_i number name names hphase
    exact .linked daemon number name names (by rw [hphase]; rfl)
  | done daemon =>
    simp only [next] at h
    split at h <;> cases h
    exact .released daemon _ (.inl rfl) (.inl rfl)

/-! ## The invariant -/

/-- The tests have got the first free numbers in order, no two of them have one directory, and the
links lead to their directories.  A number that was found is the least free one. -/
structure Ordered (existing : Finset ℕ) (state : LogState Daemon) : Prop where
  directories : ∀ number, number ∈ state.directories ↔ number ∈ existing ∨ number ∈ state.history
  history : state.history = (List.range state.history.length).map (Nat.nth (· ∉ existing))
  below : ∀ daemon number, (state.phase daemon).probed? = some number →
    ∀ lower < number, lower ∈ state.directories
  fresh : ∀ daemon number, state.phase daemon = .found number → number ∉ state.directories
  alone : ∀ daemon other number another, state.phase daemon = .found number →
    state.phase other = .found another → daemon = other
  owned : ∀ daemon number, (state.phase daemon).directory? = some number → number ∈ state.history
  apart : ∀ daemon other number, (state.phase daemon).directory? = some number →
    (state.phase other).directory? = some number → daemon = other
  links : ∀ name number, state.links name = some number → number ∈ state.history

/-- The least number that is neither used nor among the first free ones is the next free one. -/
theorem eq_nth_length {existing : Finset ℕ} {history : List ℕ} {number : ℕ}
    (hhistory : history = (List.range history.length).map (Nat.nth (· ∉ existing)))
    (hnumber : ¬ (number ∈ existing ∨ number ∈ history))
    (hbelow : ∀ lower < number, lower ∈ existing ∨ lower ∈ history) :
    number = Nat.nth (· ∉ existing) history.length := by
  classical
  rw [not_or] at hnumber
  have hinfinite : (Set.ofPred (· ∉ existing)).Infinite := existing.finite_toSet.infinite_compl
  have hcount : Nat.nth (· ∉ existing) (Nat.count (· ∉ existing) number) = number :=
    Nat.nth_count hnumber.1
  have mem_history : ∀ index, Nat.nth (· ∉ existing) index ∈ history ↔ index < history.length := by
    intro index
    rw [hhistory]
    simp [(Nat.nth_injective hinfinite).eq_iff]
  rcases Nat.lt_trichotomy (Nat.count (· ∉ existing) number) history.length with hlt | heq | hgt
  · exact absurd ((mem_history _).mpr hlt) (by rw [hcount]; exact hnumber.2)
  · rw [← heq, hcount]
  · have hlower : Nat.nth (· ∉ existing) history.length < number := by
      rw [← hcount]
      exact Nat.nth_strictMono hinfinite hgt
    rcases hbelow _ hlower with hused | hgiven
    · exact absurd hused (Nat.nth_mem_of_infinite hinfinite _)
    · exact absurd ((mem_history _).mp hgiven) (lt_irrefl _)

namespace Ordered

variable {existing : Finset ℕ} {state : LogState Daemon}

omit [DecidableEq Daemon] in
theorem initial : Ordered existing (⟨existing, fun _ ↦ none, fun _ ↦ .idle, []⟩ : LogState Daemon)
    where
  directories := by simp
  history := rfl
  below := by simp [LogPhase.probed?]
  fresh := by simp
  alone := by simp
  owned := by simp [LogPhase.directory?]
  apart := by simp [LogPhase.directory?]
  links := by simp

/-- A daemon may enter a phase that fits the numbers and the other daemons. -/
theorem setPhase (h : Ordered existing state) (daemon : Daemon) (phase : LogPhase)
    (hbelow : ∀ number, phase.probed? = some number → ∀ lower < number, lower ∈ state.directories)
    (hfound : ∀ number, phase = .found number → number ∉ state.directories ∧
      ∀ other another, other ≠ daemon → state.phase other ≠ .found another)
    (howned : ∀ number, phase.directory? = some number → number ∈ state.history ∧
      ∀ other ≠ daemon, (state.phase other).directory? ≠ some number) :
    Ordered existing (state.setPhase daemon phase) where
  directories := h.directories
  history := h.history
  below := by
    intro other number hother
    by_cases heq : other = daemon
    · subst heq
      exact hbelow number (by simpa [LogState.setPhase] using hother)
    · exact h.below other number (by simpa [LogState.setPhase, heq] using hother)
  fresh := by
    intro other number hother
    by_cases heq : other = daemon
    · subst heq
      exact (hfound number (by simpa [LogState.setPhase] using hother)).1
    · exact h.fresh other number (by simpa [LogState.setPhase, heq] using hother)
  alone := by
    intro first second number another hfirst hsecond
    by_cases heq : first = daemon <;> by_cases heq' : second = daemon <;>
      simp [LogState.setPhase, heq, heq'] at hfirst hsecond
    · rw [heq, heq']
    · exact absurd hsecond ((hfound number hfirst).2 second another heq')
    · exact absurd hfirst ((hfound another hsecond).2 first number heq)
    · exact h.alone first second number another hfirst hsecond
  owned := by
    intro other number hother
    by_cases heq : other = daemon
    · subst heq
      exact (howned number (by simpa [LogState.setPhase] using hother)).1
    · exact h.owned other number (by simpa [LogState.setPhase, heq] using hother)
  apart := by
    intro first second number hfirst hsecond
    by_cases heq : first = daemon <;> by_cases heq' : second = daemon <;>
      simp [LogState.setPhase, heq, heq'] at hfirst hsecond
    · rw [heq, heq']
    · exact absurd hsecond ((howned number hfirst).2 second heq')
    · exact absurd hfirst ((howned number hsecond).2 first heq)
    · exact h.apart first second number hfirst hsecond
  links := h.links

/-- A phase of the daemon's own directory. -/
theorem keepDirectory (h : Ordered existing state) (daemon : Daemon) (phase : LogPhase)
    (hprobed : phase.probed? = none ∨ phase = .probing 0)
    (hkept : phase.directory? = none ∨ phase.directory? = (state.phase daemon).directory?) :
    Ordered existing (state.setPhase daemon phase) := by
  refine h.setPhase daemon phase ?_ ?_ ?_
  · rintro number hnumber lower hlower
    rcases hprobed with hnone | rfl
    · rw [hnone] at hnumber
      cases hnumber
    · cases hnumber
      exact absurd hlower (Nat.not_lt_zero lower)
  · rintro number rfl
    rcases hprobed with hnone | hzero
    · cases hnone
    · cases hzero
  · intro number hnumber
    rcases hkept with hnone | hsame
    · rw [hnone] at hnumber
      cases hnumber
    · rw [hsame] at hnumber
      exact ⟨h.owned daemon number hnumber,
        fun other hother hdirectory ↦ hother (h.apart other daemon number hdirectory hnumber)⟩

omit [DecidableEq Daemon] in
/-- The least free number becomes a directory when nobody else has found it. -/
theorem grow (h : Ordered existing state) {number : ℕ} (hfree : number ∉ state.directories)
    (hbelow : ∀ lower < number, lower ∈ state.directories)
    (hnobody : ∀ daemon another, state.phase daemon ≠ .found another) :
    Ordered existing { state with
      directories := insert number state.directories
      history := state.history ++ [number] } where
  directories := by
    intro other
    simp only [Finset.mem_insert, List.mem_append, List.mem_singleton, h.directories]
    tauto
  history := by
    have hnumber : number = Nat.nth (· ∉ existing) state.history.length :=
      eq_nth_length h.history (by rwa [← h.directories])
        (fun lower hlower ↦ (h.directories lower).mp (hbelow lower hlower))
    rw [List.length_append, List.length_singleton, List.range_succ, List.map_append, ← h.history,
      List.map_singleton, ← hnumber]
  below := fun daemon another hanother lower hlower ↦
    Finset.mem_insert_of_mem (h.below daemon another hanother lower hlower)
  fresh := fun daemon another hanother ↦ absurd hanother (hnobody daemon another)
  alone := fun daemon other another _ hanother ↦ absurd hanother (hnobody daemon another)
  owned := fun daemon another hanother ↦ List.mem_append_left _ (h.owned daemon another hanother)
  apart := h.apart
  links := fun name another hanother ↦ List.mem_append_left _ (h.links name another hanother)

omit [DecidableEq Daemon] in
theorem setLinks (h : Ordered existing state) {links : LinkName → Option ℕ}
    (hlinks : ∀ name number, links name = some number → number ∈ state.history) :
    Ordered existing { state with links } :=
  ⟨h.directories, h.history, h.below, h.fresh, h.alone, h.owned, h.apart, hlinks⟩

theorem created (h : Ordered existing state) {daemon : Daemon} {number : ℕ}
    (hphase : state.phase daemon = .found number) :
    Ordered existing (state.created daemon number) := by
  have hfree : number ∉ state.directories := h.fresh daemon number hphase
  have hbelow : ∀ lower < number, lower ∈ state.directories :=
    h.below daemon number (by rw [hphase]; rfl)
  -- without the daemon's own find nobody has found a number
  have hidle : Ordered existing (state.setPhase daemon .idle) :=
    h.keepDirectory daemon .idle (.inl rfl) (.inl rfl)
  have hnobody : ∀ other another, (state.setPhase daemon .idle).phase other ≠ .found another := by
    intro other another hother
    by_cases heq : other = daemon
    · simp [LogState.setPhase, heq] at hother
    · refine heq (h.alone other daemon another number ?_ hphase)
      simpa [LogState.setPhase, heq] using hother
  have hgrown := hidle.grow hfree hbelow hnobody
  have hrunning := hgrown.setPhase daemon (.running number)
    (fun _ hnone ↦ nomatch hnone) (fun _ hnone ↦ nomatch hnone) ?_
  · simpa [LogState.setPhase, LogState.created] using hrunning
  · rintro _ ⟨⟩
    refine ⟨List.mem_append_right _ (List.mem_singleton_self _), ?_⟩
    intro other hother hdirectory
    exact hfree ((h.directories number).mpr (.inr (hidle.owned other number hdirectory)))

theorem next {inspector : Daemon → Bool} {after : LogState Daemon} {step : LogStep Daemon}
    (h : Ordered existing state) (hguard : CreatesFirst state step)
    (hnext : state.next inspector step = some after) : Ordered existing after := by
  cases next_cases hnext with
  | released daemon phase hprobed hkept => exact h.keepDirectory daemon phase hprobed hkept
  | found daemon number hlabel hphase hfree =>
    subst hlabel
    refine h.setPhase daemon (.found number) ?_ ?_ ?_
    · rintro _ ⟨⟩
      exact h.below daemon number (by rw [hphase]; rfl)
    · rintro _ ⟨⟩
      exact ⟨hfree, hguard⟩
    · rintro _ ⟨⟩
  | advanced daemon number hphase hused =>
    refine h.setPhase daemon (.probing (number + 1)) ?_ (fun _ hnone ↦ nomatch hnone)
      (fun _ hnone ↦ nomatch hnone)
    rintro _ ⟨⟩ lower hlower
    rcases Nat.lt_succ_iff_lt_or_eq.mp hlower with hlt | rfl
    · exact h.below daemon number (by rw [hphase]; rfl) lower hlt
    · exact hused
  | created daemon number hphase => exact h.created hphase
  | unlinked daemon number name names hphase =>
    have hkept : Ordered existing (state.setPhase daemon (.unlinked number name names)) :=
      h.keepDirectory daemon _ (.inl rfl) (.inr hphase.symm)
    refine hkept.setLinks ?_
    intro other another hother
    by_cases heq : other = name
    · simp [heq] at hother
    · exact h.links other another (by simpa [heq] using hother)
  | linked daemon number name names hphase =>
    have hkept : Ordered existing (state.setPhase daemon (.linking number names)) :=
      h.keepDirectory daemon _ (.inl rfl) (.inr hphase.symm)
    refine hkept.setLinks ?_
    intro other another hother
    by_cases heq : other = name
    · subst heq
      rw [Function.update_self, Option.or_eq_some_iff] at hother
      rcases hother with hkept | ⟨-, hset⟩
      · exact h.links other another hkept
      · cases hset
        exact h.owned daemon number hphase
    · exact h.links other another (by simpa [heq] using hother)

end Ordered

end LogState

/-! ## The directories of the tests -/

/-- When nobody probes between the find and the creation of a number, the tests get the free numbers
in order, no two running tests write to one directory, and the links lead to directories of
tests. -/
theorem history_eq_nth {inspector : Daemon → Bool} {existing : Finset ℕ} {state : LogState Daemon}
    (h : (logMachine inspector existing).ReachableUnder CreatesFirst state) :
    state.history = (List.range state.history.length).map (Nat.nth (· ∉ existing)) ∧
    (∀ daemon other number, (state.phase daemon).directory? = some number →
      (state.phase other).directory? = some number → daemon = other) ∧
    ∀ name number, state.links name = some number → number ∈ state.history := by
  have hordered : state.Ordered existing := by
    refine h.invariant (LogState.Ordered existing) .initial ?_
    intro before step after hbefore hguard hnext
    exact hbefore.next hguard hnext
  exact ⟨hordered.history, hordered.apart, hordered.links⟩

/-- With two daemons only the other one matters. -/
theorem createsFirst_probe {state : LogState Bool} (daemon : Bool) {phase : LogPhase}
    (hphase : state.phase (!daemon) = phase) (hfound : ∀ number, phase ≠ .found number) :
    CreatesFirst state (.probe daemon) := by
  intro other number hother
  rw [Bool.eq_not_of_ne hother, hphase]
  exact hfound number

/-- A sender daemon and then an inspector start a test; the number one is used. -/
theorem senderThenInspector_history_eq_nth :
    [0, 2] = (List.range 2).map (Nat.nth (· ∉ ({1} : Finset ℕ))) := by
  have hinitial : (logMachine (fun daemon : Bool ↦ daemon) {1}).ReachableUnder CreatesFirst _ :=
    .initial
  have hstart := hinitial.step (show CreatesFirst _ (.start false) from trivial) rfl
  have hfound := hstart.step (createsFirst_probe false rfl nofun) rfl
  have hmkdirs := hfound.step (show CreatesFirst _ (.mkdirs false true) from trivial) rfl
  have hsecond := hmkdirs.step (show CreatesFirst _ (.start true) from trivial) rfl
  have hzero := hsecond.step (createsFirst_probe true rfl nofun) rfl
  have hone := hzero.step (createsFirst_probe true rfl nofun) rfl
  have htwo := hone.step (createsFirst_probe true rfl nofun) rfl
  have hcreated := htwo.step (show CreatesFirst _ (.mkdirs true true) from trivial) rfl
  exact (history_eq_nth hcreated).1

/-- Two daemons that start at the same time. -/
def sameTime : List (LogStep Bool) :=
  [.start false, .start true, .probe false, .probe true, .mkdirs false true, .mkdirs true true]

/-- They find the same number and write to one directory. -/
theorem sameTime_history :
    ((logMachine (fun _ ↦ false) ∅).run (logMachine (fun _ ↦ false) ∅).initial sameTime).map
      (fun state ↦ (state.history, (state.phase false).directory?, (state.phase true).directory?)) =
      some ([0, 0], some 0, some 0) := by
  rfl

end MsgPerf.Worker
