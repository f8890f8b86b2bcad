import Mathlib.Data.Int.Basic
import Mathlib.Logic.Function.Basic
import Mathlib.Tactic

/-!
# Child processes as their parent sees them

A parent holds the fate of every process id it got from `fork`, and a record of the `kill` and
`waitpid` calls it has issued.  A positive id addresses one child; zero and negative ids address
groups of processes, and `kill` then reaches every child while `waitpid` may answer for any of them.

`kill` fails on a child only after the child has been reaped, and so does `waitpid`.  Ids may be
used again once their child has been reaped.
-/

namespace MsgPerf.Library

/-- What has become of the process with an id. -/
inductive Fate where
  | absent | alive | signalled | reaped
  deriving DecidableEq, Repr

def Fate.signal : Fate → Fate
  | .alive => .signalled
  | fate => fate

/-- The process exists, as a running process or as one that has ended and waits to be reaped. -/
def Fate.unreaped : Fate → Bool
  | .alive | .signalled => true
  | .absent | .reaped => false

theorem Fate.signal_ne_alive (fate : Fate) : fate.signal ≠ .alive := by
  cases fate <;> simp [Fate.signal]

theorem Fate.signal_ne_absent {fate : Fate} (h : fate ≠ .absent) : fate.signal ≠ .absent := by
  cases fate <;> simp_all [Fate.signal]

inductive SystemCall where
  | kill (pid : ℤ)
  | waitpid (pid : ℤ)
  deriving DecidableEq, Repr

def SystemCall.pid : SystemCall → ℤ
  | .kill pid | .waitpid pid => pid

structure Processes where
  fate : ℤ → Fate
  issued : List SystemCall

namespace Processes

def empty : Processes := ⟨fun _ ↦ .absent, []⟩

def issue (processes : Processes) (call : SystemCall) : Processes :=
  { processes with issued := processes.issued ++ [call] }

/-- A successful fork.  The id denotes the new child from now on. -/
def fork (processes : Processes) (pid : ℤ) : Processes :=
  { processes with fate := Function.update processes.fate pid .alive }

/-- Whether `kill` succeeds; for a group that is left to the caller. -/
def killable (processes : Processes) (pid : ℤ) (group : Bool) : Bool :=
  if pid ≤ 0 then group else (processes.fate pid).unreaped

/-- The effect of a `kill` that succeeds. -/
def kill (processes : Processes) (pid : ℤ) : Processes :=
  { processes.issue (.kill pid) with
    fate := fun other ↦
      if pid ≤ 0 ∨ other = pid then (processes.fate other).signal else processes.fate other }

inductive WaitAnswer where
  | noChange | reaped | failed
  deriving DecidableEq, Repr

/-- `waitpid` without waiting.  `ended` names the child that is found to have ended, if one is; an
id that addresses one child answers for that child only. -/
def waitpid (processes : Processes) (pid : ℤ) (ended : Option ℤ) : WaitAnswer × Processes :=
  let after := processes.issue (.waitpid pid)
  match ended with
  | none => (if pid ≤ 0 ∨ (processes.fate pid).unreaped then .noChange else .failed, after)
  | some child =>
      let target := if pid ≤ 0 then child else pid
      if (processes.fate target).unreaped then
        (.reaped, { after with fate := Function.update processes.fate target .reaped })
      else (.failed, after)

/-! ## What a poll shows -/

theorem waitpid_issued (processes : Processes) (child : ℤ) (ended : Option ℤ) :
    (processes.waitpid child ended).2.issued = processes.issued ++ [.waitpid child] := by
  cases ended with
  | none => rfl
  | some other =>
    simp only [waitpid]
    split_ifs <;> rfl

theorem waitpid_fate_of_noChange {processes : Processes} {child : ℤ} {ended : Option ℤ}
    (h : (processes.waitpid child ended).1 = .noChange) :
    (processes.waitpid child ended).2.fate = processes.fate := by
  cases ended with
  | none => rfl
  | some other =>
    simp only [waitpid] at h
    split_ifs at h

theorem waitpid_answer_congr {processes others : Processes} (h : others.fate = processes.fate)
    (child : ℤ) (ended : Option ℤ) :
    (others.waitpid child ended).1 = (processes.waitpid child ended).1 := by
  cases ended with
  | none => simp only [waitpid, h]
  | some other =>
    simp only [waitpid, h]
    split_ifs <;> rfl

/-! ## What later calls cannot undo -/

/-- `after` is reached from `before` by signals and waits: no child has become untouched again and
no child has been forgotten, and the further calls were addressed to the given ids. -/
structure Follows (pids : List ℤ) (before after : Processes) : Prop where
  alive : ∀ pid, after.fate pid = .alive → before.fate pid = .alive
  known : ∀ pid, before.fate pid ≠ .absent → after.fate pid ≠ .absent
  issued : ∀ call ∈ after.issued, call ∈ before.issued ∨ call.pid ∈ pids

namespace Follows

variable {pids : List ℤ} {before middle after : Processes}

theorem refl (pids : List ℤ) (processes : Processes) : Follows pids processes processes :=
  ⟨fun _ h ↦ h, fun _ h ↦ h, fun _ h ↦ .inl h⟩

theorem trans (hfirst : Follows pids before middle) (hsecond : Follows pids middle after) :
    Follows pids before after where
  alive pid h := hfirst.alive pid (hsecond.alive pid h)
  known pid h := hsecond.known pid (hfirst.known pid h)
  issued call h := (hsecond.issued call h).elim (hfirst.issued call) .inr

theorem mono {others : List ℤ} (h : Follows pids before after)
    (hsubset : ∀ pid ∈ pids, pid ∈ others) : Follows others before after :=
  ⟨h.alive, h.known, fun call hcall ↦ (h.issued call hcall).imp id (hsubset call.pid)⟩

end Follows

variable (processes : Processes) (pid : ℤ)

theorem follows_issue (call : SystemCall) :
    Follows [call.pid] processes (processes.issue call) := by
  refine ⟨fun _ h ↦ h, fun _ h ↦ h, fun other hother ↦ ?_⟩
  simpa [issue, or_comm, eq_comm] using
    (List.mem_append.mp hother).imp id fun hnew ↦ congrArg SystemCall.pid (List.mem_singleton.mp hnew)

theorem follows_kill : Follows [pid] processes (processes.kill pid) := by
  refine ⟨fun other hother ↦ ?_, fun other hother ↦ ?_, (processes.follows_issue (.kill pid)).issued⟩
  · simp only [kill] at hother
    split at hother
    · exact absurd hother (Fate.signal_ne_alive _)
    · exact hother
  · simp only [kill]
    split
    · exact Fate.signal_ne_absent hother
    · exact hother

/-- A signalled child is not left untouched. -/
theorem kill_ne_alive : (processes.kill pid).fate pid ≠ .alive := by
  simp only [kill, or_true, if_true]
  exact Fate.signal_ne_alive _

theorem not_alive_of_not_killable {group : Bool} (hpid : 0 < pid)
    (hkill : processes.killable pid group = false) : processes.fate pid ≠ .alive := by
  intro halive
  simp [killable, not_le.mpr hpid, halive, Fate.unreaped] at hkill

theorem follows_waitpid (ended : Option ℤ) :
    Follows [pid] processes (processes.waitpid pid ended).2 := by
  have hissue := processes.follows_issue (.waitpid pid)
  cases ended with
  | none => exact hissue
  | some child =>
    simp only [waitpid]
    by_cases htarget : (processes.fate (if pid ≤ 0 then child else pid)).unreaped = true
    · rw [if_pos htarget]
      refine ⟨fun other hother ↦ ?_, fun other hother ↦ ?_, hissue.issued⟩
      · by_cases hsame : other = if pid ≤ 0 then child else pid
        · simp [hsame] at hother
        · simpa [Function.update_of_ne hsame] using hother
      · by_cases hsame : other = if pid ≤ 0 then child else pid
        · simp [hsame]
        · simpa [Function.update_of_ne hsame] using hother
    · rw [if_neg htarget]
      exact hissue

/-- Unless nothing has changed, a child that was waited for is gone. -/
theorem not_alive_of_waitpid (ended : Option ℤ) (hpid : 0 < pid)
    (hanswer : (processes.waitpid pid ended).1 ≠ .noChange) :
    (processes.waitpid pid ended).2.fate pid ≠ .alive := by
  have hgroup : ¬ pid ≤ 0 := not_le.mpr hpid
  cases ended with
  | none =>
    simp only [waitpid, hgroup, false_or] at hanswer ⊢
    intro halive
    have halive : processes.fate pid = .alive := halive
    simp [halive, Fate.unreaped] at hanswer
  | some child =>
    simp only [waitpid, hgroup, if_false]
    by_cases hunreaped : (processes.fate pid).unreaped = true
    · rw [if_pos hunreaped]
      simp
    · rw [if_neg hunreaped]
      intro halive
      have halive : processes.fate pid = .alive := halive
      simp [halive, Fate.unreaped] at hunreaped

end Processes

end MsgPerf.Library
