import Mathlib.Data.List.Basic
import Mathlib.Logic.Function.Basic
import Mathlib.Tactic

/-!
# Machines and their reachable states

A machine has an initial state and a partial step function; the label of a step carries every
choice that the environment makes, so that one machine describes all interleavings.  A guard
selects the steps of interest: a state is reachable under the guard when it is reached by steps
that meet the guard in the state in which they are taken.
-/

namespace MsgPerf.Library

structure Machine (State Label : Type*) where
  initial : State
  next : State → Label → Option State

namespace Machine

variable {State Label : Type*} (machine : Machine State Label)

/-- States reached by steps that meet the guard. -/
inductive ReachableUnder (guard : State → Label → Prop) : State → Prop where
  | initial : ReachableUnder guard machine.initial
  | step {state after : State} {label : Label} :
      ReachableUnder guard state → guard state label → machine.next state label = some after →
      ReachableUnder guard after

/-- States reached by any steps. -/
def Reachable : State → Prop := machine.ReachableUnder fun _ _ ↦ True

/-- The state after a list of steps. -/
def run : State → List Label → Option State
  | state, [] => some state
  | state, label :: labels => (machine.next state label).bind fun after ↦ run after labels

variable {machine} {guard : State → Label → Prop}

/-- The invariant rule: what holds at first and is kept by every guarded step always holds. -/
theorem ReachableUnder.invariant {state : State} (h : machine.ReachableUnder guard state)
    (holds : State → Prop) (hinitial : holds machine.initial)
    (hstep : ∀ before label after, holds before → guard before label →
      machine.next before label = some after → holds after) : holds state := by
  induction h with
  | initial => exact hinitial
  | step _ hguard hnext ih => exact hstep _ _ _ ih hguard hnext

/-- A run whose labels meet the guard in every state. -/
theorem ReachableUnder.run {state after : State} {labels : List Label}
    (hstate : machine.ReachableUnder guard state)
    (hlabels : ∀ label ∈ labels, ∀ state, guard state label)
    (h : machine.run state labels = some after) : machine.ReachableUnder guard after := by
  induction labels generalizing state with
  | nil =>
    rw [Machine.run, Option.some.injEq] at h
    exact h ▸ hstate
  | cons label labels ih =>
    obtain ⟨hlabel, hrest⟩ := List.forall_mem_cons.mp hlabels
    obtain ⟨middle, hnext, hrun⟩ := Option.bind_eq_some_iff.mp h
    exact ih (.step hstate (hlabel state) hnext) hrest hrun

/-- A run from the initial state. -/
theorem reachable_of_run {after : State} (labels : List Label)
    (h : machine.run machine.initial labels = some after) : machine.Reachable after :=
  ReachableUnder.run .initial (fun _ _ _ ↦ trivial) h

end Machine

end MsgPerf.Library
