import Mathlib.Data.List.Count
import Mathlib.Tactic

/-!
# Handles that are acquired, used and released

A program keeps a handle in a variable and logs what it does with it: it acquires handles, uses what
the variable holds, and releases what the variable holds.  The variable may hold nothing, or a
handle that has been released.  A log is disciplined when only open handles are used or released.

`Balanced` is the invariant of a program that has at most one handle open at a time, with one rule
for each operation.
-/

namespace MsgPerf.Library

inductive ResourceOperation (Handle Action : Type*) where
  | acquired (handle : Handle)
  | used (action : Action) (held : Option Handle)
  | released (held : Option Handle)
  deriving DecidableEq, Repr

namespace ResourceOperation

variable {Handle Action : Type*}

/-- The handle has been acquired and not released. -/
def OpenAfter (log : List (ResourceOperation Handle Action)) (handle : Handle) : Prop :=
  .acquired handle ∈ log ∧ .released (some handle) ∉ log

/-- What an operation needs from the log before it.  Nothing is wrong with releasing a variable that
holds nothing. -/
def Permitted (earlier : List (ResourceOperation Handle Action)) :
    ResourceOperation Handle Action → Prop
  | .acquired handle => .acquired handle ∉ earlier
  | .used _ held => ∃ handle, held = some handle ∧ OpenAfter earlier handle
  | .released held => ∀ handle, held = some handle → OpenAfter earlier handle

def Disciplined (log : List (ResourceOperation Handle Action)) : Prop :=
  ∀ earlier operation later, log = earlier ++ operation :: later → operation.Permitted earlier

/-- Every handle that was acquired has been released exactly once. -/
def Settled [DecidableEq Handle] [DecidableEq Action]
    (log : List (ResourceOperation Handle Action)) : Prop :=
  ∀ handle, .acquired handle ∈ log → log.count (.released (some handle)) = 1

variable {log : List (ResourceOperation Handle Action)} {operation : ResourceOperation Handle Action}

theorem Disciplined.nil : Disciplined ([] : List (ResourceOperation Handle Action)) := by
  intro earlier operation later h
  simp at h

theorem Disciplined.concat (h : Disciplined log) (hoperation : operation.Permitted log) :
    Disciplined (log ++ [operation]) := by
  intro earlier other later hlog
  induction later using List.reverseRecOn with
  | nil =>
    obtain ⟨rfl, hother⟩ := List.append_inj' hlog rfl
    rw [← List.singleton_injective hother]
    exact hoperation
  | append_singleton later last _ =>
    rw [← List.cons_append, ← List.append_assoc] at hlog
    obtain ⟨hlog, -⟩ := List.append_inj' hlog rfl
    exact h earlier other later hlog

/-- Only acquired handles are released. -/
theorem Disciplined.acquired_of_released (h : Disciplined log) {handle : Handle}
    (hreleased : .released (some handle) ∈ log) : .acquired handle ∈ log := by
  obtain ⟨earlier, later, rfl⟩ := List.append_of_mem hreleased
  have hopen := h earlier _ later rfl handle rfl
  exact List.mem_append_left _ hopen.1

section

variable [DecidableEq Handle] [DecidableEq Action]

/-- The log of a program that has `current` open, if anything. -/
structure Balanced (log : List (ResourceOperation Handle Action)) (current : Option Handle) :
    Prop where
  disciplined : Disciplined log
  opened : ∀ handle, current = some handle → OpenAfter log handle
  others : ∀ handle, .acquired handle ∈ log → current ≠ some handle →
    log.count (.released (some handle)) = 1

namespace Balanced

variable {current : Option Handle} {handle : Handle}

theorem nil : Balanced ([] : List (ResourceOperation Handle Action)) none :=
  ⟨.nil, by simp, by simp⟩

theorem acquire (h : Balanced log none) (hfresh : .acquired handle ∉ log) :
    Balanced (log ++ [.acquired handle]) (some handle) := by
  refine ⟨h.disciplined.concat hfresh, ?_, ?_⟩
  · intro other hother
    obtain rfl := Option.some.inj hother
    refine ⟨by simp, fun hreleased ↦ hfresh ?_⟩
    apply h.disciplined.acquired_of_released
    simpa using hreleased
  · intro other hother hne
    have hacquired : .acquired other ∈ log := by
      simpa [show other ≠ handle from fun hother ↦ hne (by rw [hother])] using hother
    rw [List.count_append, h.others other hacquired (by simp)]
    simp

theorem use (h : Balanced log (some handle)) (action : Action) :
    Balanced (log ++ [.used action (some handle)]) (some handle) := by
  have hopen := h.opened handle rfl
  refine ⟨h.disciplined.concat ⟨handle, rfl, hopen⟩, ?_, ?_⟩
  · intro other hother
    obtain rfl := Option.some.inj hother
    exact ⟨List.mem_append_left _ hopen.1, by simpa using hopen.2⟩
  · intro other hother hne
    rw [List.count_append, h.others other (by simpa using hother) hne]
    simp

theorem release (h : Balanced log current) : Balanced (log ++ [.released current]) none := by
  refine ⟨h.disciplined.concat h.opened, by simp, ?_⟩
  intro other hother _
  have hacquired : .acquired other ∈ log := by simpa using hother
  by_cases hcurrent : current = some other
  · have hcount := List.count_eq_zero_of_not_mem (h.opened other hcurrent).2
    rw [List.count_append, hcount, hcurrent]
    simp
  · rw [List.count_append, h.others other hacquired hcurrent]
    simp [hcurrent]

theorem settled (h : Balanced log none) : Settled log :=
  fun handle hacquired ↦ h.others handle hacquired (by simp)

/-- No handle is released twice. -/
theorem count_released_le (h : Balanced log current) (handle : Handle) :
    log.count (.released (some handle)) ≤ 1 := by
  by_cases hacquired : .acquired handle ∈ log
  · by_cases hcurrent : current = some handle
    · rw [List.count_eq_zero_of_not_mem (h.opened handle hcurrent).2]
      exact zero_le_one
    · exact (h.others handle hacquired hcurrent).le
  · rw [List.count_eq_zero_of_not_mem fun hreleased ↦
      hacquired (h.disciplined.acquired_of_released hreleased)]
    exact zero_le_one

end Balanced

end

end ResourceOperation

end MsgPerf.Library
