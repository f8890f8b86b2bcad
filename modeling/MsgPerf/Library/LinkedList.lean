import Mathlib.Logic.Function.Basic
import Mathlib.Tactic

/-!
# Singly linked lists

Cells are allocated at addresses, and each holds its data and the address of the next cell.  A
`Chain` says which cells are reached from a start, in which order, up to a cell without a successor.

The cells of a chain are pairwise distinct, so that a chain survives every change of a cell that is
not part of it; `unlink` takes one cell out of a chain and leaves it allocated.
-/

namespace MsgPerf.Library.LinkedList

variable {α : Type*}

structure Cell (α : Type*) where
  data : α
  next : Option ℕ
  deriving DecidableEq, Repr

/-- The cells that are allocated. -/
abbrev Cells (α : Type*) := ℕ → Option (Cell α)

/-- The addresses and data of the cells that are reached from `start`. -/
def Chain (cells : Cells α) : Option ℕ → List (ℕ × α) → Prop
  | start, [] => start = none
  | start, entry :: rest =>
      start = some entry.1 ∧ ∃ next, cells entry.1 = some ⟨entry.2, next⟩ ∧ Chain cells next rest

/-- The address of the first entry. -/
def first (entries : List (ℕ × α)) : Option ℕ := entries.head?.map Prod.fst

theorem Chain.start_eq {cells : Cells α} {start : Option ℕ} {entries : List (ℕ × α)}
    (h : Chain cells start entries) : start = first entries := by
  cases entries with
  | nil => exact h
  | cons entry rest => exact h.1

theorem Chain.tail {cells : Cells α} {start : Option ℕ} {entry : ℕ × α} {rest : List (ℕ × α)}
    (h : Chain cells start (entry :: rest)) :
    cells entry.1 = some ⟨entry.2, first rest⟩ ∧ Chain cells (first rest) rest := by
  obtain ⟨_, next, hcell, hrest⟩ := h
  rw [← hrest.start_eq]
  exact ⟨hcell, hrest⟩

theorem Chain.suffix {cells : Cells α} {start : Option ℕ} {before after : List (ℕ × α)}
    (h : Chain cells start (before ++ after)) : Chain cells (first after) after := by
  induction before generalizing start with
  | nil => exact h.start_eq ▸ h
  | cons entry before ih => exact ih h.tail.2

/-- The start determines the chain. -/
theorem Chain.unique {cells : Cells α} {start : Option ℕ} {entries others : List (ℕ × α)}
    (h : Chain cells start entries) (hothers : Chain cells start others) : entries = others := by
  induction entries generalizing start others with
  | nil =>
    cases others with
    | nil => rfl
    | cons other others => cases h.symm.trans hothers.1
  | cons entry rest ih =>
    cases others with
    | nil => cases hothers.symm.trans h.1
    | cons other others =>
      obtain ⟨hstart, next, hcell, hrest⟩ := h
      obtain ⟨hother, otherNext, hotherCell, hotherRest⟩ := hothers
      have haddress : entry.1 = other.1 := Option.some.inj (hstart.symm.trans hother)
      rw [haddress, hotherCell] at hcell
      obtain ⟨hdata, rfl⟩ : other.2 = entry.2 ∧ otherNext = next := by simpa using hcell
      rw [ih hrest hotherRest, Prod.ext haddress hdata.symm]

/-- No cell is reached twice. -/
theorem Chain.nodup {cells : Cells α} {start : Option ℕ} {entries : List (ℕ × α)}
    (h : Chain cells start entries) : (entries.map Prod.fst).Nodup := by
  induction entries generalizing start with
  | nil => exact List.nodup_nil
  | cons entry rest ih =>
    rw [List.map_cons, List.nodup_cons]
    refine ⟨?_, ih h.tail.2⟩
    intro hmem
    obtain ⟨other, hother, haddress⟩ := List.mem_map.mp hmem
    obtain ⟨before, after, rfl⟩ := List.append_of_mem hother
    -- From the repeated address both the whole chain and a proper suffix of it would be reached.
    have hsuffix : Chain cells start (other :: after) := by
      have hstart : first (other :: after) = start := by
        rw [h.1, ← haddress]
        rfl
      exact hstart ▸ h.tail.2.suffix
    have hlength := congrArg List.length (h.unique hsuffix)
    simp only [List.length_cons, List.length_append] at hlength
    omega

/-- A chain depends on its own cells only. -/
theorem Chain.frame {cells others : Cells α} {start : Option ℕ} {entries : List (ℕ × α)}
    (h : Chain cells start entries) (hframe : ∀ entry ∈ entries, others entry.1 = cells entry.1) :
    Chain others start entries := by
  induction entries generalizing start with
  | nil => exact h
  | cons entry rest ih =>
    refine ⟨h.1, first rest, ?_, ?_⟩
    · rw [hframe entry List.mem_cons_self, h.tail.1]
    · exact ih h.tail.2 fun other hother ↦ hframe other (List.mem_cons_of_mem _ hother)

/-- Freeing a cell outside the chain. -/
theorem Chain.free {cells : Cells α} {start : Option ℕ} {entries : List (ℕ × α)} {address : ℕ}
    (h : Chain cells start entries) (haddress : address ∉ entries.map Prod.fst) :
    Chain (Function.update cells address none) start entries := by
  apply h.frame
  intro entry hentry
  apply Function.update_of_ne
  rintro rfl
  exact haddress (List.mem_map_of_mem hentry)

/-! ## Taking a cell out -/

/-- A link to the cell at `address` is led to `next` instead. -/
def redirect (address : ℕ) (next link : Option ℕ) : Option ℕ :=
  if link = some address then next else link

/-- Every link to the cell at `address` is led around it. -/
def unlink (address : ℕ) (next : Option ℕ) (cells : Cells α) : Cells α :=
  fun other ↦ (cells other).map fun cell ↦ { cell with next := redirect address next cell.next }

theorem redirect_of_ne {address : ℕ} {next link : Option ℕ} (h : link ≠ some address) :
    redirect address next link = link :=
  if_neg h

theorem first_ne_of_notMem {entries : List (ℕ × α)} {address : ℕ}
    (h : address ∉ entries.map Prod.fst) : first entries ≠ some address := by
  cases entries with
  | nil => simp [first]
  | cons entry rest =>
    rintro hfirst
    rw [← Option.some.inj hfirst] at h
    exact h List.mem_cons_self

theorem Chain.unlink_of_notMem {cells : Cells α} {start next : Option ℕ}
    {entries : List (ℕ × α)} {address : ℕ} (h : Chain cells start entries)
    (haddress : address ∉ entries.map Prod.fst) :
    Chain (unlink address next cells) start entries := by
  induction entries generalizing start with
  | nil => exact h
  | cons entry rest ih =>
    have hrest : address ∉ rest.map Prod.fst := fun hmem ↦ haddress (List.mem_cons_of_mem _ hmem)
    refine ⟨h.1, first rest, ?_, ih h.tail.2 hrest⟩
    rw [unlink, h.tail.1, Option.map_some, redirect_of_ne (first_ne_of_notMem hrest)]

theorem Chain.unlink {cells : Cells α} {start : Option ℕ} {before after : List (ℕ × α)}
    {entry : ℕ × α} (h : Chain cells start (before ++ entry :: after)) :
    Chain (unlink entry.1 (first after) cells) (redirect entry.1 (first after) start)
      (before ++ after) := by
  induction before generalizing start with
  | nil =>
    have hnodup := h.nodup
    rw [List.nil_append, List.map_cons, List.nodup_cons] at hnodup
    rw [redirect, if_pos h.1]
    exact h.tail.2.unlink_of_notMem hnodup.1
  | cons previous before ih =>
    have hne : previous.1 ≠ entry.1 := by
      have hnodup := h.nodup
      rw [List.cons_append, List.map_cons, List.nodup_cons] at hnodup
      intro heq
      apply hnodup.1
      rw [heq]
      exact List.mem_map_of_mem (List.mem_append_right _ List.mem_cons_self)
    have hstart : start ≠ some entry.1 := by
      rw [h.1]
      simpa using hne
    rw [redirect_of_ne hstart]
    refine ⟨h.1, _, ?_, ih h.tail.2⟩
    rw [LinkedList.unlink, h.tail.1, Option.map_some]

end MsgPerf.Library.LinkedList
