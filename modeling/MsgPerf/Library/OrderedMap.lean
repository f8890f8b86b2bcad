import Mathlib.Data.List.Nodup
import Mathlib.Tactic

/-!
# Maps that remember the order of insertion

A map is kept as a list of entries.  An assignment replaces the value of a key that is in the list
and appends an entry for a key that is not.  After any assignments to an empty map, the keys are
those that were assigned, in the order of their first assignments, and each has the value of its
last one.
-/

namespace MsgPerf.Library.OrderedMap

variable {Key Value : Type*} [DecidableEq Key]

def assign (key : Key) (value : Value) : List (Key × Value) → List (Key × Value)
  | [] => [(key, value)]
  | entry :: rest =>
      if entry.1 = key then (key, value) :: rest else entry :: assign key value rest

/-- The entries after a sequence of assignments. -/
def assignAll (entries assignments : List (Key × Value)) : List (Key × Value) :=
  assignments.foldl (fun entries assignment ↦ assign assignment.1 assignment.2 entries) entries

/-- The keys of some assignments, in the order in which they occur first. -/
def firstKeys (assignments : List (Key × Value)) : List Key :=
  (assignments.map Prod.fst).eraseDups

/-- The value of the last assignment to a key. -/
def lastValue (key : Key) (assignments : List (Key × Value)) : Option Value :=
  (assignments.filter fun assignment ↦ assignment.1 = key).getLast?.map Prod.snd

/-! ## One assignment -/

theorem assign_of_notMem {key : Key} (value : Value) {entries : List (Key × Value)}
    (h : key ∉ entries.map Prod.fst) : assign key value entries = entries ++ [(key, value)] := by
  induction entries with
  | nil => rfl
  | cons entry rest ih =>
    rw [List.map_cons, List.mem_cons, not_or] at h
    rw [assign, if_neg (Ne.symm h.1), ih h.2, List.cons_append]

/-- With one entry for each key, the entry of the key is replaced and the others stay. -/
theorem assign_of_mem {key : Key} (value : Value) {entries : List (Key × Value)}
    (hmem : key ∈ entries.map Prod.fst) (hnodup : (entries.map Prod.fst).Nodup) :
    assign key value entries =
      entries.map fun entry ↦ if entry.1 = key then (key, value) else entry := by
  induction entries with
  | nil => simp at hmem
  | cons entry rest ih =>
    rw [List.map_cons, List.nodup_cons] at hnodup
    by_cases hkey : entry.1 = key
    · have hrest : ∀ other ∈ rest, other.1 ≠ key := by
        intro other hother hsame
        apply hnodup.1
        rw [hkey, ← hsame]
        exact List.mem_map_of_mem hother
      rw [assign, if_pos hkey, List.map_cons, if_pos hkey]
      congr 1
      calc
        rest = rest.map id := (List.map_id rest).symm
        _ = rest.map fun entry ↦ if entry.1 = key then (key, value) else entry :=
          List.map_congr_left fun other hother ↦ (if_neg (hrest other hother)).symm
    · rw [List.map_cons, List.mem_cons] at hmem
      rw [assign, if_neg hkey, List.map_cons, if_neg hkey,
        ih (hmem.resolve_left (Ne.symm hkey)) hnodup.2]

/-! ## Sequences of assignments -/

theorem lastValue_concat (key : Key) (assignments : List (Key × Value))
    (assignment : Key × Value) :
    lastValue key (assignments ++ [assignment]) =
      if assignment.1 = key then some assignment.2 else lastValue key assignments := by
  unfold lastValue
  rw [List.filter_append, List.filter_singleton]
  by_cases hkey : assignment.1 = key
  · simp [hkey]
  · simp [hkey]

theorem mem_of_lastValue {key : Key} {value : Value} {assignments : List (Key × Value)}
    (h : lastValue key assignments = some value) : (key, value) ∈ assignments := by
  obtain ⟨assignment, hlast, hvalue⟩ := Option.map_eq_some_iff.mp h
  have hmem := List.mem_filter.mp (List.mem_of_getLast? hlast)
  have hkey : assignment.1 = key := by simpa using hmem.2
  rw [← hkey, ← hvalue]
  exact hmem.1

/-- Assignments that are made for the entries of another list, where one key belongs to another. -/
theorem lastValue_append_filterMap {Source Entry : Type*} [DecidableEq Source] {key : Key}
    {source : Source} {value : Entry → Value} {assigns : Source × Entry → Option (Key × Value)}
    (hkey : ∀ entry, assigns (source, entry) = some (key, value entry))
    (hother : ∀ pair : Source × Entry, pair.1 ≠ source → ∀ assigned ∈ assigns pair,
      assigned.1 ≠ key)
    (initial : List (Key × Value)) (pairs : List (Source × Entry)) :
    lastValue key (initial ++ pairs.filterMap assigns) =
      (lastValue source pairs).elim (lastValue key initial) fun entry ↦ some (value entry) := by
  induction pairs using List.reverseRecOn with
  | nil => simp [lastValue]
  | append_singleton pairs pair ih =>
    rw [List.filterMap_append, ← List.append_assoc, List.filterMap_cons, List.filterMap_nil,
      lastValue_concat]
    by_cases hpair : pair.1 = source
    · have hentry : assigns pair = some (key, value pair.2) := by rw [← hkey, ← hpair]
      rw [hentry, lastValue_concat, if_pos rfl, if_pos hpair]
      rfl
    · rw [if_neg hpair, ← ih]
      cases hassigned : assigns pair with
      | none => simp
      | some assigned => rw [lastValue_concat, if_neg (hother pair hpair assigned hassigned)]

theorem mem_firstKeys {key : Key} {assignments : List (Key × Value)} :
    key ∈ firstKeys assignments ↔ (lastValue key assignments).isSome := by
  rw [firstKeys, List.mem_eraseDups, lastValue, Option.isSome_map]
  simp

theorem firstKeys_concat (assignments : List (Key × Value)) (assignment : Key × Value) :
    firstKeys (assignments ++ [assignment]) =
      if assignment.1 ∈ firstKeys assignments then firstKeys assignments
      else firstKeys assignments ++ [assignment.1] := by
  have hmember : assignment.1 ∈ firstKeys assignments ↔
      assignment.1 ∈ assignments.map Prod.fst := List.mem_eraseDups
  by_cases hmem : assignment.1 ∈ firstKeys assignments
  · rw [if_pos hmem, firstKeys, List.map_append, List.eraseDups_append]
    have hnone : [assignment.1].removeAll (assignments.map Prod.fst) = [] := by
      simpa [List.removeAll] using hmember.mp hmem
    rw [List.map_singleton, hnone, List.eraseDups_nil, List.append_nil, firstKeys]
  · rw [if_neg hmem, firstKeys, List.map_append, List.eraseDups_append]
    have hone : [assignment.1].removeAll (assignments.map Prod.fst) = [assignment.1] := by
      simpa [List.removeAll] using hmember.not.mp hmem
    rw [List.map_singleton, hone, firstKeys]
    rfl

theorem nodup_firstKeys (assignments : List (Key × Value)) : (firstKeys assignments).Nodup := by
  induction assignments using List.reverseRecOn with
  | nil => exact List.nodup_nil
  | append_singleton assignments assignment ih =>
    rw [firstKeys_concat]
    by_cases hmem : assignment.1 ∈ firstKeys assignments
    · rw [if_pos hmem]
      exact ih
    · rw [if_neg hmem]
      rw [← List.concat_eq_append]
      exact ih.concat hmem

theorem assignAll_concat (entries assignments : List (Key × Value)) (assignment : Key × Value) :
    assignAll entries (assignments ++ [assignment]) =
      assign assignment.1 assignment.2 (assignAll entries assignments) := by
  rw [assignAll, List.foldl_append]
  rfl

/-- The entries of a map that was empty before the assignments. -/
theorem assignAll_nil (assignments : List (Key × Value)) :
    (assignAll [] assignments).map (fun entry ↦ (entry.1, some entry.2)) =
      (firstKeys assignments).map fun key ↦ (key, lastValue key assignments) := by
  induction assignments using List.reverseRecOn with
  | nil => rfl
  | append_singleton assignments assignment ih =>
    have hkeys : (assignAll [] assignments).map Prod.fst = firstKeys assignments := by
      have hfirst := congrArg (List.map Prod.fst) ih
      simpa [Function.comp_def] using hfirst
    rw [assignAll_concat, firstKeys_concat]
    by_cases hmem : assignment.1 ∈ firstKeys assignments
    · rw [if_pos hmem, assign_of_mem _ (hkeys ▸ hmem) (hkeys ▸ nodup_firstKeys assignments)]
      calc
        _ = ((assignAll [] assignments).map fun entry ↦ (entry.1, some entry.2)).map
            fun entry ↦ if entry.1 = assignment.1 then (assignment.1, some assignment.2)
              else entry := by
          rw [List.map_map, List.map_map]
          apply List.map_congr_left
          intro entry _
          by_cases hentry : entry.1 = assignment.1
          · simp [hentry]
          · simp [hentry]
        _ = (firstKeys assignments).map
            fun key ↦ (key, lastValue key (assignments ++ [assignment])) := by
          rw [ih, List.map_map]
          apply List.map_congr_left
          intro key _
          by_cases hkey : key = assignment.1
          · simp [hkey, lastValue_concat]
          · simp [hkey, lastValue_concat, Ne.symm hkey]
    · rw [if_neg hmem, assign_of_notMem _ (hkeys ▸ hmem), List.map_append, List.map_append, ih]
      congr 1
      · apply List.map_congr_left
        intro key hkey
        have hother : assignment.1 ≠ key := by
          intro hsame
          exact hmem (hsame ▸ hkey)
        rw [lastValue_concat, if_neg hother]
      · simp [lastValue_concat]

theorem keys_assignAll_nil (assignments : List (Key × Value)) :
    (assignAll [] assignments).map Prod.fst = firstKeys assignments := by
  have hkeys := congrArg (List.map Prod.fst) (assignAll_nil assignments)
  simpa [Function.comp_def] using hkeys

end MsgPerf.Library.OrderedMap
