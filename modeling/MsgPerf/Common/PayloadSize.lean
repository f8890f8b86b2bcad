import MsgPerf.Common.MessageBuffer
import MsgPerf.Library.Decimal

/-!
# The sizes of payloads

A sender asks a payload strategy for messages of a size.  The fixed strategy fills a buffer of that
size; the variable strategy computes bounds around the size in unsigned arithmetic, fills a buffer
for the upper bound and takes a size between the bounds for every message.  The size is a number
that `atoi` has read from a text, converted to an unsigned type of 64 bits.
-/

namespace MsgPerf.Common

open MsgPerf.Library

/-! ## Filling -/

/-- The indices of the fill loop from the given one down. -/
def indicesDown : ℕ → List ℕ
  | 0 => [0]
  | index + 1 => (index + 1) :: indicesDown index

/-- The indices that the fill functions write.  The first is computed in 64 bits. -/
def fillIndices (capacity : ℕ) : List ℕ := indicesDown ((capacity + (2 ^ 64 - 1)) % 2 ^ 64)

theorem mem_indicesDown (first index : ℕ) : index ∈ indicesDown first ↔ index ≤ first := by
  induction first with
  | zero => simp [indicesDown]
  | succ first ih =>
    rw [indicesDown, List.mem_cons, ih]
    omega

theorem mem_fillIndices {capacity : ℕ} (hpos : 0 < capacity) (hlt : capacity < 2 ^ 64)
    (index : ℕ) : index ∈ fillIndices capacity ↔ index < capacity := by
  rw [fillIndices, mem_indicesDown]
  omega

/-- The fill functions have a result when every index they write is within the block. -/
theorem fillWith_isSome_iff {content : Content} (h : content.Sound)
    (hlt : content.capacity < 2 ^ 64) (value : ℕ → UInt8) :
    (content.fillWith value).isSome ↔
      ∀ index ∈ fillIndices content.capacity, index < content.bytes.length := by
  rw [h.block]
  by_cases hpos : 0 < content.capacity
  · rw [Content.fillWith, if_pos ⟨hpos, h.block.ge⟩]
    simp only [Option.isSome_some, true_iff]
    intro index hindex
    exact (mem_fillIndices hpos hlt index).mp hindex
  · rw [Content.fillWith, if_neg (fun hroom ↦ hpos hroom.1)]
    simp only [Option.isSome_none, Bool.false_eq_true, false_iff]
    intro hevery
    have hzero : 0 ∈ fillIndices content.capacity := by
      rw [fillIndices, mem_indicesDown]
      exact Nat.zero_le _
    exact absurd (hevery 0 hzero) hpos

theorem fillDown_eq (value : ℕ → UInt8) {index : ℕ} {data : List UInt8}
    (h : index < data.length) :
    Content.fillDown value index data =
      (List.range (index + 1)).map value ++ data.drop (index + 1) := by
  induction index generalizing data with
  | zero =>
    obtain ⟨first, rest, rfl⟩ := List.exists_cons_of_length_pos h
    rfl
  | succ index ih =>
    have hlength : index + 1 < (data.set (index + 1) (value (index + 1))).length := by
      rwa [List.length_set]
    have hset : (data.set (index + 1) (value (index + 1))).drop (index + 1) =
        value (index + 1) :: data.drop (index + 2) := by
      rw [List.drop_eq_getElem_cons hlength, List.getElem_set_self,
        List.drop_set_of_lt (Nat.lt_succ_self _)]
    have hrange : (List.range (index + 1 + 1)).map value =
        (List.range (index + 1)).map value ++ [value (index + 1)] := by
      rw [List.range_succ, List.map_append, List.map_singleton]
    rw [Content.fillDown, ih (Nat.lt_of_succ_lt hlength), hset, hrange, List.append_assoc,
      List.singleton_append]

/-- A new buffer is filled from its first byte to its last. -/
theorem fillWith_msgContentDataNew {size : ℕ} (hpos : 0 < size) (value : ℕ → UInt8) :
    (Content.msgContentDataNew size).fillWith value =
      some ⟨some ((List.range size).map value), size, size⟩ := by
  have hblock : (Content.msgContentDataNew size).bytes.length = size := List.length_replicate
  rw [Content.fillWith, if_pos ⟨hpos, hblock.ge⟩]
  simp only [Content.msgContentDataNew, Option.map_some]
  rw [fillDown_eq value (by rw [List.length_replicate]; omega), Nat.sub_add_cancel hpos,
    List.drop_of_length_le (by rw [List.length_replicate]), List.append_nil]

/-! ## The strategies -/

/-- `pl_fixed_load` leaves the buffer as it is and returns the static `initial_size`. -/
def Content.plFixedLoad (content : Content) (initialSize : ℕ) : Content × ℕ :=
  (content, initialSize)

/-- The sizes that a buffer has after each of some calls of `pl_fixed_load`. -/
def plFixedLoads (initialSize : ℕ) : ℕ → Content → List ℕ
  | 0, _ => []
  | count + 1, content =>
      let loaded := (content.plFixedLoad initialSize).1
      loaded.size :: plFixedLoads initialSize count loaded

/-- The sizes that a buffer has after each of some calls of `pl_variable_load`, which draw the given
random numbers. -/
def plVariableLoads (bounds : VariableBounds) : List ℕ → Content → Option (List ℕ)
  | [], _ => some []
  | random :: rest, content =>
      (content.plVariableLoad bounds random).bind fun loaded ↦
        (plVariableLoads bounds rest loaded).map fun sizes ↦ loaded.size :: sizes

/-- An initialized buffer is filled from its first byte to its last and nowhere else. -/
def FillsAll (value : ℕ → UInt8) (content : Content) : Prop :=
  content.bytes = (List.range content.capacity).map value ∧
    ∀ index, index ∈ fillIndices content.capacity ↔ index < content.capacity

/-- The fixed strategy fills the buffer and leaves the requested size in it. -/
def FixedSized (size : ℕ) : Prop :=
  ∀ content : Content, ∃ after, content.plFixedInit size true true = some after ∧
    FillsAll (fun _ ↦ 0x64) after ∧ ∀ count, ∀ loaded ∈ plFixedLoads size count after, loaded = size

/-- The distance of the bounds from the size: five percent, or one. -/
def margin (size : ℕ) : ℕ := if 100 < size then size / 100 * 5 else 1

/-- No computation of `pl_variable_init` wraps, and the limit is no zero divisor. -/
structure BoundsExact (size : ℕ) : Prop where
  lower : ((variableBounds size).lower : ℤ) = size - margin size
  upper : ((variableBounds size).upper : ℤ) = size + margin size
  limit : ((variableBounds size).limit : ℤ) =
    (variableBounds size).upper - (variableBounds size).lower
  limit_pos : 0 < (variableBounds size).limit

/-- The sizes differ by at most one or five percent. -/
def NearSize (size loaded : ℕ) : Prop :=
  ((loaded : ℤ) - size).natAbs ≤ 1 ∨ 20 * ((loaded : ℤ) - size).natAbs ≤ size

/-- The variable strategy fills the buffer, and every load gives a size near the requested one, as
the sum of the lower bound and a remainder that does not wrap. -/
def VariableSized (size : ℕ) : Prop :=
  BoundsExact size ∧
  ∀ (content : Content) (fill : ℕ → ℕ), ∃ after,
    content.plVariableInit size true true fill = some after ∧
    FillsAll (fun index ↦ Content.dict.getD
      (fill (after.capacity - 1 - index) % Content.dict.length) 0) after ∧
    ∀ randoms, ∃ sizes, plVariableLoads (variableBounds size) randoms after = some sizes ∧
      sizes = randoms.map (fun random ↦
        (variableBounds size).lower + random % (variableBounds size).limit) ∧
      ∀ loaded ∈ sizes, NearSize size loaded

/-- Both strategies give messages of the requested size. -/
def PayloadSized (size : ℕ) : Prop := FixedSized size ∧ VariableSized size

/-! ## When the sizes are right -/

theorem fixedSized_iff {size : ℕ} (hlt : size < 2 ^ 64) : FixedSized size ↔ 0 < size := by
  constructor
  · intro hsized
    by_contra hzero
    obtain ⟨after, hafter, -⟩ := hsized .zero
    have hnone : Content.zero.plFixedInit size true true = none := by
      rw [Nat.eq_zero_of_not_pos hzero]
      rfl
    rw [hnone] at hafter
    cases hafter
  · intro hpos content
    refine ⟨_, fillWith_msgContentDataNew hpos _, ⟨rfl, mem_fillIndices hpos hlt⟩, ?_⟩
    intro count
    induction count with
    | zero => simp [plFixedLoads]
    | succ count ih =>
      intro loaded hloaded
      rcases List.mem_cons.mp hloaded with hfirst | hrest
      · exact hfirst
      · exact ih loaded hrest

theorem margin_le {size : ℕ} (hpos : 0 < size) : margin size ≤ size := by
  unfold margin
  split_ifs <;> omega

theorem variableBounds_lower {size : ℕ} (hpos : 0 < size) (hlt : size < 2 ^ 64) :
    (variableBounds size).lower = size - margin size := by
  unfold margin
  by_cases hlarge : 100 < size
  · simp only [variableBounds, if_pos hlarge]
  · simp only [variableBounds, if_neg hlarge]
    omega

theorem variableBounds_upper (size : ℕ) :
    (variableBounds size).upper = (size + margin size) % 2 ^ 64 := by
  unfold margin
  by_cases hlarge : 100 < size
  · simp only [variableBounds, if_pos hlarge]
  · simp only [variableBounds, if_neg hlarge]
    omega

theorem variableBounds_limit (size : ℕ) : (variableBounds size).limit =
    ((variableBounds size).upper + (2 ^ 64 - (variableBounds size).lower)) % 2 ^ 64 := rfl

theorem boundsExact_iff {size : ℕ} (hlt : size < 2 ^ 64) :
    BoundsExact size ↔ 0 < size ∧ size + margin size < 2 ^ 64 := by
  constructor
  · intro hexact
    constructor
    · by_contra hzero
      have hlower := hexact.lower
      rw [Nat.eq_zero_of_not_pos hzero] at hlower
      exact absurd hlower (by decide)
    · have hupper := hexact.upper
      rw [variableBounds_upper] at hupper
      omega
  · intro hsize
    obtain ⟨hpos, hroom⟩ := hsize
    have hmargin := margin_le hpos
    have hmarginPos : 0 < margin size := by
      unfold margin
      split_ifs <;> omega
    have hlower := variableBounds_lower hpos hlt
    have hupper := variableBounds_upper size
    rw [Nat.mod_eq_of_lt hroom] at hupper
    have hlimit : (variableBounds size).limit = 2 * margin size := by
      rw [variableBounds_limit, hlower, hupper]
      omega
    constructor <;> omega

/-- A size between exact bounds is near the requested size, and its computation does not wrap. -/
theorem BoundsExact.near {size : ℕ} (h : BoundsExact size) (hlt : size + margin size < 2 ^ 64)
    (random : ℕ) :
    (variableBounds size).lower + random % (variableBounds size).limit < 2 ^ 64 ∧
      NearSize size ((variableBounds size).lower + random % (variableBounds size).limit) := by
  have hrandom := Nat.mod_lt random h.limit_pos
  have hlower := h.lower
  have hupper := h.upper
  have hlimit := h.limit
  have hmargin : margin size ≤ 1 ∨ 20 * margin size ≤ size := by
    unfold margin
    split_ifs <;> omega
  constructor
  · omega
  · unfold NearSize
    omega

theorem plVariableLoads_eq {size : ℕ} (h : BoundsExact size) (hlt : size + margin size < 2 ^ 64)
    (randoms : List ℕ) (content : Content) :
    plVariableLoads (variableBounds size) randoms content = some (randoms.map fun random ↦
      (variableBounds size).lower + random % (variableBounds size).limit) := by
  induction randoms generalizing content with
  | nil => rfl
  | cons random rest ih =>
    have hwraps := Nat.mod_eq_of_lt (h.near hlt random).1
    rw [plVariableLoads, Content.plVariableLoad, if_neg h.limit_pos.ne', Option.bind_some, ih,
      Option.map_some, hwraps, List.map_cons]

theorem variableSized_iff {size : ℕ} (hlt : size < 2 ^ 64) :
    VariableSized size ↔ 0 < size ∧ size + margin size < 2 ^ 64 := by
  constructor
  · intro hsized
    exact (boundsExact_iff hlt).mp hsized.1
  · intro hsize
    have hexact := (boundsExact_iff hlt).mpr hsize
    have hupper : (variableBounds size).upper = size + margin size := by
      exact_mod_cast hexact.upper
    have hpos : 0 < (variableBounds size).upper := by omega
    have hroom : (variableBounds size).upper < 2 ^ 64 := by omega
    refine ⟨hexact, fun content fill ↦ ?_⟩
    refine ⟨_, fillWith_msgContentDataNew hpos _, ⟨rfl, mem_fillIndices hpos hroom⟩, ?_⟩
    intro randoms
    refine ⟨_, plVariableLoads_eq hexact hsize.2 randoms _, rfl, ?_⟩
    intro loaded hloaded
    obtain ⟨random, -, rfl⟩ := List.mem_map.mp hloaded
    exact (hexact.near hsize.2 random).2

/-- For a size that `atoi` has read, both strategies give messages of that size exactly when the
number was positive. -/
theorem payloadSized_iff (value : List Char) :
    PayloadSized (toUnsigned 64 (atoi value)) ↔ 0 < atoi value := by
  have hrange : -2 ^ 31 ≤ atoi value ∧ atoi value < 2 ^ 31 := by
    simp only [atoi, Int.bmod]
    omega
  have hsize : 0 < atoi value ∧ (toUnsigned 64 (atoi value) : ℤ) = atoi value ∨
      atoi value = 0 ∧ toUnsigned 64 (atoi value) = 0 ∨
      atoi value < 0 ∧ (toUnsigned 64 (atoi value) : ℤ) = atoi value + 2 ^ 64 := by
    unfold toUnsigned
    omega
  generalize toUnsigned 64 (atoi value) = size at hsize ⊢
  have hlt : size < 2 ^ 64 := by omega
  rw [PayloadSized, fixedSized_iff hlt, variableSized_iff hlt]
  unfold margin
  split_ifs <;> omega

/-- The text of a size that is no number gives a size of zero. -/
theorem noNumber_not_payloadSized : ¬ PayloadSized (toUnsigned 64 (atoi ['x'])) := by
  have hzero : toUnsigned 64 (atoi ['x']) = 0 := by decide
  intro hsized
  obtain ⟨after, hafter, -⟩ := hsized.1 .zero
  rw [hzero] at hafter
  cases hafter

end MsgPerf.Common
