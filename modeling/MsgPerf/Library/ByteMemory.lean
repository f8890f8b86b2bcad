import Mathlib.Data.List.Basic
import Mathlib.Data.List.TakeWhile
import Mathlib.Tactic

/-!
# Byte-addressed blocks and the heap that holds them

A block is a finite row of bytes and a heap is a list of blocks that only grows.  Words are
stored little-endian, so that a store which is wider than the object it is aimed at spills into
the bytes that follow.  Every access is checked against the block it names: an access that leaves
its block has no result, which is how the undefined behaviour of an out-of-bounds store shows.

The read-over-write rules come in three kinds: reading inside the bytes just written, reading
bytes of the same block that were not written, and reading another block.
-/

namespace MsgPerf.Library.ByteMemory

/-! ## Little-endian words -/

/-- The `width` little-endian bytes of `value`; the bits above them are dropped. -/
def toLE : ℕ → ℕ → List UInt8
  | 0, _ => []
  | width + 1, value => UInt8.ofNat value :: toLE width (value / 256)

/-- The natural number with the given little-endian bytes. -/
def ofLE : List UInt8 → ℕ
  | [] => 0
  | byte :: bytes => byte.toNat + 256 * ofLE bytes

@[simp] theorem length_toLE (width value : ℕ) : (toLE width value).length = width := by
  induction width generalizing value with
  | zero => rfl
  | succ width ih => simp [toLE, ih]

theorem ofLE_append (low high : List UInt8) :
    ofLE (low ++ high) = ofLE low + 256 ^ low.length * ofLE high := by
  induction low with
  | nil => simp [ofLE]
  | cons byte low ih =>
    rw [List.cons_append, ofLE, ofLE, ih, List.length_cons, pow_succ]
    ring

theorem ofLE_lt (bytes : List UInt8) : ofLE bytes < 256 ^ bytes.length := by
  induction bytes with
  | nil => simp [ofLE]
  | cons byte bytes ih =>
    have hbyte := byte.toNat_lt
    rw [ofLE, List.length_cons, pow_succ]
    omega

/-- A word is not negative as a signed number exactly when the highest bit of its last byte is
clear. -/
theorem ofLE_lt_half_iff (low : List UInt8) (high : UInt8) :
    ofLE (low ++ [high]) < 128 * 256 ^ low.length ↔ high < 0x80 := by
  have hlow := ofLE_lt low
  rw [ofLE_append, UInt8.lt_iff_toNat_lt]
  simp only [ofLE, Nat.mul_zero, Nat.add_zero]
  constructor
  · intro hhalf
    by_contra hhigh
    have hlarge := Nat.mul_le_mul_left (256 ^ low.length) (not_lt.mp hhigh)
    have hbit : UInt8.toNat 0x80 = 128 := rfl
    rw [hbit] at hlarge
    omega
  · intro hhigh
    calc ofLE low + 256 ^ low.length * high.toNat
        < 256 ^ low.length + 256 ^ low.length * high.toNat := Nat.add_lt_add_right hlow _
      _ = 256 ^ low.length * (high.toNat + 1) := by ring
      _ ≤ 256 ^ low.length * 128 := Nat.mul_le_mul_left _ hhigh
      _ = 128 * 256 ^ low.length := Nat.mul_comm _ _

theorem ofLE_toLE (width value : ℕ) : ofLE (toLE width value) = value % 256 ^ width := by
  induction width generalizing value with
  | zero => simp [toLE, ofLE, Nat.mod_one]
  | succ width ih =>
    have hbyte : (UInt8.ofNat value).toNat = value % 256 := by simp
    rw [toLE, ofLE, ih, hbyte, pow_succ', Nat.mod_mul]

/-- A wide word is its low bytes followed by the bytes of the quotient. -/
theorem toLE_add (low high value : ℕ) :
    toLE (low + high) value = toLE low value ++ toLE high (value / 256 ^ low) := by
  induction low generalizing value with
  | zero => simp [toLE]
  | succ low ih =>
    rw [Nat.succ_add, toLE, toLE, ih, List.cons_append, Nat.div_div_eq_div_mul, pow_succ']

theorem take_toLE {low width : ℕ} (h : low ≤ width) (value : ℕ) :
    (toLE width value).take low = toLE low value := by
  obtain ⟨high, rfl⟩ := Nat.exists_eq_add_of_le h
  rw [toLE_add, List.take_left' (length_toLE low value)]

theorem drop_toLE {low width : ℕ} (h : low ≤ width) (value : ℕ) :
    (toLE width value).drop low = toLE (width - low) (value / 256 ^ low) := by
  obtain ⟨high, rfl⟩ := Nat.exists_eq_add_of_le h
  rw [toLE_add, List.drop_left' (length_toLE low value), Nat.add_sub_cancel_left]

/-! ## Blocks -/

abbrev Block := List UInt8

/-- The bytes of a window of the block. -/
def Block.read (block : Block) (offset width : ℕ) : Option (List UInt8) :=
  if offset + width ≤ block.length then some ((block.drop offset).take width) else none

/-- Overwrite the window that starts at `offset` with `data`. -/
def Block.write (block : Block) (offset : ℕ) (data : List UInt8) : Option Block :=
  if offset + data.length ≤ block.length then
    some (block.take offset ++ (data ++ block.drop (offset + data.length)))
  else none

theorem Block.write_of_le {block : Block} {offset : ℕ} {data : List UInt8}
    (h : offset + data.length ≤ block.length) :
    block.write offset data =
      some (block.take offset ++ (data ++ block.drop (offset + data.length))) := by
  rw [Block.write, if_pos h]

theorem Block.write_eq_some {block after : Block} {offset : ℕ} {data : List UInt8}
    (h : block.write offset data = some after) :
    offset + data.length ≤ block.length ∧
      after = block.take offset ++ (data ++ block.drop (offset + data.length)) := by
  unfold Block.write at h
  split at h
  · rename_i hfits
    exact ⟨hfits, (Option.some.inj h).symm⟩
  · cases h

theorem Block.length_write {block after : Block} {offset : ℕ} {data : List UInt8}
    (h : block.write offset data = some after) : after.length = block.length := by
  obtain ⟨hfits, rfl⟩ := Block.write_eq_some h
  simp only [List.length_append, List.length_take, List.length_drop]
  omega

/-- Reading inside the written window returns the matching part of the written data. -/
theorem Block.read_write_within {block after : Block} {offset : ℕ} {data : List UInt8}
    (h : block.write offset data = some after) (start width : ℕ)
    (hwindow : start + width ≤ data.length) :
    after.read (offset + start) width = some ((data.drop start).take width) := by
  have hlength := Block.length_write h
  obtain ⟨hfits, rfl⟩ := Block.write_eq_some h
  have htake : (block.take offset).length = offset := by
    rw [List.length_take]
    omega
  rw [Block.read, if_pos (by omega)]
  congr 1
  rw [List.drop_append, htake, List.drop_eq_nil_of_le (by omega), List.nil_append,
    Nat.add_sub_cancel_left, List.drop_append_of_le_length (by omega),
    List.take_append_of_le_length (by rw [List.length_drop]; omega)]

/-- Bytes outside the written window are unchanged. -/
theorem Block.read_write_disjoint {block after : Block} {offset start width : ℕ}
    {data : List UInt8} (h : block.write offset data = some after)
    (hdisjoint : start + width ≤ offset ∨ offset + data.length ≤ start) :
    after.read start width = block.read start width := by
  have hlength := Block.length_write h
  obtain ⟨hfits, rfl⟩ := Block.write_eq_some h
  unfold Block.read
  rw [hlength]
  split
  · congr 1
    apply List.ext_getElem
    · simp only [List.length_take, List.length_drop, List.length_append]
      omega
    · intro index hleft hright
      simp only [List.getElem_take, List.getElem_drop, List.getElem_append, List.length_take]
      simp only [List.length_take, List.length_drop] at hright
      split
      · rfl
      · split
        · omega
        · congr 1
          omega
  · rfl

/-! ## Heaps -/

/-- The block at index `i` has address `i + 1`, so that zero is the null pointer. -/
structure Heap where
  blocks : List Block
  deriving DecidableEq, Repr

namespace Heap

def block? (heap : Heap) (address : ℕ) : Option Block :=
  if address = 0 then none else heap.blocks[address - 1]?

/-- A fresh zeroed block and its address. -/
def alloc (heap : Heap) (size : ℕ) : Heap × ℕ :=
  (⟨heap.blocks ++ [List.replicate size 0]⟩, heap.blocks.length + 1)

def load (heap : Heap) (address offset width : ℕ) : Option (List UInt8) :=
  (heap.block? address).bind fun block ↦ Block.read block offset width

def store (heap : Heap) (address offset : ℕ) (data : List UInt8) : Option Heap :=
  (heap.block? address).bind fun block ↦
    (Block.write block offset data).map fun after ↦ ⟨heap.blocks.set (address - 1) after⟩

def loadWord (heap : Heap) (address offset width : ℕ) : Option ℕ :=
  (heap.load address offset width).map ofLE

def storeWord (heap : Heap) (address offset width value : ℕ) : Option Heap :=
  heap.store address offset (toLE width value)

/-- The C string that starts at `address`: the bytes before the first NUL of the block. -/
def cString (heap : Heap) (address : ℕ) : Option (List UInt8) :=
  (heap.block? address).bind fun block ↦
    if 0 ∈ block then some (block.takeWhile (· ≠ 0)) else none

theorem block?_lt {heap : Heap} {address : ℕ} {block : Block}
    (h : heap.block? address = some block) : 0 < address ∧ address ≤ heap.blocks.length := by
  unfold block? at h
  split at h
  · cases h
  · have hlt := (List.getElem?_eq_some_iff.mp h).1
    omega

theorem block?_alloc_of_some {heap : Heap} {address size : ℕ} {block : Block}
    (h : heap.block? address = some block) : (heap.alloc size).1.block? address = some block := by
  have hlt := block?_lt h
  simp only [block?, alloc, if_neg (by omega : address ≠ 0)] at h ⊢
  rw [List.getElem?_append_left (by omega)]
  exact h

@[simp] theorem block?_alloc_fresh (heap : Heap) (size : ℕ) :
    (heap.alloc size).1.block? (heap.alloc size).2 = some (List.replicate size 0) := by
  simp [block?, alloc]

@[simp] theorem alloc_address (heap : Heap) (size : ℕ) :
    (heap.alloc size).2 = heap.blocks.length + 1 := rfl

@[simp] theorem length_alloc (heap : Heap) (size : ℕ) :
    (heap.alloc size).1.blocks.length = heap.blocks.length + 1 := by
  simp [alloc]

theorem load_alloc_of_some {heap : Heap} {address offset width size : ℕ} {bytes : List UInt8}
    (h : heap.load address offset width = some bytes) :
    (heap.alloc size).1.load address offset width = some bytes := by
  obtain ⟨block, hblock, hread⟩ := Option.bind_eq_some_iff.mp h
  rw [load, block?_alloc_of_some hblock]
  exact hread

theorem cString_alloc_of_some {heap : Heap} {address size : ℕ} {bytes : List UInt8}
    (h : heap.cString address = some bytes) :
    (heap.alloc size).1.cString address = some bytes := by
  obtain ⟨block, hblock, hread⟩ := Option.bind_eq_some_iff.mp h
  rw [cString, block?_alloc_of_some hblock]
  exact hread

/-- A store rewrites one block and leaves the others alone. -/
theorem store_eq_some {heap after : Heap} {address offset : ℕ} {data : List UInt8}
    (h : heap.store address offset data = some after) :
    ∃ block changed, heap.block? address = some block ∧
      Block.write block offset data = some changed ∧
      after.block? address = some changed ∧
      (∀ other, other ≠ address → after.block? other = heap.block? other) ∧
      after.blocks.length = heap.blocks.length := by
  obtain ⟨block, hblock, hrest⟩ := Option.bind_eq_some_iff.mp h
  obtain ⟨changed, hwrite, rfl⟩ := Option.map_eq_some_iff.mp hrest
  have hlt := block?_lt hblock
  refine ⟨block, changed, hblock, hwrite, ?_, ?_, by simp⟩
  · simp only [block?, if_neg (by omega : address ≠ 0)]
    rw [List.getElem?_set_self (by omega)]
  · intro other hother
    unfold block?
    split
    · rfl
    · rw [List.getElem?_set_ne (by omega)]

theorem store_of_le {heap : Heap} {address offset : ℕ} {data : List UInt8} {block : Block}
    (hblock : heap.block? address = some block) (hfits : offset + data.length ≤ block.length) :
    ∃ after, heap.store address offset data = some after := by
  rw [store, hblock, Option.bind_some, Block.write_of_le hfits]
  exact ⟨_, rfl⟩

theorem store_eq_none {heap : Heap} {address offset : ℕ} {data : List UInt8} {block : Block}
    (hblock : heap.block? address = some block) (hfits : ¬ offset + data.length ≤ block.length) :
    heap.store address offset data = none := by
  rw [store, hblock, Option.bind_some, Block.write, if_neg hfits, Option.map_none]

theorem length_store {heap after : Heap} {address offset : ℕ} {data : List UInt8}
    (h : heap.store address offset data = some after) :
    after.blocks.length = heap.blocks.length := by
  obtain ⟨_, _, _, _, _, _, hlength⟩ := store_eq_some h
  exact hlength

theorem load_store_within {heap after : Heap} {address offset : ℕ} {data : List UInt8}
    (h : heap.store address offset data = some after) (start width : ℕ)
    (hwindow : start + width ≤ data.length) :
    after.load address (offset + start) width = some ((data.drop start).take width) := by
  obtain ⟨block, changed, _, hwrite, hafter, _, _⟩ := store_eq_some h
  rw [load, hafter, Option.bind_some]
  exact Block.read_write_within hwrite start width hwindow

theorem load_store_disjoint {heap after : Heap} {address offset start width : ℕ}
    {data : List UInt8} (h : heap.store address offset data = some after)
    (hdisjoint : start + width ≤ offset ∨ offset + data.length ≤ start) :
    after.load address start width = heap.load address start width := by
  obtain ⟨block, changed, hbefore, hwrite, hafter, _, _⟩ := store_eq_some h
  rw [load, load, hafter, hbefore, Option.bind_some, Option.bind_some]
  exact Block.read_write_disjoint hwrite hdisjoint

theorem load_store_other {heap after : Heap} {address other offset start width : ℕ}
    {data : List UInt8} (h : heap.store address offset data = some after)
    (hother : other ≠ address) : after.load other start width = heap.load other start width := by
  obtain ⟨_, _, _, _, _, hframe, _⟩ := store_eq_some h
  rw [load, load, hframe other hother]

theorem cString_store_other {heap after : Heap} {address other offset : ℕ}
    {data : List UInt8} (h : heap.store address offset data = some after)
    (hother : other ≠ address) : after.cString other = heap.cString other := by
  obtain ⟨_, _, _, _, _, hframe, _⟩ := store_eq_some h
  rw [cString, cString, hframe other hother]

/-- Text copied with its terminating NUL to the start of a block reads back as that text. -/
theorem cString_store_text {heap after : Heap} {address : ℕ} {text : List UInt8}
    (h : heap.store address 0 (text ++ [0]) = some after) (htext : 0 ∉ text) :
    after.cString address = some text := by
  obtain ⟨block, changed, _, hwrite, hafter, _, _⟩ := store_eq_some h
  obtain ⟨_, rfl⟩ := Block.write_eq_some hwrite
  rw [cString, hafter, Option.bind_some]
  have hprefix : ∀ byte ∈ text, decide (byte ≠ 0) = true := by
    intro byte hmem
    have hne : byte ≠ 0 := fun hzero ↦ htext (hzero ▸ hmem)
    simp [hne]
  rw [if_pos (by simp), List.take_zero, List.nil_append, List.append_assoc,
    List.takeWhile_append_of_pos hprefix]
  simp

/-! ### Words -/

theorem storeWord_of_le {heap : Heap} {address offset width : ℕ} {block : Block} (value : ℕ)
    (hblock : heap.block? address = some block) (hfits : offset + width ≤ block.length) :
    ∃ after, heap.storeWord address offset width value = some after :=
  store_of_le hblock (by simpa using hfits)

theorem loadWord_storeWord {heap after : Heap} {address offset width value : ℕ}
    (h : heap.storeWord address offset width value = some after) :
    after.loadWord address offset width = some (value % 256 ^ width) := by
  have hload := load_store_within h 0 width (by simp)
  rw [Nat.add_zero, List.drop_zero, List.take_of_length_le (by simp)] at hload
  rw [loadWord, hload, Option.map_some, ofLE_toLE]

/-- The low part of a wide store. -/
theorem loadWord_storeWord_low {heap after : Heap} {address offset low width value : ℕ}
    (h : heap.storeWord address offset width value = some after) (hlow : low ≤ width) :
    after.loadWord address offset low = some (value % 256 ^ low) := by
  have hload := load_store_within h 0 low (by simpa using hlow)
  rw [Nat.add_zero, List.drop_zero, take_toLE hlow] at hload
  rw [loadWord, hload, Option.map_some, ofLE_toLE]

theorem loadWord_store_disjoint {heap after : Heap} {address offset start width : ℕ}
    {data : List UInt8} (h : heap.store address offset data = some after)
    (hdisjoint : start + width ≤ offset ∨ offset + data.length ≤ start) :
    after.loadWord address start width = heap.loadWord address start width := by
  rw [loadWord, loadWord, load_store_disjoint h hdisjoint]

theorem loadWord_store_other {heap after : Heap} {address other offset start width : ℕ}
    {data : List UInt8} (h : heap.store address offset data = some after)
    (hother : other ≠ address) :
    after.loadWord other start width = heap.loadWord other start width := by
  rw [loadWord, loadWord, load_store_other h hother]

theorem loadWord_alloc_of_some {heap : Heap} {address offset width size value : ℕ}
    (h : heap.loadWord address offset width = some value) :
    (heap.alloc size).1.loadWord address offset width = some value := by
  obtain ⟨bytes, hload, rfl⟩ := Option.map_eq_some_iff.mp h
  rw [loadWord, load_alloc_of_some hload, Option.map_some]

end Heap

end MsgPerf.Library.ByteMemory
