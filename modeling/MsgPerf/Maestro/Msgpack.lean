import Mathlib.Data.List.Basic
import Mathlib.Tactic

/-!
# The msgpack-c interface used by the note codec

The note codec packs and unpacks through msgpack-c, which is not part of the repository.  The
library is a parameter here: `Msgpack` lists the calls the codec makes, and `Msgpack.Lawful`
states what it relies on, namely that packed objects are unpacked in order with the same 64-bit
integer pattern, the same double bits and the same string bytes.

An unpacked object is the C structure: a type tag and a union.  The first word of the union is
kept as a bit pattern because the codec reads the `str.size` member of it whatever the tag is.
-/

namespace MsgPerf.Maestro

/-- `msgpack_object_type`, with the numeric values used in error messages. -/
inductive ObjectType where
  | nil | boolean | positiveInteger | negativeInteger | float | str | array | map | bin | ext
  deriving DecidableEq, Repr

def ObjectType.code : ObjectType → ℕ
  | .nil => 0
  | .boolean => 1
  | .positiveInteger => 2
  | .negativeInteger => 3
  | .float => 4
  | .str => 5
  | .array => 6
  | .map => 7
  | .bin => 8
  | .ext => 9

/-- `msgpack_object`: the tag, the first word of the `via` union and, for a string, the bytes that
`via.str.ptr` points at. -/
structure Object where
  type : ObjectType
  via : BitVec 64
  bytes : List UInt8
  size_eq : type = .str → via.toNat % 2 ^ 32 = bytes.length
  deriving DecidableEq, Repr

namespace Object

/-- The `via.str.size` member of the union, whatever was stored in it. -/
def strSize (object : Object) : ℕ := object.via.toNat % 2 ^ 32

theorem strSize_of_str {object : Object} (h : object.type = .str) :
    object.strSize = object.bytes.length :=
  object.size_eq h

/-- An object that is not a string; the codec never looks behind its first word. -/
def scalar (type : ObjectType) (via : BitVec 64) (h : type ≠ .str) : Object where
  type := type
  via := via
  bytes := []
  size_eq := fun hstr ↦ absurd hstr h

def integer (via : BitVec 64) : Object := scalar .positiveInteger via (by decide)

/-- A string object; the words of the format are 32 bits wide. -/
def text (bytes : List UInt8) (h : bytes.length < 2 ^ 32) : Object where
  type := .str
  via := BitVec.ofNat 64 bytes.length
  bytes := bytes
  size_eq := by
    intro _
    rw [BitVec.toNat_ofNat]
    omega

def IsInteger (object : Object) : Prop :=
  object.type = .positiveInteger ∨ object.type = .negativeInteger

instance (object : Object) : Decidable object.IsInteger := inferInstanceAs (Decidable (_ ∨ _))

/-- What `msgpack_pack_uint*` packs: the value is unpacked as a positive integer. -/
def IsUnsigned (value : BitVec 64) (object : Object) : Prop :=
  object.type = .positiveInteger ∧ object.via = value

/-- What `msgpack_pack_int*` packs: the tag follows the sign and the pattern is kept. -/
def IsSigned (value : BitVec 64) (object : Object) : Prop :=
  object.type = (if value.msb then .negativeInteger else .positiveInteger) ∧ object.via = value

def IsDouble (value : BitVec 64) (object : Object) : Prop :=
  object.type = .float ∧ object.via = value

def IsText (bytes : List UInt8) (object : Object) : Prop :=
  object.type = .str ∧ object.bytes = bytes

theorem IsUnsigned.isInteger {value : BitVec 64} {object : Object}
    (h : object.IsUnsigned value) : object.IsInteger := Or.inl h.1

theorem IsSigned.isInteger {value : BitVec 64} {object : Object}
    (h : object.IsSigned value) : object.IsInteger := by
  obtain ⟨htype, _⟩ := h
  unfold IsInteger
  split at htype
  · exact Or.inr htype
  · exact Or.inl htype

theorem IsSigned.isUnsigned {value : BitVec 64} {object : Object}
    (h : object.IsSigned value) (hsign : value.msb = false) : object.IsUnsigned value := by
  obtain ⟨htype, hvia⟩ := h
  rw [hsign] at htype
  exact ⟨htype, hvia⟩

end Object

/-- `msgpack_unpack_return`, with the object that a successful call leaves in `msg->data`. -/
inductive UnpackReturn where
  | success (object : Object)
  | extraBytes
  | needMore
  | parseError
  | nomemError
  deriving DecidableEq, Repr

/-- The msgpack-c calls made by the codec.  `unpackNext data offset` returns the outcome and the
offset left in `*off`, also when it fails. -/
structure Msgpack where
  packInt8 : BitVec 8 → List UInt8
  packUint8 : BitVec 8 → List UInt8
  packUint32 : BitVec 32 → List UInt8
  packInt64 : BitVec 64 → List UInt8
  packUint64 : BitVec 64 → List UInt8
  packDouble : BitVec 64 → List UInt8
  packStr : ℕ → List UInt8
  packStrBody : List UInt8 → List UInt8
  unpackNext : List UInt8 → ℕ → UnpackReturn × ℕ

namespace Msgpack

variable (mp : Msgpack)

/-- The offset at which the call number `index` of `msgpack_unpack_next` starts. -/
def offsetAt (input : List UInt8) : ℕ → ℕ
  | 0 => 0
  | index + 1 => (mp.unpackNext input (offsetAt input index)).2

/-- What call number `index` of `msgpack_unpack_next` on the input returns.  A finite sequence of
objects is a sequence of results that is successful up to its length. -/
def result (input : List UInt8) (index : ℕ) : UnpackReturn :=
  (mp.unpackNext input (mp.offsetAt input index)).1

theorem unpackNext_offsetAt (input : List UInt8) (index : ℕ) :
    mp.unpackNext input (mp.offsetAt input index) =
      (mp.result input index, mp.offsetAt input (index + 1)) := rfl

/-- Wherever the packed bytes stand, one unpack call reads them and nothing else. -/
def Unpacks (packed : List UInt8) (expected : Object → Prop) : Prop :=
  ∀ before after, ∃ object, expected object ∧
    mp.unpackNext (before ++ (packed ++ after)) before.length =
      (.success object, before.length + packed.length)

/-- The behaviour of msgpack-c that the note codec relies on. -/
structure Lawful : Prop where
  int8 : ∀ value, mp.Unpacks (mp.packInt8 value) (Object.IsSigned (value.signExtend 64))
  uint8 : ∀ value, mp.Unpacks (mp.packUint8 value) (Object.IsUnsigned (value.setWidth 64))
  uint32 : ∀ value, mp.Unpacks (mp.packUint32 value) (Object.IsUnsigned (value.setWidth 64))
  int64 : ∀ value, mp.Unpacks (mp.packInt64 value) (Object.IsSigned value)
  uint64 : ∀ value, mp.Unpacks (mp.packUint64 value) (Object.IsUnsigned value)
  double : ∀ value, mp.Unpacks (mp.packDouble value) (Object.IsDouble value)
  str : ∀ bytes, bytes.length < 2 ^ 32 →
    mp.Unpacks (mp.packStr bytes.length ++ mp.packStrBody bytes) (Object.IsText bytes)

variable {mp}

/-- Pieces that unpack one after the other make the first results of the whole input. -/
theorem result_flatten {pieces : List (List UInt8)} {expected : List (Object → Prop)}
    (h : List.Forall₂ mp.Unpacks pieces expected) (before after : List UInt8) (start : ℕ)
    (hstart : mp.offsetAt (before ++ (pieces.flatten ++ after)) start = before.length) :
    ∀ index (hindex : index < expected.length), ∃ object, expected[index] object ∧
      mp.result (before ++ (pieces.flatten ++ after)) (start + index) = .success object := by
  induction h generalizing before start with
  | nil =>
    intro index hindex
    simp at hindex
  | @cons piece expect pieces expected hpiece _ ih =>
    have hinput : before ++ ((piece :: pieces).flatten ++ after) =
        (before ++ piece) ++ (pieces.flatten ++ after) := by
      simp
    obtain ⟨object, hobject, hunpack⟩ := hpiece before (pieces.flatten ++ after)
    rw [← List.append_assoc before piece] at hunpack
    rw [hinput] at hstart ⊢
    have hnext : mp.offsetAt (before ++ piece ++ (pieces.flatten ++ after)) (start + 1) =
        (before ++ piece).length := by
      rw [offsetAt, hstart, hunpack, List.length_append]
    intro index hindex
    cases index with
    | zero =>
      refine ⟨object, hobject, ?_⟩
      rw [Nat.add_zero, result, hstart, hunpack]
    | succ index =>
      obtain ⟨other, hother, hresult⟩ := ih (before ++ piece) (start + 1) hnext index
        (by simpa using hindex)
      refine ⟨other, by simpa using hother, ?_⟩
      rw [← hresult]
      congr 1
      omega

end Msgpack

end MsgPerf.Maestro
