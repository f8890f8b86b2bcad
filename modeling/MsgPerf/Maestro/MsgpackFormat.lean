import MsgPerf.Library.ByteMemory
import MsgPerf.Maestro.Msgpack

/-!
# An instance of the msgpack-c interface

`msgpackFormat` implements the part of the MessagePack format that notes are made of: integers in
their shortest form, doubles, strings, nil and booleans.  Containers, binary data and extensions
never occur in a note and are answered with a parse error.  The instance obeys the laws assumed of
the library, so they can be met, and it lets the codec run on concrete bytes.
-/

namespace MsgPerf.Maestro.MsgpackFormat

open MsgPerf.Library.ByteMemory

/-! ## Packing -/

/-- The big-endian bytes of a word. -/
def toBE (width value : ℕ) : List UInt8 := (toLE width value).reverse

def ofBE (bytes : List UInt8) : ℕ := ofLE bytes.reverse

@[simp] theorem length_toBE (width value : ℕ) : (toBE width value).length = width := by
  simp [toBE]

theorem ofBE_toBE (width value : ℕ) : ofBE (toBE width value) = value % 256 ^ width := by
  rw [ofBE, toBE, List.reverse_reverse, ofLE_toLE]

/-- A tag byte followed by a word. -/
def tagged (tag width value : ℕ) : List UInt8 := UInt8.ofNat tag :: toBE width value

def packUnsigned (value : BitVec 64) : List UInt8 :=
  if value.toNat < 2 ^ 7 then [UInt8.ofNat value.toNat]
  else if value.toNat < 2 ^ 8 then tagged 0xcc 1 value.toNat
  else if value.toNat < 2 ^ 16 then tagged 0xcd 2 value.toNat
  else if value.toNat < 2 ^ 32 then tagged 0xce 4 value.toNat
  else tagged 0xcf 8 value.toNat

/-- A value with the sign bit is packed in the fewest bytes that keep it negative. -/
def packSigned (value : BitVec 64) : List UInt8 :=
  if value.msb then
    if 2 ^ 64 - 2 ^ 5 ≤ value.toNat then [UInt8.ofNat value.toNat]
    else if 2 ^ 64 - 2 ^ 7 ≤ value.toNat then tagged 0xd0 1 value.toNat
    else if 2 ^ 64 - 2 ^ 15 ≤ value.toNat then tagged 0xd1 2 value.toNat
    else if 2 ^ 64 - 2 ^ 31 ≤ value.toNat then tagged 0xd2 4 value.toNat
    else tagged 0xd3 8 value.toNat
  else packUnsigned value

def packStrHead (length : ℕ) : List UInt8 :=
  if length < 2 ^ 5 then [UInt8.ofNat (0xa0 + length)]
  else if length < 2 ^ 8 then tagged 0xd9 1 length
  else if length < 2 ^ 16 then tagged 0xda 2 length
  else tagged 0xdb 4 length

/-! ## Unpacking -/

/-- An object with the given bit pattern; the pattern of a word is never a string. -/
inductive Number where
  | unsigned | signed | double
  deriving DecidableEq, Repr

/-- Sign extension of a word of `width` bytes to 64 bits. -/
def signExtend (width value : ℕ) : BitVec 64 :=
  if value < 256 ^ width / 2 then .ofNat 64 value else .ofNat 64 (2 ^ 64 - 256 ^ width + value)

def Number.object (number : Number) (width value : ℕ) : Object :=
  match number with
  | .unsigned => .integer (.ofNat 64 value)
  | .signed =>
      if value < 256 ^ width / 2 then .integer (signExtend width value)
      else .scalar .negativeInteger (signExtend width value) (by decide)
  | .double => .scalar .float (.ofNat 64 value) (by decide)

/-- What follows a tag byte. -/
inductive Shape where
  | immediate (object : Object)
  | number (number : Number) (width : ℕ)
  | shortText (length : ℕ)
  | text (width : ℕ)
  | other
  deriving DecidableEq, Repr

def shapeOfTag (tag : ℕ) : Shape :=
  if tag < 0x80 then .immediate (Number.unsigned.object 1 tag)
  else if 0xe0 ≤ tag then .immediate (Number.signed.object 1 tag)
  else if 0xa0 ≤ tag ∧ tag < 0xc0 then .shortText (tag - 0xa0)
  else if tag = 0xc0 then .immediate (.scalar .nil 0 (by decide))
  else if tag = 0xc2 then .immediate (.scalar .boolean 0 (by decide))
  else if tag = 0xc3 then .immediate (.scalar .boolean 1 (by decide))
  else if tag = 0xcb then .number .double 8
  else if tag = 0xcc then .number .unsigned 1
  else if tag = 0xcd then .number .unsigned 2
  else if tag = 0xce then .number .unsigned 4
  else if tag = 0xcf then .number .unsigned 8
  else if tag = 0xd0 then .number .signed 1
  else if tag = 0xd1 then .number .signed 2
  else if tag = 0xd2 then .number .signed 4
  else if tag = 0xd3 then .number .signed 8
  else if tag = 0xd9 then .text 1
  else if tag = 0xda then .text 2
  else if tag = 0xdb then .text 4
  else .other

/-- The body of a string, after its length. -/
def unpackText (length : ℕ) (rest : List UInt8) (offset : ℕ) : UnpackReturn × ℕ :=
  if h : length ≤ rest.length ∧ length < 2 ^ 32 then
    (.success (.text (rest.take length) (by rw [List.length_take]; omega)), offset + length)
  else (.needMore, offset)

/-- A truncated object leaves the offset behind the bytes that were understood. -/
def unpackShape (shape : Shape) (rest : List UInt8) (offset : ℕ) : UnpackReturn × ℕ :=
  match shape with
  | .immediate object => (.success object, offset)
  | .number number width =>
      if width ≤ rest.length then
        (.success (number.object width (ofBE (rest.take width))), offset + width)
      else (.needMore, offset)
  | .shortText length => unpackText length rest offset
  | .text width =>
      if width ≤ rest.length then
        unpackText (ofBE (rest.take width)) (rest.drop width) (offset + width)
      else (.needMore, offset)
  | .other => (.parseError, offset - 1)

def unpackNext (input : List UInt8) (offset : ℕ) : UnpackReturn × ℕ :=
  match input.drop offset with
  | [] => (.needMore, offset)
  | tag :: rest => unpackShape (shapeOfTag tag.toNat) rest (offset + 1)

end MsgpackFormat

/-- The MessagePack format as an instance of the interface. -/
def msgpackFormat : Msgpack where
  packInt8 value := MsgpackFormat.packSigned (value.signExtend 64)
  packUint8 value := MsgpackFormat.packUnsigned (value.setWidth 64)
  packUint32 value := MsgpackFormat.packUnsigned (value.setWidth 64)
  packInt64 := MsgpackFormat.packSigned
  packUint64 := MsgpackFormat.packUnsigned
  packDouble value := MsgpackFormat.tagged 0xcb 8 value.toNat
  packStr := MsgpackFormat.packStrHead
  packStrBody bytes := bytes
  unpackNext := MsgpackFormat.unpackNext

namespace MsgpackFormat

/-! ## The laws -/

/-- Unpacking starts at the tag byte, wherever it stands. -/
theorem unpackNext_append (before rest : List UInt8) (tag : UInt8) :
    unpackNext (before ++ tag :: rest) before.length =
      unpackShape (shapeOfTag tag.toNat) rest (before.length + 1) := by
  rw [unpackNext, List.drop_left]

theorem unpacks_immediate {tag : ℕ} {object : Object} {expected : Object → Prop} (htag : tag < 256)
    (hshape : shapeOfTag tag = .immediate object) (h : expected object) :
    msgpackFormat.Unpacks [UInt8.ofNat tag] expected := by
  intro before after
  refine ⟨object, h, ?_⟩
  have hbyte : (UInt8.ofNat tag).toNat = tag := by simpa using htag
  change unpackNext (before ++ UInt8.ofNat tag :: after) before.length = _
  rw [unpackNext_append, hbyte, hshape]
  rfl

theorem unpacks_number {tag width value : ℕ} {number : Number} {expected : Object → Prop}
    (htag : tag < 256) (hshape : shapeOfTag tag = .number number width)
    (h : expected (number.object width (value % 256 ^ width))) :
    msgpackFormat.Unpacks (tagged tag width value) expected := by
  intro before after
  refine ⟨_, h, ?_⟩
  have hbyte : (UInt8.ofNat tag).toNat = tag := by simpa using htag
  change unpackNext (before ++ UInt8.ofNat tag :: (toBE width value ++ after)) before.length = _
  rw [unpackNext_append, hbyte, hshape]
  simp only [unpackShape, List.length_append, length_toBE, Nat.le_add_right, if_true]
  rw [List.take_left' (length_toBE width value), ofBE_toBE]
  simp only [tagged, List.length_cons, length_toBE]
  congr 1
  omega

theorem unpackText_append (bytes after : List UInt8) (offset : ℕ) (h : bytes.length < 2 ^ 32) :
    unpackText bytes.length (bytes ++ after) offset =
      (.success (.text bytes h), offset + bytes.length) := by
  have hfits : bytes.length ≤ (bytes ++ after).length ∧ bytes.length < 2 ^ 32 :=
    ⟨by simp, h⟩
  simp only [unpackText, dif_pos hfits, List.take_left]

theorem unpacks_text {tag width : ℕ} {bytes : List UInt8} (htag : tag < 256)
    (hshape : shapeOfTag tag = .text width) (hlength : bytes.length < 256 ^ width)
    (h : bytes.length < 2 ^ 32) :
    msgpackFormat.Unpacks (tagged tag width bytes.length ++ bytes) (Object.IsText bytes) := by
  intro before after
  refine ⟨.text bytes h, ⟨rfl, rfl⟩, ?_⟩
  have hbyte : (UInt8.ofNat tag).toNat = tag := by simpa using htag
  have hinput : before ++ (tagged tag width bytes.length ++ bytes ++ after) =
      before ++ UInt8.ofNat tag :: (toBE width bytes.length ++ (bytes ++ after)) := by
    simp [tagged]
  change unpackNext _ _ = _
  rw [hinput, unpackNext_append, hbyte, hshape]
  simp only [unpackShape, List.length_append, length_toBE, Nat.le_add_right, if_true]
  rw [List.take_left' (length_toBE width _), List.drop_left' (length_toBE width _), ofBE_toBE,
    Nat.mod_eq_of_lt hlength, unpackText_append bytes after _ h]
  simp only [tagged, List.length_cons, length_toBE]
  congr 1
  omega

theorem unpacks_shortText {bytes : List UInt8} (hshort : bytes.length < 2 ^ 5) :
    msgpackFormat.Unpacks ([UInt8.ofNat (0xa0 + bytes.length)] ++ bytes) (Object.IsText bytes) := by
  intro before after
  have hlength : bytes.length < 2 ^ 32 := hshort.trans (by norm_num)
  refine ⟨.text bytes hlength, ⟨rfl, rfl⟩, ?_⟩
  have hbyte : (UInt8.ofNat (0xa0 + bytes.length)).toNat = 0xa0 + bytes.length := by
    simp only [UInt8.toNat_ofNat']
    omega
  have hshape : shapeOfTag (0xa0 + bytes.length) = .shortText bytes.length := by
    unfold shapeOfTag
    rw [if_neg (by omega), if_neg (by omega), if_pos (by omega), Nat.add_sub_cancel_left]
  have hinput : before ++ ([UInt8.ofNat (0xa0 + bytes.length)] ++ bytes ++ after) =
      before ++ UInt8.ofNat (0xa0 + bytes.length) :: (bytes ++ after) := by
    simp
  change unpackNext _ _ = _
  rw [hinput, unpackNext_append, hbyte, hshape]
  change unpackText _ _ _ = _
  rw [unpackText_append bytes after _ hlength]
  simp only [List.length_append, List.length_cons, List.length_nil]
  congr 1
  omega

/-- Every unsigned word is found again, whatever form it was packed in. -/
theorem packUnsigned_unpacks (value : BitVec 64) :
    msgpackFormat.Unpacks (packUnsigned value) (Object.IsUnsigned value) := by
  have hword := value.isLt
  have hobject : ∀ width, value.toNat < 256 ^ width →
      (Number.unsigned.object width (value.toNat % 256 ^ width)).IsUnsigned value := by
    intro width hlt
    rw [Nat.mod_eq_of_lt hlt]
    exact ⟨rfl, by simp [Number.object, Object.integer, Object.scalar]⟩
  unfold packUnsigned
  split
  · rename_i hsmall
    have hshape : shapeOfTag value.toNat = .immediate (Number.unsigned.object 1 value.toNat) :=
      if_pos hsmall
    have hfix := hobject 1 (by omega)
    rw [Nat.mod_eq_of_lt (by omega)] at hfix
    exact unpacks_immediate (by omega) hshape hfix
  · split
    · exact unpacks_number (by decide) rfl (hobject 1 (by omega))
    · split
      · exact unpacks_number (by decide) rfl (hobject 2 (by omega))
      · split
        · exact unpacks_number (by decide) rfl (hobject 4 (by omega))
        · exact unpacks_number (by decide) rfl (hobject 8 (by omega))

/-- A negative word that fits `width` bytes is restored by sign extension. -/
theorem signed_object {value : BitVec 64} (hsign : value.msb = true) (width : ℕ)
    (hpower : 0 < 256 ^ width / 2) (hlarge : 256 ^ width ≤ 2 ^ 64)
    (heven : 256 ^ width = 2 * (256 ^ width / 2)) (hdivides : 256 ^ width ∣ 2 ^ 64)
    (hfits : 2 ^ 64 - 256 ^ width / 2 ≤ value.toNat) :
    (Number.signed.object width (value.toNat % 256 ^ width)).IsSigned value := by
  have hword := value.isLt
  have hmod : value.toNat % 256 ^ width = value.toNat - (2 ^ 64 - 256 ^ width) := by
    rcases hdivides with ⟨quotient, hquotient⟩
    have hsplit : value.toNat =
        value.toNat - (2 ^ 64 - 256 ^ width) + 256 ^ width * (quotient - 1) := by
      have hmul : 256 ^ width * (quotient - 1) = 2 ^ 64 - 256 ^ width := by
        rw [Nat.mul_sub, Nat.mul_one, hquotient]
      omega
    conv_lhs => rw [hsplit]
    rw [Nat.add_mul_mod_self_left, Nat.mod_eq_of_lt (by omega)]
  have hnegative : ¬ value.toNat % 256 ^ width < 256 ^ width / 2 := by
    rw [hmod]
    omega
  unfold Number.object
  simp only [if_neg hnegative]
  refine ⟨by rw [hsign]; rfl, ?_⟩
  change signExtend width (value.toNat % 256 ^ width) = value
  rw [signExtend, if_neg hnegative, hmod]
  apply BitVec.eq_of_toNat_eq
  rw [BitVec.toNat_ofNat]
  omega

theorem packSigned_unpacks (value : BitVec 64) :
    msgpackFormat.Unpacks (packSigned value) (Object.IsSigned value) := by
  have hword := value.isLt
  unfold packSigned
  split
  · rename_i hsign
    have hhalf : 2 ^ 63 ≤ value.toNat := by
      have hmsb := BitVec.msb_eq_decide value
      rw [hsign] at hmsb
      simpa using hmsb.symm
    split
    · have hobject := signed_object hsign 1 (by decide) (by decide) (by decide) (by decide)
        (by norm_num; omega)
      have hbyte : UInt8.ofNat value.toNat = UInt8.ofNat (value.toNat % 256) := by
        apply UInt8.toNat_inj.mp
        simp
      rw [hbyte]
      refine unpacks_immediate (Nat.mod_lt _ (by decide)) ?_ hobject
      unfold shapeOfTag
      rw [if_neg (by omega), if_pos (by omega)]
      rfl
    · split
      · exact unpacks_number (by decide) rfl (signed_object hsign 1 (by decide) (by decide)
          (by decide) (by decide) (by norm_num; omega))
      · split
        · exact unpacks_number (by decide) rfl (signed_object hsign 2 (by decide) (by decide)
            (by decide) (by decide) (by norm_num; omega))
        · split
          · exact unpacks_number (by decide) rfl (signed_object hsign 4 (by decide) (by decide)
              (by decide) (by decide) (by norm_num; omega))
          · exact unpacks_number (by decide) rfl (signed_object hsign 8 (by decide) (by decide)
              (by decide) (by decide) (by norm_num; omega))
  · rename_i hsign
    have hunsigned := packUnsigned_unpacks value
    intro before after
    rcases hunsigned before after with ⟨object, hobject, hunpack⟩
    refine ⟨object, ⟨?_, hobject.2⟩, hunpack⟩
    rw [if_neg hsign]
    exact hobject.1

theorem packDouble_unpacks (value : BitVec 64) :
    msgpackFormat.Unpacks (tagged 0xcb 8 value.toNat) (Object.IsDouble value) := by
  have hword := value.isLt
  refine unpacks_number (by decide) rfl ?_
  rw [Nat.mod_eq_of_lt (by omega)]
  exact ⟨rfl, by simp [Number.object, Object.scalar]⟩

theorem packStr_unpacks (bytes : List UInt8) (h : bytes.length < 2 ^ 32) :
    msgpackFormat.Unpacks (packStrHead bytes.length ++ bytes) (Object.IsText bytes) := by
  unfold packStrHead
  split
  · exact unpacks_shortText (by assumption)
  · split
    · exact unpacks_text (by decide) rfl (by omega) h
    · split
      · exact unpacks_text (by decide) rfl (by omega) h
      · exact unpacks_text (by decide) rfl (by omega) h

end MsgpackFormat

/-- The format obeys the laws that the note codec relies on. -/
theorem msgpackFormat_lawful : msgpackFormat.Lawful where
  int8 value := MsgpackFormat.packSigned_unpacks (value.signExtend 64)
  uint8 value := MsgpackFormat.packUnsigned_unpacks (value.setWidth 64)
  uint32 value := MsgpackFormat.packUnsigned_unpacks (value.setWidth 64)
  int64 := MsgpackFormat.packSigned_unpacks
  uint64 := MsgpackFormat.packUnsigned_unpacks
  double := MsgpackFormat.packDouble_unpacks
  str := MsgpackFormat.packStr_unpacks

end MsgPerf.Maestro
