import MsgPerf.Maestro.Acceptance
import MsgPerf.Maestro.MsgpackFormat

/-!
# Kinds of the objects in an accepted note

A well-kinded note has a type and a command of the protocol and, for every member of their layout,
an object of the kind of the member.  The deserializer checks the kind of the type object only;
for every other object it checks whether the object can be stored at all.  An input slips when all
its objects can be stored although one of them is of another kind than its member.
-/

namespace MsgPerf.Maestro

open MsgPerf.Library.ByteMemory

/-- The value of an integer object. -/
def Object.integerValue (object : Object) : Option ℤ :=
  match object.type with
  | .positiveInteger => some object.via.toNat
  | .negativeInteger => some object.via.toInt
  | _ => none

def UnpackReturn.HoldsInteger (result : UnpackReturn) (value : ℕ) : Prop :=
  ∃ object, result = .success object ∧ object.integerValue = some (value : ℤ)

def FieldKind.Matches : FieldKind → Object → Prop
  | .integer, object => object.IsInteger
  | .float, object => object.type = .float
  | .string, object => object.type = .str

/-- The result is an object of the kind of the member. -/
def Field.Kinded (field : Field) (result : UnpackReturn) : Prop :=
  ∃ object, result = .success object ∧ field.kind.Matches object

/-- The objects of a note as the protocol describes it. -/
def WellKinded (results : ℕ → UnpackReturn) : Prop :=
  ∃ (type : RequestType) (command : Command), (results 0).HoldsInteger type.code ∧
    (results 1).HoldsInteger command.code ∧
    ∀ index (field : Field), (layout type command)[index]? = some field →
      field.Kinded (results (2 + index))

/-- One of the objects is not what the protocol has in its place. -/
def WrongKind (results : ℕ → UnpackReturn) (type command : ℕ) : Prop :=
  (∀ known : RequestType, ¬ (results 0).HoldsInteger known.code) ∨
    (∀ known : Command, ¬ (results 1).HoldsInteger known.code) ∨
    ∃ (index : ℕ) (field : Field), (wireLayout type command)[index]? = some field ∧
      ¬ field.Kinded (results (2 + index))

/-- Every object can be stored, or the header of a response is refused and its body stored, and
one of the objects is of the wrong kind. -/
def Slips (results : ℕ → UnpackReturn) : Prop :=
  ∃ type command, head? results = some (type, command) ∧
    ((fieldsOutcome results (wireLayout type command) 2).1 = .stored ∨
      MaskedAt results type command) ∧
    WrongKind results type command

/-- The bit pattern of a small non-negative integer object is its value. -/
theorem toNat_of_integerValue {object : Object} {value : ℕ}
    (h : object.integerValue = some (value : ℤ)) (hsmall : value < 2 ^ 32) :
    object.via.toNat = value ∧ object.assignment = .bytes (toLE 8 value) := by
  unfold Object.integerValue at h
  have hword := object.via.isLt
  have hvalue : object.via.toNat = value ∧ object.IsInteger := by
    cases htype : object.type with
    | positiveInteger =>
      rw [htype] at h
      simp only [Option.some.injEq, Nat.cast_inj] at h
      exact ⟨h, Or.inl htype⟩
    | negativeInteger =>
      rw [htype] at h
      simp only [Option.some.injEq] at h
      rw [BitVec.toInt_eq_toNat_cond] at h
      refine ⟨?_, Or.inr htype⟩
      split at h <;> omega
    | _ =>
      rw [htype] at h
      cases h
  refine ⟨hvalue.1, ?_⟩
  unfold Object.assignment
  rw [hvalue.1]
  rcases hvalue.2 with htype | htype <;> rw [htype]

/-- Known values of type and command arrive in the note unchanged. -/
theorem head?_of_holdsInteger {results : ℕ → UnpackReturn} {type command typeCode commandCode : ℕ}
    (hhead : head? results = some (type, command)) (htype : (results 0).HoldsInteger typeCode)
    (hcommand : (results 1).HoldsInteger commandCode) (htypes : typeCode < 2 ^ 32)
    (hcommands : commandCode < 2 ^ 32) : type = typeCode ∧ command = commandCode := by
  rcases htype with ⟨typeObject, hfirst, htypeValue⟩
  rcases hcommand with ⟨commandObject, hsecond, hcommandValue⟩
  have htypeBits := toNat_of_integerValue htypeValue htypes
  have hcommandBits := toNat_of_integerValue hcommandValue hcommands
  unfold head? at hhead
  rw [hfirst, hsecond] at hhead
  simp only [Option.ite_none_right_eq_some, Option.some.injEq, Prod.mk.injEq] at hhead
  rcases hhead with ⟨_, hwireType, hwireCommand⟩
  constructor
  · rw [← hwireType, wireType, htypeBits.1]
    exact Nat.mod_eq_of_lt htypes
  · rw [← hwireCommand, wireCommand, hcommandBits.2]
    simp only
    rw [List.take_append_of_le_length (by simp), take_toLE (by omega), ofLE_toLE]
    exact Nat.mod_eq_of_lt hcommands

/-- With known type and command, the members read are those of the layout. -/
theorem wellKinded_iff_not_wrongKind {results : ℕ → UnpackReturn} {type command : ℕ}
    (hhead : head? results = some (type, command)) :
    WellKinded results ↔ ¬ WrongKind results type command := by
  have hbound : ∀ known : Command, known.code < 2 ^ 32 :=
    fun known ↦ known.code_le.trans_lt (by norm_num)
  have hbounds : ∀ known : RequestType, known.code < 2 ^ 32 :=
    fun known ↦ known.code_le.trans_lt (by norm_num)
  constructor
  · intro hwell hwrong
    rcases hwell with ⟨knownType, knownCommand, htype, hcommand, hfields⟩
    rcases hwrong with hnotype | hnocommand | ⟨index, field, hfield, hnot⟩
    · exact hnotype knownType htype
    · exact hnocommand knownCommand hcommand
    · have hsame := head?_of_holdsInteger hhead htype hcommand (hbounds _) (hbound _)
      rw [hsame.1, hsame.2, wireLayout_code] at hfield
      exact hnot (hfields index field hfield)
  · intro hright
    unfold WrongKind at hright
    push Not at hright
    rcases hright with ⟨⟨knownType, htype⟩, ⟨knownCommand, hcommand⟩, hfields⟩
    have hsame := head?_of_holdsInteger hhead htype hcommand (hbounds _) (hbound _)
    refine ⟨knownType, knownCommand, htype, hcommand, fun index field hfield ↦ ?_⟩
    apply hfields index field
    rw [hsame.1, hsame.2, wireLayout_code]
    exact hfield

/-- A request to set an option whose number is sent as the boolean `true`. -/
def booleanOption : List UInt8 := [0x00, 0x07, 0xc3, 0xa1, 0x31]

end MsgPerf.Maestro
