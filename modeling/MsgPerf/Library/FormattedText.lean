import Mathlib.Data.List.TakeWhile
import Mathlib.Tactic

/-!
# Fields of formatted texts

The conversion `s` of `printf` pads a text to the width of its field and copies a string up to its
terminating NUL; the conversion `s` of `scanf` skips white space and takes the characters that
follow, up to the next white space, a NUL or the width of its field.  Neither writes or expects a
separator, so that a padded field is read back only when its width and what follows it agree with
the width that is scanned.
-/

namespace MsgPerf.Library

/-- `isspace` in the C locale. -/
def isSpaceByte (byte : UInt8) : Bool := byte = 32 || (9 ≤ byte && byte ≤ 13)

/-- A character that `scanf` takes for a text. -/
def isTokenByte (byte : UInt8) : Bool := byte ≠ 0 && !isSpaceByte byte

/-- A text padded with spaces on the left. -/
def padLeft (width : ℕ) (text : List UInt8) : List UInt8 :=
  List.replicate (width - text.length) 32 ++ text

/-- A text padded with spaces on the right, the flag `-` of the conversion. -/
def padRight (width : ℕ) (text : List UInt8) : List UInt8 :=
  text ++ List.replicate (width - text.length) 32

/-- The string at the beginning of some memory.  There is none if no NUL ends it. -/
def stringAt (memory : List UInt8) : Option (List UInt8) :=
  if 0 ∈ memory then some (memory.takeWhile (· ≠ 0)) else none

/-- The text that `scanf` reads with a width. -/
def scanToken (width : ℕ) (memory : List UInt8) : List UInt8 :=
  ((memory.dropWhile isSpaceByte).takeWhile isTokenByte).take width

theorem length_padLeft {width : ℕ} {text : List UInt8} (h : text.length ≤ width) :
    (padLeft width text).length = width := by
  rw [padLeft, List.length_append, List.length_replicate, Nat.sub_add_cancel h]

/-! ## Strings -/

/-- A string and its NUL are a part of the memory. -/
theorem stringAt_append_nul {memory text : List UInt8} (h : stringAt memory = some text) :
    text ++ [0] = memory.take (text.length + 1) := by
  unfold stringAt at h
  split at h
  next hmem =>
    rw [← Option.some.inj h]
    clear h
    induction memory with
    | nil => simp at hmem
    | cons byte rest ih =>
      by_cases hbyte : byte = 0
      · simp [hbyte]
      · have hrest : 0 ∈ rest := (List.mem_cons.mp hmem).resolve_left (Ne.symm hbyte)
        have htake : (byte :: rest).takeWhile (· ≠ 0) = byte :: rest.takeWhile (· ≠ 0) :=
          List.takeWhile_cons_of_pos (by simpa using hbyte)
        rw [htake, List.cons_append, ih hrest, List.length_cons, List.take_succ_cons]
  · cases h

theorem nul_notMem_of_stringAt {memory text : List UInt8} (h : stringAt memory = some text) :
    0 ∉ text := by
  intro hmem
  unfold stringAt at h
  split at h
  · rw [← Option.some.inj h] at hmem
    have hnul := List.mem_takeWhile_imp hmem
    simp at hnul
  · cases h

/-- Before its last byte the beginning of the memory has no NUL exactly when it is not longer than
the string with its NUL. -/
theorem nul_notMem_dropLast_iff {memory text : List UInt8} (h : stringAt memory = some text)
    {size : ℕ} (hsize : size ≤ memory.length) :
    0 ∉ (memory.take size).dropLast ↔ size ≤ text.length + 1 := by
  have hstring := stringAt_append_nul h
  have hdropLast : (memory.take size).dropLast = memory.take (size - 1) := by
    rw [List.dropLast_eq_take, List.length_take, List.take_take]
    congr 1
    omega
  rw [hdropLast]
  constructor
  · intro hnul
    by_contra hlong
    apply hnul
    have hbegins : memory.take (text.length + 1) <+: memory.take (size - 1) :=
      List.take_prefix_take_left (by omega)
    rw [← hstring] at hbegins
    exact hbegins.subset (by simp)
  · intro hshort hmem
    have htext : memory.take text.length = text := by
      have htake := congrArg (List.take text.length) hstring
      rw [List.take_take, Nat.min_eq_left (Nat.le_succ _), List.take_left] at htake
      exact htake.symm
    have hbegins : memory.take (size - 1) <+: memory.take text.length :=
      List.take_prefix_take_left (by omega)
    rw [htext] at hbegins
    exact nul_notMem_of_stringAt h (hbegins.subset hmem)

/-! ## Fields -/

theorem take_append_eq_iff {α : Type*} (width : ℕ) (text more : List α) :
    (text ++ more).take width = text ↔
      text.length = width ∨ text.length < width ∧ more = [] := by
  constructor
  · intro htake
    have hlength := congrArg List.length htake
    rw [List.length_take, List.length_append] at hlength
    by_cases hwidth : text.length = width
    · exact .inl hwidth
    · refine .inr ⟨by omega, List.length_eq_zero_iff.mp (by omega)⟩
  · intro hcases
    rcases hcases with hwidth | hmore
    · exact List.take_left' hwidth
    · rw [hmore.2, List.append_nil]
      exact List.take_of_length_le hmore.1.le

/-- What `scanf` finds behind the text of a padded field: white space is skipped only if the text is
empty. -/
def following (text rest : List UInt8) : List UInt8 :=
  if text = [] then rest.dropWhile isSpaceByte else rest

theorem scanToken_padLeft (width padded : ℕ) {text : List UInt8}
    (htext : ∀ byte ∈ text, isTokenByte byte = true) (rest : List UInt8) :
    scanToken width (padLeft padded text ++ rest) =
      (text ++ (following text rest).takeWhile isTokenByte).take width := by
  have hspaces : ∀ byte ∈ List.replicate (padded - text.length) (32 : UInt8),
      isSpaceByte byte = true := by
    intro byte hbyte
    rw [List.eq_of_mem_replicate hbyte]
    rfl
  have hskip : (text ++ rest).dropWhile isSpaceByte = text ++ following text rest := by
    cases text with
    | nil => rfl
    | cons byte text =>
      have hbyte : isSpaceByte byte = false := by
        have htoken := htext byte List.mem_cons_self
        simp only [isTokenByte, Bool.and_eq_true, Bool.not_eq_true'] at htoken
        exact htoken.2
      rw [List.cons_append, List.dropWhile_cons_of_neg (by simp [hbyte])]
      rfl
  rw [scanToken, padLeft, List.append_assoc, List.dropWhile_append_of_pos hspaces, hskip,
    List.takeWhile_append_of_pos htext]

/-- A padded field is read back exactly when its text has the scanned width, or is shorter and ends
where the next text begins. -/
theorem scanToken_padLeft_eq_iff (width padded : ℕ) {text : List UInt8}
    (htext : ∀ byte ∈ text, isTokenByte byte = true) (rest : List UInt8) :
    scanToken width (padLeft padded text ++ rest) = text ↔
      text.length = width ∨ text.length < width ∧
        ∀ byte, (following text rest).head? = some byte → isTokenByte byte = false := by
  have hends : (following text rest).takeWhile isTokenByte = [] ↔
      ∀ byte, (following text rest).head? = some byte → isTokenByte byte = false := by
    cases following text rest with
    | nil => simp
    | cons byte bytes => simp [List.takeWhile_cons]
  rw [scanToken_padLeft width padded htext rest, take_append_eq_iff, hends]

end MsgPerf.Library
