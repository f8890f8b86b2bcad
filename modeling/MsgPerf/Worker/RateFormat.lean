import MsgPerf.Library.Decimal
import MsgPerf.Worker.RateReport

/-!
# The texts of the times in the rate report

A row of the rate report has two times in quotation marks.  Each is printed as the date and time of
its seconds, a point and the number of its microseconds.  A reader takes what stands behind the last
point for a decimal fraction of a second.

The format of the date is a parameter; different seconds have different dates.
-/

namespace MsgPerf.Worker

open MsgPerf.Library

/-! ## Writing -/

/-- The text of the expected time, printed with `PRId32`. -/
def RateRow.etaField (row : RateRow) : List Char :=
  row.etaText.toList ++ '.' :: printDecimal (row.eta.tvUsec.bmod (2 ^ 32))

/-- The text of the actual time, printed with `PRIu32`. -/
def RateRow.ataField (row : RateRow) : List Char :=
  row.ataText.toList ++ '.' :: printDecimal (toUnsigned 32 row.ata.tvUsec)

/-- The line of the report. -/
def RateRow.line (row : RateRow) : List Char :=
  '"' :: row.etaField ++ ['"', ',', '"'] ++ row.ataField ++ ['"', '\n']

/-! ## Reading -/

/-- The text is a date and a decimal fraction of a second. -/
def ReadsAs (gru : GruTime) (text : List Char) (seconds : ℤ) (fraction : ℚ) : Prop :=
  ∃ date digits time, text = date.toList ++ '.' :: digits ∧ digits.all Char.isDigit = true ∧
    digits ≠ [] ∧ gru.writeFormat time = some date ∧ time.tvSec = seconds ∧
    fractionValue digits = fraction

/-- The only reading of the text is the time. -/
def WrittenExactly (gru : GruTime) (text : List Char) (time : Timestamp) : Prop :=
  ∀ seconds fraction, ReadsAs gru text seconds fraction ↔
    seconds = time.tvSec ∧ fraction = time.tvUsec / 1000000

/-- Later times within a second have larger fractions. -/
def OrderKept (gru : GruTime) (earlier later : List Char) (first second : Timestamp) : Prop :=
  first.tvSec = second.tvSec → first.tvUsec < second.tvUsec →
    ∀ seconds fraction others other, ReadsAs gru earlier seconds fraction →
      ReadsAs gru later others other → fraction < other

/-- The times of two rows are written to the microsecond, and their order can be read back. -/
structure PrecisionKept (gru : GruTime) (first second : RateRow) : Prop where
  firstEta : WrittenExactly gru first.etaField first.eta
  firstAta : WrittenExactly gru first.ataField first.ata
  secondEta : WrittenExactly gru second.etaField second.eta
  secondAta : WrittenExactly gru second.ataField second.ata
  etaOrder : OrderKept gru first.etaField second.etaField first.eta second.eta
  ataOrder : OrderKept gru first.ataField second.ataField first.ata second.ata

/-- Different seconds have different dates. -/
def DatesInjective (gru : GruTime) : Prop :=
  ∀ first second text, gru.writeFormat first = some text → gru.writeFormat second = some text →
    first.tvSec = second.tvSec

/-- The microseconds of a timestamp are less than a second. -/
def Timestamp.Normalized (time : Timestamp) : Prop := 0 ≤ time.tvUsec ∧ time.tvUsec < 1000000

/-- The microseconds are zero or have six digits. -/
def Timestamp.FillsPlaces (time : Timestamp) : Prop := time.tvUsec = 0 ∨ 100000 ≤ time.tvUsec

/-! ## One time -/

section OneTime

variable {gru : GruTime} {time : Timestamp} {date : String}

/-- What stands behind the last point is found from the end of the text. -/
theorem takeWhile_reverse_point (front : List Char) {digits : List Char} (h : '.' ∉ digits) :
    (front ++ '.' :: digits).reverse.takeWhile (· ≠ '.') = digits.reverse := by
  have hdigits : ∀ char ∈ digits.reverse, decide (char ≠ '.') = true := by
    intro char hchar
    rw [decide_eq_true_eq]
    intro hpoint
    exact h (hpoint ▸ List.mem_reverse.mp hchar)
  rw [List.reverse_append, List.reverse_cons, List.append_assoc,
    List.takeWhile_append_of_pos hdigits, List.singleton_append,
    List.takeWhile_cons_of_neg (by simp), List.append_nil]

theorem append_point_inj {first second left right : List Char} (hleft : '.' ∉ left)
    (hright : '.' ∉ right) (h : first ++ '.' :: left = second ++ '.' :: right) :
    first = second ∧ left = right := by
  have hdigits : left = right := by
    apply List.reverse_injective
    rw [← takeWhile_reverse_point first hleft, h, takeWhile_reverse_point second hright]
  rw [hdigits] at h
  exact ⟨List.append_cancel_right h, hdigits⟩

theorem point_notMem_of_isDigit {digits : List Char} (h : digits.all Char.isDigit = true) :
    '.' ∉ digits := by
  intro hpoint
  exact absurd (List.all_eq_true.mp h '.' hpoint) (by decide)

theorem readsAs_iff {micros : ℕ} (hinjective : DatesInjective gru)
    (hdate : gru.writeFormat time = some date) (seconds : ℤ) (fraction : ℚ) :
    ReadsAs gru (date.toList ++ '.' :: Nat.toDigits 10 micros) seconds fraction ↔
      seconds = time.tvSec ∧ fraction = fractionValue (Nat.toDigits 10 micros) := by
  have hprinted : (Nat.toDigits 10 micros).all Char.isDigit = true := by
    rw [List.all_eq_true]
    intro char hchar
    exact Nat.isDigit_of_mem_toDigits (by decide) (by decide) hchar
  constructor
  · intro hreads
    obtain ⟨otherDate, digits, other, htext, hdigits, -, hother, hseconds, hfraction⟩ := hreads
    obtain ⟨hsameDate, hsameDigits⟩ := append_point_inj (point_notMem_of_isDigit hprinted)
      (point_notMem_of_isDigit hdigits) htext
    have hsame : otherDate = date := String.toList_injective hsameDate.symm
    constructor
    · rw [← hseconds]
      exact hinjective other time date (hsame ▸ hother) hdate
    · rw [← hfraction, hsameDigits]
  · intro htime
    exact ⟨date, _, time, rfl, hprinted, Nat.toDigits_ne_nil, hdate, htime.1.symm, htime.2.symm⟩

/-- A time is written exactly when its microseconds fill the six places of the fraction. -/
theorem writtenExactly_iff (hinjective : DatesInjective gru)
    (hdate : gru.writeFormat time = some date) (htime : time.Normalized) :
    WrittenExactly gru (date.toList ++ '.' :: Nat.toDigits 10 time.tvUsec.toNat) time ↔
      time.FillsPlaces := by
  obtain ⟨hnonneg, hlt⟩ := htime
  obtain ⟨micros, hmicros⟩ := Int.eq_ofNat_of_zero_le hnonneg
  rw [hmicros] at hlt
  rw [hmicros, Int.toNat_natCast]
  have hlt : micros < 1000000 := by exact_mod_cast hlt
  have hvalue : fractionValue (Nat.toDigits 10 micros) = micros / 10 ^ (5 + 1) ↔
      micros = 0 ∨ 10 ^ 5 ≤ micros := fractionValue_toDigits_eq_iff (by decide) hlt
  have hfills : time.FillsPlaces ↔ micros = 0 ∨ 10 ^ 5 ≤ micros := by
    unfold Timestamp.FillsPlaces
    omega
  rw [hfills, ← hvalue]
  unfold WrittenExactly
  simp only [readsAs_iff hinjective hdate, hmicros]
  constructor
  · intro hexact
    have hself := (hexact time.tvSec (fractionValue (Nat.toDigits 10 micros))).mp ⟨rfl, rfl⟩
    rw [hself.2]
    norm_num
  · intro hsame seconds fraction
    rw [hsame]
    norm_num

end OneTime

/-! ## Rows -/

section Rows

variable {gru : GruTime} {throughput : Throughput} {eta : Timestamp} {row : RateRow}

/-- What is in a row that has been written. -/
theorem row_of_written (h : csvTprWriterWrite gru throughput eta = some row) :
    row.eta = eta ∧ row.ata = throughput.finish ∧ gru.writeFormat row.eta = some row.etaText ∧
      gru.writeFormat row.ata = some row.ataText := by
  rw [csvTprWriterWrite_eq_some_iff] at h
  obtain ⟨hetaText, hataText, heta, hata⟩ := h
  rw [heta, hata]
  exact ⟨rfl, rfl, hetaText, hataText⟩

theorem etaField_eq (h : row.eta.Normalized) :
    row.etaField = row.etaText.toList ++ '.' :: Nat.toDigits 10 row.eta.tvUsec.toNat := by
  have hprinted : row.eta.tvUsec.bmod (2 ^ 32) = (row.eta.tvUsec.toNat : ℤ) := by
    unfold Timestamp.Normalized at h
    simp only [Int.bmod]
    omega
  rw [RateRow.etaField, hprinted]
  rfl

theorem ataField_eq (h : row.ata.Normalized) :
    row.ataField = row.ataText.toList ++ '.' :: Nat.toDigits 10 row.ata.tvUsec.toNat := by
  have hprinted : toUnsigned 32 row.ata.tvUsec = row.ata.tvUsec.toNat := by
    unfold Timestamp.Normalized at h
    simp only [toUnsigned]
    omega
  rw [RateRow.ataField, hprinted]
  rfl

end Rows

theorem orderKept_of_exact {gru : GruTime} {earlier later : List Char} {first second : Timestamp}
    (hfirst : WrittenExactly gru earlier first) (hsecond : WrittenExactly gru later second) :
    OrderKept gru earlier later first second := by
  intro _ hlater seconds fraction others other hreads hreadsOther
  have hfraction := ((hfirst seconds fraction).mp hreads).2
  have hother := ((hsecond others other).mp hreadsOther).2
  have hcast : (first.tvUsec : ℚ) < second.tvUsec := by exact_mod_cast hlater
  rw [hfraction, hother]
  gcongr

/-- The times of two rows are written to the microsecond exactly when the microseconds of all four
are zero or have six digits. -/
theorem precisionKept_iff {gru : GruTime} (hinjective : DatesInjective gru)
    {throughput other : Throughput} {eta otherEta : Timestamp} {first second : RateRow}
    (hfirst : csvTprWriterWrite gru throughput eta = some first)
    (hsecond : csvTprWriterWrite gru other otherEta = some second)
    (heta : eta.Normalized) (hata : throughput.finish.Normalized)
    (hotherEta : otherEta.Normalized) (hotherAta : other.finish.Normalized) :
    PrecisionKept gru first second ↔
      eta.FillsPlaces ∧ throughput.finish.FillsPlaces ∧ otherEta.FillsPlaces ∧
        other.finish.FillsPlaces := by
  obtain ⟨hrowEta, hrowAta, hetaDate, hataDate⟩ := row_of_written hfirst
  obtain ⟨hotherRowEta, hotherRowAta, hotherEtaDate, hotherAtaDate⟩ := row_of_written hsecond
  rw [← hrowEta] at heta
  rw [← hrowAta] at hata
  rw [← hotherRowEta] at hotherEta
  rw [← hotherRowAta] at hotherAta
  have hexactEta := writtenExactly_iff hinjective hetaDate heta
  have hexactAta := writtenExactly_iff hinjective hataDate hata
  have hexactOtherEta := writtenExactly_iff hinjective hotherEtaDate hotherEta
  have hexactOtherAta := writtenExactly_iff hinjective hotherAtaDate hotherAta
  rw [← etaField_eq heta] at hexactEta
  rw [← ataField_eq hata] at hexactAta
  rw [← etaField_eq hotherEta] at hexactOtherEta
  rw [← ataField_eq hotherAta] at hexactOtherAta
  rw [← hrowEta, ← hrowAta, ← hotherRowEta, ← hotherRowAta, ← hexactEta, ← hexactAta,
    ← hexactOtherEta, ← hexactOtherAta]
  constructor
  · intro hkept
    exact ⟨hkept.firstEta, hkept.firstAta, hkept.secondEta, hkept.secondAta⟩
  · intro hexact
    obtain ⟨hfirstEta, hfirstAta, hsecondEta, hsecondAta⟩ := hexact
    exact ⟨hfirstEta, hfirstAta, hsecondEta, hsecondAta,
      orderKept_of_exact hfirstEta hsecondEta, orderKept_of_exact hfirstAta hsecondAta⟩

/-- The date of the second in which the samples of the documentation were taken. -/
def sampleTime : GruTime :=
  { systemTime with
    writeFormat := fun time ↦
      if time.tvSec = 1508411972 then some "2017-10-19 13:19:32" else none }

theorem sampleTime_datesInjective : DatesInjective sampleTime := by
  have hsecond : ∀ time text, sampleTime.writeFormat time = some text →
      time.tvSec = 1508411972 := by
    intro time text htime
    by_contra hother
    simp [sampleTime, hother] at htime
  intro first second text hfirst hsame
  rw [hsecond first text hfirst, hsecond second text hsame]

def documentedRow (eta ata : ℤ) : RateRow :=
  ⟨⟨1508411972, eta⟩, "2017-10-19 13:19:32", ⟨1508411972, ata⟩, "2017-10-19 13:19:32"⟩

/-- The first two rows of the sender in the documentation. -/
theorem senderSample_precisionKept :
    PrecisionKept sampleTime (documentedRow 661300 706649) (documentedRow 661500 706823) := by
  have hfirst : csvTprWriterWrite sampleTime ⟨.zero, ⟨1508411972, 706649⟩, 0⟩
      ⟨1508411972, 661300⟩ = some (documentedRow 661300 706649) := rfl
  have hsecond : csvTprWriterWrite sampleTime ⟨.zero, ⟨1508411972, 706823⟩, 0⟩
      ⟨1508411972, 661500⟩ = some (documentedRow 661500 706823) := rfl
  apply (precisionKept_iff sampleTime_datesInjective hfirst hsecond ⟨by decide, by decide⟩
    ⟨by decide, by decide⟩ ⟨by decide, by decide⟩ ⟨by decide, by decide⟩).mpr
  exact ⟨.inr (by decide), .inr (by decide), .inr (by decide), .inr (by decide)⟩

/-- A time 9287 microseconds after the second, as in the rows of the receiver in the documentation,
is written as nine tenths of a second and more. -/
theorem receiverSample_not_precisionKept :
    csvTprWriterWrite sampleTime ⟨.zero, ⟨1508411972, 36751⟩, 0⟩ ⟨1508411972, 9287⟩ =
        some (documentedRow 9287 36751) ∧
      ¬ PrecisionKept sampleTime (documentedRow 9287 36751) (documentedRow 9287 36751) := by
  refine ⟨rfl, fun hkept ↦ ?_⟩
  have hnormalized : (documentedRow 9287 36751).eta.Normalized := ⟨by decide, by decide⟩
  have hexact := hkept.firstEta
  rw [etaField_eq hnormalized] at hexact
  have hfills := (writtenExactly_iff sampleTime_datesInjective rfl hnormalized).mp hexact
  exact absurd hfills (by unfold Timestamp.FillsPlaces; decide)

end MsgPerf.Worker
