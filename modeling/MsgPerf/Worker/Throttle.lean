import MsgPerf.Library.Decimal
import MsgPerf.Worker.Loops

/-!
# The throttle of the naive sender

The naive sender counts the messages of a batch.  When the batch is full it sleeps until the second
of its last clock reading is over, and begins the next batch.  The wait is computed from the reading
after the last message, so it is the batches and not the seconds that are counted; but no second has
readings of two batches, and therefore none has more than the throttle allows.

A reading is one after a message that was counted.  The time up to which the loop sleeps is a ghost
field, and the clock is assumed to reach it.
-/

namespace MsgPerf.Worker

open MsgPerf.Library

/-! ## The loop with its throttle -/

/-- The loop of `naive_sender_start` with the messages of the current batch.  Ghost fields are the
readings after counted messages and the time before which the loop does not go on. -/
structure ThrottleState where
  test : TestState
  round : ℕ
  readings : List Timestamp
  resumed : ℤ
  deriving DecidableEq, Repr

/-- The argument of `usleep`, a 32-bit number. -/
def throttleWait (now : Timestamp) : ℕ := toUnsigned 32 (1000000 - now.tvUsec)

namespace ThrottleState

def initial (start : Timestamp) : ThrottleState := ⟨.initial start, 0, [], start.micros⟩

/-- The end of the body: a full batch is followed by a sleep. -/
def throttled (throttle : ℕ) (state : ThrottleState) : ThrottleState :=
  if 0 < throttle then
    if state.round + 1 = throttle then
      { state with round := 0, resumed := state.resumed + throttleWait state.test.now }
    else { state with round := state.round + 1 }
  else state

/-- The body up to the throttle: what is counted has been read from the clock. -/
def counted (gru : GruTime) (state : ThrottleState) (round : TestRound) : ThrottleState :=
  let test := naiveSenderTurn gru state.test round
  if test.count = state.test.count then { state with test := test }
  else { state with
    test := test
    readings := state.readings ++ [round.clock]
    resumed := round.clock.micros }

/-- The body of the loop. -/
def turn (gru : GruTime) (throttle : ℕ) (state : ThrottleState) (round : TestRound) :
    ThrottleState :=
  let counted := state.counted gru round
  if counted.test.exit.isSome then counted else counted.throttled throttle

/-- The check and the body. -/
def next (gru : GruTime) (throttle : ℕ) (duration : TestDuration) (state : ThrottleState)
    (round : TestRound) : ThrottleState :=
  if state.test.exit.isSome then state
  else if workerCheck round.interrupted duration state.test then state.turn gru throttle round
  else { state with
    test := state.test.leave (if round.interrupted then .interrupted else .finished) }

end ThrottleState

/-- The state before the check of each round. -/
def throttleStates (gru : GruTime) (throttle : ℕ) (duration : TestDuration) (start : Timestamp)
    (rounds : ℕ → TestRound) : ℕ → ThrottleState
  | 0 => .initial start
  | i + 1 => (throttleStates gru throttle duration start rounds i).next gru throttle duration
      (rounds i)

/-- The readings of a clock that never goes backwards, and whose readings after a sleep are at least
as late as the sleep was long. -/
structure SleepingClock (gru : GruTime) (throttle : ℕ) (duration : TestDuration)
    (start : Timestamp) (rounds : ℕ → TestRound) : Prop where
  micro : ∀ i, 0 ≤ (rounds i).clock.tvUsec ∧ (rounds i).clock.tvUsec < 1000000
  later : ∀ i, (throttleStates gru throttle duration start rounds i).resumed ≤
    (rounds i).clock.micros

/-! ## Without the throttle -/

variable {gru : GruTime} {duration : TestDuration} {start : Timestamp} {rounds : ℕ → TestRound}

/-- The throttle does not touch what the loop of the other properties keeps. -/
theorem throttleStates_test (throttle i : ℕ) :
    (throttleStates gru throttle duration start rounds i).test =
      testStates (naiveSenderTurn gru) duration start rounds i := by
  induction i with
  | zero => rfl
  | succ i ih =>
    rw [throttleStates, testStates, ThrottleState.next, testNext, ← ih]
    split
    · rfl
    · split
      · simp only [ThrottleState.turn, ThrottleState.counted, ThrottleState.throttled]
        split_ifs <;> rfl
      · rfl

/-- A message that is not counted ends the loop, and after one that is counted the clock is read. -/
theorem naiveSenderTurn_cases (gru : GruTime) (state : TestState) (round : TestRound) :
    ((naiveSenderTurn gru state round).count = state.count ∧
        (naiveSenderTurn gru state round).exit.isSome) ∨
      ((naiveSenderTurn gru state round).count = state.count + 1 ∧
        (naiveSenderTurn gru state round).now = round.clock) := by
  unfold naiveSenderTurn
  split
  · exact .inl ⟨rfl, rfl⟩
  · exact .inl ⟨rfl, rfl⟩
  · exact .inr ⟨sampleRow_count gru _ round, sampleRow_now gru _ round⟩
  · exact .inr ⟨sampleRow_count gru _ round, sampleRow_now gru _ round⟩

/-! ## Batches -/

namespace ThrottleState

/-- What a round does to the batch. -/
inductive Case (throttle : ℕ) (state : ThrottleState) (round : TestRound) :
    ThrottleState → Prop where
  | left (test : TestState) :
      test.exit.isSome → Case throttle state round { state with test := test }
  | stayed : state.test.exit.isSome → Case throttle state round state
  | broken (test : TestState) : test.exit.isSome → state.test.exit = none →
      Case throttle state round
        ⟨test, state.round, state.readings ++ [round.clock], round.clock.micros⟩
  | within (test : TestState) : test.exit = none → state.test.exit = none →
      state.round + 1 ≠ throttle →
      Case throttle state round
        ⟨test, state.round + 1, state.readings ++ [round.clock], round.clock.micros⟩
  | full (test : TestState) : test.exit = none → state.test.exit = none →
      state.round + 1 = throttle →
      Case throttle state round
        ⟨test, 0, state.readings ++ [round.clock], round.clock.micros + throttleWait round.clock⟩

theorem next_cases (gru : GruTime) (duration : TestDuration) {throttle : ℕ}
    (hthrottle : 0 < throttle) (state : ThrottleState) (round : TestRound) :
    Case throttle state round (state.next gru throttle duration round) := by
  unfold next
  split
  next hexit => exact .stayed hexit
  next hexit =>
    have hrunning : state.test.exit = none := by simpa using hexit
    split
    · rcases naiveSenderTurn_cases gru state.test round with ⟨hcount, hleft⟩ | ⟨hcount, hnow⟩
      · have hturn : state.turn gru throttle round =
            { state with test := naiveSenderTurn gru state.test round } := by
          simp only [turn, counted, if_pos hcount, hleft, if_true]
        rw [hturn]
        exact .left _ hleft
      · have hcounted : state.counted gru round = ⟨naiveSenderTurn gru state.test round,
            state.round, state.readings ++ [round.clock], round.clock.micros⟩ := by
          rw [counted, if_neg (by omega)]
        rw [turn, hcounted]
        cases hexit : (naiveSenderTurn gru state.test round).exit with
        | some reason =>
          rw [if_pos (by simp)]
          exact .broken _ (by simp [hexit]) hrunning
        | none =>
          rw [if_neg (by simp), throttled, if_pos hthrottle]
          split
          next hfull =>
            rw [hnow]
            exact .full _ hexit hrunning hfull
          next hfull => exact .within _ hexit hrunning hfull
    · exact .left _ rfl

/-- The readings before the current batch are of earlier seconds than those of the batch and than
everything that follows, and no second has too many of them. -/
structure Batched (throttle : ℕ) (state : ThrottleState) (old batch : List Timestamp) : Prop where
  readings : state.readings = old ++ batch
  length : batch.length ≤ throttle
  running : state.test.exit = none → batch.length = state.round ∧ state.round < throttle
  micro : ∀ reading ∈ batch, 0 ≤ reading.tvUsec
  later : ∀ reading ∈ batch, reading.micros ≤ state.resumed
  past : ∀ reading ∈ old, 1000000 * (reading.tvSec + 1) ≤ state.resumed
  apart : ∀ reading ∈ batch, ∀ earlier ∈ old, earlier.tvSec < reading.tvSec
  bounded : ∀ second, old.countP (fun reading ↦ reading.tvSec = second) ≤ throttle

namespace Batched

variable {throttle : ℕ} {state : ThrottleState} {old batch : List Timestamp}

theorem initial (hthrottle : 0 < throttle) (start : Timestamp) :
    Batched throttle (.initial start) [] [] where
  readings := rfl
  length := Nat.zero_le _
  running _ := ⟨rfl, hthrottle⟩
  micro := by simp
  later := by simp
  past := by simp
  apart := by simp
  bounded := by simp

/-- No second has readings of two batches. -/
theorem countP_le (h : Batched throttle state old batch) (second : ℤ) :
    state.readings.countP (fun reading ↦ reading.tvSec = second) ≤ throttle := by
  rw [h.readings, List.countP_append]
  by_cases hbatch : ∃ reading ∈ batch, reading.tvSec = second
  · obtain ⟨reading, hmem, hsecond⟩ := hbatch
    have hold : old.countP (fun reading ↦ reading.tvSec = second) = 0 := by
      rw [List.countP_eq_zero]
      intro earlier hearlier
      have hlt := h.apart reading hmem earlier hearlier
      simp only [decide_eq_true_eq]
      omega
    rw [hold, Nat.zero_add]
    exact List.countP_le_length.trans h.length
  · have hnone : batch.countP (fun reading ↦ reading.tvSec = second) = 0 := by
      rw [List.countP_eq_zero]
      intro reading hmem
      simpa using fun hsecond ↦ hbatch ⟨reading, hmem, hsecond⟩
    rw [hnone, Nat.add_zero]
    exact h.bounded second

/-- A reading is added to the batch. -/
theorem read (h : Batched throttle state old batch) (hstate : state.test.exit = none)
    {clock : Timestamp} (hmicro : 0 ≤ clock.tvUsec ∧ clock.tvUsec < 1000000)
    (hlater : state.resumed ≤ clock.micros) {after : ThrottleState}
    (hreadings : after.readings = state.readings ++ [clock])
    (hresumed : after.resumed = clock.micros)
    (hrunning : after.test.exit = none →
      after.round = state.round + 1 ∧ state.round + 1 < throttle) :
    Batched throttle after old (batch ++ [clock]) := by
  obtain ⟨hlength, hroom⟩ := h.running hstate
  have hclock : ∀ reading ∈ batch ++ [clock], reading ∈ batch ∨ reading = clock := by simp
  refine ⟨?_, ?_, ?_, ?_, ?_, ?_, ?_, h.bounded⟩
  · rw [hreadings, h.readings, List.append_assoc]
  · rw [List.length_append, List.length_singleton]
    omega
  · intro hexit
    obtain ⟨hround, hfull⟩ := hrunning hexit
    rw [List.length_append, List.length_singleton, hlength, hround]
    exact ⟨rfl, hfull⟩
  · intro reading hmem
    rcases hclock reading hmem with hold | rfl
    · exact h.micro reading hold
    · exact hmicro.1
  · intro reading hmem
    rw [hresumed]
    rcases hclock reading hmem with hold | rfl
    · exact (h.later reading hold).trans hlater
    · exact le_rfl
  · intro reading hmem
    rw [hresumed]
    exact (h.past reading hmem).trans hlater
  · intro reading hmem earlier hearlier
    rcases hclock reading hmem with hold | rfl
    · exact h.apart reading hold earlier hearlier
    · have hpast := (h.past earlier hearlier).trans hlater
      rw [Timestamp.micros] at hpast
      omega

/-- The sleep reaches the end of the second of the last reading. -/
theorem throttleWait_eq {clock : Timestamp} (h : 0 ≤ clock.tvUsec ∧ clock.tvUsec < 1000000) :
    clock.micros + throttleWait clock = 1000000 * (clock.tvSec + 1) := by
  have hwait : (throttleWait clock : ℤ) = 1000000 - clock.tvUsec := by
    unfold throttleWait toUnsigned
    omega
  rw [hwait, Timestamp.micros]
  omega

/-- A full batch is closed by its sleep. -/
theorem close (h : Batched throttle state old batch) {clock : Timestamp}
    (hmicro : 0 ≤ clock.tvUsec ∧ clock.tvUsec < 1000000) (hresumed : state.resumed = clock.micros)
    {after : ThrottleState} (hreadings : after.readings = state.readings)
    (hafter : after.resumed = clock.micros + throttleWait clock) (hround : after.round = 0)
    (hthrottle : 0 < throttle) : Batched throttle after (old ++ batch) [] := by
  rw [throttleWait_eq hmicro] at hafter
  refine ⟨?_, Nat.zero_le _, fun _ ↦ ⟨hround.symm, hround ▸ hthrottle⟩, by simp, by simp, ?_,
    by simp, ?_⟩
  · rw [hreadings, h.readings, List.append_nil]
  · intro reading hmem
    rw [hafter]
    rcases List.mem_append.mp hmem with hold | hbatch
    · have hpast := h.past reading hold
      rw [hresumed, Timestamp.micros] at hpast
      omega
    · have hearlier := h.later reading hbatch
      have hreading := h.micro reading hbatch
      rw [hresumed, Timestamp.micros, Timestamp.micros] at hearlier
      omega
  · intro second
    rw [← h.readings]
    exact h.countP_le second

/-- A round keeps the batches apart. -/
theorem next (h : Batched throttle state old batch) (hthrottle : 0 < throttle) (round : TestRound)
    (hmicro : 0 ≤ round.clock.tvUsec ∧ round.clock.tvUsec < 1000000)
    (hlater : state.resumed ≤ round.clock.micros) :
    ∃ old batch, Batched throttle (state.next gru throttle duration round) old batch := by
  have hcase := next_cases gru duration hthrottle state round
  generalize state.next gru throttle duration round = after at hcase ⊢
  cases hcase with
  | left test hexit =>
    refine ⟨old, batch, h.readings, h.length, ?_, h.micro, h.later, h.past, h.apart, h.bounded⟩
    intro hnone
    rw [hnone] at hexit
    cases hexit
  | stayed hexit => exact ⟨old, batch, h⟩
  | broken test hexit hstate =>
    refine ⟨old, batch ++ [round.clock], h.read hstate hmicro hlater rfl rfl ?_⟩
    intro hnone
    rw [hnone] at hexit
    cases hexit
  | within test hexit hstate hfull =>
    have hroom := (h.running hstate).2
    exact ⟨old, batch ++ [round.clock], h.read hstate hmicro hlater rfl rfl fun _ ↦
      ⟨rfl, by omega⟩⟩
  | full test hexit hstate hfull =>
    -- The batch with its last reading, before the sleep.
    have hread : Batched throttle ⟨state.test.leave .finished, state.round,
        state.readings ++ [round.clock], round.clock.micros⟩ old (batch ++ [round.clock]) :=
      h.read hstate hmicro hlater rfl rfl (by simp [TestState.leave])
    exact ⟨old ++ (batch ++ [round.clock]), [], hread.close hmicro rfl rfl rfl rfl hthrottle⟩

end Batched

end ThrottleState

/-- There is one reading for each counted message. -/
theorem throttleStates_length (throttle i : ℕ) :
    (throttleStates gru throttle duration start rounds i).readings.length =
      (throttleStates gru throttle duration start rounds i).test.count := by
  induction i with
  | zero => rfl
  | succ i ih =>
    rw [throttleStates, ThrottleState.next]
    split
    · exact ih
    · split
      · have hthrottled (state : ThrottleState) :
            (state.throttled throttle).readings = state.readings ∧
              (state.throttled throttle).test = state.test := by
          unfold ThrottleState.throttled
          split_ifs <;> exact ⟨rfl, rfl⟩
        rw [ThrottleState.turn]
        generalize throttleStates gru throttle duration start rounds i = state at ih ⊢
        have hcounted : (state.counted gru (rounds i)).readings.length =
            (state.counted gru (rounds i)).test.count := by
          rcases naiveSenderTurn_cases gru state.test (rounds i) with ⟨hcount, -⟩ | ⟨hcount, -⟩
          · rw [ThrottleState.counted, if_pos hcount]
            exact ih.trans hcount.symm
          · rw [ThrottleState.counted, if_neg (by omega)]
            simp [ih, hcount]
        split
        · exact hcounted
        · rw [(hthrottled _).1, (hthrottled _).2]
          exact hcounted
      · exact ih

/-- Three messages at two messages a second: the third one waits for the next second. -/
def throttledRounds (i : ℕ) : TestRound :=
  ⟨false, ⟨0, 0⟩, .done, ⟨if i < 2 then 0 else 1, 5⟩, true, true⟩

theorem throttledRounds_sleepingClock :
    SleepingClock systemTime 2 (.messageCount 3) ⟨0, 0⟩ throttledRounds where
  micro i := ⟨by simp [throttledRounds], by simp [throttledRounds]⟩
  later i := by
    -- Behind the third message the loop has ended.
    have hended (count : ℕ) : throttleStates systemTime 2 (.messageCount 3) ⟨0, 0⟩ throttledRounds
        (4 + count) = throttleStates systemTime 2 (.messageCount 3) ⟨0, 0⟩ throttledRounds 4 := by
      induction count with
      | zero => rfl
      | succ count ih =>
        rw [← Nat.add_assoc, throttleStates, ih, ThrottleState.next, if_pos (by decide)]
    rcases lt_or_ge i 4 with hsmall | hlarge
    · interval_cases i <;> decide
    · obtain ⟨count, rfl⟩ := Nat.exists_eq_add_of_le hlarge
      rw [hended]
      have hclock : (throttledRounds (4 + count)).clock = ⟨1, 5⟩ := by
        rw [throttledRounds, if_neg (by omega)]
      rw [hclock]
      decide

end MsgPerf.Worker
