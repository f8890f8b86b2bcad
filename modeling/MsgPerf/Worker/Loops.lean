import MsgPerf.Worker.RateReport

/-!
# The loops of the workers

A worker runs its loop until `worker_check` says no, a transfer fails or a writer fails.  The check
looks at the snapshot only, at its count or at its time, so what it decides depends on the paths of
the body that update them.

The environment of an iteration is a record: whether the process is interrupted at the check, the
clock at the beginning of the iteration and after the transfer, the status of the transfer and what
the writers return.  An endless sequence of such records determines the state before every
iteration; behind the end of the loop the state stays as it is.
-/

namespace MsgPerf.Worker

/-! ## Iterations -/

/-- The duration type with its member of the union; the time is the end of the test. -/
inductive TestDuration where
  | messageCount (count : ℕ)
  | testTime (finish : Timestamp)
  deriving DecidableEq, Repr

/-- Why a loop ended. -/
inductive TestExit where
  | finished | interrupted | transferError | writeError
  deriving DecidableEq, Repr

/-- What is seen of a loop: the transfers and the rows that are written. -/
inductive TestEvent where
  | transferred (transfer : Transfer)
  | row (throughput : Throughput)
  deriving DecidableEq, Repr

/-- The snapshot and the variables of a loop, the events so far, and the end of the loop. -/
structure TestState where
  count : ℕ
  start : Timestamp
  now : Timestamp
  lastSample : Timestamp
  lastCount : ℕ
  log : List TestEvent
  exit : Option TestExit
  deriving DecidableEq, Repr

def TestState.initial (start : Timestamp) : TestState := ⟨0, start, start, start, 0, [], none⟩

structure TestRound where
  interrupted : Bool
  begun : Timestamp
  transfer : Transfer
  clock : Timestamp
  latencyWritten : Bool
  throughputWritten : Bool
  deriving DecidableEq, Repr

def workerCheck (interrupted : Bool) (duration : TestDuration) (state : TestState) : Bool :=
  if interrupted then false
  else
    match duration with
    | .testTime finish => state.now.tvSec ≤ finish.tvSec
    | .messageCount count => state.count < count

def TestState.record (state : TestState) (event : TestEvent) : TestState :=
  { state with log := state.log ++ [event] }

def TestState.leave (state : TestState) (reason : TestExit) : TestState :=
  { state with exit := some reason }

/-- The message is counted, and the clock is read. -/
def TestState.counted (state : TestState) (round : TestRound) : TestState :=
  { state with count := state.count + 1, now := round.clock }

/-- The number of seconds between two rows. -/
def rowInterval : ℤ := 10

/-- A row is written when the interval has passed since the last one; a failing write leaves the
loop. -/
def TestState.sampleRow (gru : GruTime) (state : TestState) (round : TestRound) : TestState :=
  if rowInterval ≤ gru.elapsedSecs state.lastSample state.now then
    if round.throughputWritten then
      { state.record (.row (calcThroughput state.lastSample state.now
          (state.count - state.lastCount))) with
        lastCount := state.count
        lastSample := state.now }
    else state.leave .writeError
  else state

/-- The body of the loop of `naive_sender_start`. -/
def naiveSenderTurn (gru : GruTime) (state : TestState) (round : TestRound) : TestState :=
  let recorded := state.record (.transferred round.transfer)
  match round.transfer with
  | .failed | .noTimestamp => recorded.leave .transferError
  | .done | .noData => (recorded.counted round).sampleRow gru round

/-- The body of the loop of `naive_receiver_start`. -/
def naiveReceiverTurn (gru : GruTime) (state : TestState) (round : TestRound) : TestState :=
  let recorded := state.record (.transferred round.transfer)
  match round.transfer with
  | .failed => recorded.leave .transferError
  | .noTimestamp => recorded
  | .noData => { recorded with now := round.clock }
  | .done =>
    if round.latencyWritten then (recorded.counted round).sampleRow gru round
    else (recorded.counted round).leave .writeError

/-- The body of the loop of `rate_receiver_start`, which writes no rows. -/
def rateReceiverTurn (gru : GruTime) (state : TestState) (round : TestRound) : TestState :=
  let recorded := state.record (.transferred round.transfer)
  match round.transfer with
  | .failed => recorded.leave .transferError
  | .noTimestamp => recorded
  | .noData => { recorded with now := round.clock }
  | .done =>
    let counted := recorded.counted round
    if sampleInterval ≤ gru.elapsedSecs counted.lastSample counted.now then
      { counted with lastCount := counted.count, lastSample := counted.now }
    else counted

section Loop

variable (turn : TestState → TestRound → TestState) (duration : TestDuration)

/-- The check and the body. -/
def testNext (state : TestState) (round : TestRound) : TestState :=
  if state.exit.isSome then state
  else if workerCheck round.interrupted duration state then turn state round
  else state.leave (if round.interrupted then .interrupted else .finished)

/-- The state before the check of each round. -/
def testStates (start : Timestamp) (rounds : ℕ → TestRound) : ℕ → TestState
  | 0 => .initial start
  | i + 1 => testNext turn duration (testStates start rounds i) (rounds i)

/-- The body is executed in the round. -/
def Executes (start : Timestamp) (rounds : ℕ → TestRound) (i : ℕ) : Prop :=
  (testStates turn duration start rounds i).exit = none ∧
    workerCheck (rounds i).interrupted duration
      (testStates turn duration start rounds i) = true

end Loop

/-! ## The end of the test time -/

/-- The order of times. -/
def Timestamp.Before (earlier later : Timestamp) : Prop :=
  earlier.tvSec < later.tvSec ∨ earlier.tvSec = later.tvSec ∧ earlier.tvUsec ≤ later.tvUsec

/-- The clock never goes backwards. -/
structure ForwardClock (start : Timestamp) (rounds : ℕ → TestRound) : Prop where
  first : start.Before (rounds 0).begun
  during (i : ℕ) : (rounds i).begun.Before (rounds i).clock
  between (i : ℕ) : (rounds i).clock.Before (rounds (i + 1)).begun

inductive ReceiverLoop where
  | naive | rate
  deriving DecidableEq, Repr

def ReceiverLoop.turn (gru : GruTime) : ReceiverLoop → TestState → TestRound → TestState
  | .naive => naiveReceiverTurn gru
  | .rate => rateReceiverTurn gru

/-- An iteration that begins after the end of the test is the last one. -/
def StopsAtEnd (turn : TestState → TestRound → TestState) (finish start : Timestamp)
    (rounds : ℕ → TestRound) : Prop :=
  ∀ i, Executes turn (.testTime finish) start rounds i →
    finish.tvSec < (rounds i).begun.tvSec →
    ∀ j, i < j → ¬ Executes turn (.testTime finish) start rounds j

/-- A message without a timestamp after the end of the test is followed by an interruption. -/
def LateStamped (turn : TestState → TestRound → TestState) (finish start : Timestamp)
    (rounds : ℕ → TestRound) : Prop :=
  ∀ i, Executes turn (.testTime finish) start rounds i →
    finish.tvSec < (rounds i).begun.tvSec → (rounds i).transfer = .noTimestamp →
    (rounds (i + 1)).interrupted = true

@[simp] theorem sampleRow_now (gru : GruTime) (state : TestState) (round : TestRound) :
    (state.sampleRow gru round).now = state.now := by
  unfold TestState.sampleRow
  split
  · split <;> rfl
  · rfl

/-- Every path through the body of a receiver but one reads the clock or leaves the loop. -/
theorem ReceiverLoop.turn_now (gru : GruTime) (loop : ReceiverLoop) (state : TestState)
    {round : TestRound} (hstamped : round.transfer ≠ .noTimestamp)
    (hexit : (loop.turn gru state round).exit = none) :
    (loop.turn gru state round).now = round.clock := by
  cases loop with
  | naive =>
    simp only [ReceiverLoop.turn, naiveReceiverTurn] at hexit ⊢
    split at hexit
    · simp [TestState.leave] at hexit
    next htransfer => exact absurd htransfer hstamped
    · rfl
    · split
      · rw [sampleRow_now]
        rfl
      next hfailed => simp [hfailed, TestState.leave] at hexit
  | rate =>
    simp only [ReceiverLoop.turn, rateReceiverTurn] at hexit ⊢
    split at hexit
    · simp [TestState.leave] at hexit
    next htransfer => exact absurd htransfer hstamped
    · rfl
    · split <;> rfl

/-- The path of a message without a timestamp. -/
theorem ReceiverLoop.turn_noTimestamp (gru : GruTime) (loop : ReceiverLoop) (state : TestState)
    {round : TestRound} (htransfer : round.transfer = .noTimestamp) :
    loop.turn gru state round = state.record (.transferred .noTimestamp) := by
  cases loop with
  | naive => simp [ReceiverLoop.turn, naiveReceiverTurn, htransfer]
  | rate => simp [ReceiverLoop.turn, rateReceiverTurn, htransfer]

section Loop

variable {turn : TestState → TestRound → TestState} {duration : TestDuration} {start : Timestamp}
  {rounds : ℕ → TestRound}

theorem testStates_succ {i : ℕ} (h : Executes turn duration start rounds i) :
    testStates turn duration start rounds (i + 1) =
      turn (testStates turn duration start rounds i) (rounds i) := by
  obtain ⟨hexit, hcheck⟩ := h
  simp [testStates, testNext, hexit, hcheck]

/-- A loop that has not ended has executed the body. -/
theorem executes_of_exit_eq_none {i : ℕ}
    (h : (testStates turn duration start rounds (i + 1)).exit = none) :
    Executes turn duration start rounds i := by
  rw [testStates, testNext] at h
  split at h
  next hexit => simp [h] at hexit
  next hexit =>
    split at h
    next hcheck => exact ⟨by simpa using hexit, hcheck⟩
    · simp [TestState.leave] at h

theorem Executes.of_le {i j : ℕ} (h : Executes turn duration start rounds j) (hle : i ≤ j) :
    Executes turn duration start rounds i := by
  induction j, hle using Nat.le_induction with
  | base => exact h
  | succ j _ ih => exact ih (executes_of_exit_eq_none h.1)

end Loop

/-- With a clock that never goes backwards, a receiver stops at the end of the test time exactly
when each message without a timestamp that it takes after the end is followed by an interruption:
that path does not read the clock. -/
theorem stopsAtEnd_iff (gru : GruTime) (loop : ReceiverLoop) (finish start : Timestamp)
    (rounds : ℕ → TestRound) (hclock : ForwardClock start rounds) :
    StopsAtEnd (loop.turn gru) finish start rounds ↔
      LateStamped (loop.turn gru) finish start rounds := by
  constructor
  · intro hstops i hexecutes hlate htransfer
    by_contra hinterrupted
    have hstate : testStates (loop.turn gru) (.testTime finish) start rounds (i + 1) =
        (testStates (loop.turn gru) (.testTime finish) start rounds i).record
          (.transferred .noTimestamp) := by
      rw [testStates_succ hexecutes, loop.turn_noTimestamp gru _ htransfer]
    apply hstops i hexecutes hlate (i + 1) (Nat.lt_succ_self i)
    obtain ⟨hexit, hcheck⟩ := hexecutes
    refine ⟨by rw [hstate]; exact hexit, ?_⟩
    -- The check sees the same time as before the message.
    rw [hstate]
    simp only [workerCheck, hinterrupted, if_false]
    simp only [workerCheck] at hcheck
    split at hcheck
    · simp at hcheck
    · exact hcheck
  · intro hstamped i hexecutes hlate j hij hlater
    have hnext := hlater.of_le (i := i + 1) hij
    obtain ⟨hexit, hcheck⟩ := hnext
    by_cases htransfer : (rounds i).transfer = .noTimestamp
    · rw [workerCheck, hstamped i hexecutes hlate htransfer] at hcheck
      simp at hcheck
    · rw [testStates_succ hexecutes] at hexit hcheck
      have hnow := loop.turn_now gru _ htransfer hexit
      rw [workerCheck] at hcheck
      split at hcheck
      · simp at hcheck
      · simp only [hnow, decide_eq_true_eq] at hcheck
        have hforward : (rounds i).begun.tvSec ≤ (rounds i).clock.tvSec := by
          obtain hsec | ⟨hsec, -⟩ := hclock.during i
          · exact hsec.le
          · exact hsec.le
        exact absurd (hlate.trans_le (hforward.trans hcheck)) (lt_irrefl _)

/-- The same outcome in every iteration, one second after the end of a test. -/
def lateRounds (transfer : Transfer) : ℕ → TestRound :=
  fun _ ↦ ⟨false, ⟨1, 0⟩, transfer, ⟨1, 0⟩, true, true⟩

theorem lateRounds_forwardClock (transfer : Transfer) :
    ForwardClock ⟨0, 0⟩ (lateRounds transfer) where
  first := .inl Int.zero_lt_one
  during _ := .inr ⟨rfl, le_rfl⟩
  between _ := .inr ⟨rfl, le_rfl⟩

/-- An iteration that finds no data is the last one. -/
theorem noData_stopsAtEnd :
    Executes (ReceiverLoop.naive.turn systemTime) (.testTime ⟨0, 0⟩) ⟨0, 0⟩ (lateRounds .noData) 0 ∧
      StopsAtEnd (ReceiverLoop.naive.turn systemTime) ⟨0, 0⟩ ⟨0, 0⟩ (lateRounds .noData) := by
  refine ⟨⟨rfl, rfl⟩, ?_⟩
  apply (stopsAtEnd_iff systemTime .naive ⟨0, 0⟩ ⟨0, 0⟩ _ (lateRounds_forwardClock .noData)).mpr
  intro i _ _ htransfer
  exact absurd htransfer (by simp [lateRounds])

/-- Messages without a timestamp keep the loop going after the end of the test. -/
theorem unstamped_not_stopsAtEnd :
    ¬ ∀ (loop : ReceiverLoop) finish start rounds, ForwardClock start rounds →
      StopsAtEnd (loop.turn systemTime) finish start rounds := by
  intro hevery
  have hstops := hevery .naive ⟨0, 0⟩ ⟨0, 0⟩ (lateRounds .noTimestamp)
    (lateRounds_forwardClock .noTimestamp)
  exact hstops 0 ⟨rfl, rfl⟩ (by decide) 1 Nat.zero_lt_one ⟨rfl, rfl⟩

/-! ## The accounts of the naive workers -/

inductive NaiveWorker where
  | sender | receiver
  deriving DecidableEq, Repr

def NaiveWorker.turn (gru : GruTime) : NaiveWorker → TestState → TestRound → TestState
  | .sender => naiveSenderTurn gru
  | .receiver => naiveReceiverTurn gru

/-- A successful send, or a received message with data and a timestamp. -/
def NaiveWorker.succeeds : NaiveWorker → Transfer → Bool
  | .sender, .done | .sender, .noData | .receiver, .done => true
  | .sender, .noTimestamp | .sender, .failed | .receiver, .noData | .receiver, .noTimestamp
  | .receiver, .failed => false

def NaiveWorker.isMessage (worker : NaiveWorker) : TestEvent → Bool
  | .transferred transfer => worker.succeeds transfer
  | .row _ => false

/-- The time since which no row was written, and the messages since then. -/
structure RowWindow where
  since : Timestamp
  messages : ℕ
  deriving DecidableEq, Repr

def RowWindow.after (worker : NaiveWorker) (window : RowWindow) : TestEvent → RowWindow
  | .transferred transfer =>
    if worker.succeeds transfer then { window with messages := window.messages + 1 } else window
  | .row throughput => ⟨throughput.finish, 0⟩

/-- A row begins where the last one ended, spans at least the interval, and counts the messages in
between. -/
def RowWindow.Fits (gru : GruTime) (window : RowWindow) : TestEvent → Prop
  | .transferred _ => True
  | .row throughput =>
    throughput.start = window.since ∧ throughput.count = window.messages ∧
      rowInterval ≤ gru.elapsedSecs throughput.start throughput.finish

/-- The rows partition the run that the events describe. -/
def Partitioned (gru : GruTime) (worker : NaiveWorker) : RowWindow → List TestEvent → Prop
  | _, [] => True
  | window, event :: events =>
    window.Fits gru event ∧ Partitioned gru worker (window.after worker event) events

def TestEvent.rowCount : TestEvent → ℕ
  | .transferred _ => 0
  | .row throughput => throughput.count

/-- The sum of the counts of the rows. -/
def rowTotal (events : List TestEvent) : ℕ := (events.map TestEvent.rowCount).sum

/-- What the counters of a worker stand for. -/
structure CountsMessages (gru : GruTime) (worker : NaiveWorker) (duration : TestDuration)
    (state : TestState) : Prop where
  count : state.count = state.log.countP worker.isMessage
  bounded : ∀ limit, duration = .messageCount limit → state.count ≤ limit
  finished : ∀ limit, duration = .messageCount limit → state.exit = some .finished →
    state.count = limit
  partitioned : Partitioned gru worker ⟨state.start, 0⟩ state.log
  total : ∀ before throughput after, state.log = before ++ .row throughput :: after →
    rowTotal (before ++ [.row throughput]) = before.countP worker.isMessage

theorem partitioned_concat (gru : GruTime) (worker : NaiveWorker) (window : RowWindow)
    (events : List TestEvent) (event : TestEvent) :
    Partitioned gru worker window (events ++ [event]) ↔
      Partitioned gru worker window events ∧
        (events.foldl (RowWindow.after worker) window).Fits gru event := by
  induction events generalizing window with
  | nil => simp [Partitioned]
  | cons first events ih => simp [Partitioned, ih, and_assoc]

theorem rowTotal_cons (event : TestEvent) (events : List TestEvent) :
    rowTotal (event :: events) = event.rowCount + rowTotal events := by
  simp [rowTotal]

/-- The counts up to a row are those of the messages before it. -/
theorem rowTotal_of_partitioned {gru : GruTime} {worker : NaiveWorker} {window : RowWindow}
    {before after : List TestEvent} {throughput : Throughput}
    (h : Partitioned gru worker window (before ++ .row throughput :: after)) :
    rowTotal (before ++ [.row throughput]) = window.messages + before.countP worker.isMessage := by
  induction before generalizing window with
  | nil => simpa [rowTotal, TestEvent.rowCount] using h.1.2.1
  | cons event before ih =>
    have hrest := ih h.2
    rw [List.cons_append, rowTotal_cons, hrest, List.countP_cons]
    cases event with
    | transferred transfer =>
      cases hsucceeds : worker.succeeds transfer with
      | true =>
        simp only [TestEvent.rowCount, RowWindow.after, NaiveWorker.isMessage, hsucceeds, if_true]
        omega
      | false => simp [TestEvent.rowCount, RowWindow.after, NaiveWorker.isMessage, hsucceeds]
    | row first =>
      have hcount : first.count = window.messages := h.1.2.1
      simp [TestEvent.rowCount, RowWindow.after, NaiveWorker.isMessage, hcount]

/-- Everything that the body of a loop can do with a transfer. -/
inductive TurnCase (gru : GruTime) (worker : NaiveWorker) (state : TestState) (round : TestRound) :
    TestState → Prop where
  | passed (now : Timestamp) : worker.succeeds round.transfer = false →
      TurnCase gru worker state round
        { state.record (.transferred round.transfer) with now := now }
  | failed : worker.succeeds round.transfer = false →
      TurnCase gru worker state round
        ((state.record (.transferred round.transfer)).leave .transferError)
  | sampled : worker.succeeds round.transfer = true →
      TurnCase gru worker state round
        (((state.record (.transferred round.transfer)).counted round).sampleRow gru round)
  | unwritten : worker.succeeds round.transfer = true →
      TurnCase gru worker state round
        (((state.record (.transferred round.transfer)).counted round).leave .writeError)

theorem NaiveWorker.turn_cases (gru : GruTime) (worker : NaiveWorker) (state : TestState)
    (round : TestRound) : TurnCase gru worker state round (worker.turn gru state round) := by
  cases worker with
  | sender =>
    simp only [NaiveWorker.turn, naiveSenderTurn]
    split
    next htransfer => exact .failed (by rw [htransfer]; rfl)
    next htransfer => exact .failed (by rw [htransfer]; rfl)
    next htransfer => exact .sampled (by rw [htransfer]; rfl)
    next htransfer => exact .sampled (by rw [htransfer]; rfl)
  | receiver =>
    simp only [NaiveWorker.turn, naiveReceiverTurn]
    split
    next htransfer => exact .failed (by rw [htransfer]; rfl)
    next htransfer => exact .passed state.now (by rw [htransfer]; rfl)
    next htransfer => exact .passed round.clock (by rw [htransfer]; rfl)
    next htransfer =>
      split
      · exact .sampled (by rw [htransfer]; rfl)
      · exact .unwritten (by rw [htransfer]; rfl)

/-- The variables of the loop describe the events since the last row. -/
structure Tallied (gru : GruTime) (worker : NaiveWorker) (state : TestState) : Prop where
  count : state.count = state.log.countP worker.isMessage
  lastCount : state.lastCount ≤ state.count
  partitioned : Partitioned gru worker ⟨state.start, 0⟩ state.log
  window : state.log.foldl (RowWindow.after worker) ⟨state.start, 0⟩ =
    ⟨state.lastSample, state.count - state.lastCount⟩

namespace Tallied

variable {gru : GruTime} {worker : NaiveWorker} {state : TestState}

theorem initial (gru : GruTime) (worker : NaiveWorker) (start : Timestamp) :
    Tallied gru worker (.initial start) := ⟨rfl, le_rfl, trivial, rfl⟩

theorem leave (h : Tallied gru worker state) (reason : TestExit) :
    Tallied gru worker (state.leave reason) := ⟨h.count, h.lastCount, h.partitioned, h.window⟩

theorem record_unsuccessful (h : Tallied gru worker state) (transfer : Transfer)
    (htransfer : worker.succeeds transfer = false) :
    Tallied gru worker (state.record (.transferred transfer)) where
  count := by simp [TestState.record, h.count, NaiveWorker.isMessage, htransfer]
  lastCount := h.lastCount
  partitioned := (partitioned_concat gru worker _ _ _).mpr ⟨h.partitioned, trivial⟩
  window := by simp [TestState.record, h.window, RowWindow.after, htransfer]

theorem record_counted (h : Tallied gru worker state) (round : TestRound)
    (htransfer : worker.succeeds round.transfer = true) :
    Tallied gru worker ((state.record (.transferred round.transfer)).counted round) where
  count := by
    simp [TestState.record, TestState.counted, h.count, NaiveWorker.isMessage, htransfer]
  lastCount := h.lastCount.trans (Nat.le_succ _)
  partitioned := (partitioned_concat gru worker _ _ _).mpr ⟨h.partitioned, trivial⟩
  window := by
    have hlast := h.lastCount
    simp only [TestState.record, TestState.counted, List.foldl_append, h.window, List.foldl_cons,
      List.foldl_nil, RowWindow.after, htransfer, if_true, RowWindow.mk.injEq, true_and]
    omega

theorem sampleRow (h : Tallied gru worker state) (round : TestRound) :
    Tallied gru worker (state.sampleRow gru round) := by
  unfold TestState.sampleRow
  split
  next hinterval =>
    split
    · have hfits : (state.log.foldl (RowWindow.after worker) ⟨state.start, 0⟩).Fits gru
          (.row (calcThroughput state.lastSample state.now (state.count - state.lastCount))) := by
        rw [h.window]
        exact ⟨rfl, rfl, hinterval⟩
      refine ⟨?_, le_rfl, (partitioned_concat gru worker _ _ _).mpr ⟨h.partitioned, hfits⟩, ?_⟩
      · simp [TestState.record, h.count, NaiveWorker.isMessage]
      · simp [TestState.record, RowWindow.after, calcThroughput]
    · exact h.leave .writeError
  · exact h

theorem turn (h : Tallied gru worker state) (round : TestRound) :
    Tallied gru worker (worker.turn gru state round) := by
  have hturn := worker.turn_cases gru state round
  generalize worker.turn gru state round = after at hturn ⊢
  cases hturn with
  | passed now hsucceeds =>
    obtain ⟨hcount, hlast, hpartitioned, hwindow⟩ := h.record_unsuccessful round.transfer hsucceeds
    exact ⟨hcount, hlast, hpartitioned, hwindow⟩
  | failed hsucceeds => exact (h.record_unsuccessful round.transfer hsucceeds).leave .transferError
  | sampled hsucceeds => exact (h.record_counted round hsucceeds).sampleRow round
  | unwritten hsucceeds => exact (h.record_counted round hsucceeds).leave .writeError

end Tallied

/-! ## The number of messages -/

@[simp] theorem sampleRow_count (gru : GruTime) (state : TestState) (round : TestRound) :
    (state.sampleRow gru round).count = state.count := by
  unfold TestState.sampleRow
  split
  · split <;> rfl
  · rfl

/-- The body of a loop never ends it as the check does. -/
theorem sampleRow_exit (gru : GruTime) {state : TestState} (round : TestRound)
    (h : state.exit ≠ some .finished) : (state.sampleRow gru round).exit ≠ some .finished := by
  unfold TestState.sampleRow
  split
  · split
    · exact h
    · simp [TestState.leave]
  · exact h

theorem NaiveWorker.turn_count_le (gru : GruTime) (worker : NaiveWorker) (state : TestState)
    (round : TestRound) : (worker.turn gru state round).count ≤ state.count + 1 := by
  have hturn := worker.turn_cases gru state round
  generalize worker.turn gru state round = after at hturn ⊢
  cases hturn with
  | passed now _ => exact Nat.le_succ state.count
  | failed _ => exact Nat.le_succ state.count
  | sampled _ => exact (sampleRow_count gru _ round).le
  | unwritten _ => exact le_rfl

theorem NaiveWorker.turn_exit (gru : GruTime) (worker : NaiveWorker) {state : TestState}
    (round : TestRound) (h : state.exit = none) :
    (worker.turn gru state round).exit ≠ some .finished := by
  have hrunning : state.exit ≠ some .finished := by simp [h]
  have hturn := worker.turn_cases gru state round
  generalize worker.turn gru state round = after at hturn ⊢
  cases hturn with
  | passed now _ => exact hrunning
  | failed _ => simp [TestState.leave]
  | sampled _ => exact sampleRow_exit gru round hrunning
  | unwritten _ => simp [TestState.leave]

/-- The number of messages stays within the limit, and the check ends the loop at the limit. -/
structure WithinLimit (duration : TestDuration) (state : TestState) : Prop where
  bounded : ∀ limit, duration = .messageCount limit → state.count ≤ limit
  finished : ∀ limit, duration = .messageCount limit → state.exit = some .finished →
    state.count = limit

theorem testNext_withinLimit {gru : GruTime} {worker : NaiveWorker} {duration : TestDuration}
    {state : TestState} (h : WithinLimit duration state) (round : TestRound) :
    WithinLimit duration (testNext (worker.turn gru) duration state round) := by
  unfold testNext
  split
  · exact h
  next hexit =>
    have hrunning : state.exit = none := by simpa using hexit
    split
    next hcheck =>
      refine ⟨?_, fun _ _ hfinished ↦ absurd hfinished (worker.turn_exit gru round hrunning)⟩
      rintro limit rfl
      have hbelow : state.count < limit := by
        rw [workerCheck] at hcheck
        split at hcheck
        · simp at hcheck
        · exact of_decide_eq_true hcheck
      exact (worker.turn_count_le gru state round).trans hbelow
    next hcheck =>
      refine ⟨h.bounded, ?_⟩
      rintro limit rfl hfinished
      have hinterrupted : round.interrupted = false := by
        by_contra hinterrupted
        simp [TestState.leave, hinterrupted] at hfinished
      have hreached : limit ≤ state.count := by
        simpa [workerCheck, hinterrupted] using hcheck
      exact le_antisymm (h.bounded limit rfl) hreached

theorem testNext_tallied {gru : GruTime} {worker : NaiveWorker} {state : TestState}
    (h : Tallied gru worker state) (duration : TestDuration) (round : TestRound) :
    Tallied gru worker (testNext (worker.turn gru) duration state round) := by
  unfold testNext
  split
  · exact h
  · split
    · exact h.turn round
    · exact h.leave _

section Run

variable (gru : GruTime) (worker : NaiveWorker) (duration : TestDuration) (start : Timestamp)
  (rounds : ℕ → TestRound) (i : ℕ)

theorem testStates_tallied :
    Tallied gru worker (testStates (worker.turn gru) duration start rounds i) := by
  induction i with
  | zero => exact Tallied.initial gru worker start
  | succ i ih => exact testNext_tallied ih duration (rounds i)

theorem testStates_withinLimit :
    WithinLimit duration (testStates (worker.turn gru) duration start rounds i) := by
  induction i with
  | zero => exact ⟨fun _ _ ↦ Nat.zero_le _, by simp [testStates, TestState.initial]⟩
  | succ i ih => exact testNext_withinLimit ih (rounds i)

/-- In every run of a naive worker, before every iteration and after the end of the loop: the count
is the number of the successful transfers, it stays within the limit and reaches it when the check
ends the loop, and the rows partition the run. -/
theorem testStates_countsMessages :
    CountsMessages gru worker duration
      (testStates (worker.turn gru) duration start rounds i) := by
  have htallied := testStates_tallied gru worker duration start rounds i
  have hlimit := testStates_withinLimit gru worker duration start rounds i
  refine ⟨htallied.count, hlimit.bounded, hlimit.finished, htallied.partitioned, ?_⟩
  intro before throughput after hlog
  have hpartitioned := htallied.partitioned
  rw [hlog] at hpartitioned
  simpa using rowTotal_of_partitioned hpartitioned

end Run

end MsgPerf.Worker
