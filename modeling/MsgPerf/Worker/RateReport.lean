import MsgPerf.Worker.Writers

/-!
# The times in the rate report

A rate worker enqueues its snapshot for every message it counts.  The snapshot carries the time of
the message, the time at which the rate expects it, and the throughput of the last sampling, which
is taken at most once a second.  The manager hands the throughput and the expected time of each
snapshot to the writer of the rate, and the writer prints the end of the duration of the throughput
as the actual time.

The functions of the time library are parameters.  A run is given by the turns of its loop: the
number of turns is decided by the duration of the test and by interruptions, and every list of turns
is considered.
-/

namespace MsgPerf.Worker

/-! ## Times -/

/-- The microseconds since the epoch. -/
def Timestamp.micros (time : Timestamp) : ℤ := 1000000 * time.tvSec + time.tvUsec

def Timestamp.zero : Timestamp := ⟨0, 0⟩

/-- The functions on times that the workers and the writer call.  `writeFormat` has no value when
`gru_time_write_format` returns null. -/
structure GruTime where
  elapsedSecs : Timestamp → Timestamp → ℤ
  addMicroseconds : Timestamp → ℕ → Timestamp
  writeFormat : Timestamp → Option String
  micros_addMicroseconds : ∀ time amount,
    (addMicroseconds time amount).micros = time.micros + amount

/-- `stat_throughput_t` without its rate, with the start and the end of its duration. -/
structure Throughput where
  start : Timestamp
  finish : Timestamp
  count : ℕ
  deriving DecidableEq, Repr

/-- `stat_latency_t` without its elapsed time, with the start and the end of its duration. -/
structure Latency where
  start : Timestamp
  finish : Timestamp
  deriving DecidableEq, Repr

/-- `worker_snapshot_t` with the parts of its statistics that the rate workers fill in. -/
structure RateSnapshot where
  count : ℕ
  start : Timestamp
  now : Timestamp
  eta : Timestamp
  latency : Latency
  throughput : Throughput
  deriving DecidableEq, Repr

def calcLatency (start finish : Timestamp) : Latency := ⟨start, finish⟩

def calcThroughput (start finish : Timestamp) (count : ℕ) : Throughput := ⟨start, finish, count⟩

/-! ## The loops of the rate workers -/

/-- The snapshot and the variables of the loop. -/
structure RateState where
  snapshot : RateSnapshot
  lastSample : Timestamp
  lastCount : ℕ
  deriving DecidableEq, Repr

/-- The state before the loop: a zeroed snapshot with its times set to the start. -/
def RateState.initial (start : Timestamp) : RateState :=
  ⟨⟨0, start, start, start, ⟨.zero, .zero⟩, ⟨.zero, .zero, 0⟩⟩, start, 0⟩

/-- The microseconds between two messages at a rate. -/
def rateInterval (rate : ℕ) : ℕ := if rate ≠ 0 then 1000000 / rate else 0

/-- The number of seconds between two samplings. -/
def sampleInterval : ℤ := 1

/-- The throughput is computed when a sampling interval has passed since the last sampling. -/
def RateState.sample (gru : GruTime) (state : RateState) : RateState :=
  if sampleInterval ≤ gru.elapsedSecs state.lastSample state.snapshot.now then
    { snapshot := { state.snapshot with
        throughput := calcThroughput state.lastSample state.snapshot.now
          (state.snapshot.count - state.lastCount) }
      lastSample := state.snapshot.now
      lastCount := state.snapshot.count }
  else state

/-- The expected time moves on after the snapshot has been enqueued. -/
def RateState.expectNext (gru : GruTime) (interval : ℕ) (state : RateState) : RateState :=
  { state with snapshot := { state.snapshot with
      eta := gru.addMicroseconds state.snapshot.eta interval } }

/-- A turn of the loop: the status of the transfer, the clock after it, and the time of creation
that a received message carries. -/
structure RateRound where
  transfer : Transfer
  clock : Timestamp
  created : Timestamp
  deriving DecidableEq, Repr

/-- The snapshot is updated for a sent message. -/
def RateState.countSent (state : RateState) (round : RateRound) : RateState :=
  { state with snapshot := { state.snapshot with
      count := state.snapshot.count + 1
      now := round.clock } }

def RateState.countReceived (state : RateState) (round : RateRound) : RateState :=
  { state with snapshot := { state.snapshot with
      count := state.snapshot.count + 1
      now := round.clock
      latency := calcLatency round.created round.clock } }

/-- The clock is read although nothing was received. -/
def RateState.idle (state : RateState) (round : RateRound) : RateState :=
  { state with snapshot := { state.snapshot with now := round.clock } }

/-- The snapshots that the loop of `rate_sender_start` enqueues. -/
def rateSenderLoop (gru : GruTime) (interval : ℕ) : RateState → List RateRound → List RateSnapshot
  | _, [] => []
  | state, round :: rounds =>
      match round.transfer with
      | .failed | .noTimestamp => []
      | .done | .noData =>
          let counted := (state.countSent round).sample gru
          counted.snapshot :: rateSenderLoop gru interval (counted.expectNext gru interval) rounds

/-- The snapshots that the loop of `rate_receiver_start` enqueues. -/
def rateReceiverLoop (gru : GruTime) (interval : ℕ) :
    RateState → List RateRound → List RateSnapshot
  | _, [] => []
  | state, round :: rounds =>
      match round.transfer with
      | .failed => []
      | .noTimestamp => rateReceiverLoop gru interval state rounds
      | .noData => rateReceiverLoop gru interval (state.idle round) rounds
      | .done =>
          let counted := (state.countReceived round).sample gru
          counted.snapshot ::
            rateReceiverLoop gru interval (counted.expectNext gru interval) rounds

/-- The worker functions that a daemon starts for a rate. -/
inductive RateWorker where
  | sender | receiver
  deriving DecidableEq, Repr

/-- The launch that starts the worker. -/
def RateWorker.launch (rate : ℕ) : RateWorker → Launch
  | .sender => .senderd rate
  | .receiver => .receiverd rate

def RateWorker.enqueued (gru : GruTime) (rate : ℕ) (start : Timestamp) (rounds : List RateRound) :
    RateWorker → List RateSnapshot
  | .sender => rateSenderLoop gru (rateInterval rate) (.initial start) rounds
  | .receiver => rateReceiverLoop gru (rateInterval rate) (.initial start) rounds

/-- The turns in which a message is counted. -/
def RateWorker.messages (rounds : List RateRound) : RateWorker → List RateRound
  | .sender => rounds.takeWhile fun round ↦ round.transfer = .done ∨ round.transfer = .noData
  | .receiver => (rounds.takeWhile fun round ↦ round.transfer ≠ .failed).filter fun round ↦
      round.transfer = .done

/-- The clock values read for the counted messages. -/
def RateWorker.clocks (rounds : List RateRound) (worker : RateWorker) : List Timestamp :=
  (worker.messages rounds).map RateRound.clock

/-! ## The writer -/

/-- A row of the report: the two times, each with its printed date. -/
structure RateRow where
  eta : Timestamp
  etaText : String
  ata : Timestamp
  ataText : String
  deriving DecidableEq, Repr

/-- `csv_tpr_writer_write_v1`, the only version there is. -/
def csvTprWriterWrite (gru : GruTime) (throughput : Throughput) (eta : Timestamp) :
    Option RateRow := do
  let etaText ← gru.writeFormat eta
  let ataText ← gru.writeFormat throughput.finish
  return ⟨eta, etaText, throughput.finish, ataText⟩

/-- What a call of the drain loop adds to the rate report. -/
def WriterCall.row (gru : GruTime) : WriterCall RateSnapshot → Option RateRow
  | .latencyWrite _ => none
  | .rateWrite snapshot => csvTprWriterWrite gru snapshot.throughput snapshot.eta

/-- The rows that the drain loop writes for a snapshot. -/
def rateRows (gru : GruTime) (flags : Flags) (snapshot : RateSnapshot) : List RateRow :=
  (snapshotCalls flags snapshot).filterMap (WriterCall.row gru)

/-- There is one snapshot for every counted message, and the row written for it has the expected
time and the clock value of that message. -/
def RecordsOwnTimes (gru : GruTime) (worker : RateWorker) (rate : ℕ) (start : Timestamp)
    (rounds : List RateRound) : Prop :=
  let enqueued := worker.enqueued gru rate start rounds
  enqueued.length = (worker.clocks rounds).length ∧
    ∀ (i : ℕ) snapshot clock, enqueued[i]? = some snapshot → (worker.clocks rounds)[i]? = some clock →
      ∃ row, rateRows gru (worker.launch rate).flags snapshot = [row] ∧
        row.eta.micros = start.micros + i * rateInterval rate ∧ row.ata = clock

/-! ## The times that are recorded -/

section

variable (gru : GruTime) (start : Timestamp)

/-- The last sampling after a message at the time `clock`. -/
def samplingAfter (last : Option Timestamp) (clock : Timestamp) : Option Timestamp :=
  if sampleInterval ≤ gru.elapsedSecs (last.getD start) clock then some clock else last

/-- The clock value of the last of some messages at which a sampling interval had passed since the
previous such message, or since the start. -/
def lastSampled (clocks : List Timestamp) : Option Timestamp :=
  clocks.foldl (samplingAfter gru start) none

/-- The time at which the message with index `i` is expected. -/
def expectedTime (rate i : ℕ) : Timestamp :=
  (fun time ↦ gru.addMicroseconds time (rateInterval rate))^[i] start

/-- Every message finds that a sampling interval has passed since the last sampling, or has the same
clock value as that sampling, which is the zero time when there was none; and its two times can be
formatted. -/
def EachSampled (worker : RateWorker) (rate : ℕ) (rounds : List RateRound) : Prop :=
  ∀ (i : ℕ) clock, (worker.clocks rounds)[i]? = some clock →
    (sampleInterval ≤ gru.elapsedSecs
        ((lastSampled gru start ((worker.clocks rounds).take i)).getD start) clock ∨
      (lastSampled gru start ((worker.clocks rounds).take i)).getD .zero = clock) ∧
    (gru.writeFormat (expectedTime gru start rate i)).isSome ∧ (gru.writeFormat clock).isSome

/-- The two times of a snapshot that the writer prints. -/
def RateSnapshot.times (snapshot : RateSnapshot) : Timestamp × Timestamp :=
  (snapshot.eta, snapshot.throughput.finish)

/-- The times printed for messages with the given clock values. -/
def recordedTimes (interval : ℕ) :
    Timestamp → Option Timestamp → List Timestamp → List (Timestamp × Timestamp)
  | _, _, [] => []
  | eta, last, clock :: clocks =>
      (eta, (samplingAfter gru start last clock).getD .zero) ::
        recordedTimes interval (gru.addMicroseconds eta interval)
          (samplingAfter gru start last clock) clocks

theorem expectedTime_micros (rate i : ℕ) :
    (expectedTime gru start rate i).micros = start.micros + i * rateInterval rate := by
  induction i with
  | zero => simp [expectedTime]
  | succ i ih =>
    rw [expectedTime, Function.iterate_succ_apply', gru.micros_addMicroseconds]
    rw [expectedTime] at ih
    rw [ih]
    push_cast
    ring

theorem recordedTimes_getElem? (interval : ℕ) (eta : Timestamp) (last : Option Timestamp)
    (clocks : List Timestamp) (i : ℕ) :
    (recordedTimes gru start interval eta last clocks)[i]? = clocks[i]?.map fun clock ↦
      ((fun time ↦ gru.addMicroseconds time interval)^[i] eta,
        (samplingAfter gru start ((clocks.take i).foldl (samplingAfter gru start) last)
          clock).getD .zero) := by
  induction clocks generalizing eta last i with
  | nil => simp [recordedTimes]
  | cons clock clocks ih =>
    cases i with
    | zero => simp [recordedTimes]
    | succ i => simp [recordedTimes, ih]

theorem recordedTimes_length (interval : ℕ) (eta : Timestamp) (last : Option Timestamp)
    (clocks : List Timestamp) :
    (recordedTimes gru start interval eta last clocks).length = clocks.length := by
  induction clocks generalizing eta last with
  | nil => rfl
  | cons clock clocks ih => simp [recordedTimes, ih]

/-- The sampling at `last` is the one that the variables of the loop and the throughput of the
snapshot stand for. -/
structure RateState.SampledAt (state : RateState) (last : Option Timestamp) : Prop where
  lastSample : state.lastSample = last.getD start
  finish : state.snapshot.throughput.finish = last.getD .zero

variable {start} {state : RateState} {last : Option Timestamp}

theorem initial_sampledAt : (RateState.initial start).SampledAt start none := ⟨rfl, rfl⟩

theorem sample_sampledAt (hstate : state.SampledAt start last) :
    (state.sample gru).SampledAt start (samplingAfter gru start last state.snapshot.now) := by
  rw [RateState.sample, samplingAfter, ← hstate.lastSample]
  split
  · exact ⟨rfl, rfl⟩
  · exact hstate

theorem sample_eta : (state.sample gru).snapshot.eta = state.snapshot.eta := by
  rw [RateState.sample]
  split <;> rfl

/-- What counting a message adds to the report, and the state with which the loop goes on. -/
theorem counted_times (hstate : state.SampledAt start last) (interval : ℕ) :
    (state.sample gru).snapshot.times =
        (state.snapshot.eta, (samplingAfter gru start last state.snapshot.now).getD .zero) ∧
      ((state.sample gru).expectNext gru interval).SampledAt start
        (samplingAfter gru start last state.snapshot.now) ∧
      ((state.sample gru).expectNext gru interval).snapshot.eta =
        gru.addMicroseconds state.snapshot.eta interval := by
  have hsample := sample_sampledAt gru hstate
  refine ⟨?_, ⟨hsample.lastSample, hsample.finish⟩, ?_⟩
  · rw [RateSnapshot.times, sample_eta, hsample.finish]
  · rw [RateState.expectNext, sample_eta]

theorem rateSenderLoop_times (interval : ℕ) (rounds : List RateRound)
    (hstate : state.SampledAt start last) :
    (rateSenderLoop gru interval state rounds).map RateSnapshot.times =
      recordedTimes gru start interval state.snapshot.eta last
        (RateWorker.sender.clocks rounds) := by
  induction rounds generalizing state last with
  | nil => rfl
  | cons round rounds ih =>
    have hcount : (state.countSent round).SampledAt start last := ⟨hstate.1, hstate.2⟩
    obtain ⟨htimes, hnext, heta⟩ := counted_times gru hcount interval
    cases htransfer : round.transfer with
    | failed | noTimestamp =>
      simp [rateSenderLoop, RateWorker.clocks, RateWorker.messages, recordedTimes, htransfer]
    | done | noData =>
      simp only [RateWorker.clocks, RateWorker.messages] at ih ⊢
      simp only [rateSenderLoop, htransfer, List.map_cons, htimes, ih hnext, heta]
      simp [htransfer, recordedTimes, RateState.countSent]

theorem rateReceiverLoop_times (interval : ℕ) (rounds : List RateRound)
    (hstate : state.SampledAt start last) :
    (rateReceiverLoop gru interval state rounds).map RateSnapshot.times =
      recordedTimes gru start interval state.snapshot.eta last
        (RateWorker.receiver.clocks rounds) := by
  induction rounds generalizing state last with
  | nil => rfl
  | cons round rounds ih =>
    have hcount : (state.countReceived round).SampledAt start last := ⟨hstate.1, hstate.2⟩
    obtain ⟨htimes, hnext, heta⟩ := counted_times gru hcount interval
    simp only [RateWorker.clocks, RateWorker.messages] at ih ⊢
    cases htransfer : round.transfer with
    | failed => simp [rateReceiverLoop, recordedTimes, htransfer]
    | noTimestamp => simp [rateReceiverLoop, htransfer, ih hstate]
    | noData =>
      have hidle : (state.idle round).SampledAt start last := ⟨hstate.1, hstate.2⟩
      simp only [rateReceiverLoop, htransfer, ih hidle]
      simp [htransfer, RateState.idle]
    | done =>
      simp only [rateReceiverLoop, htransfer, List.map_cons, htimes, ih hnext, heta]
      simp [htransfer, recordedTimes, RateState.countReceived]

theorem enqueued_times (worker : RateWorker) (rate : ℕ) (rounds : List RateRound) :
    (worker.enqueued gru rate start rounds).map RateSnapshot.times =
      recordedTimes gru start (rateInterval rate) start none (worker.clocks rounds) := by
  cases worker with
  | sender => exact rateSenderLoop_times gru _ rounds initial_sampledAt
  | receiver => exact rateReceiverLoop_times gru _ rounds initial_sampledAt

variable (start) in
/-- The snapshot of a message carries its expected time and the time of the last sampling. -/
theorem exists_enqueued (worker : RateWorker) (rate : ℕ) (rounds : List RateRound) {i : ℕ}
    {clock : Timestamp} (hclock : (worker.clocks rounds)[i]? = some clock) :
    ∃ snapshot, (worker.enqueued gru rate start rounds)[i]? = some snapshot ∧
      snapshot.eta = expectedTime gru start rate i ∧
      snapshot.throughput.finish = (samplingAfter gru start
        (lastSampled gru start ((worker.clocks rounds).take i)) clock).getD .zero := by
  have htimes : (worker.enqueued gru rate start rounds)[i]?.map RateSnapshot.times =
      some (expectedTime gru start rate i, (samplingAfter gru start
        (lastSampled gru start ((worker.clocks rounds).take i)) clock).getD .zero) := by
    rw [← List.getElem?_map, enqueued_times, recordedTimes_getElem?, hclock]
    rfl
  obtain ⟨snapshot, hsnapshot, htimes⟩ := Option.map_eq_some_iff.mp htimes
  rw [RateSnapshot.times, Prod.mk.injEq] at htimes
  exact ⟨snapshot, hsnapshot, htimes.1, htimes.2⟩

theorem enqueued_length (worker : RateWorker) (rate : ℕ) (rounds : List RateRound) :
    (worker.enqueued gru rate start rounds).length = (worker.clocks rounds).length := by
  calc (worker.enqueued gru rate start rounds).length
      = ((worker.enqueued gru rate start rounds).map RateSnapshot.times).length := by
        rw [List.length_map]
    _ = (worker.clocks rounds).length := by rw [enqueued_times, recordedTimes_length]

/-- Daemons write one row for a snapshot if its times can be formatted. -/
theorem rateRows_launch (worker : RateWorker) (rate : ℕ) (snapshot : RateSnapshot) :
    rateRows gru (worker.launch rate).flags snapshot =
      (csvTprWriterWrite gru snapshot.throughput snapshot.eta).toList := by
  cases worker <;>
    cases hrow : csvTprWriterWrite gru snapshot.throughput snapshot.eta <;>
    simp [rateRows, RateWorker.launch, Launch.flags, snapshotCalls, WriterCall.row, hrow,
      List.filterMap_cons]

theorem csvTprWriterWrite_eq_some_iff (throughput : Throughput) (eta : Timestamp) (row : RateRow) :
    csvTprWriterWrite gru throughput eta = some row ↔
      gru.writeFormat eta = some row.etaText ∧
        gru.writeFormat throughput.finish = some row.ataText ∧
        row.eta = eta ∧ row.ata = throughput.finish := by
  obtain ⟨rowEta, etaText, rowAta, ataText⟩ := row
  simp only [csvTprWriterWrite, Option.bind_eq_bind, Option.bind_eq_some_iff, Option.pure_def,
    Option.some.injEq, RateRow.mk.injEq]
  constructor
  · rintro ⟨_, heta, _, hata, rfl, rfl, rfl, rfl⟩
    exact ⟨heta, hata, rfl, rfl⟩
  · rintro ⟨heta, hata, rfl, rfl⟩
    exact ⟨etaText, heta, ataText, hata, rfl, rfl, rfl, rfl⟩

/-- The row of a snapshot has given times exactly when the snapshot does and they can be
formatted. -/
theorem row_records_iff (worker : RateWorker) (rate : ℕ) (snapshot : RateSnapshot) (micros : ℤ)
    (clock : Timestamp) :
    (∃ row, rateRows gru (worker.launch rate).flags snapshot = [row] ∧
        row.eta.micros = micros ∧ row.ata = clock) ↔
      snapshot.eta.micros = micros ∧ snapshot.throughput.finish = clock ∧
        (gru.writeFormat snapshot.eta).isSome ∧ (gru.writeFormat clock).isSome := by
  simp only [rateRows_launch, Option.toList_eq_singleton_iff, csvTprWriterWrite_eq_some_iff]
  constructor
  · rintro ⟨row, ⟨hetaText, hataText, heta, hata⟩, hmicros, rfl⟩
    rw [heta] at hmicros
    rw [hata, hetaText, hataText]
    exact ⟨hmicros, rfl, rfl, rfl⟩
  · rintro ⟨hmicros, rfl, heta, hata⟩
    obtain ⟨etaText, hetaText⟩ := Option.isSome_iff_exists.mp heta
    obtain ⟨ataText, hataText⟩ := Option.isSome_iff_exists.mp hata
    exact ⟨⟨snapshot.eta, etaText, snapshot.throughput.finish, ataText⟩,
      ⟨hetaText, hataText, rfl, rfl⟩, hmicros, rfl⟩

theorem samplingAfter_getD_eq_iff (clock : Timestamp) :
    (samplingAfter gru start last clock).getD .zero = clock ↔
      sampleInterval ≤ gru.elapsedSecs (last.getD start) clock ∨ last.getD .zero = clock := by
  rw [samplingAfter]
  split
  case isTrue hpassed => simp [hpassed]
  case isFalse hpassed => simp [hpassed]

end

/-- The row of a message has its times exactly when the message is sampled. -/
theorem message_records_iff (gru : GruTime) (worker : RateWorker) (rate : ℕ) (start : Timestamp)
    (rounds : List RateRound) {i : ℕ} {clock : Timestamp}
    (hclock : (worker.clocks rounds)[i]? = some clock) :
    ∃ snapshot, (worker.enqueued gru rate start rounds)[i]? = some snapshot ∧
      ((∃ row, rateRows gru (worker.launch rate).flags snapshot = [row] ∧
          row.eta.micros = start.micros + i * rateInterval rate ∧ row.ata = clock) ↔
        (sampleInterval ≤ gru.elapsedSecs
            ((lastSampled gru start ((worker.clocks rounds).take i)).getD start) clock ∨
          (lastSampled gru start ((worker.clocks rounds).take i)).getD .zero = clock) ∧
        (gru.writeFormat (expectedTime gru start rate i)).isSome ∧
        (gru.writeFormat clock).isSome) := by
  obtain ⟨snapshot, hsnapshot, heta, hfinish⟩ :=
    exists_enqueued gru start worker rate rounds hclock
  refine ⟨snapshot, hsnapshot, ?_⟩
  rw [row_records_iff, heta, hfinish, expectedTime_micros, samplingAfter_getD_eq_iff]
  exact and_iff_right rfl

/-- The rate report of a run records the times of each message exactly when each message is sampled,
or has the clock value of the last sampling. -/
theorem recordsOwnTimes_iff (gru : GruTime) (worker : RateWorker) (rate : ℕ) (start : Timestamp)
    (rounds : List RateRound) :
    RecordsOwnTimes gru worker rate start rounds ↔ EachSampled gru start worker rate rounds := by
  constructor
  · rintro ⟨-, hrows⟩ i clock hclock
    obtain ⟨snapshot, hsnapshot, hrow⟩ := message_records_iff gru worker rate start rounds hclock
    exact hrow.mp (hrows i snapshot clock hsnapshot hclock)
  · intro hsampled
    refine ⟨enqueued_length gru worker rate rounds, fun i snapshot clock hsnapshot hclock ↦ ?_⟩
    obtain ⟨found, hfound, hrow⟩ := message_records_iff gru worker rate start rounds hclock
    obtain rfl : snapshot = found := Option.some.inj (hsnapshot.symm.trans hfound)
    exact hrow.mpr (hsampled i clock hclock)

/-- The time library on whole seconds and microseconds, with a date that is not looked at. -/
def systemTime : GruTime where
  elapsedSecs start finish := finish.tvSec - start.tvSec
  addMicroseconds time amount :=
    ⟨time.tvSec + (time.tvUsec + amount) / 1000000, (time.tvUsec + amount) % 1000000⟩
  writeFormat time := some (toString time.tvSec)
  micros_addMicroseconds time amount := by
    simp only [Timestamp.micros]
    omega

/-- A message sent in the second in which the test starts is recorded with the zero time. -/
theorem firstSecond_not_recordsOwnTimes :
    ¬ RecordsOwnTimes systemTime .sender 1000 ⟨1508411972, 661300⟩
      [⟨.done, ⟨1508411972, 706649⟩, .zero⟩] := by
  rintro ⟨-, hrows⟩
  obtain ⟨row, hrow, -, hata⟩ := hrows 0 _ _ rfl rfl
  obtain rfl := List.singleton_injective hrow
  revert hata
  decide

end MsgPerf.Worker
