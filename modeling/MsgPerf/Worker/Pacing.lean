import MsgPerf.Library.Decimal
import MsgPerf.Library.Machine
import MsgPerf.Worker.RateReport

/-!
# The schedule of the rate workers

The rate workers keep the time at which the next message is expected: it starts at the beginning of
the test and moves on by a whole number of microseconds with every counted message.  The sender
compares it with the clock value that it read after a message, in milliseconds, and sleeps for the
difference.

The time at which a message is sent is not read by the program.  It is part of the turn of the loop,
between the end of the sleep and the clock value after the message.
-/

namespace MsgPerf.Worker

open MsgPerf.Library

/-- The turn in which a message was counted: sampling, enqueueing, and the next expected time. -/
def RateState.sent (gru : GruTime) (interval : ℕ) (state : RateState) (round : RateRound) :
    RateState :=
  ((state.countSent round).sample gru).expectNext gru interval

def RateState.received (gru : GruTime) (interval : ℕ) (state : RateState) (round : RateRound) :
    RateState :=
  ((state.countReceived round).sample gru).expectNext gru interval

theorem sample_count (gru : GruTime) (state : RateState) :
    (state.sample gru).snapshot.count = state.snapshot.count := by
  rw [RateState.sample]
  split <;> rfl

theorem sample_now (gru : GruTime) (state : RateState) :
    (state.sample gru).snapshot.now = state.snapshot.now := by
  rw [RateState.sample]
  split <;> rfl

section Turn

variable (gru : GruTime) (interval : ℕ) (state : RateState) (round : RateRound)

@[simp] theorem sent_count :
    (state.sent gru interval round).snapshot.count = state.snapshot.count + 1 :=
  sample_count gru (state.countSent round)

@[simp] theorem sent_now : (state.sent gru interval round).snapshot.now = round.clock :=
  sample_now gru (state.countSent round)

@[simp] theorem sent_eta : (state.sent gru interval round).snapshot.eta.micros =
    state.snapshot.eta.micros + interval := by
  rw [RateState.sent, RateState.expectNext, sample_eta, gru.micros_addMicroseconds]
  rfl

@[simp] theorem received_count :
    (state.received gru interval round).snapshot.count = state.snapshot.count + 1 :=
  sample_count gru (state.countReceived round)

@[simp] theorem received_eta : (state.received gru interval round).snapshot.eta.micros =
    state.snapshot.eta.micros + interval := by
  rw [RateState.received, RateState.expectNext, sample_eta, gru.micros_addMicroseconds]
  rfl

end Turn

theorem rateInterval_le (rate : ℕ) : rateInterval rate ≤ 1000000 := by
  unfold rateInterval
  split
  · exact Nat.div_le_self _ _
  · exact Nat.zero_le _

/-! ## Pacing -/

/-- The time library with `gru_time_elapsed_milli`, the difference in whole milliseconds. -/
structure PacingTime extends GruTime where
  elapsedMilli : Timestamp → Timestamp → ℤ
  elapsedMilli_near : ∀ earlier later,
    |1000 * elapsedMilli earlier later - (later.micros - earlier.micros)| < 1000

/-- A turn of the loop with the time at which the message is sent. -/
structure PacedRound extends RateRound where
  sentAt : Timestamp
  deriving DecidableEq, Repr

/-- The state of the loop, and the time at which the sender has slept long enough. -/
structure PacedState where
  state : RateState
  resumed : ℤ
  deriving DecidableEq, Repr

/-- The argument of `usleep`: the cast comes before the product, which has 32 bits. -/
def usleepArgument (diff : ℤ) : ℕ := toUnsigned 32 diff * 1000 % 2 ^ 32

/-- The microseconds that the sender sleeps. -/
def sleepTime (diff : ℤ) : ℕ := if 0 < diff then usleepArgument diff else 0

/-- The milliseconds until the next message is expected. -/
def PacedState.diff (gru : PacingTime) (paced : PacedState) : ℤ :=
  gru.elapsedMilli paced.state.snapshot.now paced.state.snapshot.eta

/-- A turn of the loop of `rate_sender_start` with the sleep at its end. -/
def rateSenderNext (gru : PacingTime) (interval : ℕ) (paced : PacedState) (round : PacedRound) :
    Option PacedState :=
  match round.transfer with
  | .failed | .noTimestamp => none
  | .done | .noData =>
    let state := paced.state.sent gru.toGruTime interval round.toRateRound
    let diff := gru.elapsedMilli state.snapshot.now state.snapshot.eta
    some ⟨state, round.clock.micros + sleepTime diff⟩

def rateSenderMachine (gru : PacingTime) (rate : ℕ) (start : Timestamp) :
    Machine PacedState PacedRound where
  initial := ⟨.initial start, start.micros⟩
  next := rateSenderNext gru (rateInterval rate)

/-- The clock does not go backwards, and `usleep` lets its argument pass. -/
def ClockForward (paced : PacedState) (round : PacedRound) : Prop :=
  paced.resumed ≤ round.sentAt.micros ∧ round.sentAt.micros ≤ round.clock.micros

/-- What the sleeps achieve: the schedule is kept up to a millisecond, and no sleep is longer than
the interval and two milliseconds. -/
structure OnPace (gru : PacingTime) (rate : ℕ) (start : Timestamp) (paced : PacedState) : Prop where
  eta : paced.state.snapshot.eta.micros =
    start.micros + paced.state.snapshot.count * rateInterval rate
  resumed : start.micros + paced.state.snapshot.count * rateInterval rate - 1000 < paced.resumed
  diff : 1000 * paced.diff gru < 1002000

theorem usleepArgument_eq {diff : ℤ} (hpositive : 0 < diff) (hdiff : 1000 * diff < 1002000) :
    (usleepArgument diff : ℤ) = 1000 * diff := by
  simp only [usleepArgument, toUnsigned]
  omega

/-- The sleep makes up for the time that is left, or less than a millisecond is left. -/
theorem sub_lt_sleepTime {diff left : ℤ} (hdiff : 1000 * diff < 1002000)
    (hleft : left < 1000 * diff + 1000) : left - 1000 < sleepTime diff := by
  unfold sleepTime
  split
  next hpositive =>
    rw [usleepArgument_eq hpositive hdiff]
    linarith
  next hpassed =>
    rw [Nat.cast_zero]
    linarith

theorem initial_onPace (gru : PacingTime) (rate : ℕ) (start : Timestamp) :
    OnPace gru rate start (rateSenderMachine gru rate start).initial where
  eta := by simp [rateSenderMachine, RateState.initial]
  resumed := by simp [rateSenderMachine, RateState.initial]
  diff := by
    obtain ⟨-, hnear⟩ := abs_lt.mp (gru.elapsedMilli_near start start)
    simp only [rateSenderMachine, RateState.initial, PacedState.diff]
    linarith

theorem rateSenderNext_eq {gru : PacingTime} {interval : ℕ} {paced after : PacedState}
    {round : PacedRound} (h : rateSenderNext gru interval paced round = some after) :
    after.state = paced.state.sent gru.toGruTime interval round.toRateRound ∧
      after.resumed = round.clock.micros + sleepTime (after.diff gru) := by
  unfold rateSenderNext at h
  split at h
  · simp at h
  · simp at h
  · rw [← Option.some.inj h]
    exact ⟨rfl, rfl⟩
  · rw [← Option.some.inj h]
    exact ⟨rfl, rfl⟩

theorem rateSenderNext_onPace {gru : PacingTime} {rate : ℕ} {start : Timestamp}
    {paced after : PacedState} {round : PacedRound} (h : OnPace gru rate start paced)
    (hclock : ClockForward paced round)
    (hnext : rateSenderNext gru (rateInterval rate) paced round = some after) :
    OnPace gru rate start after := by
  obtain ⟨hslept, hforward⟩ := hclock
  obtain ⟨hstate, hresumed⟩ := rateSenderNext_eq hnext
  have hinterval : (rateInterval rate : ℤ) ≤ 1000000 := by exact_mod_cast rateInterval_le rate
  have heta : after.state.snapshot.eta.micros =
      start.micros + paced.state.snapshot.count * rateInterval rate + rateInterval rate := by
    rw [hstate, sent_eta, h.eta]
  have hcount : (after.state.snapshot.count : ℤ) * rateInterval rate =
      paced.state.snapshot.count * rateInterval rate + rateInterval rate := by
    rw [hstate, sent_count]
    push_cast
    ring
  have hnear := gru.elapsedMilli_near after.state.snapshot.now after.state.snapshot.eta
  have hnow : after.state.snapshot.now = round.clock := by rw [hstate, sent_now]
  rw [← PacedState.diff, hnow] at hnear
  obtain ⟨hlower, hupper⟩ := abs_lt.mp hnear
  -- The clock value is not before the time at which the message was sent.
  have hsent := h.resumed.trans_le (hslept.trans hforward)
  have hdiff : 1000 * after.diff gru < 1002000 := by linarith
  refine ⟨by rw [heta, hcount, add_assoc], ?_, hdiff⟩
  have hleft : after.state.snapshot.eta.micros - round.clock.micros <
      1000 * after.diff gru + 1000 := by linarith
  have hsleep := sub_lt_sleepTime hdiff hleft
  rw [hresumed, hcount]
  linarith

theorem reachable_onPace {gru : PacingTime} {rate : ℕ} {start : Timestamp} {paced : PacedState}
    (h : (rateSenderMachine gru rate start).ReachableUnder ClockForward paced) :
    OnPace gru rate start paced :=
  h.invariant (OnPace gru rate start) (initial_onPace gru rate start)
    fun _ _ _ hbefore hclock hnext ↦ rateSenderNext_onPace hbefore hclock hnext

/-- Each message is sent later than a millisecond before its time in the schedule, and the argument
of `usleep` does not wrap. -/
theorem send_paced (gru : PacingTime) (rate : ℕ) (start : Timestamp) (paced : PacedState)
    (h : (rateSenderMachine gru rate start).ReachableUnder ClockForward paced) :
    (∀ round, ClockForward paced round →
      start.micros + paced.state.snapshot.count * rateInterval rate - 1000 <
        round.sentAt.micros) ∧
    (0 < paced.diff gru → (usleepArgument (paced.diff gru) : ℤ) = 1000 * paced.diff gru) := by
  have hpace := reachable_onPace h
  constructor
  · rintro round ⟨hslept, -⟩
    exact hpace.resumed.trans_le hslept
  · exact fun hpositive ↦ usleepArgument_eq hpositive hpace.diff

/-- Differences rounded down to milliseconds. -/
def milliTime : PacingTime where
  toGruTime := systemTime
  elapsedMilli earlier later := (later.micros - earlier.micros) / 1000
  elapsedMilli_near earlier later := by
    rw [abs_lt]
    omega

/-- One message a second: the first message is sent a tenth of a millisecond after the start, and
the second one after a sleep of 999 milliseconds. -/
theorem second_send_paced :
    (rateSenderMachine milliTime 1 ⟨0, 0⟩).run (rateSenderMachine milliTime 1 ⟨0, 0⟩).initial
        [⟨⟨.done, ⟨0, 100⟩, .zero⟩, ⟨0, 50⟩⟩] =
      some ⟨⟨⟨1, ⟨0, 0⟩, ⟨0, 100⟩, ⟨1, 0⟩, ⟨.zero, .zero⟩, ⟨.zero, .zero, 0⟩⟩, ⟨0, 0⟩, 0⟩, 999100⟩ ∧
    (0 : ℤ) + 1 * 1000000 - 1000 < 999200 := by
  have hclock : ClockForward (rateSenderMachine milliTime 1 ⟨0, 0⟩).initial
      ⟨⟨.done, ⟨0, 100⟩, .zero⟩, ⟨0, 50⟩⟩ := by
    constructor <;> decide
  have hpaced := send_paced milliTime 1 ⟨0, 0⟩ _ (.step .initial hclock rfl)
  exact ⟨by decide, hpaced.1 ⟨⟨.done, ⟨0, 999300⟩, .zero⟩, ⟨0, 999200⟩⟩ (by constructor <;> decide)⟩

/-! ## The schedule and the requested rate -/

/-- The state behind the loop of `rate_sender_start`. -/
def rateSenderEnd (gru : GruTime) (interval : ℕ) : RateState → List RateRound → RateState
  | state, [] => state
  | state, round :: rounds =>
    match round.transfer with
    | .failed | .noTimestamp => state
    | .done | .noData => rateSenderEnd gru interval (state.sent gru interval round) rounds

/-- The state behind the loop of `rate_receiver_start`. -/
def rateReceiverEnd (gru : GruTime) (interval : ℕ) : RateState → List RateRound → RateState
  | state, [] => state
  | state, round :: rounds =>
    match round.transfer with
    | .failed => state
    | .noTimestamp => rateReceiverEnd gru interval state rounds
    | .noData => rateReceiverEnd gru interval (state.idle round) rounds
    | .done => rateReceiverEnd gru interval (state.received gru interval round) rounds

def RateWorker.finish (gru : GruTime) (rate : ℕ) (start : Timestamp) (rounds : List RateRound) :
    RateWorker → RateState
  | .sender => rateSenderEnd gru (rateInterval rate) (.initial start) rounds
  | .receiver => rateReceiverEnd gru (rateInterval rate) (.initial start) rounds

/-- The expected time after the counted messages differs from the time that the rate gives by at
most one interval, rounded up. -/
def OnSchedule (rate : ℕ) (start : Timestamp) (snapshot : RateSnapshot) : Prop :=
  |((snapshot.eta.micros : ℚ) - (start.micros + snapshot.count * 1000000 / rate))| ≤
    ⌈(1000000 / rate : ℚ)⌉

/-- The expected time has moved by one interval for every counted message. -/
structure Advanced (interval : ℕ) (before after : RateSnapshot) (messages : ℕ) : Prop where
  count : after.count = before.count + messages
  eta : after.eta.micros = before.eta.micros + messages * interval

theorem Advanced.refl (interval : ℕ) (snapshot : RateSnapshot) :
    Advanced interval snapshot snapshot 0 := ⟨rfl, by simp⟩

/-- A message before the others. -/
theorem Advanced.counted {interval messages : ℕ} {before middle after : RateSnapshot}
    (h : Advanced interval middle after messages) (hcount : middle.count = before.count + 1)
    (heta : middle.eta.micros = before.eta.micros + interval) :
    Advanced interval before after (messages + 1) where
  count := by rw [h.count, hcount, Nat.add_assoc, Nat.add_comm 1]
  eta := by
    rw [h.eta, heta]
    push_cast
    ring

theorem rateSenderEnd_advanced (gru : GruTime) (interval : ℕ) (state : RateState)
    (rounds : List RateRound) :
    Advanced interval state.snapshot (rateSenderEnd gru interval state rounds).snapshot
      (RateWorker.sender.messages rounds).length := by
  induction rounds generalizing state with
  | nil => exact Advanced.refl interval state.snapshot
  | cons round rounds ih =>
    cases htransfer : round.transfer with
    | failed | noTimestamp =>
      simp only [rateSenderEnd, RateWorker.messages, htransfer, List.takeWhile_cons]
      exact Advanced.refl interval state.snapshot
    | done | noData =>
      have hmessages : RateWorker.sender.messages (round :: rounds) =
          round :: RateWorker.sender.messages rounds := by
        simp [RateWorker.messages, htransfer]
      rw [hmessages]
      simp only [rateSenderEnd, htransfer]
      exact (ih _).counted (sent_count gru interval state round) (sent_eta gru interval state round)

theorem rateReceiverEnd_advanced (gru : GruTime) (interval : ℕ) (state : RateState)
    (rounds : List RateRound) :
    Advanced interval state.snapshot (rateReceiverEnd gru interval state rounds).snapshot
      (RateWorker.receiver.messages rounds).length := by
  induction rounds generalizing state with
  | nil => exact Advanced.refl interval state.snapshot
  | cons round rounds ih =>
    have hmessages : RateWorker.receiver.messages (round :: rounds) =
        match round.transfer with
        | .failed => []
        | .noTimestamp | .noData => RateWorker.receiver.messages rounds
        | .done => round :: RateWorker.receiver.messages rounds := by
      cases htransfer : round.transfer <;> simp [RateWorker.messages, htransfer]
    rw [hmessages]
    cases htransfer : round.transfer with
    | failed =>
      simp only [rateReceiverEnd, htransfer]
      exact Advanced.refl interval state.snapshot
    | noTimestamp =>
      simp only [rateReceiverEnd, htransfer]
      exact ih state
    | noData =>
      simp only [rateReceiverEnd, htransfer]
      obtain ⟨hcount, heta⟩ := ih (state.idle round)
      exact ⟨hcount, heta⟩
    | done =>
      simp only [rateReceiverEnd, htransfer]
      exact (ih _).counted (received_count gru interval state round)
        (received_eta gru interval state round)

theorem finish_advanced (gru : GruTime) (worker : RateWorker) (rate : ℕ) (start : Timestamp)
    (rounds : List RateRound) :
    Advanced (rateInterval rate) (RateState.initial start).snapshot
      (worker.finish gru rate start rounds).snapshot (worker.messages rounds).length := by
  cases worker with
  | sender => exact rateSenderEnd_advanced gru _ _ rounds
  | receiver => exact rateReceiverEnd_advanced gru _ _ rounds

theorem RateWorker.messages_replicate (worker : RateWorker) (count : ℕ) (clock created : Timestamp) :
    (worker.messages (List.replicate count ⟨.done, clock, created⟩)).length = count := by
  cases worker <;> simp [RateWorker.messages]

/-- The expected time after some messages is behind the rate by the remainder of the truncated
interval for each of them. -/
theorem onSchedule_iff {rate messages : ℕ} {start : Timestamp} {snapshot : RateSnapshot}
    (hrate : 0 < rate)
    (h : Advanced (rateInterval rate) (RateState.initial start).snapshot snapshot messages) :
    OnSchedule rate start snapshot ↔
      (messages * (1000000 % rate : ℕ) : ℤ) ≤ rate * ⌈(1000000 / rate : ℚ)⌉ := by
  have hpositive : (0 : ℚ) < rate := by exact_mod_cast hrate
  have hquotient : (1000000 / rate : ℚ) = (1000000 / rate : ℕ) + (1000000 % rate : ℕ) / rate := by
    have hdivision : (1000000 : ℚ) = rate * (1000000 / rate : ℕ) + (1000000 % rate : ℕ) := by
      exact_mod_cast (Nat.div_add_mod 1000000 rate).symm
    rw [eq_comm, ← sub_eq_zero]
    field_simp
    linarith
  have hcount : (snapshot.count : ℚ) = messages := by
    rw [h.count]
    simp [RateState.initial]
  have heta : (snapshot.eta.micros : ℚ) = start.micros + messages * (1000000 / rate : ℕ) := by
    rw [h.eta, rateInterval, if_pos hrate.ne', Int.cast_add, Int.cast_mul, Int.cast_natCast,
      Int.cast_natCast]
    rfl
  have hbehind : (snapshot.eta.micros : ℚ) - (start.micros + snapshot.count * 1000000 / rate) =
      -(messages * (1000000 % rate : ℕ) / rate) := by
    rw [heta, hcount, mul_div_assoc, hquotient]
    ring
  rw [OnSchedule, hbehind, abs_neg, abs_of_nonneg (by positivity), div_le_iff₀ hpositive]
  generalize ⌈(1000000 / rate : ℚ)⌉ = interval
  rw [← Int.cast_le (R := ℚ), Int.cast_mul, Int.cast_mul, Int.cast_natCast, Int.cast_natCast,
    Int.cast_natCast, mul_comm (interval : ℚ)]

/-- After some messages the schedule is within one interval of the requested rate exactly when the
remainders that the truncation leaves out do not add up to more than an interval; for every number
of messages it is exactly when there is no remainder. -/
theorem finish_onSchedule_iff (gru : GruTime) (worker : RateWorker) (rate : ℕ) (start : Timestamp)
    (hrate : 1 ≤ rate) :
    (∀ rounds, OnSchedule rate start (worker.finish gru rate start rounds).snapshot ↔
      ((worker.messages rounds).length * (1000000 % rate : ℕ) : ℤ) ≤
        rate * ⌈(1000000 / rate : ℚ)⌉) ∧
    ((∀ rounds, OnSchedule rate start (worker.finish gru rate start rounds).snapshot) ↔
      rate ∣ 1000000) := by
  have hsingle (rounds : List RateRound) :=
    onSchedule_iff hrate (finish_advanced gru worker rate start rounds)
  refine ⟨hsingle, ?_⟩
  constructor
  · intro hevery
    by_contra hdivides
    have hremainder : 1 ≤ 1000000 % rate :=
      Nat.one_le_iff_ne_zero.mpr fun hzero ↦ hdivides (Nat.dvd_of_mod_eq_zero hzero)
    set bound := rate * ⌈(1000000 / rate : ℚ)⌉
    -- One message more than the bound, each of which loses at least one unit.
    have hlate := (hsingle _).mp
      (hevery (List.replicate (bound.toNat + 1) ⟨.done, start, start⟩))
    rw [worker.messages_replicate] at hlate
    have hloss : ((bound.toNat + 1 : ℕ) : ℤ) ≤
        ((bound.toNat + 1 : ℕ) : ℤ) * (1000000 % rate : ℕ) := by
      exact_mod_cast Nat.le_mul_of_pos_right _ hremainder
    omega
  · intro hdivides rounds
    rw [hsingle, Nat.mod_eq_zero_of_dvd hdivides]
    have hinterval : 0 ≤ ⌈(1000000 / rate : ℚ)⌉ := Int.ceil_nonneg (by positivity)
    simp only [Nat.cast_zero, mul_zero]
    positivity

/-- A thousand messages a second. -/
theorem thousand_onSchedule :
    OnSchedule 1000 ⟨0, 0⟩
      (RateWorker.sender.finish systemTime 1000 ⟨0, 0⟩ [⟨.done, ⟨0, 5⟩, ⟨0, 0⟩⟩]).snapshot :=
  (finish_onSchedule_iff systemTime .sender 1000 ⟨0, 0⟩ (by decide)).2.mpr (by decide) _

/-- At 600000 messages a second the interval is one microsecond instead of five thirds, and after
four messages the schedule is ahead by more than the two microseconds of an interval. -/
theorem fourMessages_not_onSchedule :
    ¬ ∀ worker rate start rounds, 1 ≤ rate → rate ≤ 1000000 →
      OnSchedule rate start (RateWorker.finish systemTime rate start rounds worker).snapshot := by
  intro hevery
  have hfour := hevery .sender 600000 ⟨0, 0⟩
    (List.replicate 4 ⟨.done, ⟨0, 0⟩, ⟨0, 0⟩⟩) (by decide) (by decide)
  have hceil : ⌈(1000000 / (600000 : ℕ) : ℚ)⌉ = 2 := by norm_num
  rw [onSchedule_iff (by decide) (finish_advanced systemTime .sender 600000 ⟨0, 0⟩ _),
    RateWorker.messages_replicate, hceil] at hfour
  norm_num at hfour

end MsgPerf.Worker
