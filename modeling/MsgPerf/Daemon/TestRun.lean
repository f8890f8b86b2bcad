import MsgPerf.Daemon.Remote
import MsgPerf.Worker.Loops

/-!
# From the commands to the messages of a test

The tool asks for the number of workers and for the number of messages with SET.  When the test is
started, `worker_manager_clone` forks once for each worker, and each child runs the loop that the
rate selects until its own count reaches the limit.

The parts have been described one by one: the commands by their bytes up to the options of the
daemon, and the loops by their events.  Together they bound the messages of a whole test by what the
commands have asked for, and a test in which no loop ends early has exactly these messages.
-/

namespace MsgPerf.Daemon

open MsgPerf.Library MsgPerf.Maestro MsgPerf.Worker
open Settings (GruParsers)

/-! ## The loops of the daemons -/

/-- The body of the loop of `rate_sender_start`, which writes no rows; the sleep is not seen. -/
def rateSenderTurn (gru : Worker.GruTime) (state : TestState) (round : TestRound) : TestState :=
  let recorded := state.record (.transferred round.transfer)
  match round.transfer with
  | .failed | .noTimestamp => recorded.leave .transferError
  | .done | .noData =>
    let counted := recorded.counted round
    if sampleInterval ≤ gru.elapsedSecs counted.lastSample counted.now then
      { counted with lastCount := counted.count, lastSample := counted.now }
    else counted

def rateTurn (gru : Worker.GruTime) : NaiveWorker → TestState → TestRound → TestState
  | .sender => rateSenderTurn gru
  | .receiver => rateReceiverTurn gru

/-- The loop that `senderd_worker_execute` and `receiverd_worker_execute` give to the children. -/
def executedTurn (gru : Worker.GruTime) (worker : NaiveWorker) (rate : ℕ) :
    TestState → TestRound → TestState :=
  if 0 < rate then rateTurn gru worker else worker.turn gru

/-! ## What every loop keeps -/

/-- A turn counts the message that it has handled, if any, and does not end as the check does. -/
structure CountingTurn (worker : NaiveWorker) (state after : TestState) : Prop where
  exit : after.exit ≠ some .finished
  counted : ∃ handled ≤ 1, after.count = state.count + handled ∧
    after.log.countP worker.isMessage = state.log.countP worker.isMessage + handled

namespace CountingTurn

variable {worker : NaiveWorker} {state after : TestState}

/-- The log and the count are those of a turn without a message. -/
theorem of_unhandled (hexit : after.exit ≠ some .finished) (transfer : Transfer)
    (hsucceeds : worker.succeeds transfer = false)
    (hlog : after.log = state.log ++ [.transferred transfer]) (hcount : after.count = state.count) :
    CountingTurn worker state after := by
  refine ⟨hexit, 0, zero_le_one, hcount, ?_⟩
  rw [hlog, List.countP_append]
  simp [NaiveWorker.isMessage, hsucceeds]

/-- The log and the count are those of a turn with a message, and perhaps a row. -/
theorem of_handled (hexit : after.exit ≠ some .finished) {transfer : Transfer}
    (hsucceeds : worker.succeeds transfer = true) (rows : List TestEvent)
    (hrows : ∀ event ∈ rows, worker.isMessage event = false)
    (hlog : after.log = state.log ++ [.transferred transfer] ++ rows)
    (hcount : after.count = state.count + 1) : CountingTurn worker state after := by
  refine ⟨hexit, 1, le_rfl, hcount, ?_⟩
  have hnone : rows.countP worker.isMessage = 0 := by
    rw [List.countP_eq_zero]
    intro event hevent
    rw [hrows event hevent]
    exact Bool.false_ne_true
  rw [hlog, List.countP_append, List.countP_append, hnone]
  simp [NaiveWorker.isMessage, hsucceeds]

end CountingTurn

section

variable (gru : Worker.GruTime) {state : TestState} (round : TestRound)

/-- A row is no message. -/
theorem sampleRow_log (state : TestState) :
    (state.sampleRow gru round).count = state.count ∧
      ∃ rows, (state.sampleRow gru round).log = state.log ++ rows ∧
        ∀ (worker : NaiveWorker), ∀ event ∈ rows, worker.isMessage event = false := by
  unfold TestState.sampleRow
  split
  · split
    · refine ⟨rfl, [_], rfl, ?_⟩
      intro worker event hevent
      rw [List.mem_singleton.mp hevent]
      rfl
    · exact ⟨rfl, [], (List.append_nil _).symm, by simp⟩
  · exact ⟨rfl, [], (List.append_nil _).symm, by simp⟩

/-- A message is counted and a row may be written. -/
theorem countingTurn_sampleRow {worker : NaiveWorker} {transfer : Transfer}
    (hexit : state.exit = none) (hsucceeds : worker.succeeds transfer = true) :
    CountingTurn worker state
      (((state.record (.transferred transfer)).counted round).sampleRow gru round) := by
  obtain ⟨hcount, rows, hlog, hrows⟩ :=
    sampleRow_log gru round ((state.record (.transferred transfer)).counted round)
  refine .of_handled ?_ hsucceeds rows (hrows worker) hlog hcount
  apply sampleRow_exit
  simp [TestState.counted, TestState.record, hexit]

theorem naiveSenderTurn_counting (hexit : state.exit = none) :
    CountingTurn .sender state (naiveSenderTurn gru state round) := by
  unfold naiveSenderTurn
  split
  next h => exact .of_unhandled nofun round.transfer (by rw [h]; rfl) rfl rfl
  next h => exact .of_unhandled nofun round.transfer (by rw [h]; rfl) rfl rfl
  next h => exact countingTurn_sampleRow gru round hexit (by rw [h]; rfl)
  next h => exact countingTurn_sampleRow gru round hexit (by rw [h]; rfl)

theorem naiveReceiverTurn_counting (hexit : state.exit = none) :
    CountingTurn .receiver state (naiveReceiverTurn gru state round) := by
  have hrunning : state.exit ≠ some .finished := by simp [hexit]
  unfold naiveReceiverTurn
  split
  next h => exact .of_unhandled nofun round.transfer (by rw [h]; rfl) rfl rfl
  next h => exact .of_unhandled hrunning round.transfer (by rw [h]; rfl) rfl rfl
  next h => exact .of_unhandled hrunning round.transfer (by rw [h]; rfl) rfl rfl
  next h =>
    split
    · exact countingTurn_sampleRow gru round hexit (by rw [h]; rfl)
    · exact .of_handled nofun (by rw [h]; rfl) [] (by simp) (List.append_nil _).symm rfl

theorem rateSenderTurn_counting (hexit : state.exit = none) :
    CountingTurn .sender state (rateSenderTurn gru state round) := by
  have hrunning : state.exit ≠ some .finished := by simp [hexit]
  unfold rateSenderTurn
  split
  next h => exact .of_unhandled nofun round.transfer (by rw [h]; rfl) rfl rfl
  next h => exact .of_unhandled nofun round.transfer (by rw [h]; rfl) rfl rfl
  all_goals
    rename_i h
    dsimp only
    split <;>
      exact .of_handled hrunning (by rw [h]; rfl) [] (by simp) (List.append_nil _).symm rfl

theorem rateReceiverTurn_counting (hexit : state.exit = none) :
    CountingTurn .receiver state (rateReceiverTurn gru state round) := by
  have hrunning : state.exit ≠ some .finished := by simp [hexit]
  unfold rateReceiverTurn
  split
  next h => exact .of_unhandled nofun round.transfer (by rw [h]; rfl) rfl rfl
  next h => exact .of_unhandled hrunning round.transfer (by rw [h]; rfl) rfl rfl
  next h => exact .of_unhandled hrunning round.transfer (by rw [h]; rfl) rfl rfl
  next h =>
    dsimp only
    split <;>
      exact .of_handled hrunning (by rw [h]; rfl) [] (by simp) (List.append_nil _).symm rfl

theorem executedTurn_counting (worker : NaiveWorker) (rate : ℕ) (hexit : state.exit = none) :
    CountingTurn worker state (executedTurn gru worker rate state round) := by
  unfold executedTurn
  split
  · cases worker with
    | sender => exact rateSenderTurn_counting gru round hexit
    | receiver => exact rateReceiverTurn_counting gru round hexit
  · cases worker with
    | sender => exact naiveSenderTurn_counting gru round hexit
    | receiver => exact naiveReceiverTurn_counting gru round hexit

end

/-- The messages of a loop with a limit. -/
structure Limited (worker : NaiveWorker) (limit : ℕ) (state : TestState) : Prop where
  count : state.log.countP worker.isMessage = state.count
  bounded : state.count ≤ limit
  finished : state.exit = some .finished → state.count = limit

theorem testNext_limited {worker : NaiveWorker} {limit : ℕ} {state : TestState}
    {turn : TestState → TestRound → TestState} (round : TestRound)
    (hturn : state.exit = none → CountingTurn worker state (turn state round))
    (h : Limited worker limit state) :
    Limited worker limit (testNext turn (.messageCount limit) state round) := by
  unfold testNext
  split
  · exact h
  next hexit =>
    split
    next hcheck =>
      obtain ⟨hfinished, handled, hhandled, hcount, hlog⟩ := hturn (by simpa using hexit)
      have hbelow : state.count < limit := by
        rw [workerCheck] at hcheck
        split at hcheck
        · simp at hcheck
        · exact of_decide_eq_true hcheck
      exact ⟨by rw [hlog, hcount, h.count], by omega, fun h ↦ absurd h hfinished⟩
    next hcheck =>
      refine ⟨h.count, h.bounded, ?_⟩
      intro hfinished
      -- only a check without an interrupt ends the loop like this
      have hinterrupted : round.interrupted = false := by
        by_contra hinterrupted
        simp [TestState.leave, hinterrupted] at hfinished
      have hreached : limit ≤ state.count := by
        simpa [workerCheck, hinterrupted] using hcheck
      exact le_antisymm h.bounded hreached

theorem testStates_limited (gru : Worker.GruTime) (worker : NaiveWorker) (rate limit : ℕ)
    (start : Timestamp) (rounds : ℕ → TestRound) (i : ℕ) :
    Limited worker limit
      (testStates (executedTurn gru worker rate) (.messageCount limit) start rounds i) := by
  induction i with
  | zero => exact ⟨rfl, Nat.zero_le _, by simp [testStates, TestState.initial]⟩
  | succ i ih =>
    exact testNext_limited (rounds i) (executedTurn_counting gru (rounds i) worker rate) ih

/-! ## A test -/

/-- The run of a child: when it started, what happened in its rounds, and how many there were. -/
structure ChildRun where
  start : Timestamp
  rounds : ℕ → TestRound
  length : ℕ

section

variable {Uri Duration LogLevel : Type}

/-- The duration of the options; the end of a timed test is computed from its own duration. -/
def testDuration (finish : Duration → Timestamp) :
    Settings.TestDuration Duration → Worker.TestDuration
  | .count messages => .messageCount messages
  | .time duration => .testTime (finish duration)

/-- The state of a child of a test with the given options. -/
def ChildRun.state (gru : Worker.GruTime) (finish : Duration → Timestamp) (worker : NaiveWorker)
    (options : Settings.WorkerOptions Uri Duration LogLevel) (child : ChildRun) : TestState :=
  testStates (executedTurn gru worker options.rate) (testDuration finish options.duration)
    child.start child.rounds child.length

/-- The messages that the children of a test have handled; there is one child for each of
`parallel_count`. -/
def handledMessages (gru : Worker.GruTime) (finish : Duration → Timestamp) (worker : NaiveWorker)
    (options : Settings.WorkerOptions Uri Duration LogLevel)
    (children : Fin options.parallelCount → ChildRun) : ℕ :=
  ∑ index, ((children index).state gru finish worker options).log.countP worker.isMessage

/-- Whatever the children do. -/
theorem handledMessages_le (gru : Worker.GruTime) (finish : Duration → Timestamp)
    (worker : NaiveWorker) (options : Settings.WorkerOptions Uri Duration LogLevel) {limit : ℕ}
    (hduration : options.duration = .count limit)
    (children : Fin options.parallelCount → ChildRun) :
    handledMessages gru finish worker options children ≤ options.parallelCount * limit ∧
      ((∀ index, ((children index).state gru finish worker options).exit = some .finished) →
        handledMessages gru finish worker options children = options.parallelCount * limit) := by
  have hlimited (index : Fin options.parallelCount) :
      Limited worker limit ((children index).state gru finish worker options) := by
    rw [ChildRun.state, hduration]
    exact testStates_limited gru worker options.rate limit _ _ _
  constructor
  · calc
      handledMessages gru finish worker options children
        ≤ ∑ _index : Fin options.parallelCount, limit :=
          Finset.sum_le_sum fun index _ ↦ (hlimited index).count.trans_le (hlimited index).bounded
      _ = options.parallelCount * limit := by simp
  · intro hfinished
    calc
      handledMessages gru finish worker options children
        = ∑ _index : Fin options.parallelCount, limit :=
          Finset.sum_congr rfl fun index _ ↦
            (hlimited index).count.trans ((hlimited index).finished (hfinished index))
      _ = options.parallelCount * limit := by simp

end

/-! ## From the commands to the messages -/

section Commands

variable {Uri Duration LogLevel : Type} (gru : GruParsers Uri Duration LogLevel)

/-- The number of workers that the requests ask for last. -/
theorem handleSets_parallelCount (options : Settings.WorkerOptions Uri Duration LogLevel)
    (requests : List Settings.SetRequest) {text : List Char} {workers : ℕ}
    (hlast : Settings.lastValue .parallelCount requests = some text)
    (htext : decimal? text = some workers) (hworkers : workers < 2 ^ 16) :
    (Settings.handleSets gru options requests).parallelCount = workers := by
  rw [Settings.handleSets_eq_written]
  simp only [Settings.written, hlast, Option.elim_some]
  exact (toUnsigned_atoi_sixteen htext).mpr hworkers

/-- The number of messages that the requests ask for last. -/
theorem handleSets_duration (options : Settings.WorkerOptions Uri Duration LogLevel)
    (requests : List Settings.SetRequest) {text : List Char} {messages : ℕ}
    (hlast : Settings.lastValue .durationType requests = some text)
    (hcount : gru.durationParse text = none) (htext : decimal? text = some messages)
    (hmessages : messages < 2 ^ 63) :
    (Settings.handleSets gru options requests).duration = .count messages := by
  rw [Settings.handleSets_eq_written]
  simp only [Settings.written, hlast, Option.elim_some, Settings.SetOption.assign, hcount]
  rw [(toUnsigned_atol htext).mpr hmessages]

variable (pinfo : PlayerInfo) {mp : Msgpack} (hlawful : mp.Lawful)
  (elapsedMilli : Clock → Clock → ℤ) (kind : Kind) (others : Handler → ByteMemory.Heap → NoteValue)
  (daemon : Listening Uri Duration LogLevel)

include hlawful in
/-- **A test has the messages that were asked for.**  When the last values for the number of workers
and for the duration are decimal numbers in range, a test that is started with the options that the
commands leave handles no more messages than their product, whichever loop the rate selects and
whatever its children meet, and exactly that many when every loop ends by its own count. -/
theorem remoteRun_handledMessages (commands : List RemoteCommand)
    (hbuffer : PlayerBuffer daemon.buffer) (hfit : ∀ command ∈ commands, command.Fits mp)
    {parallelText durationText : List Char} {workers messages : ℕ}
    (hparallel : Settings.lastValue .parallelCount
      (commands.filterMap RemoteCommand.setRequest?) = some parallelText)
    (hduration : Settings.lastValue .durationType
      (commands.filterMap RemoteCommand.setRequest?) = some durationText)
    (hworkersText : decimal? parallelText = some workers) (hworkers : workers < 2 ^ 16)
    (hcount : gru.durationParse durationText = none)
    (hmessagesText : decimal? durationText = some messages) (hmessages : messages < 2 ^ 63) :
    ∃ buffer options answers,
      remoteRun pinfo mp gru elapsedMilli kind others (daemon, []) commands =
          some (⟨buffer, options⟩, answers) ∧
        ∀ (time : Worker.GruTime) (finish : Duration → Timestamp) (worker : NaiveWorker)
          (children : Fin options.parallelCount → ChildRun),
          handledMessages time finish worker options children ≤ workers * messages ∧
            ((∀ index, ((children index).state time finish worker options).exit =
                some .finished) →
              handledMessages time finish worker options children = workers * messages) := by
  obtain ⟨buffer, -, hrun⟩ := remoteRun_eq_handleSets pinfo hlawful gru elapsedMilli kind others
    commands hbuffer hfit []
  refine ⟨buffer, _, _, hrun, ?_⟩
  intro time finish worker children
  have hlimit := handleSets_duration gru daemon.options _ hduration hcount hmessagesText hmessages
  have hforked := handleSets_parallelCount gru daemon.options _ hparallel hworkersText hworkers
  subst hforked
  exact handledMessages_le time finish worker _ hlimit children

end Commands

/-- Two workers and three messages each, with a second thought about the workers. -/
def testExample : List RemoteCommand :=
  [.set [0x70, 0x61, 0x72, 0x61, 0x6c, 0x6c, 0x65, 0x6c, 0x2d, 0x63, 0x6f, 0x75, 0x6e, 0x74]
      ⟨[0x39], by decide⟩,
    .set [0x64, 0x75, 0x72, 0x61, 0x74, 0x69, 0x6f, 0x6e] ⟨[0x33], by decide⟩,
    .set [0x70, 0x61, 0x72, 0x61, 0x6c, 0x6c, 0x65, 0x6c, 0x2d, 0x63, 0x6f, 0x75, 0x6e, 0x74]
      ⟨[0x32], by decide⟩]

theorem testExample_handledMessages :
    ∃ buffer options answers,
      remoteRun ⟨⟨[0x69], by decide⟩, ⟨[0x6e], by decide⟩⟩ msgpackFormat Settings.textParsers
          (fun created now ↦ 1000 * (now.1.toNat - created.1.toNat)) .senderd
          (fun _ _ ↦ protocolErrorNote)
          (⟨Common.Content.msgContentDataNew maestroNoteSize, Settings.noOptions⟩, []) testExample =
        some (⟨buffer, options⟩, answers) ∧
      ∀ (time : Worker.GruTime) (finish : ℕ → Timestamp) (worker : NaiveWorker)
        (children : Fin options.parallelCount → ChildRun),
        handledMessages time finish worker options children ≤ 2 * 3 ∧
          ((∀ index, ((children index).state time finish worker options).exit =
              some .finished) →
            handledMessages time finish worker options children = 2 * 3) := by
  have hlengths : ∀ command ∈ testExample,
      (command.published msgpackFormat).join.elim 0 List.length ≤ maestroNoteSize := by
    decide +kernel
  have hfit : ∀ command ∈ testExample, command.Fits msgpackFormat :=
    fun command hcommand ↦ RemoteCommand.fits_of_length_le (hlengths command hcommand)
  have hrequests : testExample.filterMap RemoteCommand.setRequest? =
      [⟨3, ['9']⟩, ⟨1, ['3']⟩, ⟨3, ['2']⟩] := by decide +kernel
  have hparallel : Settings.lastValue .parallelCount
      (testExample.filterMap RemoteCommand.setRequest?) = some ['2'] := by
    rw [hrequests]
    rfl
  have hduration : Settings.lastValue .durationType
      (testExample.filterMap RemoteCommand.setRequest?) = some ['3'] := by
    rw [hrequests]
    rfl
  exact remoteRun_handledMessages Settings.textParsers _ msgpackFormat_lawful _ _ _ _ testExample
    playerBuffer_new hfit hparallel hduration (by decide) (by decide) (by decide) (by decide)
    (by decide)

end MsgPerf.Daemon
