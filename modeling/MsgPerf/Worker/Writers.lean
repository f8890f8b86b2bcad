import MsgPerf.Worker.Drain

/-!
# The writers of a run

A run has three writers, for the latency, the throughput and the rate.  Which of them are installed
is decided by the report format and the naming options of the launch; which of them are called is
decided by the worker function in the children, by the worker flags when the manager drains a
queue, and by the end of the function that executes the run.  An operation of a writer that was not
installed is a null pointer.

The events of a run are the answers of the environment: the initializations that fail, what happens
in the children, whether all children could be started and the snapshots that the parent reads.
-/

namespace MsgPerf.Worker

/-! ## Installing writers -/

/-- The members of `stats_writer_t`. -/
inductive WriterSlot where
  | latency | throughput | rate
  deriving DecidableEq, Repr

/-- `report_format_t`. -/
inductive ReportFormat where
  | csv | nop | out | hdr
  deriving DecidableEq, Repr

/-- `naming_opt_t`. -/
abbrev NamingOpt := ℕ

def nmNone : NamingOpt := 0

def nmLatency : NamingOpt := 1

def nmThroughput : NamingOpt := 2

def nmRate : NamingOpt := 4

def WriterSlot.option : WriterSlot → NamingOpt
  | .latency => nmLatency
  | .throughput => nmThroughput
  | .rate => nmRate

/-- The writers that the naming options ask for, in the order in which they are set up. -/
def NamingOpt.slots (options : NamingOpt) : List WriterSlot :=
  [WriterSlot.latency, .throughput, .rate].filter fun slot ↦ options &&& slot.option ≠ 0

/-- A writer whose operations are assigned. -/
structure Installed where
  format : ReportFormat
  initialized : Bool
  deriving DecidableEq, Repr

/-- `stats_writer_t`; no value stands for null operations. -/
abbrev StatsWriter := WriterSlot → Option Installed

def StatsWriter.unset : StatsWriter := fun _ ↦ none

/-- The result of an initialization and the writers it leaves. -/
structure Initialization where
  ok : Bool
  writer : StatsWriter

/-- The blocks of the functions for files: each assigns a writer and then initializes it, and the
first failure is returned. -/
def initializeSlots (format : ReportFormat) (initializes : WriterSlot → Bool) :
    List WriterSlot → StatsWriter → Initialization
  | [], writer => ⟨true, writer⟩
  | slot :: slots, writer =>
      let assigned := Function.update writer slot (some ⟨format, initializes slot⟩)
      if initializes slot then initializeSlots format initializes slots assigned
      else ⟨false, assigned⟩

def namingInitializeHdrWriter (writer : StatsWriter) (options : NamingOpt)
    (initializes : WriterSlot → Bool) : Initialization :=
  initializeSlots .hdr initializes options.slots writer

def namingInitializeCsvWriter (writer : StatsWriter) (options : NamingOpt)
    (initializes : WriterSlot → Bool) : Initialization :=
  initializeSlots .csv initializes options.slots writer

/-- The writers are assigned, and their `initialize`, which does nothing, is not called. -/
def namingInitializeNopWriter : Initialization := ⟨true, fun _ ↦ some ⟨.nop, false⟩⟩

def namingInitializeOutWriter : Initialization := ⟨true, fun _ ↦ some ⟨.out, false⟩⟩

/-- `naming_initialize_writer`; `initializes` answers for the `initialize` of each writer. -/
def namingInitializeWriter (writer : StatsWriter) (format : ReportFormat) (options : NamingOpt)
    (initializes : WriterSlot → Bool) : Initialization :=
  match format with
  | .hdr => namingInitializeHdrWriter writer options initializes
  | .csv => namingInitializeCsvWriter writer options initializes
  | .nop => namingInitializeNopWriter
  | .out => namingInitializeOutWriter

/-- `perf_initialize_writer`. -/
def perfInitializeWriter (logDir : Bool) (parallelCount : ℕ) (initializes : WriterSlot → Bool) :
    Initialization :=
  if logDir then namingInitializeWriter .unset .csv nmThroughput initializes
  else if 1 < parallelCount then namingInitializeWriter .unset .nop nmThroughput initializes
  else namingInitializeWriter .unset .out nmThroughput initializes

/-! ## Calls in the children -/

inductive WriterOperation where
  | write | finalize
  deriving DecidableEq, Repr

/-- A call of an operation of a writer. -/
structure Call where
  slot : WriterSlot
  operation : WriterOperation
  deriving DecidableEq, Repr

/-- The status of a send or a receive. -/
inductive Transfer where
  | done | noData | noTimestamp | failed
  deriving DecidableEq, Repr

/-- One turn of the loop of a worker: the transfer, whether the sampling interval has passed, and
what the writes return. -/
structure Round where
  transfer : Transfer
  sampled : Bool
  latencyWritten : Bool
  throughputWritten : Bool
  deriving DecidableEq, Repr

/-- The run of a child: whether its setup succeeded, and the turns of its loop. -/
structure ChildRun where
  setUp : Bool
  rounds : List Round
  deriving DecidableEq, Repr

/-- The sampling at the end of a turn; a failing write leaves the loop. -/
def sampleCalls (round : Round) (rest : List Call) : List Call :=
  if round.sampled then
    ⟨.throughput, .write⟩ :: if round.throughputWritten then rest else []
  else rest

def naiveSenderLoop : List Round → List Call
  | [] => []
  | round :: rounds =>
      match round.transfer with
      | .failed | .noTimestamp => []
      | .done | .noData => sampleCalls round (naiveSenderLoop rounds)

def naiveSenderStart (child : ChildRun) : List Call :=
  if child.setUp then naiveSenderLoop child.rounds ++ [⟨.throughput, .finalize⟩] else []

def naiveReceiverLoop : List Round → List Call
  | [] => []
  | round :: rounds =>
      match round.transfer with
      | .failed => []
      | .noTimestamp | .noData => naiveReceiverLoop rounds
      | .done =>
          ⟨.latency, .write⟩ ::
            if round.latencyWritten then sampleCalls round (naiveReceiverLoop rounds) else []

def naiveReceiverStart (child : ChildRun) : List Call :=
  if child.setUp then
    naiveReceiverLoop child.rounds ++ [⟨.latency, .finalize⟩, ⟨.throughput, .finalize⟩]
  else []

/-- `rate_sender_start` and `rate_receiver_start` send every snapshot to the parent and call no
writer. -/
def rateSenderStart (_ : ChildRun) : List Call := []

def rateReceiverStart (_ : ChildRun) : List Call := []

/-! ## Launches -/

/-- A run of a daemon at the rate of the options, or a forked run of a command line tool. -/
inductive Launch where
  | senderd (rate : ℕ)
  | receiverd (rate : ℕ)
  | sender (logDir : Bool) (parallelCount : ℕ)
  | receiver
  deriving DecidableEq, Repr

def Launch.flags : Launch → Flags
  | .senderd _ => ⟨false, true, true, true⟩
  | .receiverd _ => ⟨true, false, true, true⟩
  | .sender _ _ => ⟨false, true, false, true⟩
  | .receiver => ⟨true, false, false, true⟩

/-- The command line sender leaves the format at its zero value. -/
def Launch.reportFormat : Launch → ReportFormat
  | .senderd _ | .sender _ _ | .receiver => .csv
  | .receiverd _ => .hdr

def Launch.namingOptions : Launch → NamingOpt
  | .senderd rate => if 0 < rate then nmRate else nmThroughput
  | .receiverd rate => if 0 < rate then nmRate ||| nmLatency else nmLatency ||| nmThroughput
  | .sender _ _ => nmNone
  | .receiver => nmLatency ||| nmThroughput

def Launch.workerStart : Launch → ChildRun → List Call
  | .senderd rate => if 0 < rate then rateSenderStart else naiveSenderStart
  | .receiverd rate => if 0 < rate then rateReceiverStart else naiveReceiverStart
  | .sender _ _ => naiveSenderStart
  | .receiver => naiveReceiverStart

/-- The writers before `worker_manager_clone`. -/
def Launch.prepare (initializes : WriterSlot → Bool) : Launch → Initialization
  | .sender logDir parallelCount => perfInitializeWriter logDir parallelCount initializes
  | _ => ⟨true, .unset⟩

/-- The writers with which `worker_manager_clone` forks, if it gets that far. -/
def Launch.initialization (launch : Launch) (initializes : WriterSlot → Bool) : Initialization :=
  let prepared := launch.prepare initializes
  if prepared.ok then
    namingInitializeWriter prepared.writer launch.reportFormat launch.namingOptions initializes
  else prepared

/-- The calls at the end of the run in the parent. -/
def Launch.finalCalls : Launch → List Call
  | .senderd _ => [⟨.rate, .finalize⟩]
  | .receiverd _ => [⟨.rate, .finalize⟩, ⟨.latency, .finalize⟩]
  | .sender _ _ | .receiver => []

/-- What the environment answers during a run.  `drained` are the snapshots that the parent reads
while the run executes, in passes of the watchdog and in stops; `drainedLater` those that a stop
reads from registered children after the run was given up because a further one could not be
started. -/
structure RunEvents where
  initializes : WriterSlot → Bool
  cloned : Bool
  children : List ChildRun
  drained : List Snapshot
  drainedLater : List Snapshot

/-- A call together with what stands in the slot at that moment. -/
structure WriterUse where
  call : Call
  writer : Option Installed
  deriving DecidableEq, Repr

def Call.on (writer : StatsWriter) (call : Call) : WriterUse := ⟨call, writer call.slot⟩

def WriterCall.call : WriterCall Message → Call
  | .latencyWrite _ => ⟨.latency, .write⟩
  | .rateWrite _ => ⟨.rate, .write⟩

def drainedCalls (flags : Flags) (drained : List Snapshot) : List Call :=
  drained.flatMap fun snapshot ↦ (snapshotCalls flags snapshot).map WriterCall.call

/-- The calls while the run executes. -/
def Launch.calls (launch : Launch) (events : RunEvents) : List Call :=
  events.children.flatMap launch.workerStart ++ drainedCalls launch.flags events.drained ++
    if events.cloned then launch.finalCalls else []

/-- The calls after a daemon has given the run up.  A run that was not given up leaves no worker,
and a command line tool exits. -/
def Launch.laterCalls (launch : Launch) (events : RunEvents) : List Call :=
  if launch.flags.daemon ∧ events.cloned = false then
    drainedCalls launch.flags events.drainedLater
  else []

/-- Every call of a writer.  The writers are a local variable of the function that executes the run,
so that none is left once that function has returned. -/
def Launch.uses (launch : Launch) (events : RunEvents) : List WriterUse :=
  let initialization := launch.initialization events.initializes
  if initialization.ok then
    (launch.calls events).map (Call.on initialization.writer) ++
      (launch.laterCalls events).map (Call.on .unset)
  else []

/-- The formats whose `initialize` opens a file. -/
def ReportFormat.hasFile : ReportFormat → Bool
  | .csv | .hdr => true
  | .nop | .out => false

/-- The called operation belongs to a writer that is installed and initialized. -/
def WriterUse.Ready (use : WriterUse) : Prop :=
  match use.writer with
  | none => False
  | some installed => installed.format.hasFile = true → installed.initialized = true

instance (use : WriterUse) : Decidable use.Ready :=
  match hwriter : use.writer with
  | none => isFalse (by simp [WriterUse.Ready, hwriter])
  | some installed =>
      decidable_of_iff (installed.format.hasFile = true → installed.initialized = true)
        (by simp [WriterUse.Ready, hwriter])

/-- No call of the run misses its writer. -/
def WritersInstalled (launch : Launch) (events : RunEvents) : Prop :=
  ∀ use ∈ launch.uses events, use.Ready

/-! ## What is installed -/

theorem initializeSlots_ok (format : ReportFormat) (initializes : WriterSlot → Bool)
    (slots : List WriterSlot) (writer : StatsWriter) :
    (initializeSlots format initializes slots writer).ok = slots.all initializes := by
  induction slots generalizing writer with
  | nil => rfl
  | cons slot slots ih =>
    cases hslot : initializes slot with
    | true => simp [initializeSlots, hslot, ih]
    | false => simp [initializeSlots, hslot]

/-- After a success the selected writers are ready and the others are as before. -/
theorem initializeSlots_writer (format : ReportFormat) {initializes : WriterSlot → Bool}
    {slots : List WriterSlot} (writer : StatsWriter) (hslots : ∀ slot ∈ slots, initializes slot = true)
    (slot : WriterSlot) :
    (initializeSlots format initializes slots writer).writer slot =
      if slot ∈ slots then some ⟨format, true⟩ else writer slot := by
  induction slots generalizing writer with
  | nil => simp [initializeSlots]
  | cons first slots ih =>
    have hfirst : initializes first = true := hslots first List.mem_cons_self
    have hrest : ∀ slot ∈ slots, initializes slot = true :=
      fun slot hslot ↦ hslots slot (List.mem_cons_of_mem first hslot)
    rw [initializeSlots, hfirst]
    simp only [if_true]
    rw [ih _ hrest]
    by_cases hmem : slot ∈ slots
    · simp [hmem]
    · by_cases heq : slot = first
      · simp [heq]
      · simp [hmem, heq]

/-- A slot that a use finds filled with an initialized writer. -/
theorem ready_on {writer : StatsWriter} {format : ReportFormat} {call : Call}
    (hslot : writer call.slot = some ⟨format, true⟩) : (call.on writer).Ready := by
  simp [Call.on, WriterUse.Ready, hslot]

theorem not_ready_on {writer : StatsWriter} {call : Call} (hslot : writer call.slot = none) :
    ¬ (call.on writer).Ready := by
  simp [Call.on, WriterUse.Ready, hslot]

/-! ## What is called -/

theorem sampleCalls_slot {round : Round} {rest : List Call} {call : Call}
    (hcall : call ∈ sampleCalls round rest) : call.slot = .throughput ∨ call ∈ rest := by
  unfold sampleCalls at hcall
  split at hcall
  · rcases List.mem_cons.mp hcall with rfl | htail
    · exact .inl rfl
    · split at htail
      · exact .inr htail
      · simp at htail
  · exact .inr hcall

theorem naiveSenderLoop_slot {rounds : List Round} {call : Call}
    (hcall : call ∈ naiveSenderLoop rounds) : call.slot = .throughput := by
  induction rounds with
  | nil => simp [naiveSenderLoop] at hcall
  | cons round rounds ih =>
    rw [naiveSenderLoop] at hcall
    cases htransfer : round.transfer with
    | failed => simp [htransfer] at hcall
    | noTimestamp => simp [htransfer] at hcall
    | done =>
      rw [htransfer] at hcall
      exact (sampleCalls_slot hcall).elim id ih
    | noData =>
      rw [htransfer] at hcall
      exact (sampleCalls_slot hcall).elim id ih

/-- A naive sender calls the throughput writer only. -/
theorem naiveSenderStart_slot {child : ChildRun} {call : Call}
    (hcall : call ∈ naiveSenderStart child) : call.slot = .throughput := by
  unfold naiveSenderStart at hcall
  split at hcall
  · rcases List.mem_append.mp hcall with hloop | hend
    · exact naiveSenderLoop_slot hloop
    · rw [List.mem_singleton.mp hend]
  · simp at hcall

theorem naiveReceiverLoop_slot {rounds : List Round} {call : Call}
    (hcall : call ∈ naiveReceiverLoop rounds) : call.slot ≠ .rate := by
  induction rounds with
  | nil => simp [naiveReceiverLoop] at hcall
  | cons round rounds ih =>
    rw [naiveReceiverLoop] at hcall
    cases htransfer : round.transfer with
    | failed => simp [htransfer] at hcall
    | noTimestamp =>
      rw [htransfer] at hcall
      exact ih hcall
    | noData =>
      rw [htransfer] at hcall
      exact ih hcall
    | done =>
      rw [htransfer] at hcall
      rcases List.mem_cons.mp hcall with rfl | htail
      · simp
      · split at htail
        · rcases sampleCalls_slot htail with hslot | hrest
          · simp [hslot]
          · exact ih hrest
        · simp at htail

/-- A naive receiver calls the latency and the throughput writer. -/
theorem naiveReceiverStart_slot {child : ChildRun} {call : Call}
    (hcall : call ∈ naiveReceiverStart child) : call.slot ≠ .rate := by
  unfold naiveReceiverStart at hcall
  split at hcall
  · rcases List.mem_append.mp hcall with hloop | hend
    · exact naiveReceiverLoop_slot hloop
    · simp only [List.mem_cons, List.not_mem_nil, or_false] at hend
      rcases hend with rfl | rfl <;> simp
  · simp at hcall

theorem mem_snapshotCalls {flags : Flags} {snapshot : Snapshot} {call : Call} :
    call ∈ (snapshotCalls flags snapshot).map WriterCall.call ↔
      flags.receiver = true ∧ call = ⟨.latency, .write⟩ ∨
        flags.daemon = true ∧ call = ⟨.rate, .write⟩ := by
  unfold snapshotCalls
  cases hreceiver : flags.receiver <;> cases hdaemon : flags.daemon <;>
    simp [WriterCall.call]

theorem mem_drainedCalls {flags : Flags} {drained : List Snapshot} {call : Call} :
    call ∈ drainedCalls flags drained ↔ drained ≠ [] ∧
      (flags.receiver = true ∧ call = ⟨.latency, .write⟩ ∨
        flags.daemon = true ∧ call = ⟨.rate, .write⟩) := by
  have hnonempty : (∃ snapshot, snapshot ∈ drained) ↔ drained ≠ [] :=
    ⟨fun ⟨_, hmem⟩ ↦ List.ne_nil_of_mem hmem, List.exists_mem_of_ne_nil drained⟩
  rw [drainedCalls, List.mem_flatMap]
  simp only [mem_snapshotCalls, exists_and_right, hnonempty]

/-- A drained snapshot of a daemon calls the rate writer. -/
theorem drainedCalls_eq_nil {flags : Flags} (hdaemon : flags.daemon = true)
    {drained : List Snapshot} : drainedCalls flags drained = [] ↔ drained = [] := by
  constructor
  · intro hcalls
    by_contra hdrained
    have hrate : (⟨.rate, .write⟩ : Call) ∈ drainedCalls flags drained :=
      mem_drainedCalls.mpr ⟨hdrained, .inr ⟨hdaemon, rfl⟩⟩
    rw [hcalls] at hrate
    simp at hrate
  · rintro rfl
    rfl

/-! ## When every call finds its writer -/

/-- A launch that installs exactly the writers of its naming options. -/
theorem writersInstalled_iff_slots {launch : Launch} {events : RunEvents}
    (hinitialization : launch.initialization events.initializes =
      initializeSlots launch.reportFormat events.initializes launch.namingOptions.slots .unset) :
    WritersInstalled launch events ↔
      (∃ slot ∈ launch.namingOptions.slots, events.initializes slot = false) ∨
      (∀ call ∈ launch.calls events, call.slot ∈ launch.namingOptions.slots) ∧
        launch.laterCalls events = [] := by
  unfold WritersInstalled Launch.uses
  simp only [hinitialization, initializeSlots_ok]
  by_cases hall : ∀ slot ∈ launch.namingOptions.slots, events.initializes slot = true
  · have hwriter := initializeSlots_writer launch.reportFormat .unset hall
    have hnone : ¬ ∃ slot ∈ launch.namingOptions.slots, events.initializes slot = false := by
      rintro ⟨slot, hslot, hfalse⟩
      simp [hall slot hslot] at hfalse
    rw [if_pos (List.all_eq_true.mpr hall), or_iff_right hnone]
    constructor
    · intro hready
      constructor
      · intro call hcall
        by_contra hslot
        refine not_ready_on ?_ (hready _ (List.mem_append_left _ (List.mem_map_of_mem hcall)))
        rw [hwriter, if_neg hslot]
        rfl
      · apply List.eq_nil_iff_forall_not_mem.mpr
        intro call hcall
        exact not_ready_on rfl (hready _ (List.mem_append_right _ (List.mem_map_of_mem hcall)))
    · rintro ⟨hcalls, hlater⟩ use huse
      rw [hlater, List.map_nil, List.append_nil] at huse
      rcases List.mem_map.mp huse with ⟨call, hcall, rfl⟩
      apply ready_on 
      rw [hwriter, if_pos (hcalls call hcall)]
  · have hfailed : ∃ slot ∈ launch.namingOptions.slots, events.initializes slot = false := by
      push Not at hall
      simpa using hall
    rw [if_neg fun hok ↦ hall (List.all_eq_true.mp hok)]
    simp [hfailed]

theorem mem_calls {launch : Launch} {events : RunEvents} {call : Call} :
    call ∈ launch.calls events ↔
      (∃ child ∈ events.children, call ∈ launch.workerStart child) ∨
      call ∈ drainedCalls launch.flags events.drained ∨
      events.cloned = true ∧ call ∈ launch.finalCalls := by
  unfold Launch.calls
  rw [List.mem_append, List.mem_append, List.mem_flatMap, or_assoc]
  cases events.cloned <;> simp

theorem laterCalls_eq_nil {launch : Launch} {events : RunEvents}
    (hdaemon : launch.flags.daemon = true) :
    launch.laterCalls events = [] ↔ events.cloned = true ∨ events.drainedLater = [] := by
  unfold Launch.laterCalls
  cases hcloned : events.cloned with
  | true => simp
  | false => simp [hdaemon, drainedCalls_eq_nil hdaemon]

/-- A daemon in which only calls of the rate writer can miss their writer. -/
theorem calls_slots_iff {launch : Launch} {events : RunEvents} (hdaemon : launch.flags.daemon = true)
    (hchildren : ∀ child, ∀ call ∈ launch.workerStart child,
      call.slot ∈ launch.namingOptions.slots)
    (hlatency : launch.flags.receiver = true → .latency ∈ launch.namingOptions.slots)
    (hfinal : ∀ call ∈ launch.finalCalls,
      call.slot ∈ launch.namingOptions.slots ∨ call.slot = .rate)
    (hrate : (⟨.rate, .finalize⟩ : Call) ∈ launch.finalCalls) :
    (∀ call ∈ launch.calls events, call.slot ∈ launch.namingOptions.slots) ↔
      .rate ∈ launch.namingOptions.slots ∨ events.cloned = false ∧ events.drained = [] := by
  constructor
  · intro hcalls
    by_cases hslot : .rate ∈ launch.namingOptions.slots
    · exact .inl hslot
    · refine .inr ⟨?_, ?_⟩
      · apply Bool.eq_false_of_not_eq_true
        intro hcloned
        exact hslot (hcalls _ (mem_calls.mpr (.inr (.inr ⟨hcloned, hrate⟩))))
      · by_contra hdrained
        have hwrite : (⟨.rate, .write⟩ : Call) ∈ drainedCalls launch.flags events.drained :=
          mem_drainedCalls.mpr ⟨hdrained, .inr ⟨hdaemon, rfl⟩⟩
        exact hslot (hcalls _ (mem_calls.mpr (.inr (.inl hwrite))))
  · intro hcovered call hcall
    rcases mem_calls.mp hcall with ⟨child, -, hchild⟩ | hdrained | ⟨hcloned, hend⟩
    · exact hchildren child call hchild
    · rcases mem_drainedCalls.mp hdrained with ⟨hnonempty, ⟨hreceiver, rfl⟩ | ⟨-, rfl⟩⟩
      · exact hlatency hreceiver
      · exact hcovered.resolve_right fun hnone ↦ hnonempty hnone.2
    · rcases hfinal call hend with hslot | hslot
      · exact hslot
      · rw [hslot]
        exact hcovered.resolve_right fun hnone ↦ by simp [hcloned] at hnone

/-- When the writers of a launch cover its calls: always in a command line tool; in a daemon if one
of the selected writers fails to initialize, so that nothing runs, or if the test has a rate
(without one the parent must neither read a snapshot nor come to the end of the run) and no snapshot
is read once the run has been given up. -/
def Launch.Covered (events : RunEvents) : Launch → Prop
  | .sender _ _ | .receiver => True
  | .senderd rate =>
      (∃ slot ∈ (Launch.senderd rate).namingOptions.slots, events.initializes slot = false) ∨
      (0 < rate ∨ events.cloned = false ∧ events.drained = []) ∧
        (events.cloned = true ∨ events.drainedLater = [])
  | .receiverd rate =>
      (∃ slot ∈ (Launch.receiverd rate).namingOptions.slots, events.initializes slot = false) ∨
      (0 < rate ∨ events.cloned = false ∧ events.drained = []) ∧
        (events.cloned = true ∨ events.drainedLater = [])

theorem senderd_slots (rate : ℕ) :
    (Launch.senderd rate).namingOptions.slots = if 0 < rate then [.rate] else [.throughput] := by
  by_cases hrate : 0 < rate
  · rw [Launch.namingOptions, if_pos hrate, if_pos hrate]
    rfl
  · rw [Launch.namingOptions, if_neg hrate, if_neg hrate]
    rfl

theorem receiverd_slots (rate : ℕ) :
    (Launch.receiverd rate).namingOptions.slots =
      if 0 < rate then [.latency, .rate] else [.latency, .throughput] := by
  by_cases hrate : 0 < rate
  · rw [Launch.namingOptions, if_pos hrate, if_pos hrate]
    rfl
  · rw [Launch.namingOptions, if_neg hrate, if_neg hrate]
    rfl

theorem senderd_calls_slots_iff (rate : ℕ) (events : RunEvents) :
    (∀ call ∈ (Launch.senderd rate).calls events,
        call.slot ∈ (Launch.senderd rate).namingOptions.slots) ↔
      0 < rate ∨ events.cloned = false ∧ events.drained = [] := by
  rw [calls_slots_iff rfl]
  · rw [senderd_slots]
    by_cases hrate : 0 < rate <;> simp [hrate]
  · intro child call hcall
    rw [senderd_slots]
    by_cases hrate : 0 < rate
    · simp [Launch.workerStart, hrate, rateSenderStart] at hcall
    · simp only [Launch.workerStart, hrate, if_false] at hcall
      simp [hrate, naiveSenderStart_slot hcall]
  · simp [Launch.flags]
  · simp [Launch.finalCalls]
  · simp [Launch.finalCalls]

theorem receiverd_calls_slots_iff (rate : ℕ) (events : RunEvents) :
    (∀ call ∈ (Launch.receiverd rate).calls events,
        call.slot ∈ (Launch.receiverd rate).namingOptions.slots) ↔
      0 < rate ∨ events.cloned = false ∧ events.drained = [] := by
  rw [calls_slots_iff rfl]
  · rw [receiverd_slots]
    by_cases hrate : 0 < rate <;> simp [hrate]
  · intro child call hcall
    rw [receiverd_slots]
    by_cases hrate : 0 < rate
    · simp [Launch.workerStart, hrate, rateReceiverStart] at hcall
    · simp only [Launch.workerStart, hrate, if_false] at hcall
      have hslot := naiveReceiverStart_slot hcall
      cases hcase : call.slot <;> simp_all
  · intro _
    rw [receiverd_slots]
    by_cases hrate : 0 < rate <;> simp [hrate]
  · rw [receiverd_slots]
    by_cases hrate : 0 < rate <;> simp [hrate, Launch.finalCalls]
  · simp [Launch.finalCalls]

/-- The writers of the command line sender: of the log directory, or those without a file. -/
theorem sender_throughput {logDir : Bool} {parallelCount : ℕ} {initializes : WriterSlot → Bool}
    (hok : ((Launch.sender logDir parallelCount).initialization initializes).ok = true)
    {call : Call} (hslot : call.slot = .throughput) :
    (call.on ((Launch.sender logDir parallelCount).initialization initializes).writer).Ready := by
  cases logDir with
  | true =>
    cases hinitialize : initializes .throughput <;>
      simp_all [Launch.initialization, Launch.prepare, perfInitializeWriter, namingInitializeWriter,
        namingInitializeCsvWriter, NamingOpt.slots, WriterSlot.option, nmThroughput, nmLatency,
        nmRate, nmNone, Launch.namingOptions, Launch.reportFormat, initializeSlots, Call.on,
        WriterUse.Ready]
  | false =>
    by_cases hparallel : 1 < parallelCount <;>
      simp [Launch.initialization, Launch.prepare, perfInitializeWriter, namingInitializeWriter,
        namingInitializeCsvWriter, namingInitializeNopWriter, namingInitializeOutWriter,
        NamingOpt.slots, nmNone, Launch.namingOptions, Launch.reportFormat, initializeSlots,
        Call.on, WriterUse.Ready, ReportFormat.hasFile, hparallel]

theorem sender_writersInstalled (logDir : Bool) (parallelCount : ℕ) (events : RunEvents) :
    WritersInstalled (.sender logDir parallelCount) events := by
  unfold WritersInstalled Launch.uses
  intro use huse
  by_cases hok : ((Launch.sender logDir parallelCount).initialization events.initializes).ok = true
  · simp only [hok, if_true, Launch.laterCalls, Launch.flags, Bool.false_eq_true, false_and,
      if_false, List.map_nil, List.append_nil] at huse
    rcases List.mem_map.mp huse with ⟨call, hcall, rfl⟩
    apply sender_throughput hok
    rcases mem_calls.mp hcall with ⟨child, -, hchild⟩ | hdrained | ⟨-, hend⟩
    · exact naiveSenderStart_slot hchild
    · simp [mem_drainedCalls, Launch.flags] at hdrained
    · simp [Launch.finalCalls] at hend
  · simp [hok] at huse

/-- Every call of a writer finds it installed and initialized exactly when the launch is covered. -/
theorem writersInstalled_iff (launch : Launch) (events : RunEvents) :
    WritersInstalled launch events ↔ launch.Covered events := by
  cases launch with
  | senderd rate =>
    rw [writersInstalled_iff_slots rfl, senderd_calls_slots_iff, laterCalls_eq_nil rfl]
    rfl
  | receiverd rate =>
    rw [writersInstalled_iff_slots rfl, receiverd_calls_slots_iff, laterCalls_eq_nil rfl]
    rfl
  | sender logDir parallelCount =>
    exact iff_of_true (sender_writersInstalled logDir parallelCount events) trivial
  | receiver =>
    rw [writersInstalled_iff_slots rfl]
    refine iff_of_true (.inr ⟨fun call hcall ↦ ?_, by simp [Launch.laterCalls, Launch.flags]⟩)
      trivial
    have hslot : call.slot ≠ .rate := by
      rcases mem_calls.mp hcall with ⟨child, -, hchild⟩ | hdrained | ⟨-, hend⟩
      · exact naiveReceiverStart_slot hchild
      · rcases mem_drainedCalls.mp hdrained with ⟨-, ⟨-, rfl⟩ | ⟨hdaemon, -⟩⟩
        · simp
        · simp [Launch.flags] at hdaemon
      · simp [Launch.finalCalls] at hend
    cases hcase : call.slot with
    | latency => decide
    | throughput => decide
    | rate => exact absurd hcase hslot

/-- A sender daemon without a rate, with one child that sends nothing: the end of the run calls
`rate.finalize`, which is null. -/
theorem unlimited_not_writersInstalled :
    ¬ WritersInstalled (.senderd 0) ⟨fun _ ↦ true, true, [⟨true, []⟩], [], []⟩ := by
  unfold WritersInstalled
  decide

end MsgPerf.Worker
