import MsgPerf.Worker.Clone
import MsgPerf.Worker.WatchdogPass

/-!
# Stopping the listed workers

`worker_manager_do_stop` signals every child of the list, polls each of them up to ten times until
`waitpid` reports it, kills a child that has not ended by then and reads the rest of its queue.  The
list is destroyed afterwards.

The calls on a child are recorded in the order in which they are made.  What the system answers is
given per child: whether the signals are delivered, what each poll finds, by the number of retries
that are left after it, and the snapshots that are still in the queue.  The walk over process ids
in `MsgPerf.Worker.Clone` makes the same calls.
-/

namespace MsgPerf.Worker

open MsgPerf.Library

def sigkill : ℕ := 9

def sigterm : ℕ := 15

/-- The answers to the calls on one child. -/
structure StopAnswer where
  delivered : Bool
  polls : ℕ → WaitResult
  killed : Bool
  batch : List Snapshot

namespace StopEvent

def child : StopEvent → ℤ
  | .signalled child _ _ | .polled child _ | .drained child => child

def signal? : StopEvent → Option ℕ
  | .signalled _ signal _ => some signal
  | .polled .. | .drained _ => none

def isPoll : StopEvent → Bool
  | .polled .. => true
  | .signalled .. | .drained _ => false

/-- The system call of an event. -/
def call? : StopEvent → Option SystemCall
  | .signalled child _ _ => some (.kill child)
  | .polled child _ => some (.waitpid child)
  | .drained _ => none

end StopEvent

namespace WorkerList

open MsgPerf.Library.LinkedList

/-- The loop of polls, with the retries that are left. -/
def pollChild (child : ℤ) (answer : StopAnswer) : ℕ → List StopEvent
  | 0 => []
  | retry + 1 =>
      .polled child (answer.polls retry) ::
        match answer.polls retry with
        | .running =>
            if retry = 0 then [.signalled child sigkill answer.killed]
            else pollChild child answer retry
        | .exited _ | .signaled _ | .stopped _ | .error => []

/-- The calls on one child.  A signal that is not delivered is followed by the next child. -/
def stopEvents (signal : ℕ) (answer : StopAnswer) (child : ℤ) : List StopEvent :=
  .signalled child signal answer.delivered ::
    if answer.delivered then pollChild child answer 10 ++ [.drained child] else []

/-- The state after the calls on the worker behind `pointer`. -/
def stopped (signal : ℕ) (answer : StopAnswer) (pointer : ℕ) (info : WorkerInfo)
    (state : ListState) : ListState :=
  let state := { state with events := state.events ++ stopEvents signal answer info.child }
  if answer.delivered then state.setInfo pointer (workerManagerUpdateSnapshot info answer.batch)
  else state

/-- The walk of `worker_manager_do_stop`, with the number of nodes it may visit at most. -/
def doStopLoop (signal : ℕ) : ℕ → (ℕ → StopAnswer) → Option ℕ → ListState → Except Fault ListState
  | 0, _, _, _ => .error .endless
  | _ + 1, _, none, state => state.unlock
  | fuel + 1, answers, some address, state => do
      let cell ← state.node address
      let info ← state.info cell.data
      doStopLoop signal fuel (fun index ↦ answers (index + 1)) cell.next
        (stopped signal (answers 0) cell.data info state)

/-- `worker_manager_do_stop`. -/
def doStop (gru : GruFunctions) (signal fuel : ℕ) (answers : ℕ → StopAnswer) (state : ListState) :
    Except Fault (Bool × ListState) := do
  let state ← state.lock
  let state ← doStopLoop signal fuel answers (root state) state
  return (true, ← clean gru state)

def workerManagerStop (gru : GruFunctions) (fuel : ℕ) (answers : ℕ → StopAnswer)
    (state : ListState) : Except Fault (Bool × ListState) :=
  doStop gru sigint fuel answers state

def workerManagerAbort (gru : GruFunctions) (fuel : ℕ) (answers : ℕ → StopAnswer)
    (state : ListState) : Except Fault (Bool × ListState) :=
  doStop gru sigterm fuel answers { state with errors := state.errors + 1 }

/-! ## The walk -/

/-- The calls on all children of a list, in its order. -/
def stopTrace (signal : ℕ) : (ℕ → StopAnswer) → List ℤ → List StopEvent
  | _, [] => []
  | answers, child :: rest =>
      stopEvents signal (answers 0) child ++
        stopTrace signal (fun index ↦ answers (index + 1)) rest

variable {state : ListState} {before after : List Slot} {slot : Slot}

theorem Registered.stopped (h : Registered state (before ++ slot :: after)) (signal : ℕ)
    (answer : StopAnswer) :
    ∃ info, Registered (stopped signal answer slot.pointer slot.info state)
      (before ++ { slot with info := info } :: after) := by
  by_cases hdelivered : answer.delivered = true
  · refine ⟨workerManagerUpdateSnapshot slot.info answer.batch, ?_⟩
    have hset := h.setInfo (workerManagerUpdateSnapshot slot.info answer.batch)
    rw [WorkerList.stopped]
    simp only [hdelivered, if_true]
    exact ⟨hset.chain, hset.infos, hset.distinct⟩
  · refine ⟨slot.info, ?_⟩
    rw [WorkerList.stopped]
    simp only [hdelivered]
    exact ⟨h.chain, h.infos, h.distinct⟩

theorem stopped_frame (signal : ℕ) (answer : StopAnswer) (pointer : ℕ) (info : WorkerInfo)
    (state : ListState) :
    (stopped signal answer pointer info state).held = state.held ∧
      (stopped signal answer pointer info state).events =
        state.events ++ stopEvents signal answer info.child := by
  rw [stopped]
  split <;> exact ⟨rfl, rfl⟩

/-- From any node of the list on, the walk makes the calls on the children from there on. -/
theorem doStopLoop_eq (signal : ℕ) (answers : ℕ → StopAnswer) {slots : List Slot} {fuel : ℕ}
    (h : Registered state (before ++ slots)) (hfuel : slots.length < fuel)
    (hheld : state.held = true) :
    ∃ next, doStopLoop signal fuel answers (firstNode slots) state = .ok next ∧
      next.held = false ∧ next.events = state.events ++
        stopTrace signal answers (slots.map fun slot ↦ slot.info.child) := by
  induction slots generalizing state before fuel answers with
  | nil =>
    obtain ⟨fuel, rfl⟩ := Nat.exists_eq_succ_of_ne_zero (Nat.ne_zero_of_lt hfuel)
    exact ⟨{ state with held := false }, ListState.unlock_eq hheld, rfl, (List.append_nil _).symm⟩
  | cons slot rest ih =>
    obtain ⟨fuel, rfl⟩ := Nat.exists_eq_succ_of_ne_zero (Nat.ne_zero_of_lt hfuel)
    have hrest : rest.length < fuel := by
      rw [List.length_cons] at hfuel
      omega
    obtain ⟨info, hregistered⟩ := h.stopped signal (answers 0)
    rw [← List.singleton_append, ← List.append_assoc] at hregistered
    have hframe := stopped_frame signal (answers 0) slot.pointer slot.info state
    obtain ⟨next, hnext, hreleased, hevents⟩ := ih (fun index ↦ answers (index + 1)) hregistered
      hrest (hframe.1.trans hheld)
    refine ⟨next, ?_, hreleased, ?_⟩
    · calc doStopLoop signal (fuel + 1) answers (some slot.node) state
          = doStopLoop signal fuel (fun index ↦ answers (index + 1)) (firstNode rest)
              (WorkerList.stopped signal (answers 0) slot.pointer slot.info state) := by
            rw [doStopLoop, h.node_eq]
            simp only [bind, Except.bind, h.info_eq]
        _ = .ok next := hnext
    · rw [hevents, hframe.2, List.append_assoc, List.map_cons, stopTrace]

/-- The list is gone, and the mutex is released. -/
theorem clean_eq (gru : GruFunctions) (hheld : state.held = false) :
    ∃ next, clean gru state = .ok next ∧ next.held = false ∧ next.gwlist = none ∧
      next.events = state.events := by
  have hdestroy : (destroy gru { state with held := true }).held = true ∧
      (destroy gru { state with held := true }).gwlist = none ∧
      (destroy gru { state with held := true }).events = state.events := by
    rw [destroy]
    split <;> exact ⟨rfl, rfl, rfl⟩
  refine ⟨{ destroy gru { state with held := true } with held := false }, ?_, rfl, hdestroy.2⟩
  rw [clean, ListState.lock_eq hheld]
  exact ListState.unlock_eq hdestroy.1

theorem doStop_eq (gru : GruFunctions) (signal : ℕ) (answers : ℕ → StopAnswer) {slots : List Slot}
    {fuel : ℕ} (h : Registered state slots) (hfuel : slots.length < fuel)
    (hheld : state.held = false) :
    ∃ next, doStop gru signal fuel answers state = .ok (true, next) ∧ next.held = false ∧
      next.gwlist = none ∧ next.events = state.events ++
        stopTrace signal answers (slots.map fun slot ↦ slot.info.child) := by
  have hlocked : Registered { state with held := true } ([] ++ slots) :=
    ⟨h.chain, h.infos, h.distinct⟩
  have hroot : root { state with held := true } = firstNode slots := hlocked.root_eq
  obtain ⟨walked, hwalk, hreleased, hevents⟩ := doStopLoop_eq signal answers hlocked hfuel rfl
  obtain ⟨next, hclean, hnext, hgone, hkept⟩ := clean_eq gru hreleased
  refine ⟨next, ?_, hnext, hgone, hkept.trans hevents⟩
  rw [doStop, ListState.lock_eq hheld]
  simp only [bind, Except.bind, hroot, hwalk, hclean]
  rfl

/-! ## The walk over process ids -/

/-- The answer of a poll as the loop of polls tells them apart. -/
def pollResult : Processes.WaitAnswer → WaitResult
  | .noChange => .running
  | .reaped => .exited 0
  | .failed => .error

/-- The polls of the walk over process ids make the same calls. -/
theorem stopPoll_issued {child : ℤ} {ended : ℕ → Option ℤ} {answer : StopAnswer}
    (processes : Processes)
    (hpolls : ∀ index, answer.polls index = pollResult (processes.waitpid child (ended index)).1)
    (retry : ℕ) :
    (stopPoll child ended retry processes).issued =
      processes.issued ++ (pollChild child answer retry).filterMap StopEvent.call? := by
  induction retry generalizing processes with
  | zero => exact (List.append_nil _).symm
  | succ retry ih =>
    have hissued := Processes.waitpid_issued processes child (ended retry)
    rw [stopPoll, pollChild, hpolls retry]
    cases hanswer : (processes.waitpid child (ended retry)).1 with
    | reaped | failed => exact hissued
    | noChange =>
      have hfate := Processes.waitpid_fate_of_noChange hanswer
      by_cases hlast : retry = 0
      · subst hlast
        simp [pollResult, StopEvent.call?, Processes.kill, Processes.issue, hissued]
      · have hrest := ih (processes.waitpid child (ended retry)).2 fun index ↦ by
          rw [Processes.waitpid_answer_congr hfate]
          exact hpolls index
        simp [hlast, pollResult, StopEvent.call?, hrest, hissued]

theorem stopNode_issued (signal : ℕ) (child : ℤ) (visit : StopVisit) (processes : Processes) :
    ∃ answer, (stopNode child visit processes).issued =
      processes.issued ++ (stopEvents signal answer child).filterMap StopEvent.call? := by
  cases hkillable : processes.killable child visit.group with
  | false =>
    refine ⟨⟨false, fun _ ↦ .running, true, []⟩, ?_⟩
    rw [stopNode, hkillable]
    rfl
  | true =>
    let answer : StopAnswer := ⟨true, fun index ↦ pollResult
      ((processes.kill child).waitpid child (visit.ended index)).1, true, []⟩
    refine ⟨answer, ?_⟩
    calc (stopNode child visit processes).issued
        = (stopPoll child visit.ended 10 (processes.kill child)).issued := by
          rw [stopNode, if_pos hkillable]
      _ = (processes.kill child).issued ++
            (pollChild child answer 10).filterMap StopEvent.call? :=
          stopPoll_issued (processes.kill child) (fun _ ↦ rfl) 10
      _ = processes.issued ++ (stopEvents signal answer child).filterMap StopEvent.call? := by
          simp [stopEvents, answer, StopEvent.call?, Processes.kill, Processes.issue]

/-- The walk over process ids makes the calls of a walk over the list, with the answers that it got. -/
theorem stopWalk_issued (signal : ℕ) (children : List ℤ) (visits : ℕ → StopVisit)
    (processes : Processes) :
    ∃ answers, (stopWalk children visits processes).issued =
      processes.issued ++ (stopTrace signal answers children).filterMap StopEvent.call? := by
  induction children generalizing visits processes with
  | nil => exact ⟨fun _ ↦ ⟨true, fun _ ↦ .running, true, []⟩, (List.append_nil _).symm⟩
  | cons child rest ih =>
    obtain ⟨answer, hfirst⟩ := stopNode_issued signal child (visits 0) processes
    obtain ⟨answers, hrest⟩ := ih (fun index ↦ visits (index + 1))
      (stopNode child (visits 0) processes)
    refine ⟨fun | 0 => answer | index + 1 => answers index, ?_⟩
    rw [stopWalk, hrest, hfirst, stopTrace, List.filterMap_append, List.append_assoc]

/-! ## What becomes of a child -/

/-- The calls on a child that is stopped with `signal`: the signal is sent once, there are ten polls
at most, and unless the signal could not be sent or a poll reported the child it has been killed.  A
child that was reported is not killed, and the queue of a child that got the signal is read after
the last poll. -/
structure Disposed (signal : ℕ) (child : ℤ) (events : List StopEvent) : Prop where
  once : (events.countP fun event ↦ event.signal? = some signal) = 1
  polls : events.countP StopEvent.isPoll ≤ 10
  ended : .signalled child signal false ∈ events ∨
    (∃ answer, answer ≠ .running ∧ .polled child answer ∈ events) ∨
      ∃ delivered, .signalled child sigkill delivered ∈ events
  spared : (∃ answer, answer ≠ .running ∧ .polled child answer ∈ events) →
    ∀ delivered, .signalled child sigkill delivered ∉ events
  drained : .signalled child signal true ∈ events →
    ∃ earlier later, events = earlier ++ .drained child :: later ∧
      ∀ answer, .polled child answer ∉ later

/-- The polls of a child: they find it running up to the one that reports it, or all of them do and
the child is killed. -/
theorem pollChild_eq (child : ℤ) (answer : StopAnswer) (retry : ℕ) :
    (∃ count ≤ retry, ∃ wait ≠ .running, pollChild child answer (retry + 1) =
      List.replicate count (StopEvent.polled child .running) ++ [StopEvent.polled child wait]) ∨
    pollChild child answer (retry + 1) =
      List.replicate (retry + 1) (StopEvent.polled child .running) ++
        [StopEvent.signalled child sigkill answer.killed] := by
  induction retry with
  | zero =>
    rw [pollChild]
    cases hpoll : answer.polls 0 with
    | running => exact .inr rfl
    | exited _ | signaled _ | stopped _ | error =>
      exact .inl ⟨0, le_rfl, _, WaitResult.noConfusion, rfl⟩
  | succ retry ih =>
    rw [pollChild]
    cases hpoll : answer.polls (retry + 1) with
    | running =>
      rcases ih with ⟨count, hcount, wait, hwait, hpolls⟩ | hpolls
      · refine .inl ⟨count + 1, Nat.succ_le_succ hcount, wait, hwait, ?_⟩
        simp only [Nat.succ_ne_zero, if_false, hpolls, List.replicate_succ, List.cons_append]
      · refine .inr ?_
        simp only [Nat.succ_ne_zero, if_false, hpolls, List.replicate_succ, List.cons_append]
    | exited _ | signaled _ | stopped _ | error =>
      exact .inl ⟨0, Nat.zero_le _, _, WaitResult.noConfusion, rfl⟩

theorem pollChild_child (child : ℤ) (answer : StopAnswer) (retry : ℕ) :
    ∀ event ∈ pollChild child answer (retry + 1), event.child = child := by
  intro event hevent
  rcases pollChild_eq child answer retry with ⟨count, _, wait, _, hpolls⟩ | hpolls
  · rw [hpolls, List.mem_append, List.mem_replicate, List.mem_singleton] at hevent
    rcases hevent with ⟨_, rfl⟩ | rfl <;> rfl
  · rw [hpolls, List.mem_append, List.mem_replicate, List.mem_singleton] at hevent
    rcases hevent with ⟨_, rfl⟩ | rfl <;> rfl

theorem stopEvents_child (signal : ℕ) (answer : StopAnswer) (child : ℤ) :
    ∀ event ∈ stopEvents signal answer child, event.child = child := by
  rw [stopEvents, List.forall_mem_cons]
  refine ⟨rfl, ?_⟩
  split
  · rw [List.forall_mem_append]
    exact ⟨pollChild_child child answer 9, by simp [StopEvent.child]⟩
  · simp

/-- The queue is read after everything else. -/
theorem drained_last (child : ℤ) (events : List StopEvent) :
    ∃ earlier later, events ++ [StopEvent.drained child] = earlier ++ .drained child :: later ∧
      ∀ answer, .polled child answer ∉ later :=
  ⟨events, [], rfl, fun _ ↦ List.not_mem_nil⟩

theorem disposed_refused (signal : ℕ) (child : ℤ) :
    Disposed signal child [.signalled child signal false] where
  once := by simp [StopEvent.signal?]
  polls := by simp [StopEvent.isPoll]
  ended := .inl List.mem_cons_self
  spared := by simp
  drained := by simp

theorem disposed_reported {signal : ℕ} (hsignal : signal ≠ sigkill) (child : ℤ) {count : ℕ}
    (hcount : count ≤ 9) {wait : WaitResult} (hwait : wait ≠ .running) :
    Disposed signal child (.signalled child signal true ::
      (List.replicate count (StopEvent.polled child .running) ++ [StopEvent.polled child wait]) ++
        [StopEvent.drained child]) where
  once := by simp [StopEvent.signal?, List.countP_replicate]
  polls := by
    simp only [List.countP_append, List.countP_cons, List.countP_replicate, List.countP_nil,
      StopEvent.isPoll, if_true, Bool.false_eq_true, if_false]
    omega
  ended := by
    refine .inr (.inl ⟨wait, hwait, ?_⟩)
    simp
  spared := by simp [hsignal.symm]
  drained _ := drained_last child _

theorem disposed_killed {signal : ℕ} (hsignal : signal ≠ sigkill) (child : ℤ) (killed : Bool) :
    Disposed signal child (.signalled child signal true ::
      (List.replicate 10 (StopEvent.polled child .running) ++
        [StopEvent.signalled child sigkill killed]) ++
        [StopEvent.drained child]) where
  once := by simp [StopEvent.signal?, hsignal.symm]
  polls := by
    simp only [List.countP_append, List.countP_cons, List.countP_replicate, List.countP_nil,
      StopEvent.isPoll, if_true, Bool.false_eq_true, if_false]
    omega
  ended := by
    refine .inr (.inr ⟨killed, ?_⟩)
    simp
  spared := by simp
  drained _ := drained_last child _

theorem stopEvents_disposed {signal : ℕ} (hsignal : signal ≠ sigkill) (answer : StopAnswer)
    (child : ℤ) : Disposed signal child (stopEvents signal answer child) := by
  rw [stopEvents]
  cases answer.delivered with
  | false => exact disposed_refused signal child
  | true =>
    rcases pollChild_eq child answer 9 with ⟨count, hcount, wait, hwait, hpolls⟩ | hpolls
    · rw [if_pos rfl, hpolls]
      exact disposed_reported hsignal child hcount hwait
    · rw [if_pos rfl, hpolls]
      exact disposed_killed hsignal child answer.killed

theorem stopTrace_child (signal : ℕ) (answers : ℕ → StopAnswer) (children : List ℤ) :
    ∀ event ∈ stopTrace signal answers children, event.child ∈ children := by
  induction children generalizing answers with
  | nil => simp [stopTrace]
  | cons child rest ih =>
    rw [stopTrace, List.forall_mem_append]
    constructor
    · intro event hevent
      rw [stopEvents_child signal _ _ event hevent]
      exact List.mem_cons_self
    · intro event hevent
      exact List.mem_cons_of_mem _ (ih _ event hevent)

/-- Among children with distinct ids, the calls on one child are those of its own visit. -/
theorem filter_stopTrace (signal : ℕ) (answers : ℕ → StopAnswer) {children : List ℤ} {child : ℤ}
    (hdistinct : children.Nodup) (hchild : child ∈ children) :
    ∃ answer, (stopTrace signal answers children).filter (fun event ↦ event.child = child) =
      stopEvents signal answer child := by
  induction children generalizing answers with
  | nil => cases hchild
  | cons first rest ih =>
    rw [List.nodup_cons] at hdistinct
    rw [stopTrace, List.filter_append]
    by_cases hfirst : first = child
    · refine ⟨answers 0, ?_⟩
      have hown : (stopEvents signal (answers 0) first).filter (fun event ↦ event.child = child) =
          stopEvents signal (answers 0) first := by
        rw [List.filter_eq_self]
        intro event hevent
        simpa [stopEvents_child signal _ _ event hevent] using hfirst
      have hothers : (stopTrace signal (fun index ↦ answers (index + 1)) rest).filter
          (fun event ↦ event.child = child) = [] := by
        rw [List.filter_eq_nil_iff]
        intro event hevent hmatch
        have hmem := stopTrace_child signal _ rest event hevent
        rw [of_decide_eq_true hmatch, ← hfirst] at hmem
        exact hdistinct.1 hmem
      rw [hown, hothers, List.append_nil, hfirst]
    · have hnone : (stopEvents signal (answers 0) first).filter (fun event ↦ event.child = child) =
          [] := by
        rw [List.filter_eq_nil_iff]
        intro event hevent
        simpa [stopEvents_child signal _ _ event hevent] using hfirst
      rw [hnone, List.nil_append]
      exact ih _ hdistinct.2 ((List.mem_cons.mp hchild).resolve_left (Ne.symm hfirst))

/-- A stop with `signal` of the listed workers: it returns, the list is gone, and every child that
was listed has been disposed of. -/
def Disposes (signal : ℕ) (slots : List Slot) (state : ListState)
    (result : Except Fault (Bool × ListState)) : Prop :=
  ∃ next trace, result = .ok (true, next) ∧ next.gwlist = none ∧
    next.events = state.events ++ trace ∧ ∀ slot ∈ slots,
      Disposed signal slot.info.child (trace.filter fun event ↦ event.child = slot.info.child)

theorem doStop_disposes (gru : GruFunctions) {signal : ℕ} (hsignal : signal ≠ sigkill)
    (answers : ℕ → StopAnswer) {slots : List Slot} {fuel : ℕ} (h : Registered state slots)
    (hfuel : slots.length < fuel) (hheld : state.held = false)
    (hdistinct : (slots.map fun slot ↦ slot.info.child).Nodup) :
    Disposes signal slots state (doStop gru signal fuel answers state) := by
  obtain ⟨next, hstop, _, hgone, hevents⟩ := doStop_eq gru signal answers h hfuel hheld
  refine ⟨next, _, hstop, hgone, hevents, ?_⟩
  intro slot hslot
  obtain ⟨answer, hfilter⟩ := filter_stopTrace signal answers hdistinct
    (List.mem_map_of_mem (f := fun slot ↦ slot.info.child) hslot)
  rw [hfilter]
  exact stopEvents_disposed hsignal answer slot.info.child

/-- A stop and an abort dispose of every listed worker. -/
theorem stop_disposes_of_workers (gru : GruFunctions) (answers : ℕ → StopAnswer)
    (slots : List Slot) (fuel : ℕ) (state : ListState) (h : Registered state slots)
    (hfuel : slots.length < fuel) (hheld : state.held = false)
    (hdistinct : (slots.map fun slot ↦ slot.info.child).Nodup) :
    Disposes sigint slots state (workerManagerStop gru fuel answers state) ∧
      Disposes sigterm slots state (workerManagerAbort gru fuel answers state) := by
  refine ⟨doStop_disposes gru (by decide) answers h hfuel hheld hdistinct, ?_⟩
  have hcounted : Registered { state with errors := state.errors + 1 } slots :=
    ⟨h.chain, h.infos, h.distinct⟩
  exact doStop_disposes gru (by decide) answers hcounted hfuel hheld hdistinct

/-- The first child cannot be signalled, the second ends with the last poll and the third never. -/
def stubborn : ℕ → StopAnswer
  | 0 => ⟨false, fun _ ↦ .running, true, []⟩
  | 1 => ⟨true, fun retry ↦ if retry = 0 then .exited 0 else .running, true, [Snapshot.zero]⟩
  | _ => ⟨true, fun _ ↦ .running, true, []⟩

theorem threeWorkers_disposed :
    Disposes sigint threeSlots threeWorkers
        (workerManagerStop plainFunctions 4 stubborn threeWorkers) ∧
      Disposes sigterm threeSlots threeWorkers
        (workerManagerAbort plainFunctions 4 stubborn threeWorkers) := by
  apply stop_disposes_of_workers plainFunctions stubborn threeSlots 4 threeWorkers
    threeWorkers_registered
  · decide
  · rfl
  · decide

end WorkerList

end MsgPerf.Worker
