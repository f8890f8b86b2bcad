import MsgPerf.Api.Protocols

/-!
# Sessions of the workers

A worker opens a session with the broker, creates the queue for its snapshots and the buffer of its
messages, runs its loop and gives everything back, on each of its ways out.  The four workers
differ in the loop, in the subscription and in how the buffer is filled.

`worker_queue_new` returns a queue even when nothing could be opened inside, and a write to it would
go through a null pointer.  That never happens: the failure has reached the status, and the status
is looked at when the buffer has been allocated, before the loop.
-/

namespace MsgPerf.Worker.Session

open MsgPerf.Api.Session
open MsgPerf.Library
open MsgPerf.Library.HandleProgram

/-! ## The queue -/

/-- What a queue of the worker wraps: a key, or a name and a descriptor. -/
inductive QueueInside where
  | sysv (object : Option Handle)
  | posix (object : Option (Handle × Handle × Handle))

structure WorkerQueue where
  outer : Handle
  inside : QueueInside

def workerVqueueNew : Program (Option Handle) := do
  match ← gruAlloc .sysvQueue with
  | none => pure none
  | some object =>
    if ← choose then pure (some object)
    else
      gruStatusSet
      release (some object)
      pure none

/-- Nobody frees the object when the name could not be formatted. -/
def workerPqueueNew : Program (Option (Handle × Handle × Handle)) := do
  match ← gruAlloc .posixQueue with
  | none => pure none
  | some object =>
    match ← acquire .posixName with
    | none =>
      gruStatusSet
      pure none
    | some name =>
      if ← choose then
        let descriptor ← create .posixDescriptor
        pure (some (object, name, descriptor))
      else
        gruStatusSet
        release (some name)
        release (some object)
        pure none

/-- The argument tells whether `MPT_USE_POSIX_QUEUE` is set. -/
def workerQueueNew (posix : Bool) : Program (Option WorkerQueue) := do
  match ← gruAlloc .queue with
  | none => pure none
  | some outer =>
    if posix then
      let inside ← workerPqueueNew
      pure (some ⟨outer, .posix inside⟩)
    else
      let inside ← workerVqueueNew
      pure (some ⟨outer, .sysv inside⟩)

def workerCreateQueue (posix : Bool) : Program (Option WorkerQueue) := do
  match ← acquire .queueName with
  | none =>
    gruStatusSet
    pure none
  | some name =>
    let queue ← workerQueueNew posix
    release (some name)
    match queue with
    | none =>
      gruStatusSet
      pure none
    | some queue => pure (some queue)

def workerQueueWrite (queue : WorkerQueue) : Program Unit := do
  use (some queue.outer)
  match queue.inside with
  | .sysv object => use object
  | .posix none => use none
  | .posix (some (object, _, descriptor)) =>
    use (some object)
    use (some descriptor)

def workerQueueDestroy (queue : WorkerQueue) : Program Unit := do
  use (some queue.outer)
  match queue.inside with
  | .sysv object =>
    release object
    release (some queue.outer)
  | .posix none => release (some queue.outer)
  | .posix (some (object, name, descriptor)) =>
    release (some name)
    release (some descriptor)
    release (some object)
    release (some queue.outer)

/-! ## The buffer -/

/-- Both payload strategies release the buffer when the status tells a failure. -/
def plInit : Program (Bool × Option Handle) := do
  let content ← gruAlloc .content
  if (← readShared).failed then
    release content
    pure (false, none)
  else
    use content
    pure (true, content)

/-- A receiver checks the status itself. -/
def msgContentDataInit : Program (Bool × Option Handle) := do
  let content ← gruAlloc .content
  let globals ← readShared
  pure (!globals.failed, content)

/-! ## The loops -/

/-- The end of a turn whose row could not be written. -/
def breakLoop (count : ℕ) : Program (ℕ × Bool) := do
  gruStatusReset
  pure (count, false)

/-- One turn of a loop: the number of messages so far, and whether the loop goes on. -/
abbrev Turn := Vmsl → Context → WorkerQueue → Option Handle → ℕ → Program (ℕ × Bool)

def naiveSenderTurn : Turn := fun vmsl ctxt queue content count ↦ do
  if ← vmsl.send ctxt content then
    if ← choose then
      if ← choose then
        workerQueueWrite queue
        pure (count + 1, true)
      else breakLoop (count + 1)
    else pure (count + 1, true)
  else breakLoop count

def rateSenderTurn : Turn := fun vmsl ctxt queue content count ↦ do
  if ← vmsl.send ctxt content then
    workerQueueWrite queue
    pure (count + 1, true)
  else breakLoop count

/-- A snapshot of the throughput is due in some of the turns; both rows may fail. -/
def naiveReceiverTurn : Turn := fun vmsl ctxt queue content count ↦ do
  match ← vmsl.receive ctxt content with
  | .noTimestamp => pure (count, true)
  | .error => breakLoop count
  | .noData => pure (count, true)
  | .data =>
    if ← choose then
      if ← choose then
        if ← choose then
          workerQueueWrite queue
          pure (count + 1, true)
        else breakLoop (count + 1)
      else pure (count + 1, true)
    else breakLoop (count + 1)

def rateReceiverTurn : Turn := fun vmsl ctxt queue content count ↦ do
  match ← vmsl.receive ctxt content with
  | .noTimestamp => pure (count, true)
  | .error => breakLoop count
  | .noData => pure (count, true)
  | .data =>
    workerQueueWrite queue
    pure (count + 1, true)

/-! ## The functions -/

inductive Direction where
  | sender | receiver
  deriving DecidableEq, Repr

inductive SessionResult where
  | failure
  | success (count : ℕ)
  deriving DecidableEq, Repr

namespace Direction

/-- Only receivers subscribe. -/
def subscribe (vmsl : Vmsl) (ctxt : Context) : Direction → Program Bool
  | sender => pure true
  | receiver => vmsl.subscribe ctxt

def contentInit : Direction → Program (Bool × Option Handle)
  | sender => plInit
  | receiver => msgContentDataInit

end Direction

/-- The label `err_exit`. -/
def errExit (vmsl : Vmsl) (ctxt : Option Context) (content : Option Handle)
    (id handlers : Handle) : Program SessionResult := do
  release content
  match ctxt with
  | none =>
    release (some id)
    release (some handlers)
    pure .failure
  | some ctxt =>
    vmsl.destroy ctxt
    release (some id)
    release (some handlers)
    pure .failure

/-- The loop and what follows it; `can_continue` holds for at most so many rounds. -/
def runLoop (turn : Turn) (vmsl : Vmsl) (ctxt : Context) (queue : WorkerQueue)
    (content : Option Handle) (id handlers : Handle) (rounds : ℕ) : Program SessionResult := do
  let count ← repeatWhile (turn vmsl ctxt queue content) rounds 0
  vmsl.stop ctxt
  vmsl.destroy ctxt
  workerQueueDestroy queue
  release content
  release (some id)
  release (some handlers)
  pure (.success count)

/-- The buffer behind the queue. -/
def fillAndRun (direction : Direction) (turn : Turn) (vmsl : Vmsl) (ctxt : Context)
    (queue : WorkerQueue) (id handlers : Handle) (rounds : ℕ) : Program SessionResult := do
  let (filled, content) ← direction.contentInit
  if filled then runLoop turn vmsl ctxt queue content id handlers rounds
  else
    workerQueueDestroy queue
    errExit vmsl (some ctxt) content id handlers

/-- The session behind the connection. -/
def subscribeAndRun (direction : Direction) (turn : Turn) (vmsl : Vmsl) (posix : Bool)
    (ctxt : Context) (id handlers : Handle) (rounds : ℕ) : Program SessionResult := do
  if ← direction.subscribe vmsl ctxt then
    match ← workerCreateQueue posix with
    | none => errExit vmsl (some ctxt) none id handlers
    | some queue => fillAndRun direction turn vmsl ctxt queue id handlers rounds
  else errExit vmsl (some ctxt) none id handlers

/-- The four workers. -/
def workerStart (direction : Direction) (turn : Turn) (vmsl : Vmsl) (posix : Bool) (rounds : ℕ) :
    Program SessionResult := do
  let id ← create .connectionId
  let handlers ← create .handlers
  match ← vmsl.init handlers with
  | none => errExit vmsl none none id handlers
  | some ctxt =>
    let (started, ctxt) ← vmsl.start ctxt
    if started then subscribeAndRun direction turn vmsl posix ctxt id handlers rounds
    else errExit vmsl (some ctxt) none id handlers

def naiveSenderStart := workerStart .sender naiveSenderTurn

def rateSenderStart := workerStart .sender rateSenderTurn

def naiveReceiverStart := workerStart .receiver naiveReceiverTurn

def rateReceiverStart := workerStart .receiver rateReceiverTurn

/-! ## The queue keeps the discipline -/

/-- Something was opened inside. -/
def QueueInside.Opened : QueueInside → Prop
  | .sysv object => object.isSome
  | .posix object => object.isSome

def QueueInside.owned : QueueInside → Multiset Handle
  | .sysv object => held object
  | .posix none => 0
  | .posix (some (object, name, descriptor)) => {object} + {name} + {descriptor}

def WorkerQueue.owned (queue : WorkerQueue) : Multiset Handle := {queue.outer} + queue.inside.owned

/-- What may be lost with a queue that could not be opened. -/
def queueLosses (posix : Bool) : Set (Multiset Kind) := if posix then {0, {.posixQueue}} else {0}

theorem zero_mem_queueLosses (posix : Bool) : 0 ∈ queueLosses posix := by
  cases posix <;> simp [queueLosses]

section

variable {Result : Type} {live : Multiset Handle} {globals : Globals}
  {post : Result → Multiset Handle → Globals → Prop}

theorem spec_workerVqueueNew {next : Option Handle → Program Result}
    (hnone : Spec (next none) live { globals with failed := true } post)
    (hsome : ∀ object, Spec (next (some object)) ({object} + live) globals post) :
    Spec (workerVqueueNew >>= next) live globals post := by
  refine .bind (spec_gruAlloc (.pure hnone) ?_)
  intro object
  refine .branch (.pure (hsome _)) ?_
  exact .modifyShared (.release _ rfl (.pure hnone))

theorem spec_workerPqueueNew {next : Option (Handle × Handle × Handle) → Program Result}
    (hnone : ∀ lost, kinds lost ∈ queueLosses true →
      Spec (next none) (lost + live) { globals with failed := true } post)
    (hsome : ∀ object, Spec (next (some object))
      (QueueInside.owned (.posix (some object)) + live) globals post) :
    Spec (workerPqueueNew >>= next) live globals post := by
  have hempty : Spec (next none) live { globals with failed := true } post := by
    have h := hnone 0 (zero_mem_queueLosses true)
    rwa [zero_add] at h
  refine .bind (spec_gruAlloc (.pure hempty) ?_)
  intro object
  refine .acquire ?_ ?_
  · have hobject : kinds {(Kind.posixQueue, object)} ∈ queueLosses true := .inr rfl
    exact .modifyShared (.pure (hnone _ hobject))
  · intro name
    refine .branch ?_ ?_
    · refine .create ?_
      intro descriptor
      have h := hsome ((.posixQueue, object), (.posixName, name), (.posixDescriptor, descriptor))
      refine .pure ?_
      convert h using 1
      simp only [QueueInside.owned]
      abel
    · exact .modifyShared (.release _ rfl (.release _ rfl (.pure hempty)))

/-- A queue with nothing inside leaves a status that tells the failure. -/
theorem spec_workerCreateQueue {posix : Bool} {next : Option WorkerQueue → Program Result}
    (hnone : Spec (next none) live { globals with failed := true } post)
    (hopened : ∀ queue : WorkerQueue, queue.inside.Opened →
      Spec (next (some queue)) (queue.owned + live) globals post)
    (hunopened : ∀ (queue : WorkerQueue) lost, kinds lost ∈ queueLosses posix →
      Spec (next (some queue)) (queue.owned + (lost + live)) { globals with failed := true } post) :
    Spec (workerCreateQueue posix >>= next) live globals post := by
  refine .bind (.acquire (.modifyShared (.pure hnone)) ?_)
  intro name
  refine .bind (spec_gruAlloc ?_ ?_)
  · exact .pure (.release _ rfl (.modifyShared (.pure hnone)))
  intro outer
  cases posix with
  | false =>
    refine spec_workerVqueueNew ?_ ?_
    · have h := hunopened ⟨(.queue, outer), .sysv none⟩ 0 (zero_mem_queueLosses false)
      refine .pure (.release ({(.queue, outer)} + live) (by simp only [held_some]; abel) (.pure ?_))
      simpa [WorkerQueue.owned, QueueInside.owned] using h
    · intro object
      have h := hopened ⟨(.queue, outer), .sysv (some object)⟩ rfl
      refine .pure (.release ({object} + {(.queue, outer)} + live) (by simp only [held_some]; abel)
        (.pure ?_))
      rwa [WorkerQueue.owned, QueueInside.owned, held_some, add_comm {(Kind.queue, outer)}] at h
  | true =>
    refine spec_workerPqueueNew ?_ ?_
    · intro lost hlost
      have h := hunopened ⟨(.queue, outer), .posix none⟩ lost hlost
      refine .pure (.release ({(.queue, outer)} + (lost + live)) (by simp only [held_some]; abel)
        (.pure ?_))
      rwa [WorkerQueue.owned, QueueInside.owned, add_zero] at h
    · intro object
      have h := hopened ⟨(.queue, outer), .posix (some object)⟩ rfl
      refine .pure (.release (QueueInside.owned (.posix (some object)) + {(.queue, outer)} + live)
        (by simp only [held_some]; abel) (.pure ?_))
      rwa [WorkerQueue.owned, add_comm {(Kind.queue, outer)}] at h

theorem spec_workerQueueWrite {queue : WorkerQueue} {next : Unit → Program Result}
    (hopened : queue.inside.Opened) (hlive : queue.owned ≤ live)
    (h : Spec (next ()) live globals post) :
    Spec (workerQueueWrite queue >>= next) live globals post := by
  have hmem : ∀ handle ∈ queue.owned, handle ∈ live := fun handle ↦ Multiset.mem_of_le hlive
  refine .bind (.use rfl (hmem _ (by simp [WorkerQueue.owned])) ?_)
  obtain ⟨outer, object | object⟩ := queue
  · obtain ⟨object, rfl⟩ := Option.isSome_iff_exists.mp hopened
    exact .last (.use rfl (hmem _ (by simp [WorkerQueue.owned, QueueInside.owned])) (.pure h))
  · obtain ⟨⟨object, name, descriptor⟩, rfl⟩ := Option.isSome_iff_exists.mp hopened
    exact .use rfl (hmem _ (by simp [WorkerQueue.owned, QueueInside.owned]))
      (.last (.use rfl (hmem _ (by simp [WorkerQueue.owned, QueueInside.owned])) (.pure h)))

theorem spec_workerQueueDestroy {queue : WorkerQueue} {next : Unit → Program Result}
    (rest : Multiset Handle) (hlive : live = queue.owned + rest)
    (h : Spec (next ()) rest globals post) :
    Spec (workerQueueDestroy queue >>= next) live globals post := by
  subst hlive
  refine .bind (.use rfl (by simp [WorkerQueue.owned]) ?_)
  obtain ⟨outer, object | _ | ⟨object, name, descriptor⟩⟩ := queue
  · refine .release ({outer} + rest) (by simp only [WorkerQueue.owned, QueueInside.owned]; abel) ?_
    exact .last (.release rest rfl (.pure h))
  · refine .last (.release rest ?_ (.pure h))
    simp only [WorkerQueue.owned, QueueInside.owned, held_some, add_zero]
  · simp only [WorkerQueue.owned, QueueInside.owned]
    refine .release ({outer} + {object} + {descriptor} + rest) (by simp only [held_some]; abel) ?_
    refine .release ({outer} + {object} + rest) (by simp only [held_some]; abel) ?_
    refine .release ({outer} + rest) (by simp only [held_some]; abel) ?_
    exact .last (.release rest rfl (.pure h))

end

/-! ## The buffer keeps the discipline -/

/-- The loop is only entered when nothing has failed before. -/
theorem Direction.spec_contentInit {Result : Type} {live : Multiset Handle} {globals : Globals}
    {post : Result → Multiset Handle → Globals → Prop} (direction : Direction)
    {next : Bool × Option Handle → Program Result}
    (hfailed : ∀ content failed, Spec (next (false, content)) (held content + live)
      { globals with failed } post)
    (hfilled : globals.failed = false → ∀ content,
      Spec (next (true, some content)) ({content} + live) globals post) :
    Spec (direction.contentInit >>= next) live globals post := by
  cases direction with
  | sender =>
    refine .bind (spec_gruAlloc (.readShared ?_) ?_)
    · have h := hfailed none true
      rw [held_none, zero_add] at h
      exact .release _ (zero_add _).symm (.pure h)
    · intro content
      refine .readShared ?_
      split
      · have h := hfailed none globals.failed
        rw [held_none, zero_add] at h
        exact .release live rfl (.pure h)
      next hsuccess =>
        exact .use rfl (by simp) (.pure (hfilled (by simpa using hsuccess) _))
  | receiver =>
    refine .bind (spec_gruAlloc (.readShared ?_) ?_)
    · have h := hfailed none true
      rw [held_none, zero_add] at h
      exact .pure h
    · intro content
      refine .readShared (.pure ?_)
      cases hfailure : globals.failed with
      | false => exact hfilled hfailure _
      | true =>
        have h := hfailed (some (.content, content)) globals.failed
        exact h

/-! ## The loops keep the discipline -/

/-- What a loop may have lost when it has handled so many messages. -/
def Direction.lost (losses : Losses) (count : ℕ) : Direction → Set (Multiset Kind)
  | sender => losses.send
  | receiver => {count • losses.receive}

/-- A turn loses what its message may cost; the globals stay. -/
def TurnPost (direction : Direction) (losses : Losses) (before : Multiset Handle)
    (pointers : Pointers) (count : ℕ) (result : ℕ × Bool) (live : Multiset Handle)
    (after : Globals) : Prop :=
  after.toPointers = pointers ∧ ∃ lost, live = lost + before ∧
    ∀ earlier ∈ direction.lost losses count, kinds lost + earlier ∈ direction.lost losses result.1

namespace TurnPost

variable {direction : Direction} {losses : Losses} {before live : Multiset Handle}
  {pointers : Pointers} {globals : Globals} {count now : ℕ} {more : Bool}

/-! The three ways in which a turn ends. -/

theorem goOn (h : TurnPost direction losses before pointers count (now, more) live globals) :
    Spec (pure (now, true)) live globals (TurnPost direction losses before pointers count) :=
  .pure h

theorem leave (h : TurnPost direction losses before pointers count (now, more) live globals) :
    Spec (breakLoop now) live globals (TurnPost direction losses before pointers count) :=
  .modifyShared (.pure h)

theorem write (h : TurnPost direction losses before pointers count (now, more) live globals)
    {queue : WorkerQueue} (hopened : queue.inside.Opened) (hqueue : queue.owned ≤ before) :
    Spec (workerQueueWrite queue >>= fun _ ↦ pure (now, true)) live globals
      (TurnPost direction losses before pointers count) := by
  refine spec_workerQueueWrite hopened ?_ (.pure h)
  obtain ⟨-, lost, hlive, -⟩ := h
  rw [hlive]
  exact hqueue.trans (Multiset.le_add_left _ _)

/-- A message that was sent, or not. -/
theorem sent {lost : Multiset Handle} (count now : ℕ) (hpointers : globals.toPointers = pointers)
    (hlive : live = lost + before) (hlost : kinds lost ∈ losses.send) :
    TurnPost .sender losses before pointers count (now, true) live globals :=
  ⟨hpointers, lost, hlive, fun _ hearlier ↦ add_mem hlost hearlier⟩

/-- A message that was received. -/
theorem received {lost : Multiset Handle} (count : ℕ) (hpointers : globals.toPointers = pointers)
    (hlive : live = lost + before) (hlost : kinds lost = losses.receive) :
    TurnPost .receiver losses before pointers count (count + 1, true) live globals := by
  refine ⟨hpointers, lost, hlive, ?_⟩
  rintro _ rfl
  rw [hlost]
  exact (succ_nsmul' losses.receive count).symm

/-- A turn without a message. -/
theorem nothing {lost : Multiset Handle} (hpointers : globals.toPointers = pointers)
    (hlive : live = lost + before) (hlost : kinds lost = 0) :
    TurnPost direction losses before pointers count (count, true) live globals := by
  refine ⟨hpointers, lost, hlive, ?_⟩
  intro earlier hearlier
  rwa [hlost, zero_add]

end TurnPost

/-- A turn uses what is live. -/
def TurnSound (direction : Direction) (turn : Turn) : Prop :=
  ∀ {vmsl : Vmsl} {losses : Losses} (protocol : Protocol vmsl losses) {ctxt : Context}
    {queue : WorkerQueue} {content : Handle} {frame : Multiset Handle} {globals : Globals}
    (count : ℕ), ctxt.handlers ∈ frame → content ∈ frame → queue.owned ≤ frame →
    queue.inside.Opened → protocol.Ready ctxt globals.toPointers →
    Spec (turn vmsl ctxt queue (some content) count)
      (protocol.owned ctxt globals.toPointers + frame) globals
      (TurnPost direction losses (protocol.owned ctxt globals.toPointers + frame)
        globals.toPointers count)

theorem naiveSenderTurn_sound : TurnSound .sender naiveSenderTurn := by
  intro vmsl losses protocol ctxt queue content frame globals count hhandlers hcontent hqueue
    hopened hready
  have hqueue := hqueue.trans (Multiset.le_add_left frame (protocol.owned ctxt globals.toPointers))
  refine .call (protocol.send_spec hhandlers hcontent hready) ?_
  rintro ok live after ⟨hpointers, lost, hlive, hlost⟩
  split
  · have hsent := TurnPost.sent count (count + 1) hpointers hlive hlost
    exact .branch (.branch (hsent.write hopened hqueue) hsent.leave) hsent.goOn
  · exact (TurnPost.sent count count hpointers hlive hlost).leave

theorem rateSenderTurn_sound : TurnSound .sender rateSenderTurn := by
  intro vmsl losses protocol ctxt queue content frame globals count hhandlers hcontent hqueue
    hopened hready
  have hqueue := hqueue.trans (Multiset.le_add_left frame (protocol.owned ctxt globals.toPointers))
  refine .call (protocol.send_spec hhandlers hcontent hready) ?_
  rintro ok live after ⟨hpointers, lost, hlive, hlost⟩
  split
  · exact (TurnPost.sent count (count + 1) hpointers hlive hlost).write hopened hqueue
  · exact (TurnPost.sent count count hpointers hlive hlost).leave

theorem naiveReceiverTurn_sound : TurnSound .receiver naiveReceiverTurn := by
  intro vmsl losses protocol ctxt queue content frame globals count hhandlers hcontent hqueue
    hopened hready
  have hqueue := hqueue.trans (Multiset.le_add_left frame (protocol.owned ctxt globals.toPointers))
  refine .call (protocol.receive_spec hhandlers hcontent hready) ?_
  rintro received live after ⟨hpointers, lost, hlive, hlost⟩
  cases received with
  | noTimestamp => exact (TurnPost.nothing hpointers hlive hlost).goOn
  | error => exact (TurnPost.nothing hpointers hlive hlost).leave
  | noData => exact (TurnPost.nothing hpointers hlive hlost).goOn
  | data =>
    have hreceived := TurnPost.received count hpointers hlive hlost
    exact .branch (.branch (.branch (hreceived.write hopened hqueue) hreceived.leave)
      hreceived.goOn) hreceived.leave

theorem rateReceiverTurn_sound : TurnSound .receiver rateReceiverTurn := by
  intro vmsl losses protocol ctxt queue content frame globals count hhandlers hcontent hqueue
    hopened hready
  have hqueue := hqueue.trans (Multiset.le_add_left frame (protocol.owned ctxt globals.toPointers))
  refine .call (protocol.receive_spec hhandlers hcontent hready) ?_
  rintro received live after ⟨hpointers, lost, hlive, hlost⟩
  cases received with
  | noTimestamp => exact (TurnPost.nothing hpointers hlive hlost).goOn
  | error => exact (TurnPost.nothing hpointers hlive hlost).leave
  | noData => exact (TurnPost.nothing hpointers hlive hlost).goOn
  | data => exact (TurnPost.received count hpointers hlive hlost).write hopened hqueue

/-! ## Sessions -/

/-- What a session leaves behind. -/
def SessionPost (direction : Direction) (posix : Bool) (losses : Losses) (frame : Multiset Handle) :
    SessionResult → Multiset Handle → Prop
  | .failure, live => ∃ lost, live = lost + frame ∧ kinds lost ∈ losses.init ∪ queueLosses posix
  | .success count, live => ∃ lost, live = lost + frame ∧ kinds lost ∈ direction.lost losses count

section

variable {direction : Direction} {turn : Turn} {vmsl : Vmsl} {losses : Losses}
  {ctxt : Context} {id handlers : Handle} {live frame : Multiset Handle} {globals : Globals}
  {posix : Bool}

theorem errExit_spec (protocol : Protocol vmsl losses) {content : Option Handle}
    (lost : Multiset Handle) (hlost : kinds lost ∈ queueLosses posix)
    (hlive : live = protocol.owned ctxt globals.toPointers + (held content + ({id} + ({handlers} +
      (lost + frame))))) :
    Spec (errExit vmsl (some ctxt) content id handlers) live globals
      fun result live _ ↦ SessionPost direction posix losses frame result live := by
  subst hlive
  refine .release (protocol.owned ctxt globals.toPointers + ({id} + ({handlers} + (lost + frame))))
    (by abel) ?_
  refine .call protocol.destroy_spec ?_
  rintro - _ after rfl
  exact .release _ rfl (.release _ rfl (.pure ⟨lost, rfl, .inr hlost⟩))

/-- The loop: every turn sees what was live before it, and more that has been lost. -/
theorem repeatWhile_spec (protocol : Protocol vmsl losses) (hturn : TurnSound direction turn)
    {queue : WorkerQueue} {content : Handle} (rounds : ℕ) (hhandlers : ctxt.handlers ∈ frame)
    (hcontent : content ∈ frame) (hqueue : queue.owned ≤ frame) (hopened : queue.inside.Opened)
    (hready : protocol.Ready ctxt globals.toPointers) :
    Spec (repeatWhile (turn vmsl ctxt queue (some content)) rounds 0)
      (protocol.owned ctxt globals.toPointers + frame) globals fun count live after ↦
        after.toPointers = globals.toPointers ∧
        ∃ lost, live = lost + (protocol.owned ctxt globals.toPointers + frame) ∧
          kinds lost ∈ direction.lost losses count := by
  refine .repeatWhile _ ?_ rounds ⟨rfl, 0, (zero_add _).symm, ?_⟩
  · rintro count _ after ⟨hpointers, lost, rfl, hlost⟩
    -- what was lost before is part of the frame of this turn
    have hframe : lost + (protocol.owned ctxt globals.toPointers + frame) =
        protocol.owned ctxt after.toPointers + (lost + frame) := by
      rw [hpointers]
      abel
    rw [hframe]
    refine (hturn protocol count (Multiset.mem_add.mpr (.inr hhandlers))
      (Multiset.mem_add.mpr (.inr hcontent)) (hqueue.trans (Multiset.le_add_left _ _)) hopened
      (hpointers ▸ hready)).mono ?_
    rintro result live last ⟨hlast, more, hlive, hmore⟩
    refine ⟨hlast.trans hpointers, more + lost, ?_, ?_⟩
    · rw [hlive, hpointers]
      abel
    · rw [kinds_add]
      exact hmore _ hlost
  · cases direction with
    | sender => exact zero_mem losses.send
    | receiver => exact (zero_nsmul losses.receive).symm

theorem runLoop_spec (protocol : Protocol vmsl losses) (hturn : TurnSound direction turn)
    {queue : WorkerQueue} {content : Handle} (rounds : ℕ) (hhandlers : ctxt.handlers = handlers)
    (hopened : queue.inside.Opened) (hready : protocol.Ready ctxt globals.toPointers) :
    Spec (runLoop turn vmsl ctxt queue (some content) id handlers rounds)
      (protocol.owned ctxt globals.toPointers +
        ({content} + (queue.owned + ({id} + ({handlers} + frame))))) globals
      fun result live _ ↦ SessionPost direction posix losses frame result live := by
  have hqueue : queue.owned ≤ {content} + (queue.owned + ({id} + ({handlers} + frame))) :=
    (Multiset.le_add_right _ _).trans (Multiset.le_add_left _ _)
  refine .call (repeatWhile_spec protocol hturn rounds (by simp [hhandlers]) (by simp) hqueue
    hopened hready) ?_
  rintro count _ after ⟨hpointers, lost, rfl, hlost⟩
  have hframe : lost + (protocol.owned ctxt globals.toPointers +
      ({content} + (queue.owned + ({id} + ({handlers} + frame))))) =
      protocol.owned ctxt after.toPointers +
        (queue.owned + ({content} + ({id} + ({handlers} + (lost + frame))))) := by
    rw [hpointers]
    abel
  rw [hframe]
  refine .call (protocol.stop_spec (hpointers ▸ hready)) ?_
  rintro - _ last ⟨hlast, rfl⟩
  rw [← hlast]
  refine .call protocol.destroy_spec ?_
  rintro - _ _ rfl
  refine spec_workerQueueDestroy _ rfl (.release _ rfl (.release _ rfl (.release _ rfl ?_)))
  exact .pure ⟨lost, rfl, hlost⟩

variable (globals) in
theorem fillAndRun_spec (protocol : Protocol vmsl losses) (hturn : TurnSound direction turn)
    {queue : WorkerQueue} (rounds : ℕ) (hhandlers : ctxt.handlers = handlers)
    (hready : protocol.Ready ctxt globals.toPointers) {lost : Multiset Handle}
    (hlost : kinds lost ∈ queueLosses posix)
    (hopened : globals.failed = false → queue.inside.Opened ∧ lost = 0) :
    Spec (fillAndRun direction turn vmsl ctxt queue id handlers rounds)
      (protocol.owned ctxt globals.toPointers +
        (queue.owned + ({id} + ({handlers} + (lost + frame))))) globals
      fun result live _ ↦ SessionPost direction posix losses frame result live := by
  refine direction.spec_contentInit ?_ ?_
  · intro content failed
    refine spec_workerQueueDestroy (protocol.owned ctxt globals.toPointers +
      (held content + ({id} + ({handlers} + (lost + frame))))) (by abel) ?_
    exact errExit_spec protocol lost hlost rfl
  · intro hsuccess content
    obtain ⟨hinside, rfl⟩ := hopened hsuccess
    have hlive : {content} + (protocol.owned ctxt globals.toPointers +
        (queue.owned + ({id} + ({handlers} + (0 + frame))))) =
        protocol.owned ctxt globals.toPointers +
          ({content} + (queue.owned + ({id} + ({handlers} + frame)))) := by
      rw [zero_add]
      abel
    rw [hlive]
    exact runLoop_spec protocol hturn rounds hhandlers hinside hready

theorem Direction.subscribe_spec (direction : Direction) (protocol : Protocol vmsl losses)
    (hready : protocol.Ready ctxt globals.toPointers) :
    Spec (direction.subscribe vmsl ctxt) (protocol.owned ctxt globals.toPointers + frame) globals
      fun _ live after ↦ after.toPointers = globals.toPointers ∧
        live = protocol.owned ctxt globals.toPointers + frame := by
  cases direction with
  | sender => exact .pure ⟨rfl, rfl⟩
  | receiver => exact protocol.subscribe_spec hready

theorem subscribeAndRun_spec (protocol : Protocol vmsl losses) (hturn : TurnSound direction turn)
    (rounds : ℕ) (hhandlers : ctxt.handlers = handlers)
    (hready : protocol.Ready ctxt globals.toPointers) :
    Spec (subscribeAndRun direction turn vmsl posix ctxt id handlers rounds)
      (protocol.owned ctxt globals.toPointers + ({id} + ({handlers} + frame))) globals
      fun result live _ ↦ SessionPost direction posix losses frame result live := by
  refine .call (direction.subscribe_spec protocol hready) ?_
  rintro subscribed _ after ⟨hpointers, rfl⟩
  rw [← hpointers] at hready ⊢
  have hnothing := zero_mem_queueLosses posix
  -- the queue is live beside the rest of the session
  have hqueue (queue : WorkerQueue) (lost : Multiset Handle) :
      queue.owned + (lost + (protocol.owned ctxt after.toPointers +
        ({id} + ({handlers} + frame)))) =
      protocol.owned ctxt after.toPointers +
        (queue.owned + ({id} + ({handlers} + (lost + frame)))) := by
    abel
  split
  · refine spec_workerCreateQueue ?_ ?_ ?_
    · exact errExit_spec protocol 0 hnothing (by simp)
    · intro queue hopened
      have hlive := hqueue queue 0
      rw [zero_add] at hlive
      rw [hlive]
      exact fillAndRun_spec after protocol hturn rounds hhandlers hready hnothing
        fun _ ↦ ⟨hopened, rfl⟩
    · intro queue lost hlost
      rw [hqueue]
      exact fillAndRun_spec { after with failed := true } protocol hturn rounds hhandlers hready
        hlost nofun
  · exact errExit_spec protocol 0 hnothing (by simp)

/-- Whatever fails, a session does not fault, and it leaves what `SessionPost` says. -/
theorem workerStart_spec (protocol : Protocol vmsl losses) (hturn : TurnSound direction turn)
    (posix : Bool) (rounds : ℕ) (hclear : globals.toPointers = ⟨none, none⟩) :
    Spec (workerStart direction turn vmsl posix rounds) frame globals
      fun result live _ ↦ SessionPost direction posix losses frame result live := by
  refine .create fun id ↦ .create fun handlers ↦ ?_
  rw [add_left_comm]
  refine .call (protocol.init_spec (by simp) hclear) ?_
  rintro (_ | ctxt) live after hinit
  · -- without a context only the id and the handlers are given back
    obtain ⟨lost, rfl, hlost⟩ := hinit
    refine .release _ (zero_add _).symm ?_
    refine .release (lost + ({(.handlers, handlers)} + frame)) (by simp only [held_some]; abel) ?_
    refine .release (lost + frame) (by simp only [held_some]; abel) ?_
    exact .pure ⟨lost, rfl, .inl hlost⟩
  · obtain ⟨hhandlers, hinitialized, rfl⟩ := hinit
    refine .call (protocol.start_spec (by simp [hhandlers]) hinitialized) ?_
    rintro ⟨started, ctxt'⟩ live last ⟨hsame, rfl, hready⟩
    cases started with
    | false => exact errExit_spec protocol 0 (zero_mem_queueLosses posix) (by simp)
    | true => exact subscribeAndRun_spec protocol hturn rounds (hsame.trans hhandlers) (hready rfl)

end

/-! ## The workers and the protocols of the tool -/

inductive SessionProtocol where
  | amqp | mqtt | stomp
  deriving DecidableEq, Repr

namespace SessionProtocol

def vmsl : SessionProtocol → Vmsl
  | amqp => protonVmsl
  | mqtt => pahoVmsl
  | stomp => litestompVmsl

def losses : SessionProtocol → Losses
  | amqp => protonLosses
  | mqtt => pahoLosses
  | stomp => litestompLosses

def discipline : (protocol : SessionProtocol) → Protocol protocol.vmsl protocol.losses
  | amqp => protonProtocol
  | mqtt => pahoProtocol
  | stomp => litestompProtocol

end SessionProtocol

inductive SessionWorker where
  | naiveSender | rateSender | naiveReceiver | rateReceiver
  deriving DecidableEq, Repr

namespace SessionWorker

def start : SessionWorker → Vmsl → Bool → ℕ → Program SessionResult
  | naiveSender => naiveSenderStart
  | rateSender => rateSenderStart
  | naiveReceiver => naiveReceiverStart
  | rateReceiver => rateReceiverStart

def direction : SessionWorker → Direction
  | naiveSender | rateSender => .sender
  | naiveReceiver | rateReceiver => .receiver

end SessionWorker

/-- The beginning of a process. -/
def freshStore (outcomes : ℕ → Bool) : HandleStore Kind Globals where
  live := 0
  next := 0
  outcomes := outcomes
  shared := ⟨⟨none, none⟩, false⟩
  nodup := Multiset.nodup_zero
  below _ hhandle := absurd hhandle (Multiset.notMem_zero _)

end MsgPerf.Worker.Session
