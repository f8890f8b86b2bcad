import MsgPerf.Worker.WorkerList

/-!
# A pass of the watchdog over the list in memory

`worker_manager_watchdog` walks the nodes of the list and frees the nodes and workers of the
children that have ended while it walks.  The pass over the memory refines the pass over the list of
the workers: it reads through valid pointers only, ends after as many visits as there are workers,
and leaves the list, the counter, the status, the mutex and the visits that the abstract pass
leaves.
-/

namespace MsgPerf.Worker

/-! ## The abstract pass -/

/-- The functions whose flags are set are given. -/
def WorkerHandler.Complete (handler : WorkerHandler) : Prop :=
  (handler.handlePrint = true → handler.print ≠ none) ∧
    (handler.handleEval = true → handler.eval ≠ none)

/-- One visit for each worker, in the order of the list. -/
def passRecords (visit : ℕ → Visit) (workers : List WorkerInfo) : List VisitRecord :=
  workers.mapIdx fun index node ↦ ⟨node, (visit index).batch, (visit index).wait⟩

/-- The workers of the visits that found their child running. -/
def runningWorkers (records : List VisitRecord) : List WorkerInfo :=
  (records.filter fun record ↦ record.wait = .running).map VisitRecord.info

theorem passRecords_cons (visit : ℕ → Visit) (node : WorkerInfo) (rest : List WorkerInfo) :
    passRecords visit (node :: rest) =
      ⟨node, (visit 0).batch, (visit 0).wait⟩ ::
        passRecords (fun index ↦ visit (index + 1)) rest :=
  List.mapIdx_cons

theorem workerManagerWatchdog_cons_ended (handler : WorkerHandler) (visit : ℕ → Visit)
    (node : WorkerInfo) (rest : List WorkerInfo) (errors : ℕ) (status : Status)
    (hwait : (visit 0).wait ≠ .running) :
    workerManagerWatchdog handler visit (node :: rest) errors status =
      (workerManagerWatchdog handler (fun index ↦ visit (index + 1)) rest
        (errors + if (visit 0).wait.isError then 1 else 0) status).after
          ⟨node, (visit 0).batch, (visit 0).wait⟩ [] := by
  rw [workerManagerWatchdog]
  cases hfound : (visit 0).wait with
  | running => exact absurd hfound hwait
  | exited _ | error => simp [WaitResult.isError]
  | signaled signal | stopped signal =>
    by_cases hsignal : signal = sigint <;> simp [WaitResult.isError, hsignal]

/-- A pass that no visit ends early. -/
theorem workerManagerWatchdog_of_proceeds (handler : WorkerHandler) (visit : ℕ → Visit)
    (workers : List WorkerInfo) (errors : ℕ) (status : Status)
    (h : ∀ record ∈ passRecords visit workers, ¬ record.FailsEval handler) :
    workerManagerWatchdog handler visit workers errors status =
      ⟨true, runningWorkers (passRecords visit workers),
        errors + (passRecords visit workers).countP fun record ↦ record.wait.isError,
        status, false, passRecords visit workers⟩ := by
  induction workers generalizing visit errors with
  | nil => rfl
  | cons node rest ih =>
    rw [passRecords_cons] at h ⊢
    rw [List.forall_mem_cons] at h
    have hrest := fun errors ↦ ih (fun index ↦ visit (index + 1)) errors h.2
    by_cases hwait : (visit 0).wait = .running
    · have happly :
          handler.apply (workerManagerUpdateSnapshot node (visit 0).batch) = .proceed := by
        by_contra hfails
        exact h.1 ⟨hwait, hfails⟩
      rw [workerManagerWatchdog]
      simp only [hwait, happly, hrest]
      simp [PassResult.after, runningWorkers, WaitResult.isError, VisitRecord.info]
    · rw [workerManagerWatchdog_cons_ended _ _ _ _ _ _ hwait, hrest]
      simp only [PassResult.after, runningWorkers, List.countP_cons, List.filter_cons, hwait,
        decide_false, if_neg Bool.false_ne_true, List.nil_append, Nat.add_assoc, Nat.add_comm]

namespace WorkerList

open MsgPerf.Library.LinkedList

/-- The queue of the worker behind `pointer` has been read. -/
def visited (pointer : ℕ) (node : WorkerInfo) (visit : Visit) (state : ListState) : ListState :=
  { state.setInfo pointer (workerManagerUpdateSnapshot node visit.batch) with
    log := state.log ++ [⟨node, visit.batch, visit.wait⟩] }

/-- The error counter after the end of a child. -/
def countEnd (wait : WaitResult) (state : ListState) : ListState :=
  match wait with
  | .signaled signal | .stopped signal =>
      if signal ≠ sigint then { state with errors := state.errors + 1 } else state
  | _ => state

variable (gru : GruFunctions) (handler : WorkerHandler)

/-- The loop of `worker_manager_watchdog`, with the number of visits it may make at most. -/
def watchdogLoop : ℕ → (ℕ → Visit) → Option ℕ → ListState → Except Fault (Bool × ListState)
  | 0, _, _, _ => .error .endless
  | _ + 1, _, none, state => do return (true, ← state.unlock)
  | fuel + 1, visit, some address, state => do
      let cell ← state.node address
      let node ← state.info cell.data
      let state := visited cell.data node (visit 0) state
      match (visit 0).wait with
      | .running =>
          match handler.apply (workerManagerUpdateSnapshot node (visit 0).batch) with
          | .proceed => watchdogLoop fuel (fun index ↦ visit (index + 1)) cell.next state
          -- The mutex stays locked on this return.
          | .missing message => return (false, { state with status := .failure message })
          | .failed message => return (false, ← { state with status := .failure message }.unlock)
      | wait =>
          let (next, state) ← removeUnlocked gru address (countEnd wait state)
          let state ← infoDestroy cell.data state
          watchdogLoop fuel (fun index ↦ visit (index + 1)) next state

/-- `worker_manager_watchdog`. -/
def watchdog (fuel : ℕ) (visit : ℕ → Visit) (state : ListState) :
    Except Fault (Bool × ListState) := do
  let state ← state.lock
  watchdogLoop gru handler fuel visit (root state) state

variable {gru handler} {visit : ℕ → Visit} {state : ListState} {before after : List Slot}
  {slot : Slot}

/-! ## One visit -/

/-- The worker after its queue has been read. -/
def Slot.drained (slot : Slot) (visit : Visit) : Slot :=
  { slot with info := workerManagerUpdateSnapshot slot.info visit.batch }

theorem Registered.visited (h : Registered state (before ++ slot :: after)) (found : Visit) :
    Registered (visited slot.pointer slot.info found state)
      (before ++ slot.drained found :: after) :=
  let hset := h.setInfo (workerManagerUpdateSnapshot slot.info found.batch)
  ⟨hset.chain, hset.infos, hset.distinct⟩

theorem countEnd_eq (wait : WaitResult) (state : ListState) :
    countEnd wait state =
      { state with errors := state.errors + if wait.isError then 1 else 0 } := by
  have hsame : state = { state with errors := state.errors + 0 } := by
    rw [UInt32.add_zero]
  cases wait with
  | signaled signal | stopped signal =>
    by_cases hsignal : signal = sigint
    · simp [countEnd, WaitResult.isError, hsignal]
    · simp [countEnd, WaitResult.isError, hsignal]
  | running | exited _ | error => exact hsame

theorem watchdogLoop_node (h : Registered state (before ++ slot :: after)) (fuel : ℕ) :
    watchdogLoop gru handler (fuel + 1) visit (some slot.node) state =
      (let state := WorkerList.visited slot.pointer slot.info (visit 0) state
      match (visit 0).wait with
      | .running =>
          match handler.apply (slot.drained (visit 0)).info with
          | .proceed =>
              watchdogLoop gru handler fuel (fun index ↦ visit (index + 1)) (firstNode after) state
          | .missing message => .ok (false, { state with status := .failure message })
          | .failed message => do return (false, ← { state with status := .failure message }.unlock)
      | wait => do
          let (next, state) ← removeUnlocked gru slot.node (countEnd wait state)
          let state ← infoDestroy slot.pointer state
          watchdogLoop gru handler fuel (fun index ↦ visit (index + 1)) next state) := by
  rw [watchdogLoop, h.node_eq]
  simp only [bind, Except.bind, h.info_eq]
  rfl

/-- A child that has ended is taken out of the list, and its node and worker are freed. -/
theorem watchdogLoop_ended (handler : WorkerHandler) (hgru : UnlinksNode gru)
    (h : Registered state (before ++ slot :: after)) (hwait : (visit 0).wait ≠ .running)
    (fuel : ℕ) :
    ∃ next : ListState, watchdogLoop gru handler (fuel + 1) visit (some slot.node) state =
        watchdogLoop gru handler fuel (fun index ↦ visit (index + 1)) (firstNode after) next ∧
      Registered next (before ++ after) ∧ next.held = state.held ∧
      next.errors = state.errors + (if (visit 0).wait.isError then 1 else 0) ∧
      next.status = state.status ∧
      next.log = state.log ++ [⟨slot.info, (visit 0).batch, (visit 0).wait⟩] := by
  have hvisited : Registered (countEnd (visit 0).wait
      (WorkerList.visited slot.pointer slot.info (visit 0) state))
      (before ++ slot.drained (visit 0) :: after) := by
    rw [countEnd_eq]
    exact ⟨(h.visited _).chain, (h.visited _).infos, (h.visited _).distinct⟩
  obtain ⟨gwlist, nodes, hremove, hdestroy, hregistered⟩ := hvisited.remove hgru
  refine ⟨_, ?_, hregistered, ?_⟩
  · rw [watchdogLoop_node h]
    cases hfound : (visit 0).wait with
    | running => exact absurd hfound hwait
    | exited _ | signaled _ | stopped _ | error =>
      rw [hfound] at hremove hdestroy
      change Except.bind (removeUnlocked gru (slot.drained (visit 0)).node _) _ = _
      rw [hremove]
      change Except.bind (infoDestroy (slot.drained (visit 0)).pointer _) _ = _
      rw [hdestroy]
      rfl
  · rw [countEnd_eq]
    exact ⟨rfl, rfl, rfl, rfl⟩

/-! ## The whole pass -/

/-- The memory is what the abstract pass over `slots` leaves, behind the workers that were passed
before. -/
structure Leaves (log : List VisitRecord) (before slots : List Slot) (result : PassResult)
    (state : ListState) : Prop where
  held : state.held = result.locked
  errors : state.errors = UInt32.ofNat result.errors
  status : state.status = result.status
  log : state.log = log ++ result.log
  listed : ∃ kept, Registered state (before ++ kept) ∧ kept.map Slot.info = result.list ∧
    (kept.map Slot.entry).Sublist (slots.map Slot.entry)

/-- The worker stays in the list. -/
theorem Leaves.keep {log : List VisitRecord} {slots : List Slot} {result : PassResult}
    {found : Visit} {record : VisitRecord}
    (h : Leaves (log ++ [record]) (before ++ [slot.drained found]) slots result state) :
    Leaves log before (slot :: slots) (result.after record [(slot.drained found).info]) state where
  held := h.held
  errors := h.errors
  status := h.status
  log := by rw [h.log, List.append_assoc, List.singleton_append, PassResult.after]
  listed := by
    obtain ⟨kept, hregistered, hlist, hentries⟩ := h.listed
    refine ⟨slot.drained found :: kept, ?_, ?_, ?_⟩
    · rw [List.append_assoc, List.singleton_append] at hregistered
      exact hregistered
    · rw [List.map_cons, hlist]
      rfl
    · exact hentries.cons_cons slot.entry

/-- The worker is taken out of the list. -/
theorem Leaves.drop {log : List VisitRecord} {slots : List Slot} {result : PassResult}
    {record : VisitRecord} (h : Leaves (log ++ [record]) before slots result state) :
    Leaves log before (slot :: slots) (result.after record []) state where
  held := h.held
  errors := h.errors
  status := h.status
  log := by rw [h.log, List.append_assoc, List.singleton_append, PassResult.after]
  listed := by
    obtain ⟨kept, hregistered, hlist, hentries⟩ := h.listed
    exact ⟨kept, hregistered, hlist, hentries.cons _⟩

/-- The pass ends at the worker. -/
theorem Leaves.stop {slots : List Slot} {errors : ℕ}
    (h : Registered state (before ++ slot :: slots))
    (herrors : state.errors = UInt32.ofNat errors) (found : Visit) (message : String)
    (locked : Bool) :
    Leaves state.log before (slot :: slots)
      ⟨false, (slot.drained found).info :: slots.map Slot.info, errors, .failure message, locked,
        [⟨slot.info, found.batch, found.wait⟩]⟩
      { visited slot.pointer slot.info found state with
        held := locked, status := .failure message } where
  held := rfl
  errors := herrors
  status := rfl
  log := rfl
  listed := ⟨slot.drained found :: slots,
    ⟨(h.visited found).chain, (h.visited found).infos, (h.visited found).distinct⟩, rfl,
    List.Sublist.refl _⟩

/-- From any node of the list on, the loop does what the abstract pass does with the workers from
there on. -/
theorem watchdogLoop_refines (hgru : UnlinksNode gru) (handler : WorkerHandler)
    (visit : ℕ → Visit) {slots : List Slot} {fuel errors : ℕ}
    (h : Registered state (before ++ slots)) (hfuel : slots.length < fuel)
    (hheld : state.held = true) (herrors : state.errors = UInt32.ofNat errors) :
    let result := workerManagerWatchdog handler visit (slots.map Slot.info) errors state.status
    ∃ next, watchdogLoop gru handler fuel visit (firstNode slots) state = .ok (result.ok, next) ∧
      Leaves state.log before slots result next := by
  induction slots generalizing state before fuel errors visit with
  | nil =>
    obtain ⟨fuel, rfl⟩ := Nat.exists_eq_succ_of_ne_zero (Nat.ne_of_gt hfuel)
    refine ⟨{ state with held := false }, ?_, rfl, herrors, rfl, ?_, [], ?_, rfl,
      List.nil_sublist _⟩
    · simp only [firstNode, List.map_nil, first, List.head?_nil, Option.map_none, watchdogLoop,
        ListState.unlock_eq hheld]
      rfl
    · exact (List.append_nil _).symm
    · exact ⟨h.chain, h.infos, h.distinct⟩
  | cons slot rest ih =>
    obtain ⟨fuel, rfl⟩ := Nat.exists_eq_succ_of_ne_zero (Nat.ne_zero_of_lt hfuel)
    have hrest : rest.length < fuel := by
      rw [List.length_cons] at hfuel
      omega
    have hfirst : firstNode (slot :: rest) = some slot.node := rfl
    rw [hfirst, List.map_cons]
    by_cases hwait : (visit 0).wait = .running
    · have hvisited := h.visited (visit 0)
      have hheldVisited : (visited slot.pointer slot.info (visit 0) state).held = true := hheld
      rw [watchdogLoop_node h, workerManagerWatchdog]
      simp only [hwait]
      cases happly : handler.apply (workerManagerUpdateSnapshot slot.info (visit 0).batch) with
      | proceed =>
        have hdrained : handler.apply (slot.drained (visit 0)).info = .proceed := happly
        rw [← List.singleton_append, ← List.append_assoc] at hvisited
        obtain ⟨last, hlast, hleaves⟩ := ih (fun index ↦ visit (index + 1)) hvisited hrest hheld
          herrors
        refine ⟨last, ?_, ?_⟩
        · simp only [hdrained]
          exact hlast
        · rw [← hwait]
          exact hleaves.keep
      | missing message =>
        have hdrained : handler.apply (slot.drained (visit 0)).info = .missing message := happly
        refine ⟨_, ?_, hwait ▸ Leaves.stop h herrors (visit 0) message true⟩
        simp only [hdrained, ← hheldVisited]
      | failed message =>
        have hdrained : handler.apply (slot.drained (visit 0)).info = .failed message := happly
        refine ⟨_, ?_, hwait ▸ Leaves.stop h herrors (visit 0) message false⟩
        simp only [hdrained, ListState.unlock, hheldVisited, if_true]
        rfl
    · obtain ⟨next, hloop, hregistered, hnext, hcount, hstatus, hlog⟩ :=
        watchdogLoop_ended handler hgru h hwait fuel
      rw [workerManagerWatchdog_cons_ended _ _ _ _ _ _ hwait, hloop]
      have hcounted : next.errors =
          UInt32.ofNat (errors + if (visit 0).wait.isError then 1 else 0) := by
        rw [hcount, herrors, UInt32.ofNat_add]
        split <;> rfl
      obtain ⟨last, hlast, hleaves⟩ := ih (fun index ↦ visit (index + 1)) hregistered hrest
        (hnext.trans hheld) hcounted
      rw [hstatus, hlog] at hleaves
      rw [hstatus] at hlast
      exact ⟨last, hlast, hleaves.drop⟩

theorem watchdog_refines (hgru : UnlinksNode gru) (handler : WorkerHandler) (visit : ℕ → Visit)
    {slots : List Slot} {fuel : ℕ} (h : Registered state slots) (hfuel : slots.length < fuel)
    (hheld : state.held = false) :
    let result := workerManagerWatchdog handler visit (slots.map Slot.info) state.errors.toNat
      state.status
    ∃ next, watchdog gru handler fuel visit state = .ok (result.ok, next) ∧
      Leaves state.log [] slots result next := by
  have hlocked : Registered { state with held := true } ([] ++ slots) :=
    ⟨h.chain, h.infos, h.distinct⟩
  have hroot : root { state with held := true } = firstNode slots := hlocked.root_eq
  obtain ⟨next, hloop, hleaves⟩ := watchdogLoop_refines hgru handler visit hlocked hfuel rfl
    (UInt32.ofNat_toNat (x := state.errors)).symm
  refine ⟨next, ?_, hleaves⟩
  rw [watchdog, ListState.lock_eq hheld]
  change watchdogLoop gru handler fuel visit (root { state with held := true }) _ = _
  rw [hroot]
  exact hloop

/-! ## What a pass removes -/

/-- A pass that visits every worker once, in order, keeps those that are running with what was read
from their queues, and counts the others that were killed or stopped by a signal other than
`SIGINT`. -/
structure Sweeps (visit : ℕ → Visit) (slots : List Slot) (state next : ListState) : Prop where
  visits : next.log = state.log ++ passRecords visit (slots.map Slot.info)
  listed : ∃ kept, Registered next kept ∧
    kept.map Slot.info = runningWorkers (passRecords visit (slots.map Slot.info)) ∧
      (kept.map Slot.entry).Sublist (slots.map Slot.entry)
  counted : next.errors = state.errors + UInt32.ofNat
    ((passRecords visit (slots.map Slot.info)).countP fun record ↦ record.wait.isError)
  released : next.held = false

/-- The handler's functions are given and succeed on the workers that are found running. -/
def Succeeds (handler : WorkerHandler) (records : List VisitRecord) : Prop :=
  handler.Complete ∧ ∀ eval, handler.handleEval = true → handler.eval = some eval →
    ∀ record ∈ records, record.wait = .running → eval record.info = none

theorem Succeeds.not_failsEval {handler : WorkerHandler} {records : List VisitRecord}
    (h : Succeeds handler records) (record : VisitRecord) (hrecord : record ∈ records) :
    ¬ record.FailsEval handler := by
  rintro ⟨hwait, hfails⟩
  apply hfails
  have hprint : ¬ (handler.handlePrint = true ∧ handler.print = none) :=
    fun hmissing ↦ h.1.1 hmissing.1 hmissing.2
  rw [WorkerHandler.apply, if_neg hprint]
  by_cases heval : handler.handleEval = true
  · rw [if_pos heval]
    obtain ⟨eval, hgiven⟩ := Option.ne_none_iff_exists'.mp (h.1.2 heval)
    simp only [hgiven, h.2 eval heval hgiven record hrecord hwait]
  · rw [if_neg heval]

/-- Three workers in the list. -/
def threeSlots : List Slot :=
  [⟨1, 11, ⟨101, Snapshot.zero⟩⟩, ⟨2, 12, ⟨102, Snapshot.zero⟩⟩, ⟨3, 13, ⟨103, Snapshot.zero⟩⟩]

def threeWorkers : ListState where
  held := false
  gwlist := some ⟨some ⟨some 1⟩⟩
  nodes
    | 1 => some ⟨11, some 2⟩
    | 2 => some ⟨12, some 3⟩
    | 3 => some ⟨13, none⟩
    | _ => none
  infos
    | 11 => some ⟨101, Snapshot.zero⟩
    | 12 => some ⟨102, Snapshot.zero⟩
    | 13 => some ⟨103, Snapshot.zero⟩
    | _ => none
  errors := 0
  status := .new
  log := []
  events := []

theorem threeWorkers_registered : Registered threeWorkers threeSlots where
  chain := ⟨rfl, some 2, rfl, rfl, some 3, rfl, rfl, none, rfl, rfl⟩
  infos := by simp [threeSlots, threeWorkers]
  distinct := by decide

/-- The first two of them have ended. -/
def twoEnded : ℕ → Visit
  | 0 => ⟨[], .signaled 9⟩
  | 1 => ⟨[], .exited 0⟩
  | _ => ⟨[Snapshot.zero], .running⟩

end WorkerList

end MsgPerf.Worker
