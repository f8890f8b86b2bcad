import MsgPerf.Worker.StopWorkers

/-!
# The mutex of the worker list

Every function that uses the list takes the mutex on its own, so each of them has to release it on
every return.  A pass of the watchdog that finds a running child and a handler without one of the
functions whose flags are set returns with the mutex held, and every call after it waits for ever.
-/

namespace MsgPerf.Worker

/-! ## The returns of a pass -/

/-- Only a handler that is not complete stops the pass with the mutex held, whatever the worker
is. -/
theorem WorkerHandler.apply_missing_iff (handler : WorkerHandler) (info : WorkerInfo) :
    (∃ message, handler.apply info = .missing message) ↔ ¬ handler.Complete := by
  unfold WorkerHandler.apply WorkerHandler.Complete
  by_cases hprint : handler.handlePrint = true ∧ handler.print = none
  · rw [if_pos hprint]
    simp [hprint.1, hprint.2]
  · have hpresent : handler.handlePrint = true → ¬ handler.print = none :=
      fun hflag hnone ↦ hprint ⟨hflag, hnone⟩
    rw [if_neg hprint]
    by_cases heval : handler.handleEval = true
    · rw [if_pos heval]
      cases hgiven : handler.eval with
      | none => simp [heval]
      | some eval => cases hresult : eval info <;> simpa [hresult] using hpresent
    · rw [if_neg heval]
      simpa [heval] using hpresent

/-- The abstract pass releases the mutex exactly when the handler is complete or is not asked. -/
theorem workerManagerWatchdog_released_iff (handler : WorkerHandler) (visit : ℕ → Visit)
    (workers : List WorkerInfo) (errors : ℕ) (status : Status) :
    (workerManagerWatchdog handler visit workers errors status).locked = false ↔
      handler.Complete ∨ ∀ index < workers.length, (visit index).wait ≠ .running := by
  induction workers generalizing visit errors with
  | nil => simp [workerManagerWatchdog]
  | cons node rest ih =>
    have hrest := ih fun index ↦ visit (index + 1)
    have hindices : (∀ index < (node :: rest).length, (visit index).wait ≠ .running) ↔
        (visit 0).wait ≠ .running ∧
          ∀ index < rest.length, (visit (index + 1)).wait ≠ .running := by
      rw [List.length_cons]
      exact Nat.forall_lt_succ_left
    rw [hindices]
    by_cases hwait : (visit 0).wait = .running
    · have hmissing := handler.apply_missing_iff (workerManagerUpdateSnapshot node (visit 0).batch)
      simp only [hwait, ne_eq, not_true, false_and, or_false]
      rw [workerManagerWatchdog]
      simp only [hwait]
      cases happly : handler.apply (workerManagerUpdateSnapshot node (visit 0).batch) with
      | proceed =>
        have hcomplete : handler.Complete := by simpa [happly] using hmissing
        simpa [hcomplete, PassResult.after] using hrest errors
      | missing message =>
        have hincomplete : ¬ handler.Complete := by simpa [happly] using hmissing
        simp [hincomplete]
      | failed message =>
        have hcomplete : handler.Complete := by simpa [happly] using hmissing
        simp [hcomplete]
    · rw [workerManagerWatchdog_cons_ended _ _ _ _ _ _ hwait, PassResult.after, hrest]
      simp [hwait]

namespace WorkerList

variable {gru : GruFunctions} {state : ListState} {slots : List Slot} {fuel : ℕ}

/-- The call returns, with the mutex released. -/
def Releases (result : Except Fault ListState) : Prop :=
  ∃ next, result = .ok next ∧ next.held = false

/-- Each of the functions that take the mutex releases it. -/
structure ReleasesMutex (gru : GruFunctions) (handler : WorkerHandler) (fuel : ℕ)
    (visit : ℕ → Visit) (signal : ℕ) (answers : ℕ → StopAnswer) (winfo : ℕ) (state : ListState) :
    Prop where
  watchdog : Releases ((watchdog gru handler fuel visit state).map Prod.snd)
  doStop : Releases ((doStop gru signal fuel answers state).map Prod.snd)
  append : Releases ((append gru winfo state).map Prod.snd)
  count : Releases ((count gru state).map Prod.snd)
  clean : Releases (clean gru state)

theorem watchdog_releases_iff (hgru : UnlinksNode gru) (handler : WorkerHandler)
    (visit : ℕ → Visit) (h : Registered state slots) (hfuel : slots.length < fuel)
    (hheld : state.held = false) :
    Releases ((watchdog gru handler fuel visit state).map Prod.snd) ↔
      handler.Complete ∨ ∀ index < slots.length, (visit index).wait ≠ .running := by
  obtain ⟨next, hpass, hleaves⟩ := watchdog_refines hgru handler visit h hfuel hheld
  have hnext : Releases ((watchdog gru handler fuel visit state).map Prod.snd) ↔
      next.held = false := by
    rw [hpass, Releases, Except.map]
    simp
  rw [hnext, hleaves.held, workerManagerWatchdog_released_iff, List.length_map]

theorem append_releases (gru : GruFunctions) (winfo : ℕ) (hheld : state.held = false) :
    Releases ((append gru winfo state).map Prod.snd) := by
  rw [append, ListState.lock_eq hheld]
  simp only [bind, Except.bind]
  split
  · exact ⟨_, rfl, rfl⟩
  · split
    · exact ⟨_, rfl, rfl⟩
    · exact ⟨_, rfl, rfl⟩

theorem count_releases (gru : GruFunctions) (hheld : state.held = false) :
    Releases ((count gru state).map Prod.snd) := by
  rw [count, ListState.lock_eq hheld]
  exact ⟨_, rfl, rfl⟩

/-- No function that takes the mutex returns while it is held. -/
theorem deadlock_of_held (gru : GruFunctions) (handler : WorkerHandler) (fuel : ℕ)
    (visit : ℕ → Visit) (signal : ℕ) (answers : ℕ → StopAnswer) (winfo : ℕ)
    (hheld : state.held = true) :
    watchdog gru handler fuel visit state = .error .deadlock ∧
      doStop gru signal fuel answers state = .error .deadlock ∧
      append gru winfo state = .error .deadlock ∧ count gru state = .error .deadlock ∧
      clean gru state = .error .deadlock := by
  have hlock : state.lock = .error .deadlock := if_pos hheld
  simp only [watchdog, doStop, append, count, clean, hlock]
  exact ⟨rfl, rfl, rfl, rfl, rfl⟩

end WorkerList

end MsgPerf.Worker
