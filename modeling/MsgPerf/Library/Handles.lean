import Mathlib.Data.Multiset.AddSub
import Mathlib.Tactic

/-!
# Programs over handles

A program creates handles of several kinds, uses them and releases them.  It faults when it uses or
releases a handle that is not live, or uses a null pointer; to release a null pointer is harmless.
What a call of the environment returns is taken from a stream of outcomes, so that a statement about
every store is one about every way in which the calls can end.

`Spec` is total correctness: a program does not fault, and the live handles and the shared state
that it leaves are described by the postcondition.  The rules follow the program text; live handles
are written as a sum in which each part is owned by somebody.
-/

namespace MsgPerf.Library

/-- Handles carry numbers that are never given twice. -/
structure HandleStore (Kind Shared : Type) where
  live : Multiset (Kind × ℕ)
  next : ℕ
  outcomes : ℕ → Bool
  shared : Shared
  nodup : live.Nodup
  below : ∀ handle ∈ live, handle.2 < next

abbrev HandleProgram (Kind Shared Value : Type) := StateT (HandleStore Kind Shared) Option Value

namespace HandleProgram

variable {Kind Shared Value Result : Type}

/-! ## Operations -/

/-- The outcome of the next call. -/
def choose : HandleProgram Kind Shared Bool := fun store ↦
  some (store.outcomes 0, { store with outcomes := fun i ↦ store.outcomes (i + 1) })

def create (kind : Kind) : HandleProgram Kind Shared (Kind × ℕ) := fun store ↦
  some ((kind, store.next), { store with
    live := {(kind, store.next)} + store.live
    next := store.next + 1
    nodup := by
      rw [Multiset.singleton_add, Multiset.nodup_cons]
      exact ⟨fun hmem ↦ (store.below _ hmem).false, store.nodup⟩
    below := by
      intro handle hhandle
      rw [Multiset.singleton_add, Multiset.mem_cons] at hhandle
      rcases hhandle with rfl | hhandle
      · exact Nat.lt_succ_self _
      · exact (store.below handle hhandle).trans (Nat.lt_succ_self _) })

/-- A call that creates a handle or returns the null pointer. -/
def acquire (kind : Kind) : HandleProgram Kind Shared (Option (Kind × ℕ)) := do
  if ← choose then some <$> create kind else pure none

def use [DecidableEq Kind] (held : Option (Kind × ℕ)) : HandleProgram Kind Shared Unit :=
  fun store ↦ match held with
  | none => none
  | some handle => if handle ∈ store.live then some ((), store) else none

def release [DecidableEq Kind] (held : Option (Kind × ℕ)) : HandleProgram Kind Shared Unit :=
  fun store ↦ match held with
  | none => some ((), store)
  | some handle =>
      if handle ∈ store.live then
        some ((), { store with
          live := store.live.erase handle
          nodup := store.nodup.erase handle
          below := fun other hother ↦ store.below other (Multiset.mem_of_mem_erase hother) })
      else none

def readShared : HandleProgram Kind Shared Shared := fun store ↦ some (store.shared, store)

def modifyShared (change : Shared → Shared) : HandleProgram Kind Shared Unit := fun store ↦
  some ((), { store with shared := change store.shared })

/-- At most so many turns, until one of them ends the loop. -/
def repeatWhile (turn : Value → HandleProgram Kind Shared (Value × Bool)) :
    ℕ → Value → HandleProgram Kind Shared Value
  | 0, value => pure value
  | turns + 1, value => do
      let (value, more) ← turn value
      if more then repeatWhile turn turns value else pure value

/-! ## Specifications -/

/-- From live handles and a shared state the program ends as the postcondition says. -/
def Spec (program : HandleProgram Kind Shared Value) (live : Multiset (Kind × ℕ)) (shared : Shared)
    (post : Value → Multiset (Kind × ℕ) → Shared → Prop) : Prop :=
  ∀ store : HandleStore Kind Shared, store.live = live → store.shared = shared →
    ∃ value after, program store = some (value, after) ∧ post value after.live after.shared

/-- What a variable holds. -/
def held : Option (Kind × ℕ) → Multiset (Kind × ℕ)
  | none => 0
  | some handle => {handle}

@[simp] theorem held_none : held (none : Option (Kind × ℕ)) = 0 := rfl

@[simp] theorem held_some (handle : Kind × ℕ) : held (some handle) = {handle} := rfl

namespace Spec

variable {program : HandleProgram Kind Shared Value} {live : Multiset (Kind × ℕ)}
  {shared : Shared} {handle : Kind × ℕ} {kind : Kind}

theorem mono {post weaker : Value → Multiset (Kind × ℕ) → Shared → Prop}
    (h : Spec program live shared post)
    (himp : ∀ value live shared, post value live shared → weaker value live shared) :
    Spec program live shared weaker := by
  intro store hlive hshared
  obtain ⟨value, after, hrun, hpost⟩ := h store hlive hshared
  exact ⟨value, after, hrun, himp _ _ _ hpost⟩

theorem pure {value : Value} {post : Value → Multiset (Kind × ℕ) → Shared → Prop}
    (h : post value live shared) : Spec (Pure.pure value) live shared post := by
  rintro store rfl rfl
  exact ⟨value, store, rfl, h⟩

theorem bind {next : Value → HandleProgram Kind Shared Result}
    {post : Result → Multiset (Kind × ℕ) → Shared → Prop}
    (h : Spec program live shared fun value live shared ↦ Spec (next value) live shared post) :
    Spec (program >>= next) live shared post := by
  intro store hlive hshared
  obtain ⟨value, after, hrun, hnext⟩ := h store hlive hshared
  obtain ⟨result, last, hresult, hpost⟩ := hnext after rfl rfl
  refine ⟨result, last, ?_, hpost⟩
  change (program store).bind (fun pair ↦ next pair.1 pair.2) = _
  rw [hrun]
  exact hresult

/-- The last statement of a program. -/
theorem last {post : Value → Multiset (Kind × ℕ) → Shared → Prop}
    (h : Spec (program >>= Pure.pure) live shared post) : Spec program live shared post := by
  rwa [bind_pure] at h

/-- A call of a function that has a specification. -/
theorem call {next : Value → HandleProgram Kind Shared Result}
    {middle : Value → Multiset (Kind × ℕ) → Shared → Prop}
    {post : Result → Multiset (Kind × ℕ) → Shared → Prop}
    (h : Spec program live shared middle)
    (hnext : ∀ value live shared, middle value live shared →
      Spec (next value) live shared post) :
    Spec (program >>= next) live shared post :=
  bind (h.mono hnext)

theorem choose {next : Bool → HandleProgram Kind Shared Result}
    {post : Result → Multiset (Kind × ℕ) → Shared → Prop}
    (h : ∀ outcome, Spec (next outcome) live shared post) :
    Spec (HandleProgram.choose >>= next) live shared post := by
  refine bind ?_
  rintro store rfl rfl
  exact ⟨_, _, rfl, h _⟩

/-- A branch on the outcome of a call. -/
theorem branch {yes no : HandleProgram Kind Shared Result}
    {post : Result → Multiset (Kind × ℕ) → Shared → Prop}
    (hyes : Spec yes live shared post) (hno : Spec no live shared post) :
    Spec (HandleProgram.choose >>= fun outcome ↦ if outcome = true then yes else no) live shared
      post := by
  refine choose fun outcome ↦ ?_
  cases outcome with
  | false => exact hno
  | true => exact hyes

theorem create {next : Kind × ℕ → HandleProgram Kind Shared Result}
    {post : Result → Multiset (Kind × ℕ) → Shared → Prop}
    (h : ∀ number, Spec (next (kind, number)) ({(kind, number)} + live) shared post) :
    Spec (HandleProgram.create kind >>= next) live shared post := by
  refine bind ?_
  rintro store rfl rfl
  exact ⟨_, _, rfl, h _⟩

theorem acquire {next : Option (Kind × ℕ) → HandleProgram Kind Shared Result}
    {post : Result → Multiset (Kind × ℕ) → Shared → Prop}
    (hnone : Spec (next none) live shared post)
    (hsome : ∀ number, Spec (next (some (kind, number))) ({(kind, number)} + live) shared post) :
    Spec (HandleProgram.acquire kind >>= next) live shared post := by
  refine bind (choose fun outcome ↦ ?_)
  cases outcome with
  | false => exact pure hnone
  | true =>
    rintro store rfl rfl
    exact ⟨_, _, rfl, hsome _⟩

theorem use [DecidableEq Kind] {next : Unit → HandleProgram Kind Shared Result}
    {post : Result → Multiset (Kind × ℕ) → Shared → Prop} {pointer : Option (Kind × ℕ)}
    (hpointer : pointer = some handle) (hmem : handle ∈ live)
    (h : Spec (next ()) live shared post) :
    Spec (HandleProgram.use pointer >>= next) live shared post := by
  subst hpointer
  refine bind ?_
  rintro store rfl rfl
  exact ⟨(), store, if_pos hmem, h⟩

/-- What the pointer holds is split off. -/
theorem release [DecidableEq Kind] {next : Unit → HandleProgram Kind Shared Result}
    {post : Result → Multiset (Kind × ℕ) → Shared → Prop} {pointer : Option (Kind × ℕ)}
    (rest : Multiset (Kind × ℕ)) (hlive : live = held pointer + rest)
    (h : Spec (next ()) rest shared post) :
    Spec (HandleProgram.release pointer >>= next) live shared post := by
  refine bind ?_
  rintro store rfl rfl
  cases pointer with
  | none =>
    rw [held_none, zero_add] at hlive
    exact ⟨(), store, rfl, hlive ▸ h⟩
  | some handle =>
    rw [held_some, Multiset.singleton_add] at hlive
    refine ⟨(), _, if_pos (hlive ▸ Multiset.mem_cons_self handle rest), ?_⟩
    simp only [hlive, Multiset.erase_cons_head]
    exact h

theorem readShared {next : Shared → HandleProgram Kind Shared Result}
    {post : Result → Multiset (Kind × ℕ) → Shared → Prop}
    (h : Spec (next shared) live shared post) :
    Spec (HandleProgram.readShared >>= next) live shared post := by
  refine bind ?_
  rintro store rfl rfl
  exact ⟨_, store, rfl, h⟩

theorem modifyShared {change : Shared → Shared} {next : Unit → HandleProgram Kind Shared Result}
    {post : Result → Multiset (Kind × ℕ) → Shared → Prop}
    (h : Spec (next ()) live (change shared) post) :
    Spec (HandleProgram.modifyShared change >>= next) live shared post := by
  refine bind ?_
  rintro store rfl rfl
  exact ⟨(), _, rfl, h⟩

/-- The invariant rule of the loop. -/
theorem repeatWhile {turn : Value → HandleProgram Kind Shared (Value × Bool)}
    (invariant : Value → Multiset (Kind × ℕ) → Shared → Prop)
    (hturn : ∀ value live shared, invariant value live shared →
      Spec (turn value) live shared fun result live shared ↦ invariant result.1 live shared)
    (turns : ℕ) {value : Value} (hvalue : invariant value live shared) :
    Spec (HandleProgram.repeatWhile turn turns value) live shared invariant := by
  induction turns generalizing value live shared with
  | zero => exact pure hvalue
  | succ turns ih =>
    refine call (hturn value live shared hvalue) ?_
    rintro ⟨value, more⟩ live shared hvalue
    cases more with
    | false => exact pure hvalue
    | true => exact ih hvalue

end Spec

end HandleProgram

end MsgPerf.Library
