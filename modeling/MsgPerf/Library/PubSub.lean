import Mathlib.Algebra.BigOperators.Group.Finset.Basic
import Mathlib.Algebra.Order.BigOperators.Group.Finset
import Mathlib.Data.Fintype.BigOperators
import Mathlib.Tactic

/-!
# Inboxes of subscribers

A message that is published goes to the end of the inbox of each of its recipients.  Each party has
a weight for a message, for instance the number of messages that handling it can give rise to; the
load is the weight of everything that has not been taken from an inbox.

A sum over all parties changes only where one party changes (`sum_update_add`).
-/

namespace MsgPerf.Library

/-- The messages that each party has not taken, oldest first. -/
abbrev Inboxes (Party Message : Type*) := Party → List Message

namespace Inboxes

variable {Party Message : Type*}

def deliver (inboxes : Inboxes Party Message) (message : Message) (recipient : Party → Bool) :
    Inboxes Party Message :=
  fun party ↦ if recipient party then inboxes party ++ [message] else inboxes party

/-- The oldest message of the inbox is taken. -/
def take [DecidableEq Party] (inboxes : Inboxes Party Message) (party : Party) :
    Inboxes Party Message :=
  Function.update inboxes party (inboxes party).tail

theorem mem_deliver {inboxes : Inboxes Party Message} {message other : Message}
    {recipient : Party → Bool} {party : Party}
    (h : other ∈ inboxes.deliver message recipient party) :
    other ∈ inboxes party ∨ recipient party = true ∧ other = message := by
  unfold deliver at h
  split at h
  next hrecipient =>
    rw [List.mem_append, List.mem_singleton] at h
    exact h.imp_right fun hother ↦ ⟨hrecipient, hother⟩
  · exact .inl h

theorem deliver_of_no_recipient (inboxes : Inboxes Party Message) (message : Message)
    {recipient : Party → Bool} (h : ∀ party, recipient party = false) :
    inboxes.deliver message recipient = inboxes := by
  funext party
  rw [deliver, h, if_neg Bool.false_ne_true]

theorem mem_take [DecidableEq Party] {inboxes : Inboxes Party Message} {message : Message}
    {party other : Party} (h : message ∈ inboxes.take party other) : message ∈ inboxes other := by
  by_cases hsame : other = party
  · subst hsame
    rw [take, Function.update_self] at h
    exact List.mem_of_mem_tail h
  · rwa [take, Function.update_of_ne hsame] at h

end Inboxes

section Sums

variable {Party : Type*} [Fintype Party] [DecidableEq Party]

/-- The sum over all parties after a change of one of them. -/
theorem sum_update_add {State : Party → Type*} (cost : (party : Party) → State party → ℕ)
    (states : (party : Party) → State party) (party : Party) (state : State party) :
    ∑ other, cost other (Function.update states party state other) + cost party (states party) =
      ∑ other, cost other (states other) + cost party state := by
  have hrest : ∑ other ∈ Finset.univ.erase party,
      cost other (Function.update states party state other) =
        ∑ other ∈ Finset.univ.erase party, cost other (states other) := by
    apply Finset.sum_congr rfl
    intro other hother
    rw [Function.update_of_ne (Finset.ne_of_mem_erase hother)]
  rw [← Finset.add_sum_erase _ _ (Finset.mem_univ party), hrest, Function.update_self,
    ← Finset.add_sum_erase Finset.univ (fun other ↦ cost other (states other))
      (Finset.mem_univ party)]
  omega

end Sums

namespace Inboxes

variable {Party Message : Type*} [Fintype Party] (weight : Party → Message → ℕ)

def load (inboxes : Inboxes Party Message) : ℕ :=
  ∑ party, ((inboxes party).map (weight party)).sum

variable {weight}

/-- A message adds at most its weight for each party. -/
theorem load_deliver_le (inboxes : Inboxes Party Message) {message : Message} {bound : ℕ}
    (recipient : Party → Bool) (h : ∀ party, weight party message ≤ bound) :
    (inboxes.deliver message recipient).load weight ≤
      inboxes.load weight + Fintype.card Party * bound := by
  have hparty (party : Party) :
      ((inboxes.deliver message recipient party).map (weight party)).sum ≤
        ((inboxes party).map (weight party)).sum + bound := by
    unfold deliver
    split
    · simpa using h party
    · exact Nat.le_add_right _ _
  calc
    (inboxes.deliver message recipient).load weight
      ≤ ∑ party, (((inboxes party).map (weight party)).sum + bound) :=
        Finset.sum_le_sum fun party _ ↦ hparty party
    _ = inboxes.load weight + Fintype.card Party * bound := by
        rw [Finset.sum_add_distrib, Finset.sum_const, Finset.card_univ, smul_eq_mul, load]

/-- Taking a message takes its weight off the load. -/
theorem load_take [DecidableEq Party] (weight : Party → Message → ℕ)
    {inboxes : Inboxes Party Message} {party : Party} {message : Message} {rest : List Message}
    (h : inboxes party = message :: rest) :
    (inboxes.take party).load weight + weight party message = inboxes.load weight := by
  have hsum := sum_update_add (fun other inbox ↦ (List.map (weight other) inbox).sum) inboxes party
    (inboxes party).tail
  rw [h] at hsum
  simp only [List.map_cons, List.sum_cons, List.tail_cons] at hsum
  unfold load take
  rw [h, List.tail_cons]
  omega

end Inboxes

end MsgPerf.Library
