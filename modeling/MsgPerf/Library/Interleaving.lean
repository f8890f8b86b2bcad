import Mathlib.Data.List.Basic
import Mathlib.Logic.Function.Basic

/-!
# Interleaved sequences

Several senders contribute to one sequence.  Each entry has its sender; what one of them has
contributed is a subsequence, and the order of the entries between the senders is free.
-/

namespace MsgPerf.Library

variable {Sender α β : Type*} [DecidableEq Sender]

/-- What a sender has contributed. -/
def sentBy (sender : Sender) (sequence : List (Sender × α)) : List α :=
  (sequence.filter fun entry ↦ entry.1 = sender).map Prod.snd

theorem sentBy_cons (sender : Sender) (entry : Sender × α) (sequence : List (Sender × α)) :
    sentBy sender (entry :: sequence) =
      if entry.1 = sender then entry.2 :: sentBy sender sequence else sentBy sender sequence := by
  by_cases h : entry.1 = sender <;> simp [sentBy, h]

/-- What is done with every entry. -/
theorem sentBy_map (f : α → β) (sender : Sender) (sequence : List (Sender × α)) :
    sentBy sender (sequence.map (Prod.map id f)) = (sentBy sender sequence).map f := by
  induction sequence with
  | nil => rfl
  | cons entry sequence ih =>
    rw [List.map_cons, sentBy_cons, sentBy_cons, ih]
    by_cases h : entry.1 = sender <;> simp [h]

theorem mem_sentBy {sender : Sender} {value : α} {sequence : List (Sender × α)} :
    value ∈ sentBy sender sequence ↔ (sender, value) ∈ sequence := by
  simp [sentBy]

/-- When each sender contributes images of some values, the sequence is the image of an interleaving
of the values. -/
theorem exists_sentBy_map {f : α → β} {sequence : List (Sender × β)} {sent : Sender → List α}
    (h : ∀ sender, sentBy sender sequence = (sent sender).map f) :
    ∃ values : List (Sender × α), sequence = values.map (Prod.map id f) ∧
      ∀ sender, sentBy sender values = sent sender := by
  induction sequence generalizing sent with
  | nil =>
    refine ⟨[], rfl, ?_⟩
    intro sender
    exact (List.map_eq_nil_iff.mp (h sender).symm).symm
  | cons entry sequence ih =>
    obtain ⟨first, image⟩ := entry
    -- The entry is the image of the first value of its sender.
    have hfirst := h first
    rw [sentBy_cons, if_pos rfl] at hfirst
    obtain ⟨value, values, hsent, hvalue, hvalues⟩ := List.map_eq_cons_iff.mp hfirst.symm
    have hrest : ∀ sender, sentBy sender sequence =
        (Function.update sent first values sender).map f := by
      intro sender
      by_cases hsender : sender = first
      · subst hsender
        rw [Function.update_self, hvalues]
      · have hother := h sender
        rw [sentBy_cons, if_neg (Ne.symm hsender)] at hother
        rw [Function.update_of_ne hsender, hother]
    obtain ⟨later, hlater, hsenders⟩ := ih hrest
    refine ⟨(first, value) :: later, ?_, ?_⟩
    · rw [List.map_cons, ← hlater, Prod.map_apply, hvalue, id]
    · intro sender
      rw [sentBy_cons, hsenders]
      by_cases hsender : first = sender
      · subst hsender
        rw [if_pos rfl, Function.update_self, hsent]
      · rw [if_neg hsender, Function.update_of_ne (Ne.symm hsender)]

end MsgPerf.Library
