import MsgPerf.Library.Machine

/-!
# Keyed first-in first-out channels

A family of channels is a function from keys to the messages in flight.  Parties send through the
channel of their key and one reader receives on behalf of each party through the same key.  When
different parties have different keys, what is received on behalf of a party followed by what is in
flight is what the party has sent (`sent_eq_received_append`); two parties with one key do not
have that guarantee.
-/

namespace MsgPerf.Library

/-- The messages in flight, by key, oldest first. -/
abbrev Channels (Key Message : Type*) := Key → List Message

namespace Channels

variable {Key Message : Type*} [DecidableEq Key]

def send (channels : Channels Key Message) (key : Key) (message : Message) :
    Channels Key Message :=
  Function.update channels key (channels key ++ [message])

def drop (channels : Channels Key Message) (key : Key) : Channels Key Message :=
  Function.update channels key (channels key).tail

@[simp] theorem send_self (channels : Channels Key Message) (key : Key) (message : Message) :
    channels.send key message key = channels key ++ [message] := by
  simp [send]

theorem send_of_ne (channels : Channels Key Message) {key other : Key} (message : Message)
    (h : other ≠ key) : channels.send key message other = channels other := by
  simp [send, h]

@[simp] theorem drop_self (channels : Channels Key Message) (key : Key) :
    channels.drop key key = (channels key).tail := by
  simp [drop]

theorem drop_of_ne (channels : Channels Key Message) {key other : Key} (h : other ≠ key) :
    channels.drop key other = channels other := by
  simp [drop, h]

end Channels

/-! ## Streams of parties -/

/-- Channels with the history of what each party sent and what was received on its behalf. -/
structure Streams (Party Key Message : Type*) where
  channels : Channels Key Message
  sent : Party → List Message
  received : Party → List Message

inductive StreamStep (Party Message : Type*) where
  | send (party : Party) (message : Message)
  | receive (party : Party)

namespace Streams

variable {Party Key Message : Type*} [DecidableEq Party] [DecidableEq Key]

/-- The send and receive steps; receiving from an empty channel changes nothing. -/
def next (key : Party → Key) (streams : Streams Party Key Message) :
    StreamStep Party Message → Streams Party Key Message
  | .send party message =>
      { streams with
        channels := streams.channels.send (key party) message
        sent := Function.update streams.sent party (streams.sent party ++ [message]) }
  | .receive party =>
      match streams.channels (key party) with
      | [] => streams
      | message :: _ =>
          { streams with
            channels := streams.channels.drop (key party)
            received := Function.update streams.received party
              (streams.received party ++ [message]) }

def empty : Streams Party Key Message := ⟨fun _ ↦ [], fun _ ↦ [], fun _ ↦ []⟩

/-- What a party sent is what was received on its behalf followed by what is in flight. -/
def Separate (key : Party → Key) (streams : Streams Party Key Message) : Prop :=
  ∀ party, streams.sent party = streams.received party ++ streams.channels (key party)

omit [DecidableEq Party] [DecidableEq Key] in
theorem separate_empty (key : Party → Key) :
    (empty : Streams Party Key Message).Separate key := by
  intro party
  rfl

/-- One step keeps the streams of parties with different keys separate. -/
theorem Separate.next {key : Party → Key} (hkey : Function.Injective key)
    {streams : Streams Party Key Message} (h : streams.Separate key)
    (step : StreamStep Party Message) : (streams.next key step).Separate key := by
  intro other
  have hother := h other
  cases step with
  | send party message =>
    by_cases hsame : other = party
    · subst hsame
      simp only [Streams.next, Function.update_self, Channels.send_self]
      rw [hother, List.append_assoc]
    · simp only [Streams.next, Function.update_of_ne hsame,
        Channels.send_of_ne _ message (hkey.ne hsame)]
      exact hother
  | receive party =>
    cases hqueue : streams.channels (key party) with
    | nil =>
      simp only [Streams.next, hqueue]
      exact hother
    | cons message rest =>
      by_cases hsame : other = party
      · subst hsame
        simp only [Streams.next, hqueue, Function.update_self, Channels.drop_self, List.tail_cons]
        rw [hother, hqueue, List.append_assoc]
        rfl
      · simp only [Streams.next, hqueue, Function.update_of_ne hsame,
          Channels.drop_of_ne _ (hkey.ne hsame)]
        exact hother

end Streams

end MsgPerf.Library
