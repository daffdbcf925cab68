/-
This file is a library for the delayed messages of a looper thread. A message is
posted with a delay and waits in a queue in the order of the times at which the
messages fall due, after those that fall due at the same time. The thread may
handle the message at the head once its time has come, and no other one.
-/

import Mathlib.Data.List.Sort

namespace TermPlux

/-- A message, and the time from which it may be handled. -/
structure Delayed (Message : Type) where
  due : Nat
  message : Message

/-- The time of a looper thread, and its messages in the order in which they fall due. -/
structure MessageQueue (Message : Type) where
  now : Nat
  messages : List (Delayed Message)
  sorted : messages.Pairwise (·.due ≤ ·.due)

namespace MessageQueue

variable {Message : Type}

/-- Before the first message that falls due later. -/
def enqueue (messages : List (Delayed Message)) (delayed : Delayed Message) :
    List (Delayed Message) :=
  messages.orderedInsert (·.due < ·.due) delayed

theorem sorted_enqueue {messages : List (Delayed Message)} (delayed : Delayed Message)
    (sorted : messages.Pairwise (·.due ≤ ·.due)) :
    (enqueue messages delayed).Pairwise (·.due ≤ ·.due) := by
  unfold enqueue
  induction messages with
  | nil => exact List.pairwise_singleton _ _
  | cons first rest inductionHypothesis =>
    have head := (List.pairwise_cons.mp sorted).1
    rw [List.orderedInsert_cons]
    split
    next earlier =>
      refine List.pairwise_cons.mpr ⟨fun later member => ?_, sorted⟩
      rcases List.mem_cons.mp member with rfl | member
      · exact earlier.le
      · exact earlier.le.trans (head later member)
    next notEarlier =>
      refine List.pairwise_cons.mpr ⟨fun later member => ?_, inductionHypothesis sorted.of_cons⟩
      rcases (List.mem_orderedInsert _).mp member with rfl | member
      · exact not_lt.mp notEarlier
      · exact head later member

def empty (now : Nat) : MessageQueue Message where
  now := now
  messages := []
  sorted := .nil

/-- Time passes. -/
def elapse (queue : MessageQueue Message) (time : Nat) : MessageQueue Message :=
  { queue with now := queue.now + time }

/-- The message is to be handled after the delay. -/
def postDelayed (queue : MessageQueue Message) (message : Message) (delay : Nat) :
    MessageQueue Message where
  now := queue.now
  messages := enqueue queue.messages ⟨queue.now + delay, message⟩
  sorted := sorted_enqueue _ queue.sorted

/-- The message that may be handled now. -/
def next (queue : MessageQueue Message) : Option Message :=
  (queue.messages.head?.filter (·.due ≤ queue.now)).map Delayed.message

/-- The queue without the message at its head. -/
def rest (queue : MessageQueue Message) : MessageQueue Message where
  now := queue.now
  messages := queue.messages.tail
  sorted := queue.sorted.tail

theorem length_postDelayed (queue : MessageQueue Message) (message : Message) (delay : Nat) :
    (queue.postDelayed message delay).messages.length = queue.messages.length + 1 :=
  List.orderedInsert_length _ _ _

theorem mem_postDelayed {queue : MessageQueue Message} {message : Message} {delay : Nat}
    {delayed : Delayed Message} :
    delayed ∈ (queue.postDelayed message delay).messages ↔
      delayed = ⟨queue.now + delay, message⟩ ∨ delayed ∈ queue.messages :=
  List.mem_orderedInsert _

/-- The message that may be handled is the one at the head. -/
theorem exists_of_next {queue : MessageQueue Message} {message : Message}
    (ready : queue.next = some message) :
    ∃ due, queue.messages = ⟨due, message⟩ :: queue.rest.messages := by
  obtain ⟨delayed, chosen, rfl⟩ := Option.map_eq_some_iff.mp ready
  have first := (Option.filter_eq_some_iff.mp chosen).1
  exact ⟨delayed.due, (List.eq_cons_of_mem_head? first)⟩

end MessageQueue

end TermPlux
