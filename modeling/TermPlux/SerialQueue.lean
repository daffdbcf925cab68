/-
This file is a library for a server that works on one job at a time. A job that
arrives waits in a queue, whose head is the job at work: the head doubles as the
mark that the server is busy. A job is begun when it becomes the head, so what
was begun, followed by what waits behind the head, is what arrived.
-/

import Mathlib.Data.List.Basic
import Mathlib.Data.List.Infix

namespace TermPlux

/-- The jobs that are not finished, oldest first, and the jobs that were begun, in that order. -/
structure SerialQueue (Job : Type) where
  pending : List Job
  begun : List Job

namespace SerialQueue

variable {Job : Type} {queue : SerialQueue Job} {arrived : List Job}

/-- A job arrives, and is begun at once where no other is at work. -/
def arrive (queue : SerialQueue Job) (job : Job) : SerialQueue Job where
  pending := queue.pending ++ [job]
  begun := if queue.pending = [] then queue.begun ++ [job] else queue.begun

/-- The job at work is finished, and the next one is begun. -/
def finish (queue : SerialQueue Job) : SerialQueue Job where
  pending := queue.pending.tail
  begun := queue.begun ++ queue.pending.tail.head?.toList

/-- What was begun and what waits behind the head is what arrived, and the job begun last is the
one at work. -/
structure Serves (queue : SerialQueue Job) (arrived : List Job) : Prop where
  accounts : queue.begun ++ queue.pending.tail = arrived
  current : queue.pending ≠ [] → queue.begun.getLast? = queue.pending.head?

theorem Serves.arrive (serves : queue.Serves arrived) (job : Job) :
    (queue.arrive job).Serves (arrived ++ [job]) := by
  obtain ⟨accounts, current⟩ := serves
  rw [← accounts]
  unfold SerialQueue.arrive
  cases waiting : queue.pending with
  | nil => exact ⟨by simp, by simp⟩
  | cons head rest =>
    rw [waiting] at current
    exact ⟨by simp, fun _ => by simpa using current (by simp)⟩

theorem Serves.finish (serves : queue.Serves arrived) : queue.finish.Serves arrived := by
  rw [← serves.accounts]
  unfold SerialQueue.finish
  cases queue.pending.tail with
  | nil => exact ⟨by simp, fun busy => absurd rfl busy⟩
  | cons head rest => exact ⟨by simp, fun _ => by simp⟩

/-- Jobs are begun in the order in which they arrive. -/
theorem Serves.begun_prefix (serves : queue.Serves arrived) : queue.begun <+: arrived :=
  ⟨queue.pending.tail, serves.accounts⟩

/-- Nothing that arrived is left out once nothing is pending. -/
theorem Serves.begun_eq (serves : queue.Serves arrived) (idle : queue.pending = []) :
    queue.begun = arrived := by
  have accounts := serves.accounts
  rw [idle, List.tail_nil, List.append_nil] at accounts
  exact accounts

end SerialQueue

end TermPlux
