/-
This file is the library for a table that a log of writes overwrites. What a
slot reads afterwards is the last value the log wrote to it, or the value of the
original table. Two logs followed by one common log therefore read the same in a
slot exactly when the common log writes it, or the two logs left the same value
in it.
-/

import Mathlib.Logic.Function.Basic
import Mathlib.Data.List.Basic
import Mathlib.Data.List.Induction

namespace TermPlux.Overwrites

variable {Key Value : Type} [DecidableEq Key]

/-- A table after a log of writes. -/
def writeAll (base : Key → Value) (log : List (Key × Value)) : Key → Value :=
  log.foldl (fun table write => Function.update table write.1 write.2) base

/-- The last value a log writes to a slot. -/
def lastWrite : List (Key × Value) → Key → Option Value
  | [], _ => none
  | write :: rest, key =>
    (lastWrite rest key).or (if write.1 = key then some write.2 else none)

@[simp] theorem lastWrite_nil (key : Key) : lastWrite ([] : List (Key × Value)) key = none := rfl

theorem lastWrite_cons (write : Key × Value) (rest : List (Key × Value)) (key : Key) :
    lastWrite (write :: rest) key =
      (lastWrite rest key).or (if write.1 = key then some write.2 else none) := rfl

theorem lastWrite_append (first second : List (Key × Value)) (key : Key) :
    lastWrite (first ++ second) key = (lastWrite second key).or (lastWrite first key) := by
  induction first with
  | nil => rw [List.nil_append, lastWrite_nil, Option.or_none]
  | cons write rest inductionHypothesis =>
    rw [List.cons_append, lastWrite_cons, lastWrite_cons, inductionHypothesis, Option.or_assoc]

/-- The last value written to a slot was written to that slot. -/
theorem mem_of_lastWrite {log : List (Key × Value)} {key : Key} {value : Value}
    (written : lastWrite log key = some value) : (key, value) ∈ log := by
  induction log with
  | nil => cases written
  | cons write rest inductionHypothesis =>
    rw [lastWrite_cons, Option.or_eq_some_iff] at written
    rcases written with later | ⟨-, here⟩
    · exact List.mem_cons_of_mem _ (inductionHypothesis later)
    · obtain ⟨rfl, same⟩ := Option.ite_none_right_eq_some.mp here
      exact Option.some.inj same ▸ List.mem_cons_self

/-- A log leaves a slot alone that it never writes. -/
theorem lastWrite_eq_none_iff {log : List (Key × Value)} {key : Key} :
    lastWrite log key = none ↔ ∀ value, (key, value) ∉ log := by
  induction log with
  | nil => exact iff_of_true rfl fun _ => List.not_mem_nil
  | cons write rest inductionHypothesis =>
    obtain ⟨first, written⟩ := write
    rw [lastWrite_cons, Option.or_eq_none_iff, inductionHypothesis]
    by_cases same : first = key
    · subst same
      rw [if_pos rfl]
      exact iff_of_false (fun both => nomatch both.2) fun absent => absent written List.mem_cons_self
    · rw [if_neg same, and_iff_left rfl]
      refine forall_congr' fun value => not_congr ?_
      rw [List.mem_cons, or_iff_right fun equal => same (Prod.mk.inj equal).1.symm]

/-- A slot reads the last value written to it, or its original value. -/
theorem writeAll_apply (base : Key → Value) (log : List (Key × Value)) (key : Key) :
    writeAll base log key = (lastWrite log key).getD (base key) := by
  induction log generalizing base with
  | nil => rfl
  | cons write rest inductionHypothesis =>
    have tail : writeAll base (write :: rest) key =
        (lastWrite rest key).getD (Function.update base write.1 write.2 key) :=
      inductionHypothesis _
    rw [tail, lastWrite_cons]
    by_cases same : write.1 = key
    · subst same
      cases lastWrite rest write.1 <;> simp
    · rw [Function.update_of_ne (Ne.symm same), if_neg same, Option.or_none]

/-- After a common log, two logs that never write a slot's original value back read the same
in it exactly when the common log writes it or they wrote it last alike. -/
theorem writeAll_append_eq_iff (base : Key → Value) (first second common : List (Key × Value))
    (key : Key) (changes : ∀ write ∈ first ++ second, write.2 ≠ base write.1) :
    writeAll base (first ++ common) key = writeAll base (second ++ common) key ↔
      (lastWrite common key).isSome ∨ lastWrite first key = lastWrite second key := by
  rw [writeAll_apply, writeAll_apply, lastWrite_append, lastWrite_append]
  cases lastWrite common key with
  | some value => simp
  | none =>
    have different : ∀ value, (key, value) ∈ first ++ second → value ≠ base key :=
      fun value member => changes (key, value) member
    cases firstLast : lastWrite first key with
    | none =>
      cases secondLast : lastWrite second key with
      | none => simp
      | some value =>
        have changed := different value (List.mem_append_right _ (mem_of_lastWrite secondLast))
        simp [changed.symm]
    | some value =>
      cases secondLast : lastWrite second key with
      | none =>
        have changed := different value (List.mem_append_left _ (mem_of_lastWrite firstLast))
        simp [changed]
      | some other => simp

/-! ### Writes without repeats -/

/-- Of the writes to a slot that are new where the log makes them, this one is the last. -/
def Newest (log : List (Key × Value)) (key : Key) (value : Value) : Prop :=
  ∃ before after, log = before ++ (key, value) :: after ∧ (key, value) ∉ before ∧
    ∀ other, (key, other) ∈ after → (key, other) ∈ before ++ [(key, value)]

omit [DecidableEq Key] in
theorem Newest.mem {log : List (Key × Value)} {key : Key} {value : Value}
    (newest : Newest log key value) : (key, value) ∈ log := by
  obtain ⟨before, after, rfl, -, -⟩ := newest
  exact List.mem_append_right _ List.mem_cons_self

omit [DecidableEq Key] in
/-- A write that repeats an earlier one, or is to another slot, leaves the newest one. -/
theorem newest_concat_iff {log : List (Key × Value)} {write : Key × Value} {key : Key}
    {value : Value} (old : write.1 = key → write ∈ log) :
    Newest (log ++ [write]) key value ↔ Newest log key value := by
  constructor
  · rintro ⟨before, after, split, fresh, repeats⟩
    rcases List.eq_nil_or_concat after with rfl | ⟨earlier, last, rfl⟩
    · obtain ⟨rfl, same⟩ := List.append_inj' split rfl
      obtain rfl : write = (key, value) := List.singleton_inj.mp same
      exact absurd (old rfl) fresh
    · rw [List.concat_eq_append, ← List.cons_append, ← List.append_assoc] at split
      obtain ⟨rfl, -⟩ := List.append_inj' split rfl
      refine ⟨before, earlier, rfl, fresh, fun other member => repeats other ?_⟩
      rw [List.concat_eq_append]
      exact List.mem_append_left _ member
  · rintro ⟨before, after, rfl, fresh, repeats⟩
    refine ⟨before, after ++ [write], ?_, fresh, fun other member => ?_⟩
    · rw [List.append_assoc, List.cons_append]
    · rcases List.mem_append.mp member with earlier | last
      · exact repeats other earlier
      · obtain rfl := List.mem_singleton.mp last
        have here := old rfl
        rw [← List.singleton_append, ← List.append_assoc] at here
        rcases List.mem_append.mp here with before_ | earlier
        · exact before_
        · exact repeats other earlier

omit [DecidableEq Key] in
/-- A write that the log has not made yet is the newest one of its slot. -/
theorem newest_concat_new_iff {log : List (Key × Value)} {key : Key} {value other : Value}
    (fresh : (key, value) ∉ log) :
    Newest (log ++ [(key, value)]) key other ↔ other = value := by
  constructor
  · rintro ⟨before, after, split, -, repeats⟩
    rcases List.eq_nil_or_concat after with rfl | ⟨earlier, last, rfl⟩
    · obtain ⟨-, same⟩ := List.append_inj' split rfl
      exact (Prod.mk.inj (List.singleton_inj.mp same)).2.symm
    · rw [List.concat_eq_append, ← List.cons_append, ← List.append_assoc] at split
      obtain ⟨rfl, same⟩ := List.append_inj' split rfl
      obtain rfl := List.singleton_inj.mp same
      have early := repeats value (List.concat_eq_append ▸ List.mem_concat_self)
      refine absurd ?_ fresh
      rw [← List.singleton_append, ← List.append_assoc]
      exact List.mem_append_left _ early
  · rintro rfl
    exact ⟨log, [], rfl, fresh, fun _ member => absurd member List.not_mem_nil⟩

/-- Once its repeats are left out, a log leaves the newest value in a slot. -/
theorem lastWrite_eraseDups_iff [DecidableEq Value] (log : List (Key × Value)) (key : Key)
    (value : Value) : lastWrite log.eraseDups key = some value ↔ Newest log key value := by
  induction log using List.reverseRecOn with
  | nil =>
    refine iff_of_false (fun written => by cases written) ?_
    exact fun newest => absurd newest.mem List.not_mem_nil
  | append_singleton log write inductionHypothesis =>
    rw [List.eraseDups_append, lastWrite_append]
    by_cases old : write ∈ log
    · have nothing : [write].removeAll log = [] := by
        rw [List.removeAll, List.filter_singleton, List.elem_eq_true_of_mem old]
        rfl
      rw [nothing, List.eraseDups_nil, lastWrite_nil, Option.none_or, inductionHypothesis,
        newest_concat_iff fun _ => old]
    · have all : [write].removeAll log = [write] := by
        have absent : List.elem write log = false :=
          Bool.eq_false_iff.mpr (mt List.mem_of_elem_eq_true old)
        rw [List.removeAll, List.filter_singleton, absent]
        rfl
      have single : [write].eraseDups = [write] := rfl
      rw [all, single, lastWrite_cons, lastWrite_nil, Option.none_or]
      by_cases same : write.1 = key
      · subst same
        rw [if_pos rfl, Option.some_or, Option.some_inj, newest_concat_new_iff old, eq_comm]
      · rw [if_neg same, Option.none_or, inductionHypothesis,
          newest_concat_iff fun here => absurd here same]

/-- A slot that is written has a newest value. -/
theorem exists_newest [DecidableEq Value] {log : List (Key × Value)} {key : Key} {value : Value}
    (written : (key, value) ∈ log) : ∃ newest, Newest log key newest := by
  cases last : lastWrite log.eraseDups key with
  | none => exact absurd (List.mem_eraseDups.mpr written) (lastWrite_eq_none_iff.mp last value)
  | some newest => exact ⟨newest, (lastWrite_eraseDups_iff log key newest).mp last⟩

end TermPlux.Overwrites
