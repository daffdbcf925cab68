/-
This file is the library for replaying presses and releases of keys on the set of
held keys. A release of a key that is not held is a phantom. Owners account for
the held keys: each owner owns at most one, no two own the same, and together
they own exactly the held ones. As long as the owners do, there are no phantoms,
and without owners no key is held.
-/

import Mathlib.Data.List.Basic
import Mathlib.Data.List.Perm.Basic
import Mathlib.Data.List.Nodup
import TermPlux.Overwrites

namespace TermPlux.HeldKeys

variable {Key Owner : Type}

/-! ### Replay -/

/-- The held keys, and whether a key has been released that was not held. -/
structure Replay (Key : Type) where
  held : List Key
  phantom : Bool
  deriving DecidableEq

namespace Replay

def empty : Replay Key := { held := [], phantom := false }

variable [DecidableEq Key]

def press (replay : Replay Key) (key : Key) : Replay Key :=
  { replay with held := replay.held.insert key }

def release (replay : Replay Key) (key : Key) : Replay Key :=
  if key ∈ replay.held then { replay with held := replay.held.erase key }
  else { replay with phantom := true }

/-- A key goes down or up. -/
def event (replay : Replay Key) (key : Key × Bool) : Replay Key :=
  if key.2 then replay.press key.1 else replay.release key.1

def events (replay : Replay Key) (keys : List (Key × Bool)) : Replay Key :=
  keys.foldl event replay

@[simp] theorem events_nil (replay : Replay Key) : replay.events [] = replay := rfl

theorem held_press {replay : Replay Key} {key : Key} (fresh : key ∉ replay.held) :
    (replay.press key).held = key :: replay.held := List.insert_of_not_mem fresh

/-- A fresh key held down around a press leaves only the pressed key. -/
theorem press_press_release {replay : Replay Key} {shift key : Key}
    (shiftFresh : shift ∉ replay.held) (fresh : key ∉ replay.held) (different : key ≠ shift) :
    ((replay.press shift).press key).release shift = replay.press key := by
  have shifted : key ∉ (replay.press shift).held := by
    rw [held_press shiftFresh]
    exact fun member => (List.mem_cons.mp member).elim different fresh
  have both : ((replay.press shift).press key).held = key :: shift :: replay.held := by
    rw [held_press shifted, held_press shiftFresh]
  have present : shift ∈ ((replay.press shift).press key).held := by
    rw [both]
    exact List.mem_cons_of_mem _ List.mem_cons_self
  have left : ((replay.press shift).press key).held.erase shift = (replay.press key).held := by
    rw [both, held_press fresh, List.erase_cons_tail (by simpa using different),
      List.erase_cons_head]
  rw [release, if_pos present, left]
  rfl

/-- A fresh key held down around a release changes nothing else either. -/
theorem press_release_release {replay : Replay Key} {shift key : Key}
    (shiftFresh : shift ∉ replay.held) (present : key ∈ replay.held) :
    ((replay.press shift).release key).release shift = replay.release key := by
  have different : shift ≠ key := fun same => shiftFresh (same ▸ present)
  have shifted : (replay.press shift).held = shift :: replay.held := held_press shiftFresh
  have stillPresent : key ∈ (replay.press shift).held := by
    rw [shifted]
    exact List.mem_cons_of_mem _ present
  have first : (replay.press shift).release key =
      { replay with held := shift :: replay.held.erase key } := by
    rw [release, if_pos stillPresent, shifted, List.erase_cons_tail (by simpa using different)]
    rfl
  rw [first, release, if_pos List.mem_cons_self, List.erase_cons_head, release, if_pos present]

/-! ### The events as writes -/

theorem nodup_event {replay : Replay Key} (distinct : replay.held.Nodup) (event : Key × Bool) :
    (replay.event event).held.Nodup := by
  unfold Replay.event
  split
  · exact distinct.insert
  · unfold release
    split
    · exact distinct.erase event.1
    · exact distinct

theorem nodup_events {replay : Replay Key} (distinct : replay.held.Nodup)
    (keys : List (Key × Bool)) : (replay.events keys).held.Nodup := by
  induction keys generalizing replay with
  | nil => exact distinct
  | cons event rest inductionHypothesis => exact inductionHypothesis (nodup_event distinct event)

theorem mem_held_release {replay : Replay Key} (distinct : replay.held.Nodup) {key other : Key} :
    key ∈ (replay.release other).held ↔ key ≠ other ∧ key ∈ replay.held := by
  unfold release
  split
  · exact distinct.mem_erase_iff
  next absent =>
    refine (and_iff_right_of_imp fun held same => ?_).symm
    rw [same] at held
    exact absent held

/-- An event writes whether its key is held. -/
theorem held_event {replay : Replay Key} (distinct : replay.held.Nodup) (event : Key × Bool) :
    (fun key => decide (key ∈ (replay.event event).held)) =
      Function.update (fun key => decide (key ∈ replay.held)) event.1 event.2 := by
  obtain ⟨other, isDown⟩ := event
  funext key
  by_cases same : key = other
  · subst same
    rw [Function.update_self]
    cases isDown with
    | true => simp [Replay.event, press]
    | false => simp [Replay.event, mem_held_release distinct]
  · rw [Function.update_of_ne same]
    cases isDown with
    | true => simp [Replay.event, press, same]
    | false => simp [Replay.event, mem_held_release distinct, same]

theorem held_events {replay : Replay Key} (distinct : replay.held.Nodup)
    (keys : List (Key × Bool)) :
    (fun key => decide (key ∈ (replay.events keys).held)) =
      Overwrites.writeAll (fun key => decide (key ∈ replay.held)) keys := by
  induction keys generalizing replay with
  | nil => rfl
  | cons event rest inductionHypothesis =>
    refine (inductionHypothesis (nodup_event distinct event)).trans ?_
    rw [held_event distinct]
    rfl

/-- After a list of events a key is held when it went down last, or never went and was held. -/
theorem mem_held_events {replay : Replay Key} (distinct : replay.held.Nodup) (key : Key)
    (keys : List (Key × Bool)) : key ∈ (replay.events keys).held ↔
      (Overwrites.lastWrite keys key).getD (decide (key ∈ replay.held)) = true := by
  have written := congrFun (held_events distinct keys) key
  rw [Overwrites.writeAll_apply] at written
  rw [← written, decide_eq_true_iff]

end Replay

/-! ### Owners -/

/-- The owners account for the held keys. -/
structure Owned (owns : Owner → Option Key) (owners : List Owner) (replay : Replay Key) : Prop where
  clean : replay.phantom = false
  distinct : replay.held.Nodup
  held : replay.held.Perm (owners.filterMap owns)

namespace Owned

variable {owns : Owner → Option Key} {owners rest : List Owner} {owner : Owner} {key : Key}
  {replay : Replay Key}

theorem empty : Owned owns [] Replay.empty := ⟨rfl, List.nodup_nil, .nil⟩

theorem held_eq_nil (owned : Owned owns [] replay) : replay.held = [] := owned.held.eq_nil

theorem mem_held (owned : Owned owns owners replay) :
    key ∈ replay.held ↔ ∃ owner ∈ owners, owns owner = some key := by
  rw [owned.held.mem_iff, List.mem_filterMap]

theorem reorder (owned : Owned owns owners replay) (same : owners.Perm rest) :
    Owned owns rest replay :=
  ⟨owned.clean, owned.distinct, owned.held.trans (same.filterMap owns)⟩

/-- An owner of nothing comes and goes. -/
theorem idle_iff (idle : owns owner = none) :
    Owned owns (owner :: owners) replay ↔ Owned owns owners replay := by
  have same : (owner :: owners).filterMap owns = owners.filterMap owns :=
    List.filterMap_cons_none idle
  constructor
  · exact fun owned => ⟨owned.clean, owned.distinct, same ▸ owned.held⟩
  · exact fun owned => ⟨owned.clean, owned.distinct, same.symm ▸ owned.held⟩

theorem mem_held_of_owns (owned : Owned owns (owner :: rest) replay)
    (ownsKey : owns owner = some key) : key ∈ replay.held :=
  owned.mem_held.mpr ⟨owner, List.mem_cons_self, ownsKey⟩

variable [DecidableEq Key]

/-- A new owner presses a fresh key. -/
theorem press (owned : Owned owns owners replay) (fresh : key ∉ replay.held)
    (ownsKey : owns owner = some key) : Owned owns (owner :: owners) (replay.press key) := by
  have now := Replay.held_press fresh
  refine ⟨owned.clean, ?_, ?_⟩
  · rw [now]
    exact List.nodup_cons.mpr ⟨fresh, owned.distinct⟩
  · rw [now, List.filterMap_cons_some ownsKey]
    exact owned.held.cons key

/-- An owner releases its key and leaves. -/
theorem release (owned : Owned owns (owner :: rest) replay) (ownsKey : owns owner = some key) :
    Owned owns rest (replay.release key) := by
  have present := owned.mem_held_of_owns ownsKey
  have all := owned.held
  rw [List.filterMap_cons_some ownsKey] at all
  rw [Replay.release, if_pos present]
  refine ⟨owned.clean, owned.distinct.erase key, ?_⟩
  have erased := all.erase key
  rwa [List.erase_cons_head] at erased

end Owned

end TermPlux.HeldKeys
