/-
This file is the library of observable values with a lifecycle. A value has a
version, and every observer remembers the version it was notified of last. Only
active observers are notified, and only of a version they have not seen. A value
can be posted, in which case it is set later; posting again before that replaces
it.

Each operation gives the observers it notifies, in the order of their addition.
-/

import Mathlib.Data.List.Nodup

namespace TermPlux

/-- An observer, whether it is active, and the version it was notified of last. -/
structure Observation (Observer : Type) where
  observer : Observer
  active : Bool
  lastVersion : Nat

/-- Version 0 is the one of a value that was never set. -/
structure LiveData (Observer Value : Type) where
  value : Option Value := none
  version : Nat := 0
  pending : Option Value := none
  observations : List (Observation Observer) := []

variable {Observer Value : Type}

namespace Observation

/-- Whether `considerNotify` notifies the observer. -/
def outdated (version : Nat) (observation : Observation Observer) : Bool :=
  observation.active && decide (observation.lastVersion < version)

def considerNotify (version : Nat) (observation : Observation Observer) : Observation Observer :=
  if observation.outdated version then { observation with lastVersion := version }
  else observation

end Observation

namespace LiveData

/-- Notifies the observers that are considered. -/
def dispatchingValue (data : LiveData Observer Value) (considered : Observer → Bool) :
    List Observer × LiveData Observer Value :=
  ((data.observations.filter fun observation =>
      considered observation.observer && observation.outdated data.version).map (·.observer),
    { data with
      observations := data.observations.map fun observation =>
        if considered observation.observer then observation.considerNotify data.version
        else observation })

def setValue (data : LiveData Observer Value) (value : Value) :
    List Observer × LiveData Observer Value :=
  { data with value := some value, version := data.version + 1 }.dispatchingValue fun _ => true

def postValue (data : LiveData Observer Value) (value : Value) : LiveData Observer Value :=
  { data with pending := some value }

/-- What the main thread runs for a posted value. -/
def runPosted (data : LiveData Observer Value) : List Observer × LiveData Observer Value :=
  match data.pending with
  | none => ([], data)
  | some value => { data with pending := none }.setValue value

variable [DecidableEq Observer]

def removeObserver (data : LiveData Observer Value) (observer : Observer) :
    LiveData Observer Value :=
  { data with observations := data.observations.filter (·.observer ≠ observer) }

/-- The observer becomes active or inactive. One that becomes active is notified of a value that
it has not seen. -/
def activeStateChanged (data : LiveData Observer Value) (observer : Observer) (active : Bool) :
    List Observer × LiveData Observer Value :=
  if data.observations.any fun observation =>
      decide (observation.observer = observer) && observation.active == active then ([], data)
  else
    let changed :=
      { data with
        observations := data.observations.map fun observation =>
          if observation.observer = observer then { observation with active } else observation }
    if active then changed.dispatchingValue (· = observer) else ([], changed)

/-- Adds an observer, unless it observes already. -/
def observe (data : LiveData Observer Value) (observer : Observer) : LiveData Observer Value :=
  if observer ∈ data.observations.map (·.observer) then data
  else
    { data with
      observations := data.observations ++ [{ observer, active := false, lastVersion := 0 }] }

/-! ### What observers have seen -/

/-- Some observer is active. -/
def listening (data : LiveData Observer Value) : Bool :=
  data.observations.any (·.active)

/-- No observer has seen a later version than the current one. -/
def Timely (data : LiveData Observer Value) : Prop :=
  ∀ observation ∈ data.observations, observation.lastVersion ≤ data.version

/-- No observer is active, and none has seen the current version. -/
def Unseen (data : LiveData Observer Value) : Prop :=
  ∀ observation ∈ data.observations,
    observation.active = false ∧ observation.lastVersion < data.version

variable {data : LiveData Observer Value}

omit [DecidableEq Observer] in
theorem lastVersion_considerNotify_le {observation : Observation Observer} {version : Nat}
    (timely : observation.lastVersion ≤ version) :
    (observation.considerNotify version).lastVersion ≤ version := by
  unfold Observation.considerNotify
  split
  · exact Nat.le_refl version
  · exact timely

omit [DecidableEq Observer] in
theorem Timely.dispatchingValue (timely : data.Timely) (considered : Observer → Bool) :
    (data.dispatchingValue considered).2.Timely := by
  intro observation member
  obtain ⟨old, inside, rfl⟩ := List.mem_map.mp member
  split
  · exact lastVersion_considerNotify_le (timely old inside)
  · exact timely old inside

omit [DecidableEq Observer] in
theorem Timely.setValue (timely : data.Timely) (value : Value) :
    (data.setValue value).2.Timely := by
  have older : ({ data with value := some value, version := data.version + 1 } :
      LiveData Observer Value).Timely :=
    fun observation inside => Nat.le_succ_of_le (timely observation inside)
  exact older.dispatchingValue _

omit [DecidableEq Observer] in
/-- A new value notifies somebody just when somebody is active. -/
theorem setValue_notifies (timely : data.Timely) (value : Value) :
    (data.setValue value).1 = [] ↔ data.listening = false := by
  unfold LiveData.setValue LiveData.dispatchingValue listening
  dsimp only
  rw [List.map_eq_nil_iff, List.filter_eq_nil_iff, List.any_eq_false]
  refine forall₂_congr fun observation inside => ?_
  have older : observation.lastVersion < data.version + 1 :=
    Nat.lt_succ_of_le (timely observation inside)
  simp [Observation.outdated, older]

omit [DecidableEq Observer] in
/-- Where nobody is active a new value stays unseen. -/
theorem unseen_setValue (timely : data.Timely) (value : Value) (silent : data.listening = false) :
    (data.setValue value).2.Unseen := by
  intro observation member
  obtain ⟨old, inside, rfl⟩ := List.mem_map.mp member
  have inactive : old.active = false :=
    Bool.not_eq_true _ ▸ List.any_eq_false.mp silent old inside
  have kept : old.considerNotify (data.version + 1) = old := by
    unfold Observation.considerNotify Observation.outdated
    rw [inactive]
    rfl
  rw [if_pos rfl, kept]
  exact ⟨inactive, Nat.lt_succ_of_le (timely old inside)⟩

theorem Timely.activeStateChanged (timely : data.Timely) (observer : Observer) (active : Bool) :
    (data.activeStateChanged observer active).2.Timely := by
  have changed : ({ data with
      observations := data.observations.map fun observation =>
        if observation.observer = observer then { observation with active } else observation } :
      LiveData Observer Value).Timely := by
    intro observation member
    obtain ⟨old, inside, rfl⟩ := List.mem_map.mp member
    split <;> exact timely old inside
  unfold LiveData.activeStateChanged
  split
  · exact timely
  · dsimp only
    split
    · exact changed.dispatchingValue _
    · exact changed

/-- Where nobody has seen the value, an observer that becomes active is notified of it. -/
theorem activeStateChanged_notifies (unseen : data.Unseen) (observer : Observer) :
    (data.activeStateChanged observer true).1 = [] ↔
      observer ∉ data.observations.map (·.observer) := by
  have inactive : ¬(data.observations.any fun observation =>
      decide (observation.observer = observer) && observation.active == true) = true := by
    rw [Bool.not_eq_true, List.any_eq_false]
    intro observation inside
    simp [(unseen observation inside).1]
  unfold activeStateChanged
  rw [if_neg inactive, if_pos rfl]
  unfold dispatchingValue
  dsimp only
  rw [List.map_eq_nil_iff, List.filter_eq_nil_iff]
  simp only [List.mem_map, not_exists, not_and, forall_exists_index, and_imp,
    forall_apply_eq_imp_iff₂]
  refine forall₂_congr fun observation inside => ?_
  by_cases same : observation.observer = observer
  · simp [same, Observation.outdated, (unseen observation inside).2]
  · simp [same]

/-- An observer that does not observe, or that becomes inactive, leaves the value unseen. -/
theorem Unseen.activeStateChanged (unseen : data.Unseen) {observer : Observer} {active : Bool}
    (harmless : active = false ∨ observer ∉ data.observations.map (·.observer)) :
    (data.activeStateChanged observer active).2.Unseen := by
  have still (observation : Observation Observer) (inside : observation ∈ data.observations) :
      (if observation.observer = observer then { observation with active } else observation) =
        observation := by
    split
    · next same =>
      rcases harmless with rfl | absent
      · rw [← (unseen observation inside).1]
      · exact absurd (same ▸ List.mem_map_of_mem inside) absent
    · rfl
  unfold LiveData.activeStateChanged
  rw [List.map_congr_left still, List.map_id']
  split
  · exact unseen
  · dsimp only
    split
    · next activated =>
      have absent := harmless.resolve_left fun inactive => absurd (inactive ▸ activated) (by decide)
      intro observation member
      obtain ⟨old, inside, rfl⟩ := List.mem_map.mp member
      have different : old.observer ≠ observer :=
        fun same => absent (same ▸ List.mem_map_of_mem inside)
      rw [if_neg (by simpa using different)]
      exact unseen old inside
    · exact unseen

theorem Timely.observe (timely : data.Timely) (observer : Observer) :
    (data.observe observer).Timely := by
  unfold LiveData.observe
  split
  · exact timely
  · intro observation member
    rcases List.mem_append.mp member with old | new
    · exact timely observation old
    · rw [List.mem_singleton.mp new]
      exact Nat.zero_le _

theorem Unseen.observe (unseen : data.Unseen) (set : 0 < data.version) (observer : Observer) :
    (data.observe observer).Unseen := by
  unfold LiveData.observe
  split
  · exact unseen
  · intro observation member
    rcases List.mem_append.mp member with old | new
    · exact unseen observation old
    · rw [List.mem_singleton.mp new]
      exact ⟨rfl, set⟩

theorem Timely.removeObserver (timely : data.Timely) (observer : Observer) :
    (data.removeObserver observer).Timely :=
  fun observation member => timely observation (List.mem_filter.mp member).1

theorem Unseen.removeObserver (unseen : data.Unseen) (observer : Observer) :
    (data.removeObserver observer).Unseen :=
  fun observation member => unseen observation (List.mem_filter.mp member).1

/-! ### What operations leave alone -/

theorem activeStateChanged_value (observer : Observer) (active : Bool) :
    (data.activeStateChanged observer active).2.value = data.value ∧
      (data.activeStateChanged observer active).2.version = data.version ∧
      (data.activeStateChanged observer active).2.pending = data.pending := by
  unfold activeStateChanged
  split
  · exact ⟨rfl, rfl, rfl⟩
  · dsimp only
    split <;> exact ⟨rfl, rfl, rfl⟩

theorem observe_value (observer : Observer) :
    (data.observe observer).value = data.value ∧ (data.observe observer).version = data.version ∧
      (data.observe observer).pending = data.pending := by
  unfold observe
  split <;> exact ⟨rfl, rfl, rfl⟩

/-! ### The notices of an observer -/

/-- A notice: the version that an observer was notified of. -/
structure Notice (Observer : Type) where
  observer : Observer
  version : Nat
  deriving DecidableEq

omit [DecidableEq Observer] in
/-- The notices of an operation that notified some observers. -/
def notices (outcome : List Observer × LiveData Observer Value) : List (Notice Observer) :=
  outcome.1.map fun observer => ⟨observer, outcome.2.version⟩

/-- The log holds the notices so far: those of one observer are of later and later versions, up to
the one that is remembered for it. -/
structure Logged (data : LiveData Observer Value) (log : List (Notice Observer)) : Prop where
  distinct : (data.observations.map (·.observer)).Nodup
  timely : data.Timely
  issued : ∀ notice ∈ log, 0 < notice.version ∧ notice.version ≤ data.version
  remembered : ∀ notice ∈ log, ∀ observation ∈ data.observations,
    observation.observer = notice.observer → notice.version ≤ observation.lastVersion
  increasing : log.Pairwise fun earlier later =>
    earlier.observer = later.observer → earlier.version < later.version

variable {log : List (Notice Observer)}

omit [DecidableEq Observer] in
theorem observer_considerNotify (observation : Observation Observer) (version : Nat) :
    (observation.considerNotify version).observer = observation.observer := by
  unfold Observation.considerNotify
  split <;> rfl

omit [DecidableEq Observer] in
theorem le_lastVersion_considerNotify (observation : Observation Observer) (version : Nat) :
    observation.lastVersion ≤ (observation.considerNotify version).lastVersion := by
  unfold Observation.considerNotify Observation.outdated
  split
  · next late =>
    rw [Bool.and_eq_true, decide_eq_true_iff] at late
    exact Nat.le_of_lt late.2
  · exact Nat.le_refl _

omit [DecidableEq Observer] in
/-- Dispatching keeps the log. -/
theorem Logged.dispatchingValue (logged : data.Logged log) (positive : 0 < data.version)
    (considered : Observer → Bool) :
    (data.dispatchingValue considered).2.Logged
      (log ++ notices (data.dispatchingValue considered)) := by
  have told (notice : Notice Observer)
      (member : notice ∈ notices (data.dispatchingValue considered)) :
      notice.version = data.version ∧ ∃ observation ∈ data.observations,
        observation.observer = notice.observer ∧ considered observation.observer = true ∧
          observation.outdated data.version = true := by
    obtain ⟨observer, inside, rfl⟩ := List.mem_map.mp member
    obtain ⟨observation, kept, rfl⟩ := List.mem_map.mp inside
    obtain ⟨present, chosen⟩ := List.mem_filter.mp kept
    rw [Bool.and_eq_true] at chosen
    exact ⟨rfl, observation, present, rfl, chosen.1, chosen.2⟩
  have observers : (data.dispatchingValue considered).2.observations.map (·.observer) =
      data.observations.map (·.observer) := by
    unfold LiveData.dispatchingValue
    rw [List.map_map]
    refine List.map_congr_left fun observation _ => ?_
    dsimp only [Function.comp_apply]
    split
    · exact observer_considerNotify observation data.version
    · rfl
  refine ⟨observers ▸ logged.distinct, logged.timely.dispatchingValue considered, ?_, ?_, ?_⟩
  · intro notice member
    rcases List.mem_append.mp member with old | new
    · exact logged.issued notice old
    · exact ⟨(told notice new).1 ▸ positive, Nat.le_of_eq (told notice new).1⟩
  · intro notice member observation inside same
    obtain ⟨before, present, rfl⟩ := List.mem_map.mp inside
    have sameBefore : before.observer = notice.observer := by
      rw [← same]
      split
      · exact (observer_considerNotify before data.version).symm
      · rfl
    rcases List.mem_append.mp member with old | new
    · refine Nat.le_trans (logged.remembered notice old before present sameBefore) ?_
      split
      · exact le_lastVersion_considerNotify before data.version
      · exact Nat.le_refl _
    · obtain ⟨current, other, otherPresent, otherSame, chosen, late⟩ := told notice new
      have equal : before = other := List.inj_on_of_nodup_map logged.distinct present otherPresent
        (sameBefore.trans otherSame.symm)
      subst equal
      rw [if_pos chosen, current]
      unfold Observation.considerNotify
      split
      · exact Nat.le_refl _
      · next early => exact absurd late early
  · rw [List.pairwise_append]
    refine ⟨logged.increasing, ?_, ?_⟩
    · -- No observer is notified twice by one dispatch.
      have once : (data.dispatchingValue considered).1.Nodup :=
        (List.filter_sublist.map _).nodup logged.distinct
      refine List.pairwise_map.mpr (once.imp ?_)
      exact fun different same => absurd same different
    · intro earlier old later new same
      obtain ⟨current, observation, present, sameObserver, -, late⟩ := told later new
      unfold Observation.outdated at late
      rw [Bool.and_eq_true, decide_eq_true_iff] at late
      rw [current]
      exact Nat.lt_of_le_of_lt
        (logged.remembered earlier old observation present (sameObserver.trans same.symm)) late.2

omit [DecidableEq Observer] in
theorem Logged.setValue (logged : data.Logged log) (value : Value) :
    (data.setValue value).2.Logged (log ++ notices (data.setValue value)) := by
  have older : ({ data with value := some value, version := data.version + 1 } :
      LiveData Observer Value).Logged log :=
    { logged with
      timely := fun observation inside => Nat.le_succ_of_le (logged.timely observation inside)
      issued := fun notice member =>
        ⟨(logged.issued notice member).1, Nat.le_succ_of_le (logged.issued notice member).2⟩ }
  exact older.dispatchingValue (Nat.succ_pos _) _

omit [DecidableEq Observer] in
theorem Logged.postValue (logged : data.Logged log) (value : Value) :
    (data.postValue value).Logged log :=
  { logged with }

omit [DecidableEq Observer] in
theorem Logged.runPosted (logged : data.Logged log) :
    data.runPosted.2.Logged (log ++ notices data.runPosted) := by
  unfold LiveData.runPosted
  split
  · rw [show notices (([] : List Observer), data) = [] from rfl, List.append_nil]
    exact logged
  · next value _ =>
    have taken : ({ data with pending := none } : LiveData Observer Value).Logged log :=
      { logged with }
    exact taken.setValue value

theorem Logged.activeStateChanged (logged : data.Logged log) (positive : 0 < data.version)
    (observer : Observer) (active : Bool) :
    (data.activeStateChanged observer active).2.Logged
      (log ++ notices (data.activeStateChanged observer active)) := by
  have still : ∀ observations : LiveData Observer Value, observations.Logged log →
      observations.Logged (log ++ notices (([] : List Observer), observations)) := by
    intro observations kept
    rw [show notices (([] : List Observer), observations) = [] from rfl, List.append_nil]
    exact kept
  have changed : ({ data with
      observations := data.observations.map fun observation =>
        if observation.observer = observer then { observation with active } else observation } :
      LiveData Observer Value).Logged log := by
    refine ⟨?_, ?_, logged.issued, ?_, logged.increasing⟩
    · rw [List.map_map]
      have same : (fun observation : Observation Observer => observation.observer) ∘
          (fun observation => if observation.observer = observer then { observation with active }
            else observation) = fun observation => observation.observer := by
        funext observation
        dsimp only [Function.comp_apply]
        split <;> rfl
      rw [same]
      exact logged.distinct
    · intro observation member
      obtain ⟨old, inside, rfl⟩ := List.mem_map.mp member
      split <;> exact logged.timely old inside
    · intro notice member observation inside same
      obtain ⟨old, present, rfl⟩ := List.mem_map.mp inside
      split at same
      · next matched =>
        rw [if_pos matched]
        exact logged.remembered notice member old present same
      · next matched =>
        rw [if_neg matched]
        exact logged.remembered notice member old present same
  unfold LiveData.activeStateChanged
  split
  · exact still data logged
  · dsimp only
    split
    · exact changed.dispatchingValue positive _
    · exact still _ changed

/-- An observer that had no notice begins to observe. -/
theorem Logged.observe (logged : data.Logged log) {observer : Observer}
    (fresh : ∀ notice ∈ log, notice.observer ≠ observer) : (data.observe observer).Logged log := by
  unfold LiveData.observe
  split
  · exact logged
  · next absent =>
    refine ⟨?_, ?_, logged.issued, ?_, logged.increasing⟩
    · rw [List.map_append]
      refine List.nodup_append.mpr ⟨logged.distinct, List.nodup_singleton _, ?_⟩
      rintro first old second new rfl
      have named : first = observer := List.mem_singleton.mp new
      exact absent (named ▸ old)
    · intro observation member
      rcases List.mem_append.mp member with old | new
      · exact logged.timely observation old
      · rw [List.mem_singleton.mp new]
        exact Nat.zero_le _
    · intro notice member observation inside same
      rcases List.mem_append.mp inside with old | new
      · exact logged.remembered notice member observation old same
      · rw [List.mem_singleton.mp new] at same
        exact absurd same.symm (fresh notice member)

theorem Logged.removeObserver (logged : data.Logged log) (observer : Observer) :
    (data.removeObserver observer).Logged log where
  distinct := (List.filter_sublist.map _).nodup logged.distinct
  timely := logged.timely.removeObserver observer
  issued := logged.issued
  remembered notice member observation inside :=
    logged.remembered notice member observation (List.mem_filter.mp inside).1
  increasing := logged.increasing

end LiveData

end TermPlux
