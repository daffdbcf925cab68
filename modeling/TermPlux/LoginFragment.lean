/-
This file models the password suggestions of the login dialog. A suggestion shows
the name and host of a saved login, and a map turns it back into the password.
The map is kept while the saved logins change, a label belongs to every login of
that name and host, and labels that are passwords themselves are taken out, while
the passwords are read from the same map. The file proves exactly when the
suggestions for a list of saved logins are sure to resolve to the passwords of
those logins.
-/

import TermPlux.LinkedMap
import TermPlux.Machine

namespace TermPlux

structure LoginInfo where
  name : String := ""
  host : String := ""
  username : String := ""
  password : String := ""
  deriving DecidableEq

/-- What a suggestion shows of a login. -/
def LoginInfo.suggestion (login : LoginInfo) : String :=
  "from: " ++ login.name ++ " [" ++ login.host ++ "]"

/-- The dialog: the map from suggestions to passwords, and the suggestions that the password
field offers. -/
structure LoginFragment where
  passwordMap : LinkedMap.UniqueMap String String
  passwordAdapter : List String

namespace LoginFragment

open LinkedMap

/-! ### The suggestions -/

/-- The suggestions of the logins that have a password, with the password. -/
def pairs (logins : List LoginInfo) : List (String × String) :=
  (logins.filter fun login => login.password ≠ "").map fun login =>
    (login.suggestion, login.password)

/-- The map with the suggestions of a list of logins written into it. -/
def filled (passwordMap : UniqueMap String String) (logins : List LoginInfo) :
    UniqueMap String String :=
  passwordMap.putAll (pairs logins).eraseDups

/-- The map for a list of logins, unless the removal fails. The suggestions are its keys, in some
order. -/
def preparePasswordSuggestions (removal : LiveRemoval String)
    (passwordMap : UniqueMap String String) (logins : List LoginInfo) :
    Option (UniqueMap String String) :=
  removal.removeAllValues (filled passwordMap logins)

/-- Offers the keys of the new map. Without keys the earlier suggestions stay. -/
def offer (fragment : LoginFragment) (passwordMap : UniqueMap String String) : LoginFragment where
  passwordMap := passwordMap
  passwordAdapter :=
    if passwordMap.keys.isEmpty then fragment.passwordAdapter else passwordMap.keys

/-- The observer of the saved profiles, unless it fails. -/
def onChanged (removal : LiveRemoval String) (fragment : LoginFragment)
    (logins : List LoginInfo) : Option LoginFragment :=
  (preparePasswordSuggestions removal fragment.passwordMap logins).map fragment.offer

def getRealPassword (fragment : LoginFragment) (typedPassword : String) : String :=
  (fragment.passwordMap.lookup typedPassword).getD typedPassword

/-- The response to the request for a login. -/
def onOk (fragment : LoginFragment) (loginInfo : LoginInfo) : LoginInfo :=
  { loginInfo with password := fragment.getRealPassword loginInfo.password }

/-- The dialog observes one list of saved logins after the other, each with what the removal
makes of it, until the removal fails. -/
def machine : Machine (Option LoginFragment) (LiveRemoval String × List LoginInfo) where
  start := some { passwordMap := .empty, passwordAdapter := [] }
  enabled _ _ := True
  step dialog observed := dialog.bind fun fragment => fragment.onChanged observed.1 observed.2

/-! ### What resolves -/

/-- Offered suggestions and typed passwords of the logins resolve to their passwords. -/
structure Resolved (fragment : LoginFragment) (logins : List LoginInfo) : Prop where
  picked : ∀ login ∈ logins, login.suggestion ∈ fragment.passwordAdapter →
    fragment.getRealPassword login.suggestion = login.password
  current : ∀ suggestion ∈ fragment.passwordAdapter,
    ∃ login ∈ logins, login.suggestion = suggestion
  typed : ∀ login ∈ logins, fragment.getRealPassword login.password = login.password

/-- The dialog is still there, and all resolves. -/
def Resolves (dialog : Option LoginFragment) (logins : List LoginInfo) : Prop :=
  ∃ fragment, dialog = some fragment ∧ Resolved fragment logins

/-- The passwords of labels: of the label of a saved login the newest one, and of any other
label the remembered one. -/
def Stored (passwordMap : UniqueMap String String) (logins : List LoginInfo)
    (label password : String) : Prop :=
  Overwrites.Newest (pairs logins) label password ∨
    passwordMap.lookup label = some password ∧
      ∀ login ∈ logins, login.suggestion = label → login.password = ""

/-- The text is stored as a password. -/
def Guarded (passwordMap : UniqueMap String String) (logins : List LoginInfo)
    (text : String) : Prop :=
  ∃ label, Stored passwordMap logins label text

/-- The text is remembered as a label, or is the label of a saved login. -/
def IsLabel (passwordMap : UniqueMap String String) (logins : List LoginInfo)
    (text : String) : Prop :=
  text ∈ passwordMap.keys ∨ ∃ login ∈ logins, login.password ≠ "" ∧ login.suggestion = text

/-- The text is a label and is stored as a password. -/
def Clashes (passwordMap : UniqueMap String String) (logins : List LoginInfo)
    (text : String) : Prop :=
  IsLabel passwordMap logins text ∧ Guarded passwordMap logins text

/-- At most one label is stored as a password. -/
def OneClash (passwordMap : UniqueMap String String) (logins : List LoginInfo) : Prop :=
  ∀ first second, Clashes passwordMap logins first → Clashes passwordMap logins second →
    second = first

/-- The condition where some label is offered. -/
structure Distinguished (passwordMap : UniqueMap String String) (logins : List LoginInfo) :
    Prop where
  agreed : ∀ login ∈ logins, ¬Guarded passwordMap logins login.suggestion →
    ∀ other ∈ logins, other.suggestion = login.suggestion → other.password = login.password
  forgotten : ∀ login ∈ logins, ¬Guarded passwordMap logins login.suggestion →
    login.password = "" → login.suggestion ∉ passwordMap.keys
  current : ∀ label ∈ passwordMap.keys, ¬Guarded passwordMap logins label →
    ∃ login ∈ logins, login.suggestion = label
  guarded : ∀ login ∈ logins, IsLabel passwordMap logins login.password →
    Guarded passwordMap logins login.password

/-- The condition where the earlier suggestions stay. -/
structure StillCurrent (offered : List String) (logins : List LoginInfo) : Prop where
  current : ∀ suggestion ∈ offered, ∃ login ∈ logins, login.suggestion = suggestion
  literal : ∀ login ∈ logins, login.suggestion ∈ offered → login.suggestion = login.password

/-- The condition on the dialog before it observes the logins, where all labels that are stored as
passwords are taken out. -/
def Resolvable (fragment : LoginFragment) (logins : List LoginInfo) : Prop :=
  (∃ label, IsLabel fragment.passwordMap logins label ∧
      ¬Guarded fragment.passwordMap logins label) ∧
    Distinguished fragment.passwordMap logins ∨
  (∀ label, IsLabel fragment.passwordMap logins label →
      Guarded fragment.passwordMap logins label) ∧
    StillCurrent fragment.passwordAdapter logins

variable {passwordMap : UniqueMap String String} {logins : List LoginInfo}
  {label text password : String}

/-! ### The map after an observation -/

theorem mem_pairs_iff :
    (label, password) ∈ pairs logins ↔
      ∃ login ∈ logins, login.password ≠ "" ∧ login.suggestion = label ∧
        login.password = password := by
  simp only [pairs, List.mem_map, List.mem_filter, decide_eq_true_eq, Prod.mk.injEq, and_assoc]

theorem lastWrite_pairs_eq_none_iff :
    Overwrites.lastWrite (pairs logins).eraseDups label = none ↔
      ∀ login ∈ logins, login.suggestion = label → login.password = "" := by
  rw [Overwrites.lastWrite_eq_none_iff]
  constructor
  · intro unwritten login member same
    by_contra some_
    refine unwritten login.password (List.mem_eraseDups.mpr (mem_pairs_iff.mpr ?_))
    exact ⟨login, member, some_, same, rfl⟩
  · intro empty other written
    obtain ⟨login, member, some_, same, -⟩ := mem_pairs_iff.mp (List.mem_eraseDups.mp written)
    exact some_ (empty login member same)

/-- What is stored is what the map holds before labels are taken out. -/
theorem lookup_filled :
    (filled passwordMap logins).lookup label = some password ↔
      Stored passwordMap logins label password := by
  rw [filled, UniqueMap.lookup_putAll, Option.or_eq_some_iff, Overwrites.lastWrite_eraseDups_iff,
    lastWrite_pairs_eq_none_iff, and_comm (a := ∀ _ ∈ _, _)]
  rfl

theorem mem_values_filled : text ∈ (filled passwordMap logins).values ↔
    Guarded passwordMap logins text := by
  rw [UniqueMap.mem_values_iff]
  exact exists_congr fun _ => lookup_filled

theorem Stored.unique {other : String} (stored : Stored passwordMap logins label password)
    (also : Stored passwordMap logins label other) : password = other :=
  Option.some.inj ((lookup_filled.mpr stored).symm.trans (lookup_filled.mpr also))

theorem isLabel_iff :
    IsLabel passwordMap logins text ↔ ∃ password, Stored passwordMap logins text password := by
  by_cases saved : ∃ login ∈ logins, login.password ≠ "" ∧ login.suggestion = text
  · refine iff_of_true (Or.inr saved) ?_
    obtain ⟨login, member, some_, same⟩ := saved
    have written : (text, login.password) ∈ pairs logins :=
      mem_pairs_iff.mpr ⟨login, member, some_, same, rfl⟩
    exact (Overwrites.exists_newest written).imp fun _ newest => Or.inl newest
  · have unsaved : ∀ login ∈ logins, login.suggestion = text → login.password = "" := by
      intro login member same
      by_contra some_
      exact saved ⟨login, member, some_, same⟩
    rw [IsLabel, or_iff_left saved, UniqueMap.mem_keys_iff]
    refine exists_congr fun password => ?_
    constructor
    · exact fun remembered => Or.inr ⟨remembered, unsaved⟩
    · rintro (newest | ⟨remembered, -⟩)
      · obtain ⟨login, member, some_, same, -⟩ := mem_pairs_iff.mp newest.mem
        exact absurd (unsaved login member same) some_
      · exact remembered

theorem mem_keys_filled : text ∈ (filled passwordMap logins).keys ↔
    IsLabel passwordMap logins text := by
  rw [UniqueMap.mem_keys_iff, isLabel_iff]
  exact exists_congr fun _ => lookup_filled

theorem atMostOneShared_filled_iff :
    (filled passwordMap logins).AtMostOneShared ↔ OneClash passwordMap logins := by
  simp only [UniqueMap.AtMostOneShared, mem_keys_filled, mem_values_filled]
  constructor
  · exact fun single first second one two => single first one.1 one.2 second two.1 two.2
  · exact fun single first isLabel guarded second also too =>
      single first second ⟨isLabel, guarded⟩ ⟨also, too⟩

/-- The map holds the labels that are not stored as passwords, and nothing else. -/
def Cleaned (passwordMap : UniqueMap String String) (logins : List LoginInfo)
    (left : UniqueMap String String) : Prop :=
  ∀ text password, left.lookup text = some password ↔
    Stored passwordMap logins text password ∧ ¬Guarded passwordMap logins text

/-- With at most one label stored as a password, the removal takes it out. -/
theorem exists_cleaned (removal : LiveRemoval String) (single : OneClash passwordMap logins) :
    ∃ left, preparePasswordSuggestions removal passwordMap logins = some left ∧
      Cleaned passwordMap logins left := by
  obtain ⟨left, removed, same⟩ := removal.settled _ (atMostOneShared_filled_iff.mpr single)
  refine ⟨left, removed, fun text password => ?_⟩
  rw [same, UniqueMap.lookup_removeAll_eq_some_iff, lookup_filled, mem_values_filled]

variable {left : UniqueMap String String}

theorem Cleaned.mem_keys (cleaned : Cleaned passwordMap logins left) :
    text ∈ left.keys ↔ IsLabel passwordMap logins text ∧ ¬Guarded passwordMap logins text := by
  rw [UniqueMap.mem_keys_iff, isLabel_iff, ← exists_and_right]
  exact exists_congr fun password => cleaned text password

/-! ### The dialog after an observation -/

variable {fragment : LoginFragment}

theorem getRealPassword_of_stored (cleaned : Cleaned fragment.passwordMap logins left)
    (stored : Stored fragment.passwordMap logins text password)
    (unguarded : ¬Guarded fragment.passwordMap logins text) :
    (fragment.offer left).getRealPassword text = password := by
  have found := (cleaned text password).mpr ⟨stored, unguarded⟩
  rw [getRealPassword, offer, found, Option.getD_some]

theorem getRealPassword_of_guarded (cleaned : Cleaned fragment.passwordMap logins left)
    (guarded : IsLabel fragment.passwordMap logins text →
      Guarded fragment.passwordMap logins text) :
    (fragment.offer left).getRealPassword text = text := by
  have missing : left.lookup text = none := by
    refine Option.eq_none_iff_forall_ne_some.mpr fun password found => ?_
    obtain ⟨stored, unguarded⟩ := (cleaned text password).mp found
    exact unguarded (guarded (isLabel_iff.mpr ⟨password, stored⟩))
  rw [getRealPassword, offer, missing, Option.getD_none]

/-- A password that is typed is a stored one, or it is no label. -/
theorem getRealPassword_eq_self_iff (cleaned : Cleaned fragment.passwordMap logins left) :
    (fragment.offer left).getRealPassword text = text ↔
      (IsLabel fragment.passwordMap logins text → Guarded fragment.passwordMap logins text) := by
  refine ⟨fun resolved isLabel => ?_, getRealPassword_of_guarded cleaned⟩
  by_contra unguarded
  obtain ⟨password, stored⟩ := isLabel_iff.mp isLabel
  obtain rfl := (getRealPassword_of_stored cleaned stored unguarded).symm.trans resolved
  exact unguarded ⟨_, stored⟩

/-- No password that is remembered is empty. -/
def NoneEmpty (fragment : LoginFragment) : Prop :=
  ∀ label, fragment.passwordMap.lookup label ≠ some ""

theorem Stored.ne_empty (noneEmpty : NoneEmpty fragment)
    (stored : Stored fragment.passwordMap logins label password) : password ≠ "" := by
  rcases stored with newest | ⟨remembered, -⟩
  · obtain ⟨login, -, some_, -, same⟩ := mem_pairs_iff.mp newest.mem
    exact same ▸ some_
  · rintro rfl
    exact noneEmpty label remembered

/-- Whatever the removal leaves was stored. -/
theorem NoneEmpty.onChanged (noneEmpty : NoneEmpty fragment) {removal : LiveRemoval String}
    {logins : List LoginInfo} {next : LoginFragment}
    (changed : fragment.onChanged removal logins = some next) : NoneEmpty next := by
  obtain ⟨left, removed, rfl⟩ := Option.map_eq_some_iff.mp changed
  exact fun label found =>
    (lookup_filled.mp (removal.only removed found)).ne_empty noneEmpty rfl

theorem noneEmpty_after {earlier : List (LiveRemoval String × List LoginInfo)}
    (reached : machine.after earlier = some fragment) : NoneEmpty fragment := by
  have always : ∀ dialog, machine.after earlier = some dialog → NoneEmpty dialog := by
    refine Machine.Run.invariant (fun state => ∀ dialog, state = some dialog → NoneEmpty dialog)
      ?_ ?_ (Machine.Run.of_enabled (fun _ _ => trivial) earlier)
    · rintro dialog initial label found
      obtain rfl := Option.some.inj initial
      cases found
    · intro state observed noneEmpty _ dialog changed
      obtain ⟨before, held, after⟩ := Option.bind_eq_some_iff.mp changed
      exact (noneEmpty before held).onChanged after
  exact always fragment reached

/-! ### When the suggestions resolve -/

theorem mem_passwordAdapter_of_offered (cleaned : Cleaned fragment.passwordMap logins left)
    (offered : ∃ label, IsLabel fragment.passwordMap logins label ∧
      ¬Guarded fragment.passwordMap logins label) :
    text ∈ (fragment.offer left).passwordAdapter ↔
      IsLabel fragment.passwordMap logins text ∧ ¬Guarded fragment.passwordMap logins text := by
  obtain ⟨label, free⟩ := offered
  have some_ : left.keys ≠ [] := List.ne_nil_of_mem (cleaned.mem_keys.mpr free)
  rw [offer, if_neg fun empty => some_ (List.isEmpty_iff.mp empty)]
  exact cleaned.mem_keys

theorem passwordAdapter_of_guarded (cleaned : Cleaned fragment.passwordMap logins left)
    (guarded : ∀ label, IsLabel fragment.passwordMap logins label →
      Guarded fragment.passwordMap logins label) :
    (fragment.offer left).passwordAdapter = fragment.passwordAdapter := by
  have none_ : left.keys = [] := by
    refine List.eq_nil_iff_forall_not_mem.mpr fun label member => ?_
    obtain ⟨isLabel, unguarded⟩ := cleaned.mem_keys.mp member
    exact unguarded (guarded label isLabel)
  rw [offer, if_pos (List.isEmpty_iff.mpr none_)]

/-- The suggestions that are picked resolve. -/
theorem picked_iff (noneEmpty : NoneEmpty fragment) :
    (∀ login ∈ logins, ∀ password,
      Stored fragment.passwordMap logins login.suggestion password →
      ¬Guarded fragment.passwordMap logins login.suggestion → password = login.password) ↔
    (∀ login ∈ logins, ¬Guarded fragment.passwordMap logins login.suggestion →
      ∀ other ∈ logins, other.suggestion = login.suggestion →
        other.password = login.password) ∧
    ∀ login ∈ logins, ¬Guarded fragment.passwordMap logins login.suggestion →
      login.password = "" → login.suggestion ∉ fragment.passwordMap.keys := by
  constructor
  · intro picked
    constructor
    · intro login member unguarded other otherMember same
      by_cases saved : IsLabel fragment.passwordMap logins login.suggestion
      · obtain ⟨password, stored⟩ := isLabel_iff.mp saved
        have own := picked login member password stored unguarded
        exact (picked other otherMember password (same ▸ stored) (same ▸ unguarded)).symm.trans own
      · have empty (candidate : LoginInfo) (candidateMember : candidate ∈ logins)
            (shared : candidate.suggestion = login.suggestion) : candidate.password = "" := by
          by_contra some_
          exact saved (Or.inr ⟨candidate, candidateMember, some_, shared⟩)
        rw [empty other otherMember same, empty login member rfl]
    · intro login member unguarded empty remembered
      obtain ⟨password, stored⟩ := isLabel_iff.mp (Or.inl remembered)
      exact stored.ne_empty noneEmpty ((picked login member password stored unguarded).trans empty)
  · rintro ⟨agreed, forgotten⟩ login member password stored unguarded
    rcases stored with newest | ⟨remembered, unsaved⟩
    · obtain ⟨other, otherMember, -, same, rfl⟩ := mem_pairs_iff.mp newest.mem
      exact agreed login member unguarded other otherMember same
    · have key := UniqueMap.mem_keys_iff.mpr ⟨password, remembered⟩
      exact absurd key (forgotten login member unguarded (unsaved login member rfl))

/-- The suggestions that are offered are those of the logins. -/
theorem current_iff :
    (∀ label, IsLabel fragment.passwordMap logins label →
      ¬Guarded fragment.passwordMap logins label → ∃ login ∈ logins, login.suggestion = label) ↔
    ∀ label ∈ fragment.passwordMap.keys, ¬Guarded fragment.passwordMap logins label →
      ∃ login ∈ logins, login.suggestion = label := by
  constructor
  · exact fun current label remembered => current label (Or.inl remembered)
  · rintro current label (remembered | ⟨login, member, -, same⟩) unguarded
    · exact current label remembered unguarded
    · exact ⟨login, member, same⟩

theorem resolved_iff_distinguished (noneEmpty : NoneEmpty fragment)
    (cleaned : Cleaned fragment.passwordMap logins left)
    (offered : ∃ label, IsLabel fragment.passwordMap logins label ∧
      ¬Guarded fragment.passwordMap logins label) :
    Resolved (fragment.offer left) logins ↔ Distinguished fragment.passwordMap logins := by
  have adapter (label : String) :
      label ∈ (fragment.offer left).passwordAdapter ↔
        IsLabel fragment.passwordMap logins label ∧ ¬Guarded fragment.passwordMap logins label :=
    mem_passwordAdapter_of_offered cleaned offered
  constructor
  · intro resolves
    have picked := (picked_iff noneEmpty).mp fun login member password stored unguarded =>
      (getRealPassword_of_stored cleaned stored unguarded).symm.trans (resolves.picked login member
        ((adapter _).mpr ⟨isLabel_iff.mpr ⟨password, stored⟩, unguarded⟩))
    exact {
      agreed := picked.1
      forgotten := picked.2
      current := current_iff.mp fun label isLabel unguarded =>
        resolves.current label ((adapter label).mpr ⟨isLabel, unguarded⟩)
      guarded := fun login member =>
        (getRealPassword_eq_self_iff cleaned).mp (resolves.typed login member) }
  · intro distinguished
    have picked := (picked_iff noneEmpty).mpr ⟨distinguished.agreed, distinguished.forgotten⟩
    refine ⟨fun login member shown => ?_, fun label shown => ?_, fun login member => ?_⟩
    · obtain ⟨isLabel, unguarded⟩ := (adapter _).mp shown
      obtain ⟨password, stored⟩ := isLabel_iff.mp isLabel
      rw [getRealPassword_of_stored cleaned stored unguarded]
      exact picked login member password stored unguarded
    · obtain ⟨isLabel, unguarded⟩ := (adapter label).mp shown
      exact current_iff.mpr distinguished.current label isLabel unguarded
    · exact getRealPassword_of_guarded cleaned (distinguished.guarded login member)

theorem resolved_iff_stillCurrent (cleaned : Cleaned fragment.passwordMap logins left)
    (guarded : ∀ label, IsLabel fragment.passwordMap logins label →
      Guarded fragment.passwordMap logins label) :
    Resolved (fragment.offer left) logins ↔
      StillCurrent fragment.passwordAdapter logins := by
  have same := passwordAdapter_of_guarded cleaned guarded
  have literal (typed : String) := getRealPassword_of_guarded cleaned (guarded typed)
  constructor
  · rintro ⟨picked, current, -⟩
    rw [same] at picked current
    exact ⟨current, fun login member shown =>
      (literal login.suggestion).symm.trans (picked login member shown)⟩
  · rintro ⟨current, equal⟩
    refine ⟨?_, ?_, fun login _ => literal login.password⟩
    · rw [same]
      exact fun login member shown => (literal login.suggestion).trans (equal login member shown)
    · rw [same]
      exact current

/-- On a map that holds the labels that are not stored as passwords, all resolves just when the
dialog and the list meet the condition. -/
theorem resolved_iff (noneEmpty : NoneEmpty fragment)
    (cleaned : Cleaned fragment.passwordMap logins left) :
    Resolved (fragment.offer left) logins ↔ Resolvable fragment logins := by
  by_cases offered : ∃ label, IsLabel fragment.passwordMap logins label ∧
      ¬Guarded fragment.passwordMap logins label
  · refine (resolved_iff_distinguished noneEmpty cleaned offered).trans ?_
    rw [Resolvable, and_iff_right offered, or_iff_left]
    rintro ⟨guarded, -⟩
    obtain ⟨label, isLabel, unguarded⟩ := offered
    exact unguarded (guarded label isLabel)
  · have guarded : ∀ label, IsLabel fragment.passwordMap logins label →
        Guarded fragment.passwordMap logins label := by
      intro label isLabel
      by_contra unguarded
      exact offered ⟨label, isLabel, unguarded⟩
    refine (resolved_iff_stillCurrent cleaned guarded).trans ?_
    rw [Resolvable, and_iff_right guarded, or_iff_right fun both => offered both.1]

theorem resolves_onChanged_iff (noneEmpty : NoneEmpty fragment)
    (single : OneClash fragment.passwordMap logins) (removal : LiveRemoval String) :
    Resolves (fragment.onChanged removal logins) logins ↔ Resolvable fragment logins := by
  obtain ⟨left, removed, cleaned⟩ := exists_cleaned removal single
  rw [Resolves, onChanged, removed, Option.map_some, ← resolved_iff noneEmpty cleaned]
  constructor
  · rintro ⟨next, same, resolved⟩
    exact Option.some.inj same ▸ resolved
  · exact fun resolved => ⟨_, rfl, resolved⟩

/-- With two labels stored as passwords, the removal need not return. -/
theorem onChanged_failing (several : ¬OneClash fragment.passwordMap logins) :
    fragment.onChanged .failing logins = none := by
  have shared := atMostOneShared_filled_iff.not.mpr several
  rw [onChanged, preparePasswordSuggestions, LiveRemoval.removeAllValues_failing shared,
    Option.map_none]

/-- After any earlier lists, with at most one label stored as a password, the suggestions for a
list of saved logins resolve to the passwords of those logins just when the dialog and the list
meet the condition; and they are sure to resolve just when both hold. -/
theorem resolves_iff {earlier : List (LiveRemoval String × List LoginInfo)}
    {fragment : LoginFragment} (reached : machine.after earlier = some fragment)
    (logins : List LoginInfo) :
    (OneClash fragment.passwordMap logins → ∀ removal,
      (Resolves (machine.after (earlier ++ [(removal, logins)])) logins ↔
        Resolvable fragment logins)) ∧
    ((∀ removal, Resolves (machine.after (earlier ++ [(removal, logins)])) logins) ↔
      OneClash fragment.passwordMap logins ∧ Resolvable fragment logins) := by
  have noneEmpty := noneEmpty_after reached
  have observed (removal : LiveRemoval String) :
      machine.after (earlier ++ [(removal, logins)]) = fragment.onChanged removal logins := by
    rw [Machine.after_concat, reached]
    rfl
  simp only [observed]
  refine ⟨resolves_onChanged_iff noneEmpty, fun sure => ?_, ?_⟩
  · by_cases single : OneClash fragment.passwordMap logins
    · exact ⟨single, (resolves_onChanged_iff noneEmpty single .failing).mp (sure .failing)⟩
    · obtain ⟨next, returned, -⟩ := sure .failing
      rw [onChanged_failing single] at returned
      cases returned
  · rintro ⟨single, resolvable⟩ removal
    exact (resolves_onChanged_iff noneEmpty single removal).mpr resolvable

/-- Where they resolve, picking the suggestion of a login responds with that login. -/
theorem onOk_picked {login : LoginInfo} (resolved : Resolved fragment logins)
    (member : login ∈ logins) (shown : login.suggestion ∈ fragment.passwordAdapter) :
    fragment.onOk { login with password := login.suggestion } = login := by
  rw [onOk, resolved.picked login member shown]

/-- One login of a new dialog. -/
def onePort : List LoginInfo :=
  [{ name := "pc", host := "pc.local", password := "secret" }]

theorem guarded_onePort (guarded : Guarded .empty onePort text) : text = "secret" := by
  obtain ⟨label, newest | ⟨remembered, -⟩⟩ := guarded
  · obtain ⟨login, member, -, -, same⟩ := mem_pairs_iff.mp newest.mem
    obtain rfl := List.mem_singleton.mp member
    exact same.symm
  · cases remembered

theorem isLabel_onePort (isLabel : IsLabel .empty onePort text) : text = "from: pc [pc.local]" := by
  obtain remembered | ⟨login, member, -, same⟩ := isLabel
  · cases remembered
  · obtain rfl := List.mem_singleton.mp member
    exact same.symm

theorem oneLogin_resolves :
    Resolves (machine.after ([] ++ [(.indexed, onePort)])) onePort := by
  have single : OneClash .empty onePort := fun _ _ first second =>
    (isLabel_onePort second.1).trans (isLabel_onePort first.1).symm
  refine ((@resolves_iff [] _ rfl onePort).1 single .indexed).mpr (Or.inl ⟨?_, ?_⟩)
  · refine ⟨"from: pc [pc.local]", Or.inr ⟨_, List.mem_cons_self, by decide, by decide⟩, ?_⟩
    exact fun guarded => absurd (guarded_onePort guarded) (by decide)
  · constructor
    · intro login member _ other otherMember _
      rw [List.mem_singleton.mp member, List.mem_singleton.mp otherMember]
    · intro login member _ empty
      rw [List.mem_singleton.mp member] at empty
      exact absurd empty (by decide)
    · intro label remembered
      cases remembered
    · intro login member isLabel
      rw [List.mem_singleton.mp member] at isLabel
      exact absurd (isLabel_onePort isLabel) (by decide)

/-- Two logins of one name and host, such as of two ports. -/
def twoPorts : List LoginInfo :=
  [{ name := "pc", host := "pc.local", password := "first" },
   { name := "pc", host := "pc.local", password := "second" }]

theorem wrong_password_picked :
    (machine.after [(.indexed, twoPorts)]).map (·.passwordAdapter) = some ["from: pc [pc.local]"] ∧
      (machine.after [(.indexed, twoPorts)]).map (·.getRealPassword "from: pc [pc.local]") =
        some "second" ∧
      ¬Resolves (machine.after [(.indexed, twoPorts)]) twoPorts := by
  have offered : (machine.after [(.indexed, twoPorts)]).map (·.passwordAdapter) =
      some ["from: pc [pc.local]"] := by decide +kernel
  have found : (machine.after [(.indexed, twoPorts)]).map
      (·.getRealPassword "from: pc [pc.local]") = some "second" := by decide +kernel
  refine ⟨offered, found, fun ⟨fragment, reached, resolved⟩ => ?_⟩
  rw [reached, Option.map_some, Option.some_inj] at offered found
  have picked := resolved.picked { name := "pc", host := "pc.local", password := "first" }
    List.mem_cons_self (by rw [offered]; exact List.mem_cons_self)
  exact absurd (found.symm.trans picked) (by decide +kernel)

end LoginFragment

end TermPlux
