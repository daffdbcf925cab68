/-
This file models the properties of a container. All containers are kept in one
list of JSON texts, which the preferences hold in memory and hand out as a copy.
Reading a property decodes the text of the current container; where the property
is absent, its default is returned and written back by a call that nobody waits
for. Setting a property decodes, patches and encodes that text. All of this
happens before the first suspension of a call, so calls that are not waited for
take effect one after the other, in the order in which they are made; what
follows the suspension only completes a future.
-/

import TermPlux.Default
import TermPlux.JsonText
import TermPlux.JsonValue
import TermPlux.Machine

namespace TermPlux.Util

/-- The errors of the property calls. -/
inductive Failure
  | rangeError
  | formatException
  | noSuchMethodError
  | argumentError
  deriving DecidableEq

/-- `Global`, as far as the properties go: the list that the preferences hold under
`containersInfo`, and the index of the current container. -/
structure Global where
  containersInfo : List String
  currentContainer : Nat
  deriving DecidableEq

variable {Number : Type} (codec : JsonCodec Number)

/-- The entries of a decoded container. -/
abbrev Members (Number : Type) := List (String × JsonValue Number)

/-! ### The calls -/

/-- The current container, decoded. -/
def decodeCurrent (global : Global) : Except Failure (Members Number) :=
  match global.containersInfo[global.currentContainer]? with
  | none => .error .rangeError
  | some text =>
    match codec.jsonDecode text with
    | none => .error .formatException
    | some (.map members) => .ok members
    | some _ => .error .noSuchMethodError

/-- The list with the current container encoded anew, as the preferences store it. -/
def storeCurrent (global : Global) (members : Members Number) : Global :=
  { global with
    containersInfo :=
      global.containersInfo.set global.currentContainer (codec.jsonEncode (.map members)) }

/-- Adds a key, or overwrites it. -/
def addCurrentProp (global : Global) (key : String) (value : JsonValue Number) :
    Except Failure Global :=
  (decodeCurrent codec global).map fun members =>
    storeCurrent codec global (LinkedMap.put members key value)

/-- Overwrites a key, which must be there. -/
def setCurrentProp (global : Global) (key : String) (value : JsonValue Number) :
    Except Failure Global :=
  (decodeCurrent codec global).bind fun members =>
    if LinkedMap.containsKey members key then
      .ok (storeCurrent codec global (LinkedMap.update members key value))
    else .error .argumentError

/-- The state after a call that nobody waits for: one that fails has stored nothing. -/
def unawaited (global : Global) (call : Except Failure Global) : Global :=
  match call with
  | .ok stored => stored
  | .error _ => global

/-- A quick command, as it stands in the list. -/
def command (name text : String) : JsonValue Number :=
  .map [("name", .string name), ("command", .string text)]

/-- `Default.commands` -/
def defaultCommands : JsonValue Number :=
  .list (Default.commands.map fun entry => command entry.1 entry.2)

/-- The default of a property. -/
def defaultProp : String → Option (JsonValue Number)
  | "name" => some (.string "Debian Bookworm")
  | "boot" => some (.string Default.boot)
  | "vnc" => some (.string "startnovnc &")
  | "vncUrl" =>
    some (.string ("http://localhost:36082/vnc.html?" ++
      "host=localhost&port=36082&autoconnect=true&resize=remote&password=12345678"))
  | "vncUri" => some (.string "vnc://127.0.0.1:5904?VncPassword=12345678&SecurityType=2")
  | "commands" => some defaultCommands
  | _ => none

/-- The properties that have a default. -/
def propertyKeys : List String := ["name", "boot", "vnc", "vncUrl", "vncUri", "commands"]

/-- The value that a `get` returns for an absent property. That of `commands` is a copy. -/
def freshDefault (key : String) : Option (Except Failure (JsonValue Number)) :=
  (defaultProp key).map fun value =>
    if key = "commands" then
      match codec.jsonDecode (codec.jsonEncode value) with
      | some copy => .ok copy
      | none => .error .formatException
    else .ok value

/-- The value of a property, and the state after the default was written back. -/
def getCurrentProp (global : Global) (key : String) :
    Except Failure (JsonValue Number × Global) :=
  (decodeCurrent codec global).bind fun members =>
    match members.lookup key with
    | some value => .ok (value, global)
    | none =>
      match freshDefault codec key with
      | some (.ok value) => .ok (value, unawaited global (addCurrentProp codec global key value))
      | some (.error failure) => .error failure
      | none => .ok (.null, global)

/-! ### Editing the quick commands -/

/-- The state after an edit of the list of quick commands. An edit that throws leaves the list as
it was read. -/
def editCommands (global : Global)
    (edit : List (JsonValue Number) → Except Failure (List (JsonValue Number))) : Global :=
  match getCurrentProp codec global "commands" with
  | .ok (.list elements, read) =>
    match edit elements with
    | .ok edited => unawaited read (setCurrentProp codec read "commands" (.list edited))
    | .error _ => read
  | .ok (_, read) => read
  | .error _ => global

def removeAt (index : Nat) (elements : List (JsonValue Number)) :
    Except Failure (List (JsonValue Number)) :=
  if index < elements.length then .ok (elements.eraseIdx index) else .error .rangeError

def replaceAt (index : Nat) (name text : String) (elements : List (JsonValue Number)) :
    Except Failure (List (JsonValue Number)) :=
  if index < elements.length then .ok (elements.set index (command name text))
  else .error .rangeError

def append (name text : String) (elements : List (JsonValue Number)) :
    Except Failure (List (JsonValue Number)) :=
  .ok (elements ++ [command name text])

/-! ### Runs of calls -/

/-- A call from the user interface. -/
inductive Call (Number : Type)
  | getCurrentProp (key : String)
  | setCurrentProp (key : String) (value : JsonValue Number)
  | deleteCommand (index : Nat)
  | saveCommand (index : Nat) (name text : String)
  | addCommand (name text : String)

def Call.step (global : Global) : Call Number → Global
  | .getCurrentProp key =>
    match Util.getCurrentProp codec global key with
    | .ok (_, read) => read
    | .error _ => global
  | .setCurrentProp key value => unawaited global (Util.setCurrentProp codec global key value)
  | .deleteCommand index => editCommands codec global (removeAt index)
  | .saveCommand index name text => editCommands codec global (replaceAt index name text)
  | .addCommand name text => editCommands codec global (append name text)

/-- The values that are set are values of the language. -/
def Call.Proper : Call Number → Prop
  | .setCurrentProp _ value => value.Proper
  | _ => True

/-- The key that a call sets. -/
def Call.sets : Call Number → Option String
  | .getCurrentProp _ => none
  | .setCurrentProp key _ => some key
  | .deleteCommand _ | .saveCommand .. | .addCommand .. => some "commands"

/-- The key that a call reads or sets. -/
def Call.key : Call Number → String
  | .getCurrentProp key => key
  | .setCurrentProp key _ => key
  | .deleteCommand _ | .saveCommand .. | .addCommand .. => "commands"

/-- The calls take effect in the order in which they are made. -/
def machine (start : Global) : Machine Global (Call Number) where
  start := start
  enabled _ call := call.Proper
  step := Call.step codec

/-! ### What the calls promise -/

/-- The stored value of a property. -/
def stored (global : Global) (key : String) : Option (JsonValue Number) :=
  match decodeCurrent codec global with
  | .ok members => members.lookup key
  | .error _ => none

/-- The current container is there, and a JSON object. -/
def Opened (global : Global) : Prop :=
  ∃ members, decodeCurrent codec global = .ok members

/-- All that differs is the values of some keys in the current container. -/
structure ChangesOnly (touched : String → Prop) (before after : Global) : Prop where
  container : after.currentContainer = before.currentContainer
  others : ∀ index, index ≠ before.currentContainer →
    after.containersInfo[index]? = before.containersInfo[index]?
  keys : ∀ key, ¬touched key → stored codec after key = stored codec before key

/-- A property reads as the stored value or the default, and reads the same again; at most this
property changes. -/
def GetLaw (global : Global) (key : String) : Prop :=
  ∃ value read, getCurrentProp codec global key = .ok (value, read) ∧
    (stored codec global key).or (defaultProp key) = some value ∧
    getCurrentProp codec read key = .ok (value, read) ∧
    ChangesOnly codec (· = key) global read

/-- A property that was set reads as the new value, no other one changes, and a later set finds
things as if it were the only one. -/
def SetLaw (global : Global) (key : String) (value : JsonValue Number) : Prop :=
  ∃ after, setCurrentProp codec global key value = .ok after ∧
    getCurrentProp codec after key = .ok (value, after) ∧
    ChangesOnly codec (· = key) global after ∧
    ∀ later, setCurrentProp codec after key later = setCurrentProp codec global key later

/-! ### One store -/

variable {codec} {global before after read : Global} {members patched : Members Number}
  {key : String} {value : JsonValue Number}

theorem decodeCurrent_eq_ok_iff :
    decodeCurrent codec global = .ok members ↔
      ∃ text, global.containersInfo[global.currentContainer]? = some text ∧
        codec.jsonDecode text = some (.map members) := by
  unfold decodeCurrent
  constructor
  · intro decoded
    split at decoded
    next => cases decoded
    next text found =>
      refine ⟨text, found, ?_⟩
      split at decoded
      next => cases decoded
      next parsed => rw [parsed, Except.ok.inj decoded]
      next => cases decoded
  · rintro ⟨text, found, parsed⟩
    rw [found]
    dsimp only
    rw [parsed]

theorem proper_of_decodeCurrent (lawful : codec.Lawful)
    (decoded : decodeCurrent codec global = .ok members) : (JsonValue.map members).Proper := by
  obtain ⟨text, -, parsed⟩ := decodeCurrent_eq_ok_iff.mp decoded
  exact lawful.proper text _ parsed

theorem stored_eq (decoded : decodeCurrent codec global = .ok members) (key : String) :
    stored codec global key = members.lookup key := by
  unfold stored
  rw [decoded]

theorem storeCurrent_other {index : Nat} (other : index ≠ global.currentContainer) :
    (storeCurrent codec global patched).containersInfo[index]? = global.containersInfo[index]? :=
  List.getElem?_set_ne (Ne.symm other)

/-- The container that was stored decodes to what was stored. -/
theorem decodeCurrent_storeCurrent (lawful : codec.Lawful)
    (decoded : decodeCurrent codec global = .ok members) (proper : (JsonValue.map patched).Proper) :
    decodeCurrent codec (storeCurrent codec global patched) = .ok patched := by
  obtain ⟨text, found, -⟩ := decodeCurrent_eq_ok_iff.mp decoded
  obtain ⟨inRange, -⟩ := List.getElem?_eq_some_iff.mp found
  exact decodeCurrent_eq_ok_iff.mpr
    ⟨_, List.getElem?_set_self inRange, lawful.inverts _ proper⟩

/-- One key of the current container has been given a value. -/
def Stores (codec : JsonCodec Number) (key : String) (value : JsonValue Number)
    (before after : Global) : Prop :=
  ∃ members, decodeCurrent codec before = .ok members ∧
    after = storeCurrent codec before (LinkedMap.put members key value)

theorem Stores.decodeCurrent (lawful : codec.Lawful) (stores : Stores codec key value before after)
    (fits : value.Proper) :
    ∃ members, Util.decodeCurrent codec before = .ok members ∧
      Util.decodeCurrent codec after = .ok (LinkedMap.put members key value) := by
  obtain ⟨members, decoded, rfl⟩ := stores
  have proper := (proper_of_decodeCurrent lawful decoded).put key fits
  exact ⟨members, decoded, decodeCurrent_storeCurrent lawful decoded proper⟩

theorem Stores.stored_eq (lawful : codec.Lawful) (stores : Stores codec key value before after)
    (fits : value.Proper) : stored codec after key = some value := by
  obtain ⟨members, -, decoded⟩ := stores.decodeCurrent lawful fits
  rw [Util.stored_eq decoded, LinkedMap.lookup_put]

/-- The container is still there, and at most one key has another value. -/
structure Patches (codec : JsonCodec Number) (key : String) (before after : Global) : Prop where
  opened : Opened codec after
  changes : ChangesOnly codec (· = key) before after

theorem Stores.patches (lawful : codec.Lawful) (stores : Stores codec key value before after)
    (fits : value.Proper) : Patches codec key before after := by
  obtain ⟨members, decoded, opened⟩ := stores.decodeCurrent lawful fits
  refine ⟨⟨_, opened⟩, ?_, ?_, ?_⟩
  · obtain ⟨-, -, rfl⟩ := stores
    rfl
  · intro index other
    obtain ⟨-, -, rfl⟩ := stores
    exact storeCurrent_other other
  · intro other different
    rw [Util.stored_eq opened, Util.stored_eq decoded, LinkedMap.lookup_put_of_ne different]

theorem ChangesOnly.refl (touched : String → Prop) (global : Global) :
    ChangesOnly codec touched global global where
  container := rfl
  others _ _ := rfl
  keys _ _ := rfl

theorem ChangesOnly.trans {touched : String → Prop} (first : ChangesOnly codec touched before read)
    (second : ChangesOnly codec touched read after) : ChangesOnly codec touched before after where
  container := second.container.trans first.container
  others index other :=
    (second.others index (first.container ▸ other)).trans (first.others index other)
  keys key untouched := (second.keys key untouched).trans (first.keys key untouched)

theorem ChangesOnly.mono {touched more : String → Prop} (changes : ChangesOnly codec touched before
    after) (grows : ∀ key, touched key → more key) : ChangesOnly codec more before after :=
  { changes with keys := fun key untouched => changes.keys key fun held => untouched (grows key held) }

theorem Patches.refl (opened : Opened codec global) : Patches codec key global global :=
  ⟨opened, .refl _ _⟩

theorem Patches.trans (first : Patches codec key before read)
    (second : Patches codec key read after) : Patches codec key before after :=
  ⟨second.opened, first.changes.trans second.changes⟩

/-! ### The defaults -/

theorem proper_command (name text : String) : (command name text : JsonValue Number).Proper := by
  refine .map (show ["name", "command"].Nodup by decide) fun member listed => ?_
  rcases List.mem_pair.mp listed with rfl | rfl
  · exact .string name
  · exact .string text

theorem proper_defaultCommands : (defaultCommands : JsonValue Number).Proper := by
  refine .list fun element listed => ?_
  obtain ⟨entry, -, rfl⟩ := List.mem_map.mp listed
  exact proper_command entry.1 entry.2

/-- Every default is a value that can be stored. -/
theorem proper_of_defaultProp (default : defaultProp key = some value) : value.Proper := by
  unfold defaultProp at default
  split at default
  case h_6 => exact Option.some.inj default ▸ proper_defaultCommands
  case h_7 => cases default
  all_goals exact Option.some.inj default ▸ .string _

theorem exists_defaultProp (known : key ∈ propertyKeys) :
    ∃ value : JsonValue Number, defaultProp key = some value := by
  unfold propertyKeys at known
  simp only [List.mem_cons, List.not_mem_nil, or_false] at known
  rcases known with rfl | rfl | rfl | rfl | rfl | rfl
  all_goals exact ⟨_, rfl⟩

theorem freshDefault_eq (lawful : codec.Lawful) (key : String) :
    freshDefault codec key = (defaultProp key).map .ok := by
  unfold freshDefault
  refine Option.map_congr fun value default => ?_
  rw [lawful.inverts value (proper_of_defaultProp default)]
  split <;> rfl

/-! ### One call -/

theorem getCurrentProp_of_stored (held : stored codec global key = some value) :
    getCurrentProp codec global key = .ok (value, global) := by
  unfold stored at held
  unfold getCurrentProp
  split at held
  next members decoded =>
    rw [decoded]
    show (match members.lookup key with | some value => _ | none => _) = _
    rw [held]
  next => cases held

/-- An absent property reads as its default, which is stored. -/
theorem getCurrentProp_of_default (lawful : codec.Lawful)
    (decoded : decodeCurrent codec global = .ok members) (absent : members.lookup key = none)
    (default : defaultProp key = some value) :
    getCurrentProp codec global key =
      .ok (value, storeCurrent codec global (LinkedMap.put members key value)) := by
  unfold getCurrentProp addCurrentProp
  rw [freshDefault_eq lawful, default, decoded]
  show (match members.lookup key with | some value => _ | none => _) = _
  rw [absent]
  rfl

theorem getCurrentProp_of_unknown (decoded : decodeCurrent codec global = .ok members)
    (absent : members.lookup key = none)
    (unknown : (defaultProp key : Option (JsonValue Number)) = none) :
    getCurrentProp codec global key = .ok ((.null : JsonValue Number), global) := by
  unfold getCurrentProp freshDefault
  rw [unknown, decoded]
  show (match members.lookup key with | some value => _ | none => _) = _
  rw [absent]
  rfl

/-- What reading a property does: it finds the value, or stores the default, or finds neither. -/
theorem getCurrentProp_cases (lawful : codec.Lawful) (opened : Opened codec global) (key : String) :
    (∃ value, stored codec global key = some value ∧
      getCurrentProp codec global key = .ok (value, global)) ∨
    (∃ value read, stored codec global key = none ∧ defaultProp key = some value ∧
      getCurrentProp codec global key = .ok (value, read) ∧ Stores codec key value global read) ∨
    ((defaultProp key : Option (JsonValue Number)) = none ∧
      getCurrentProp codec global key = .ok (.null, global)) := by
  obtain ⟨members, decoded⟩ := opened
  have held := stored_eq decoded key
  cases found : members.lookup key with
  | some value =>
    have present := held.trans found
    exact .inl ⟨value, present, getCurrentProp_of_stored present⟩
  | none =>
    cases default : defaultProp key with
    | some value =>
      refine .inr (.inl ⟨value, _, held.trans found, rfl, ?_, members, decoded, rfl⟩)
      exact getCurrentProp_of_default lawful decoded found default
    | none => exact .inr (.inr ⟨rfl, getCurrentProp_of_unknown decoded found default⟩)

theorem setCurrentProp_of_stored (value : JsonValue Number)
    (decoded : decodeCurrent codec global = .ok members)
    (present : (stored codec global key).isSome) :
    setCurrentProp codec global key value =
      .ok (storeCurrent codec global (LinkedMap.update members key value)) := by
  rw [stored_eq decoded] at present
  unfold setCurrentProp
  rw [decoded]
  exact if_pos present

/-- A set goes through just when the property is present. -/
theorem setCurrentProp_eq_ok_iff :
    setCurrentProp codec global key value = .ok after ↔
      (stored codec global key).isSome ∧ Stores codec key value global after := by
  constructor
  · intro set
    unfold setCurrentProp at set
    cases decoded : decodeCurrent codec global with
    | error failure =>
      rw [decoded] at set
      cases set
    | ok members =>
      rw [decoded] at set
      replace set : (if LinkedMap.containsKey members key then _ else _) = Except.ok after := set
      split at set
      next present =>
        refine ⟨(stored_eq decoded key).symm ▸ present, members, decoded, ?_⟩
        unfold LinkedMap.put
        rw [if_pos present]
        exact (Except.ok.inj set).symm
      next => cases set
  · rintro ⟨present, members, decoded, rfl⟩
    have contains : LinkedMap.containsKey members key := by
      rw [stored_eq decoded] at present
      exact present
    unfold LinkedMap.put
    rw [if_pos contains]
    exact setCurrentProp_of_stored _ decoded present

/-! ### The laws of one call -/

theorem getLaw (lawful : codec.Lawful) (opened : Opened codec global)
    (known : key ∈ propertyKeys) : GetLaw codec global key := by
  rcases getCurrentProp_cases lawful opened key with
    ⟨value, held, got⟩ | ⟨value, read, absent, default, got, stores⟩ |
      ⟨unknown, -⟩
  · exact ⟨value, global, got, by rw [held, Option.some_or], got, .refl _ _⟩
  · have fits := proper_of_defaultProp default
    refine ⟨value, read, got, by rw [absent, Option.none_or, default], ?_, ?_⟩
    · exact getCurrentProp_of_stored (stores.stored_eq lawful fits)
    · exact (stores.patches lawful fits).changes
  · obtain ⟨value, default⟩ := exists_defaultProp known
    exact absurd (default.symm.trans unknown) (Option.some_ne_none value)

theorem storeCurrent_storeCurrent (global : Global) (members patched : Members Number) :
    storeCurrent codec (storeCurrent codec global members) patched =
      storeCurrent codec global patched := by
  unfold storeCurrent
  rw [List.set_set]

theorem setLaw (lawful : codec.Lawful) (fits : value.Proper)
    (present : (stored codec global key).isSome) (opened : Opened codec global) :
    SetLaw codec global key value := by
  obtain ⟨members, decoded⟩ := opened
  have set := setCurrentProp_of_stored value decoded present
  obtain ⟨-, stores⟩ := setCurrentProp_eq_ok_iff.mp set
  have held := stores.stored_eq lawful fits
  refine ⟨_, set, getCurrentProp_of_stored held, (stores.patches lawful fits).changes, ?_⟩
  intro later
  have proper := (proper_of_decodeCurrent lawful decoded).update key fits
  have again := decodeCurrent_storeCurrent lawful decoded proper
  rw [setCurrentProp_of_stored later again (by rw [held]; rfl), setCurrentProp_of_stored _ decoded present,
    LinkedMap.update_update, storeCurrent_storeCurrent]

/-! ### The steps of a run -/

theorem patches_getCurrentProp (lawful : codec.Lawful) (opened : Opened codec global)
    (got : getCurrentProp codec global key = .ok (value, read)) :
    Patches codec key global read := by
  rcases getCurrentProp_cases lawful opened key with
    ⟨_, -, same⟩ | ⟨_, _, -, default, same, stores⟩ | ⟨-, same⟩
  · cases got.symm.trans same
    exact .refl opened
  · cases got.symm.trans same
    exact stores.patches lawful (proper_of_defaultProp default)
  · cases got.symm.trans same
    exact .refl opened

theorem stored_getCurrentProp (lawful : codec.Lawful) (opened : Opened codec global)
    (known : key ∈ propertyKeys) (got : getCurrentProp codec global key = .ok (value, read)) :
    stored codec read key = some value := by
  rcases getCurrentProp_cases lawful opened key with
    ⟨_, held, same⟩ | ⟨_, _, -, default, same, stores⟩ | ⟨unknown, -⟩
  · cases got.symm.trans same
    exact held
  · cases got.symm.trans same
    exact stores.stored_eq lawful (proper_of_defaultProp default)
  · obtain ⟨value, default⟩ := exists_defaultProp known
    exact absurd (default.symm.trans unknown) (Option.some_ne_none value)

theorem proper_getCurrentProp (lawful : codec.Lawful) (opened : Opened codec global)
    (got : getCurrentProp codec global key = .ok (value, read)) : value.Proper := by
  rcases getCurrentProp_cases lawful opened key with
    ⟨_, held, same⟩ | ⟨_, _, -, default, same, -⟩ | ⟨-, same⟩
  · cases got.symm.trans same
    obtain ⟨members, decoded⟩ := opened
    rw [stored_eq decoded] at held
    exact (proper_of_decodeCurrent lawful decoded).lookup held
  · cases got.symm.trans same
    exact proper_of_defaultProp default
  · cases got.symm.trans same
    exact .null

theorem patches_unawaited_setCurrentProp (lawful : codec.Lawful) (opened : Opened codec global)
    (fits : value.Proper) :
    Patches codec key global (unawaited global (setCurrentProp codec global key value)) := by
  cases set : setCurrentProp codec global key value with
  | error failure => exact .refl opened
  | ok after => exact (setCurrentProp_eq_ok_iff.mp set).2.patches lawful fits

/-- An edit gives a list of proper elements where it is given one. -/
def EditsProper (edit : List (JsonValue Number) → Except Failure (List (JsonValue Number))) :
    Prop :=
  ∀ elements edited, (JsonValue.list elements).Proper → edit elements = .ok edited →
    (JsonValue.list edited).Proper

theorem patches_editCommands (lawful : codec.Lawful) (opened : Opened codec global)
    {edit : List (JsonValue Number) → Except Failure (List (JsonValue Number))}
    (edits : EditsProper edit) :
    Patches codec "commands" global (editCommands codec global edit) := by
  unfold editCommands
  split
  next elements read got =>
    have patches := patches_getCurrentProp lawful opened got
    have proper := proper_getCurrentProp lawful opened got
    split
    next edited result =>
      exact patches.trans
        (patches_unawaited_setCurrentProp lawful patches.opened (edits _ _ proper result))
    next => exact patches
  next got => exact patches_getCurrentProp lawful opened got
  next => exact .refl opened

/-- An edit that goes through stores the edited list. -/
theorem stored_editCommands (lawful : codec.Lawful) (opened : Opened codec global)
    {edit : List (JsonValue Number) → Except Failure (List (JsonValue Number))}
    (edits : EditsProper edit) {elements edited : List (JsonValue Number)}
    (got : getCurrentProp codec global "commands" = .ok (.list elements, read))
    (result : edit elements = .ok edited) :
    stored codec (editCommands codec global edit) "commands" = some (.list edited) := by
  have held := stored_getCurrentProp lawful opened (by decide) got
  have fits := edits _ _ (proper_getCurrentProp lawful opened got) result
  obtain ⟨members, decoded⟩ := (patches_getCurrentProp lawful opened got).opened
  have set := setCurrentProp_of_stored (.list edited) decoded (by rw [held]; rfl)
  have stores := (setCurrentProp_eq_ok_iff.mp set).2
  unfold editCommands
  rw [got]
  dsimp only
  rw [result]
  dsimp only
  rw [set]
  exact stores.stored_eq lawful fits

theorem editsProper_removeAt (index : Nat) : @EditsProper Number (removeAt index) := by
  intro elements edited proper result
  unfold removeAt at result
  split at result
  · cases result
    exact .list fun element listed => proper.element element (List.mem_of_mem_eraseIdx listed)
  · cases result

theorem editsProper_replaceAt (index : Nat) (name text : String) :
    @EditsProper Number (replaceAt index name text) := by
  intro elements edited proper result
  unfold replaceAt at result
  split at result
  · cases result
    refine .list fun element listed => ?_
    rcases List.mem_or_eq_of_mem_set listed with held | rfl
    · exact proper.element element held
    · exact proper_command name text
  · cases result

theorem editsProper_append (name text : String) :
    @EditsProper Number (append name text) := by
  intro elements edited proper result
  cases result
  refine .list fun element listed => ?_
  rcases List.mem_append.mp listed with held | last
  · exact proper.element element held
  · exact List.mem_singleton.mp last ▸ proper_command name text

/-- A call changes at most the property that it reads or sets. -/
theorem patches_step (lawful : codec.Lawful) (opened : Opened codec global) {call : Call Number}
    (proper : call.Proper) : Patches codec call.key global (call.step codec global) := by
  cases call with
  | getCurrentProp key =>
    show Patches codec key global
      (match getCurrentProp codec global key with | .ok (_, read) => read | .error _ => global)
    split
    next got => exact patches_getCurrentProp lawful opened got
    next => exact .refl opened
  | setCurrentProp key value => exact patches_unawaited_setCurrentProp lawful opened proper
  | deleteCommand index => exact patches_editCommands lawful opened (editsProper_removeAt index)
  | saveCommand index name text =>
    exact patches_editCommands lawful opened (editsProper_replaceAt index name text)
  | addCommand name text =>
    exact patches_editCommands lawful opened (editsProper_append name text)

/-- A stored value stays until a call sets the property. -/
theorem stored_step (lawful : codec.Lawful) (opened : Opened codec global) {call : Call Number}
    (proper : call.Proper) (held : stored codec global key = some value)
    (spared : call.sets ≠ some key) : stored codec (call.step codec global) key = some value := by
  by_cases same : key = call.key
  · cases call with
    | getCurrentProp =>
      subst same
      show stored codec
        (match getCurrentProp codec global _ with | .ok (_, read) => read | .error _ => global) _ = _
      rw [getCurrentProp_of_stored held]
      exact held
    | _ => exact absurd (congrArg some same.symm) spared
  · exact ((patches_step lawful opened proper).changes.keys key same).trans held

/-! ### The laws of a run -/

theorem run_changes (lawful : codec.Lawful) {start : Global} (opened : Opened codec start)
    {calls : List (Call Number)} (run : (machine codec start).Run calls) :
    Opened codec ((machine codec start).after calls) ∧
      ChangesOnly codec (fun key => ∃ call ∈ calls, call.key = key) start
        ((machine codec start).after calls) := by
  refine Machine.Run.history
    (fun past global => Opened codec global ∧
      ChangesOnly codec (fun key => ∃ call ∈ past, call.key = key) start global)
    ⟨opened, .refl _ _⟩ (fun past global call held proper => ?_) run
  obtain ⟨here, changes⟩ := held
  have patches := patches_step lawful here proper
  refine ⟨patches.opened, (changes.mono ?_).trans (patches.changes.mono ?_)⟩
  · rintro key ⟨earlier, listed, touched⟩
    exact ⟨earlier, List.mem_append_left _ listed, touched⟩
  · rintro key rfl
    exact ⟨call, List.mem_append_right _ List.mem_cons_self, rfl⟩

/-- A stored value stays through calls that do not set the property. -/
theorem run_stored (lawful : codec.Lawful) {start : Global} (opened : Opened codec start)
    (held : stored codec start key = some value) {calls : List (Call Number)}
    (run : (machine codec start).Run calls) (spared : ∀ call ∈ calls, call.sets ≠ some key) :
    stored codec ((machine codec start).after calls) key = some value := by
  have kept := Machine.Run.history
    (fun past global => Opened codec global ∧
      ((∀ call ∈ past, call.sets ≠ some key) → stored codec global key = some value))
    ⟨opened, fun _ => held⟩ (fun past global call holds proper => ?_) run
  · exact kept.2 spared
  · refine ⟨(patches_step lawful holds.1 proper).opened, fun free => ?_⟩
    have earlier := holds.2 fun call listed => free call (List.mem_append_left _ listed)
    exact stored_step lawful holds.1 proper earlier
      (free call (List.mem_append_right _ List.mem_cons_self))

/-- After any calls from an open container: each property reads by the law of reading, each
present one is set by the law of setting, what differs from the start is the properties that
were named, in the current container, and a set that went through is read until another call
sets that property. -/
theorem props_lawful (codec : JsonCodec Number) (lawful : codec.Lawful) (start : Global)
    (opened : Opened codec start) (calls : List (Call Number))
    (run : (machine codec start).Run calls) :
    let global := (machine codec start).after calls
    (∀ key ∈ propertyKeys, GetLaw codec global key) ∧
      (∀ key value, value.Proper → (stored codec global key).isSome →
        SetLaw codec global key value) ∧
      ChangesOnly codec (fun key => ∃ call ∈ calls, call.key = key) start global ∧
      ∀ key value set later, value.Proper → setCurrentProp codec global key value = .ok set →
        (machine codec set).Run later → (∀ call ∈ later, call.sets ≠ some key) →
        getCurrentProp codec ((machine codec set).after later) key =
          .ok (value, (machine codec set).after later) := by
  obtain ⟨here, changes⟩ := run_changes lawful opened run
  refine ⟨fun key known => getLaw lawful here known,
    fun key value fits present => setLaw lawful fits present here, changes, ?_⟩
  intro key value set later fits went run spared
  obtain ⟨-, stores⟩ := setCurrentProp_eq_ok_iff.mp went
  have opened := (stores.patches lawful fits).opened
  exact getCurrentProp_of_stored
    (run_stored lawful opened (stores.stored_eq lawful fits) run spared)

/-- Two containers, the first of which is current. -/
def debian : Members Empty :=
  [("name", .string "Debian Bookworm"), ("vnc", .string "startnovnc &")]

noncomputable def twoContainers : Global where
  containersInfo :=
    [JsonText.codec.jsonEncode (.map debian),
      JsonText.codec.jsonEncode (.map [("name", .string "Second")])]
  currentContainer := 0

theorem decodeCurrent_twoContainers :
    decodeCurrent JsonText.codec twoContainers = .ok debian := by
  refine decodeCurrent_eq_ok_iff.mpr ⟨_, rfl, JsonText.lawful_codec.inverts _ ?_⟩
  refine .map (show ["name", "vnc"].Nodup by decide) fun member listed => ?_
  rcases List.mem_pair.mp listed with rfl | rfl
  · exact .string _
  · exact .string _

/-- After the VNC address was read, which stores its default, the quick commands read by the law
of reading, and the name is set by the law of setting. -/
theorem props_lawful_twoContainers :
    let global := (machine JsonText.codec twoContainers).after [.getCurrentProp "vncUri"]
    GetLaw JsonText.codec global "commands" ∧
      SetLaw JsonText.codec global "name" (.string "Kitchen") := by
  obtain ⟨reads, sets, changes, -⟩ :=
    props_lawful JsonText.codec JsonText.lawful_codec twoContainers
      ⟨debian, decodeCurrent_twoContainers⟩ [.getCurrentProp "vncUri"] ⟨trivial, trivial⟩
  refine ⟨reads "commands" (by decide), sets "name" _ (.string _) ?_⟩
  have untouched : ¬∃ call ∈ [(.getCurrentProp "vncUri" : Call Empty)], call.key = "name" := by
    rintro ⟨call, listed, named⟩
    rw [List.mem_singleton.mp listed] at named
    exact absurd named (by decide)
  rw [changes.keys "name" untouched, stored_eq decodeCurrent_twoContainers]
  rfl

end TermPlux.Util
