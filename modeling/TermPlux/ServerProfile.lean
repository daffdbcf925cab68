/-
This file models `ServerProfile`, the connection configuration of a server: its
properties with their defaults, the flags packed into one of them, and the JSON
object it is exported as. The object leaves out the properties that hold their
default and is read back by name.

The numbers of a document are exact rationals, and those of a `Float` are the
rationals that it can hold. How the JSON library reads a scalar is a parameter.
-/

import Mathlib.Algebra.Group.Int.Defs
import Mathlib.Algebra.Group.Nat.Defs
import Mathlib.Data.Rat.Defs
import TermPlux.MainDb
import TermPlux.RecordCodec

namespace TermPlux

/-! ### The profile -/

/-- The number as a multiple of a power of two, the least of which is `2 ^ -149`. -/
def significand (value : ℚ) (exponent : ℕ) : ℚ := value * 2 ^ 149 / 2 ^ exponent

/-- A `Float` can hold the number: as a multiple of one of its powers of two it has at most 24
bits. -/
def IsFloat (value : ℚ) : Prop :=
  ∃ exponent < 254,
    (significand value exponent).den = 1 ∧ (significand value exponent).num.natAbs < 2 ^ 24

instance : DecidablePred IsFloat := fun value =>
  inferInstanceAs (Decidable (∃ exponent < 254,
    (significand value exponent).den = 1 ∧ (significand value exponent).num.natAbs < 2 ^ 24))

/-- The numbers of a `Float`. -/
abbrev FloatNumber : Type := { value : ℚ // IsFloat value }

instance : OfNat FloatNumber 1 where
  ofNat := ⟨1, 149, by decide, by decide +kernel, by decide +kernel⟩

structure ServerProfile where
  ID : Int64 := 0
  name : String := ""
  host : String := ""
  port : Int32 := 5900
  username : String := ""
  password : String := ""
  securityType : Int32 := 0
  /-- `CHANNEL_TCP` -/
  channelType : Int32 := 1
  colorLevel : Int32 := 0
  imageQuality : Int32 := 5
  useRawEncoding : Bool := false
  zoom1 : FloatNumber := 1
  zoom2 : FloatNumber := 1
  viewOnly : Bool := false
  useLocalCursor : Bool := true
  serverTypeHint : String := ""
  /-- `FLAG_LEGACY_KEYSYM` -/
  flags : Int64 := 1
  gestureStyle : String := "auto"
  screenOrientation : String := "auto"
  useCount : Int32 := 0
  useRepeater : Bool := false
  idOnRepeater : Int32 := 0
  resizeRemoteDesktop : Bool := false
  sshHost : String := ""
  sshPort : Int32 := 22
  sshUsername : String := ""
  /-- `SSH_AUTH_KEY` -/
  sshAuthType : Int32 := 1
  sshPassword : String := ""
  sshPrivateKey : String := ""
  sshPrivateKeyPassword : String := ""
  deriving DecidableEq

namespace ServerProfile

/-! ### Columns -/

inductive ColumnType
  | long
  | int
  | float
  | boolean
  | string

/-- The values of a type. -/
def ColumnType.Kind : ColumnType → Type
  | .long => Int64
  | .int => Int32
  | .float => FloatNumber
  | .boolean => Bool
  | .string => String

instance : ∀ type : ColumnType, DecidableEq type.Kind
  | .long => inferInstanceAs (DecidableEq Int64)
  | .int => inferInstanceAs (DecidableEq Int32)
  | .float => inferInstanceAs (DecidableEq FloatNumber)
  | .boolean => inferInstanceAs (DecidableEq Bool)
  | .string => inferInstanceAs (DecidableEq String)

inductive Column
  | ID | name | host | port | username | password | securityType | channelType | colorLevel
  | imageQuality | useRawEncoding | zoom1 | zoom2 | viewOnly | useLocalCursor | serverTypeHint
  | flags | gestureStyle | screenOrientation | useCount | useRepeater | idOnRepeater
  | resizeRemoteDesktop | sshHost | sshPort | sshUsername | sshAuthType | sshPassword
  | sshPrivateKey | sshPrivateKeyPassword
  deriving DecidableEq

/-- The properties in the order of their declaration. -/
def columns : List Column :=
  [.ID, .name, .host, .port, .username, .password, .securityType, .channelType, .colorLevel,
   .imageQuality, .useRawEncoding, .zoom1, .zoom2, .viewOnly, .useLocalCursor, .serverTypeHint,
   .flags, .gestureStyle, .screenOrientation, .useCount, .useRepeater, .idOnRepeater,
   .resizeRemoteDesktop, .sshHost, .sshPort, .sshUsername, .sshAuthType, .sshPassword,
   .sshPrivateKey, .sshPrivateKeyPassword]

def Column.type : Column → ColumnType
  | .ID | .flags => .long
  | .port | .securityType | .channelType | .colorLevel | .imageQuality | .useCount
  | .idOnRepeater | .sshPort | .sshAuthType => .int
  | .zoom1 | .zoom2 => .float
  | .useRawEncoding | .viewOnly | .useLocalCursor | .useRepeater | .resizeRemoteDesktop => .boolean
  | .name | .host | .username | .password | .serverTypeHint | .gestureStyle | .screenOrientation
  | .sshHost | .sshUsername | .sshPassword | .sshPrivateKey | .sshPrivateKeyPassword => .string

def Column.label : Column → String
  | .ID => "ID"
  | .name => "name"
  | .host => "host"
  | .port => "port"
  | .username => "username"
  | .password => "password"
  | .securityType => "securityType"
  | .channelType => "channelType"
  | .colorLevel => "colorLevel"
  | .imageQuality => "imageQuality"
  | .useRawEncoding => "useRawEncoding"
  | .zoom1 => "zoom1"
  | .zoom2 => "zoom2"
  | .viewOnly => "viewOnly"
  | .useLocalCursor => "useLocalCursor"
  | .serverTypeHint => "serverTypeHint"
  | .flags => "flags"
  | .gestureStyle => "gestureStyle"
  | .screenOrientation => "screenOrientation"
  | .useCount => "useCount"
  | .useRepeater => "useRepeater"
  | .idOnRepeater => "idOnRepeater"
  | .resizeRemoteDesktop => "resizeRemoteDesktop"
  | .sshHost => "sshHost"
  | .sshPort => "sshPort"
  | .sshUsername => "sshUsername"
  | .sshAuthType => "sshAuthType"
  | .sshPassword => "sshPassword"
  | .sshPrivateKey => "sshPrivateKey"
  | .sshPrivateKeyPassword => "sshPrivateKeyPassword"

/-- The properties are the columns of the current version of the table. -/
theorem label_columns : columns.map Column.label = MainDb.schema5.map (·.name) := rfl

/-- The values of a profile, column by column. -/
def get (profile : ServerProfile) : ∀ column : Column, column.type.Kind
  | .ID => profile.ID
  | .name => profile.name
  | .host => profile.host
  | .port => profile.port
  | .username => profile.username
  | .password => profile.password
  | .securityType => profile.securityType
  | .channelType => profile.channelType
  | .colorLevel => profile.colorLevel
  | .imageQuality => profile.imageQuality
  | .useRawEncoding => profile.useRawEncoding
  | .zoom1 => profile.zoom1
  | .zoom2 => profile.zoom2
  | .viewOnly => profile.viewOnly
  | .useLocalCursor => profile.useLocalCursor
  | .serverTypeHint => profile.serverTypeHint
  | .flags => profile.flags
  | .gestureStyle => profile.gestureStyle
  | .screenOrientation => profile.screenOrientation
  | .useCount => profile.useCount
  | .useRepeater => profile.useRepeater
  | .idOnRepeater => profile.idOnRepeater
  | .resizeRemoteDesktop => profile.resizeRemoteDesktop
  | .sshHost => profile.sshHost
  | .sshPort => profile.sshPort
  | .sshUsername => profile.sshUsername
  | .sshAuthType => profile.sshAuthType
  | .sshPassword => profile.sshPassword
  | .sshPrivateKey => profile.sshPrivateKey
  | .sshPrivateKeyPassword => profile.sshPrivateKeyPassword

/-- The profile of some values. -/
def ofValues (value : ∀ column : Column, column.type.Kind) : ServerProfile where
  ID := value .ID
  name := value .name
  host := value .host
  port := value .port
  username := value .username
  password := value .password
  securityType := value .securityType
  channelType := value .channelType
  colorLevel := value .colorLevel
  imageQuality := value .imageQuality
  useRawEncoding := value .useRawEncoding
  zoom1 := value .zoom1
  zoom2 := value .zoom2
  viewOnly := value .viewOnly
  useLocalCursor := value .useLocalCursor
  serverTypeHint := value .serverTypeHint
  flags := value .flags
  gestureStyle := value .gestureStyle
  screenOrientation := value .screenOrientation
  useCount := value .useCount
  useRepeater := value .useRepeater
  idOnRepeater := value .idOnRepeater
  resizeRemoteDesktop := value .resizeRemoteDesktop
  sshHost := value .sshHost
  sshPort := value .sshPort
  sshUsername := value .sshUsername
  sshAuthType := value .sshAuthType
  sshPassword := value .sshPassword
  sshPrivateKey := value .sshPrivateKey
  sshPrivateKeyPassword := value .sshPrivateKeyPassword

/-! ### JSON -/

inductive Json
  | null
  | boolean (value : Bool)
  | number (value : ℚ)
  | string (value : String)
  | array (elements : List Json)
  | object (members : List (String × Json))

/-- What the JSON library does with the text of a document and with its scalars. -/
structure JsonLibrary where
  parse : String → Option Json
  print : Json → String
  readInteger : Json → Option ℤ
  readFloat : Json → Option FloatNumber
  readBoolean : Json → Option Bool
  readString : Json → Option String

/-- A scalar reads back as it was written. -/
structure JsonLibrary.Lawful (library : JsonLibrary) : Prop where
  readInteger : ∀ value : ℤ, library.readInteger (.number value) = some value
  readFloat : ∀ value : FloatNumber, library.readFloat (.number value) = some value
  readBoolean : ∀ value, library.readBoolean (.boolean value) = some value
  readString : ∀ value, library.readString (.string value) = some value

def writeScalar : ∀ type : ColumnType, type.Kind → Json
  | .long, (value : Int64) => .number value.toInt
  | .int, (value : Int32) => .number value.toInt
  | .float, (value : FloatNumber) => .number value
  | .boolean, value => .boolean value
  | .string, value => .string value

/-- Reads a scalar of a type. An integer out of the range of its type is refused. -/
def readScalar (library : JsonLibrary) : ∀ type : ColumnType, Json → Option type.Kind
  | .long, json =>
    (library.readInteger json).bind fun value =>
      if -2 ^ 63 ≤ value ∧ value < 2 ^ 63 then some (Int64.ofInt value) else none
  | .int, json =>
    (library.readInteger json).bind fun value =>
      if -2 ^ 31 ≤ value ∧ value < 2 ^ 31 then some (Int32.ofInt value) else none
  | .float, json => library.readFloat json
  | .boolean, json => library.readBoolean json
  | .string, json => library.readString json

/-- The serializer that the compiler plugin generates for `ServerProfile`. -/
def codec (library : JsonLibrary) :
    RecordCodec Column (fun column => column.type.Kind) Json where
  columns
  name := Column.label
  default := ({} : ServerProfile).get
  write column := writeScalar column.type
  read column := readScalar library column.type

theorem readScalar_writeScalar {library : JsonLibrary} (lawful : library.Lawful) :
    ∀ (type : ColumnType) (value : type.Kind),
      readScalar library type (writeScalar type value) = some value
  | .long, (value : Int64) => by
    show (library.readInteger (.number value.toInt)).bind _ = _
    rw [lawful.readInteger, Option.bind_some, if_pos ⟨value.le_toInt, value.toInt_lt⟩,
      Int64.ofInt_toInt]
  | .int, (value : Int32) => by
    show (library.readInteger (.number value.toInt)).bind _ = _
    rw [lawful.readInteger, Option.bind_some, if_pos ⟨value.le_toInt, value.toInt_lt⟩,
      Int32.ofInt_toInt]
  | .float, value => lawful.readFloat value
  | .boolean, value => lawful.readBoolean value
  | .string, value => lawful.readString value

theorem mem_columns (column : Column) : column ∈ columns := by
  cases column <;> decide

theorem lawful_codec {library : JsonLibrary} (lawful : library.Lawful) :
    (codec library).Lawful where
  complete := mem_columns
  named column := by cases column <;> rfl
  read_write column value := readScalar_writeScalar lawful column.type value

def encode (library : JsonLibrary) (profile : ServerProfile) : Json :=
  .object ((codec library).encode profile.get)

def decode (library : JsonLibrary) : Json → Option ServerProfile
  | .object members => ((codec library).decode members).map ofValues
  | _ => none

/-- A profile that was written reads back as it was, with its ID and all defaults. -/
theorem decode_encode {library : JsonLibrary} (lawful : library.Lawful)
    (profile : ServerProfile) : decode library (encode library profile) = some profile := by
  show ((codec library).decode ((codec library).encode profile.get)).map ofValues = _
  rw [RecordCodec.decode_encode (lawful_codec lawful)]
  rfl

end ServerProfile

end TermPlux
