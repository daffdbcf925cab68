/-
This file models what the shell commands of the settings page use: a string literal
of Dart, a word in double quotes, `grep -qF` and a deletion by `sed -i`. A text is
its bytes, each written as the character of that number. A sed script is a context
address with a delimiter of its own and a function; one that does not parse leaves
the file as it is, and one that does deletes the lines that its address selects.
-/

import TermPlux.TextLines
import Mathlib.Data.List.Infix

namespace TermPlux.ShellCommands

/-! ### Words -/

/-- An escape of a Dart string, apart from those by number. -/
def dartEscape : Char → Char
  | 'n' => '\n'
  | 'r' => '\r'
  | 't' => '\t'
  | escaped => escaped

/-- The characters of a Dart string literal without interpolations. -/
def dartString : List Char → List Char
  | [] => []
  | '\\' :: escaped :: rest => dartEscape escaped :: dartString rest
  | symbol :: rest => symbol :: dartString rest

def isNameCharacter (symbol : Char) : Bool := symbol.isAlphanum || symbol == '_'

/-- In double quotes a backslash stands for the next character only before one of these. -/
def isQuotable (symbol : Char) : Bool :=
  symbol == '$' || symbol == Char.ofNat 96 || symbol == '"' || symbol == '\\'

/-- A word of the shell in double quotes whose only expansions are plain variables. The number
counts the characters that were read already. -/
def doubleQuoted (value : List Char → List Char) : Nat → List Char → List Char
  | _, [] => []
  | skipped + 1, _ :: rest => doubleQuoted value skipped rest
  | 0, '\\' :: rest =>
    match rest.head? with
    | some '\n' => doubleQuoted value 1 rest
    | some symbol =>
      if isQuotable symbol then symbol :: doubleQuoted value 1 rest
      else '\\' :: doubleQuoted value 0 rest
    | none => ['\\']
  | 0, '$' :: rest =>
    let name := rest.takeWhile isNameCharacter
    if name.isEmpty then '$' :: doubleQuoted value 0 rest
    else value name ++ doubleQuoted value name.length rest
  | 0, symbol :: rest => symbol :: doubleQuoted value 0 rest

/-! ### `grep -qF` -/

/-- Some line contains the text that is looked for. -/
def grep (sought content : List Char) : Bool :=
  (TextLines.lines '\n' content).any fun line => decide (sought <:+: line)

theorem grep_iff {sought content : List Char} :
    grep sought content = true ↔ ∃ line ∈ TextLines.lines '\n' content, sought <:+: line := by
  simp only [grep, List.any_eq_true, decide_eq_true_eq]

/-! ### `echo >>` -/

/-- The echoed text has no backslash. -/
def echoAppend (echoed content : List Char) : List Char := content ++ (echoed ++ ['\n'])

/-! ### `sed -i` -/

/-- One place of a basic regular expression without brackets, stars and anchors. -/
inductive Atom
  | any
  | symbol (symbol : Char)
  deriving DecidableEq

def atoms : List Char → List Atom
  | [] => []
  | '\\' :: escaped :: rest => .symbol escaped :: atoms rest
  | '.' :: rest => .any :: atoms rest
  | symbol :: rest => .symbol symbol :: atoms rest

def startsWith : List Atom → List Char → Bool
  | [], _ => true
  | .any :: expression, _ :: line => startsWith expression line
  | .symbol symbol :: expression, first :: line => symbol == first && startsWith expression line
  | _ :: _, [] => false

/-- The expression matches somewhere in the line. -/
def selects (expression : List Atom) (line : List Char) : Bool :=
  line.tails.any fun suffix => startsWith expression suffix

/-- The expression of an address, where an escaped delimiter is the delimiter itself, and what
follows the delimiter that ends it. -/
def contextAddress (delimiter : Char) : List Char → Option (List Char × List Char)
  | [] => none
  | '\\' :: escaped :: rest =>
    let read := if escaped = delimiter then [escaped] else ['\\', escaped]
    (contextAddress delimiter rest).map fun address => (read ++ address.1, address.2)
  | symbol :: rest =>
    if symbol = delimiter then some ([], rest)
    else (contextAddress delimiter rest).map fun address => (symbol :: address.1, address.2)

/-- The function `d`, or `D`, which does the same to a single line. Only blanks may follow its
letter. -/
def isDelete : List Char → Bool
  | letter :: rest => (letter == 'd' || letter == 'D') && rest.all fun symbol => symbol == ' '
  | [] => false

/-- The lines that a script deletes, if it parses. -/
def parseDelete : List Char → Option (List Atom)
  | '\\' :: delimiter :: rest =>
    match contextAddress delimiter rest with
    | some (expression, function) => if isDelete function then some (atoms expression) else none
    | none => none
  | _ => none

def sed (script content : List Char) : List Char :=
  match parseDelete script with
  | some expression => TextLines.deleteLines '\n' (selects expression) content
  | none => content

theorem sed_of_unparsed {script : List Char} (unparsed : parseDelete script = none)
    (content : List Char) : sed script content = content := by
  rw [sed, unparsed]

end TermPlux.ShellCommands
