/-
This file is a library for the texts of JSON values without numbers, as printed
without blanks. The text of a value tells where it ends and which value it is, so
there is a parser that gives back what was printed.

Every fact about a printer has the same form: where two texts that each begin
with a print are the same, the prints and what follows them are the same.
-/

import Mathlib.Data.Char
import TermPlux.JsonValue

namespace TermPlux.JsonText

/-! ### Strings -/

/-- The characters that have an escape of one letter, with that letter. -/
def shortEscapes : List (Char × Char) :=
  [('"', '"'), ('\\', '\\'), ('\x08', 'b'), ('\t', 't'), ('\n', 'n'), ('\x0c', 'f'), ('\r', 'r')]

def escapeChar (character : Char) : List Char :=
  match shortEscapes.lookup character with
  | some letter => ['\\', letter]
  | none =>
    if character.toNat < 32 then
      ['\\', 'u', '0', '0', Nat.digitChar (character.toNat / 16),
        Nat.digitChar (character.toNat % 16)]
    else [character]

/-- The characters of a string and the quote that ends it. -/
def escape : List Char → List Char
  | [] => ['"']
  | character :: rest => escapeChar character ++ escape rest

def quote (value : String) : List Char :=
  '"' :: escape value.toList

/-! ### Values -/

def separator (later : Bool) : List Char :=
  if later then [','] else []

mutual

def print : JsonValue Empty → List Char
  | .null => ['n', 'u', 'l', 'l']
  | .boolean true => ['t', 'r', 'u', 'e']
  | .boolean false => ['f', 'a', 'l', 's', 'e']
  | .number value => value.elim
  | .string value => quote value
  | .list elements => '[' :: printElements false elements
  | .map members => '\x7b' :: printMembers false members

/-- The rest of a list, up to the bracket that closes it. -/
def printElements (later : Bool) : List (JsonValue Empty) → List Char
  | [] => [']']
  | element :: rest => separator later ++ (print element ++ printElements true rest)

/-- The rest of a map, up to the brace that closes it. -/
def printMembers (later : Bool) : List (String × JsonValue Empty) → List Char
  | [] => ['\x7d']
  | (key, value) :: rest =>
    separator later ++ (quote key ++ ':' :: (print value ++ printMembers true rest))

end

/-! ### A string is told by its text -/

variable {first second : List Char}

/-- The text of a character: a short escape, a code, or the character itself. -/
theorem escapeChar_cases (character : Char) :
    (∃ letter, (character, letter) ∈ shortEscapes ∧ escapeChar character = ['\\', letter]) ∨
    (character.toNat < 32 ∧
      escapeChar character = ['\\', 'u', '0', '0', Nat.digitChar (character.toNat / 16),
        Nat.digitChar (character.toNat % 16)]) ∨
    (character ≠ '\\' ∧ character ≠ '"' ∧ escapeChar character = [character]) := by
  unfold escapeChar
  split
  next letter found =>
    obtain ⟨before, after, listed, -⟩ := List.lookup_eq_some_iff.mp found
    exact .inl ⟨letter, listed ▸ List.mem_append_right _ List.mem_cons_self, rfl⟩
  next none =>
    have plain := List.lookup_eq_none_iff.mp none
    split
    next control => exact .inr (.inl ⟨control, rfl⟩)
    next =>
      refine .inr (.inr ⟨?_, ?_, rfl⟩)
      · exact bne_iff_ne.mp (plain ('\\', '\\') (by decide))
      · exact bne_iff_ne.mp (plain ('"', '"') (by decide))

theorem shortEscapes_inj : ∀ entry ∈ shortEscapes, ∀ other ∈ shortEscapes,
    entry.2 = other.2 → entry.1 = other.1 := by
  decide

theorem shortEscapes_ne_u : ∀ entry ∈ shortEscapes, entry.2 ≠ 'u' := by
  decide

theorem digitChar_inj : ∀ digit < 16, ∀ other < 16,
    Nat.digitChar digit = Nat.digitChar other → digit = other := by
  decide

theorem escapeChar_inj {a b : Char} (same : escapeChar a ++ first = escapeChar b ++ second) :
    a = b ∧ first = second := by
  rcases escapeChar_cases a with ⟨x, inX, textA⟩ | ⟨smallA, textA⟩ | ⟨slashA, -, textA⟩ <;>
    rcases escapeChar_cases b with ⟨y, inY, textB⟩ | ⟨smallB, textB⟩ | ⟨slashB, -, textB⟩ <;>
    rw [textA, textB] at same <;>
    simp only [List.cons_append, List.nil_append, List.cons.injEq, true_and] at same
  · exact ⟨shortEscapes_inj _ inX _ inY same.1, same.2⟩
  · exact absurd same.1 (shortEscapes_ne_u _ inX)
  · exact absurd same.1.symm slashB
  · exact absurd same.1.symm (shortEscapes_ne_u _ inY)
  · obtain ⟨high, low, others⟩ := same
    have sixteens := digitChar_inj _ (by omega) _ (by omega) high
    have ones := digitChar_inj _ (by omega) _ (by omega) low
    exact ⟨Char.toNat_inj.mp (by omega), others⟩
  · exact absurd same.1.symm slashB
  · exact absurd same.1 slashA
  · exact absurd same.1 slashA
  · exact same

theorem escapeChar_ne_quote (character : Char) (rest tail : List Char) :
    escapeChar character ++ rest ≠ '"' :: tail := by
  intro same
  rcases escapeChar_cases character with ⟨letter, -, text⟩ | ⟨-, text⟩ | ⟨-, other, text⟩
  · rw [text] at same
    exact absurd (List.head_eq_of_cons_eq same) (by decide)
  · rw [text] at same
    exact absurd (List.head_eq_of_cons_eq same) (by decide)
  · rw [text] at same
    exact other (List.head_eq_of_cons_eq same)

theorem escape_inj {value other : List Char} (same : escape value ++ first = escape other ++ second) :
    value = other ∧ first = second := by
  induction value generalizing other with
  | nil =>
    cases other with
    | nil => exact ⟨rfl, List.tail_eq_of_cons_eq same⟩
    | cons character rest =>
      unfold escape at same
      rw [List.append_assoc] at same
      exact absurd same.symm (escapeChar_ne_quote _ _ _)
  | cons character rest inductionHypothesis =>
    cases other with
    | nil =>
      unfold escape at same
      rw [List.append_assoc] at same
      exact absurd same (escapeChar_ne_quote _ _ _)
    | cons character' rest' =>
      unfold escape at same
      rw [List.append_assoc, List.append_assoc] at same
      obtain ⟨rfl, others⟩ := escapeChar_inj same
      obtain ⟨rfl, after⟩ := inductionHypothesis others
      exact ⟨rfl, after⟩

theorem quote_inj {value other : String} (same : quote value ++ first = quote other ++ second) :
    value = other ∧ first = second := by
  obtain ⟨characters, after⟩ := escape_inj (List.tail_eq_of_cons_eq same)
  exact ⟨String.toList_inj.mp characters, after⟩

/-! ### A value is told by its text -/

/-- What the first character of a text tells about its value. -/
inductive Kind
  | null
  | true
  | false
  | string
  | list
  | map

def Kind.letter : Kind → Char
  | .null => 'n'
  | .true => 't'
  | .false => 'f'
  | .string => '"'
  | .list => '['
  | .map => '\x7b'

def kind : JsonValue Empty → Kind
  | .null => .null
  | .boolean true => .true
  | .boolean false => .false
  | .number value => value.elim
  | .string _ => .string
  | .list _ => .list
  | .map _ => .map

theorem letter_inj {kind other : Kind} (same : kind.letter = other.letter) : kind = other := by
  cases kind <;> cases other <;> first | rfl | exact absurd same (by decide)

theorem letter_ne_bracket (kind : Kind) : kind.letter ≠ ']' := by
  cases kind <;> decide

theorem head?_print (value : JsonValue Empty) (rest : List Char) :
    (print value ++ rest).head? = some (kind value).letter := by
  rcases value with _ | (_ | _) | ⟨⟨⟩⟩ | _ | _ | _ <;> rfl

theorem kind_eq {value other : JsonValue Empty}
    (same : print value ++ first = print other ++ second) : kind value = kind other := by
  have letters := head?_print value first
  rw [same, head?_print] at letters
  exact (letter_inj (Option.some.inj letters)).symm

theorem print_ne_bracket (value : JsonValue Empty) (rest tail : List Char) :
    print value ++ rest ≠ ']' :: tail := by
  intro same
  have letters := head?_print value rest
  rw [same] at letters
  exact letter_ne_bracket _ (Option.some.inj letters).symm

/-- An element that follows is told from the end of the list. -/
theorem printElements_ne_bracket (later : Bool) (element : JsonValue Empty)
    (elements : List (JsonValue Empty)) (rest tail : List Char) :
    printElements later (element :: elements) ++ rest ≠ ']' :: tail := by
  intro same
  cases later with
  | true => exact absurd (List.head_eq_of_cons_eq same) (by decide)
  | false =>
    unfold printElements at same
    rw [separator, if_neg Bool.false_ne_true, List.nil_append, List.append_assoc] at same
    exact print_ne_bracket _ _ _ same

/-- Values of one kind, which are the same where the kind has one value only. -/
def Alike : JsonValue Empty → JsonValue Empty → Prop
  | .string _, .string _ => True
  | .list _, .list _ => True
  | .map _, .map _ => True
  | value, other => value = other

theorem alike_of_kind {value other : JsonValue Empty} (kinds : kind value = kind other) :
    Alike value other := by
  rcases value with _ | (_ | _) | ⟨⟨⟩⟩ | _ | _ | _ <;>
    rcases other with _ | (_ | _) | ⟨⟨⟩⟩ | _ | _ | _ <;>
    first | exact trivial | exact rfl | cases kinds

mutual

theorem print_inj : ∀ (value other : JsonValue Empty) {first second : List Char},
    print value ++ first = print other ++ second → value = other ∧ first = second
  | .string _, .string _, _, _, same => by
    obtain ⟨rfl, after⟩ := quote_inj same
    exact ⟨rfl, after⟩
  | .list elements, .list others, _, _, same => by
    obtain ⟨rfl, after⟩ := printElements_inj elements others (List.tail_eq_of_cons_eq same)
    exact ⟨rfl, after⟩
  | .map members, .map others, _, _, same => by
    obtain ⟨rfl, after⟩ := printMembers_inj members others (List.tail_eq_of_cons_eq same)
    exact ⟨rfl, after⟩
  | .null, other, _, _, same => by
    cases (alike_of_kind (kind_eq same) : _ = _)
    exact ⟨rfl, List.append_cancel_left same⟩
  | .boolean _, other, _, _, same => by
    cases (alike_of_kind (kind_eq same) : _ = _)
    exact ⟨rfl, List.append_cancel_left same⟩

theorem printElements_inj : ∀ (elements others : List (JsonValue Empty)) {later : Bool}
    {first second : List Char},
    printElements later elements ++ first = printElements later others ++ second →
      elements = others ∧ first = second
  | [], [], _, _, _, same => ⟨rfl, List.tail_eq_of_cons_eq same⟩
  | [], _ :: _, _, _, _, same => absurd same.symm (printElements_ne_bracket _ _ _ _ _)
  | _ :: _, [], _, _, _, same => absurd same (printElements_ne_bracket _ _ _ _ _)
  | element :: rest, other :: rest', later, _, _, same => by
    unfold printElements at same
    simp only [List.append_assoc] at same
    obtain ⟨rfl, others⟩ := print_inj element other (List.append_cancel_left same)
    obtain ⟨rfl, after⟩ := printElements_inj rest rest' others
    exact ⟨rfl, after⟩

theorem printMembers_inj : ∀ (members others : List (String × JsonValue Empty)) {later : Bool}
    {first second : List Char},
    printMembers later members ++ first = printMembers later others ++ second →
      members = others ∧ first = second
  | [], [], _, _, _, same => ⟨rfl, List.tail_eq_of_cons_eq same⟩
  | [], (key, value) :: rest, later, _, _, same => by
    cases later <;> exact absurd (List.head_eq_of_cons_eq same) (by decide)
  | (key, value) :: rest, [], later, _, _, same => by
    cases later <;> exact absurd (List.head_eq_of_cons_eq same) (by decide)
  | (key, value) :: rest, (key', value') :: rest', later, _, _, same => by
    unfold printMembers at same
    simp only [List.append_assoc, List.cons_append] at same
    obtain ⟨rfl, values⟩ := quote_inj (List.append_cancel_left same)
    obtain ⟨rfl, others⟩ := print_inj value value' (List.tail_eq_of_cons_eq values)
    obtain ⟨rfl, after⟩ := printMembers_inj rest rest' others
    exact ⟨rfl, after⟩

end

/-! ### The codec -/

open Classical in
/-- The value that a text prints. -/
noncomputable def parse (text : String) : Option (JsonValue Empty) :=
  if printed : ∃ value : JsonValue Empty, value.Proper ∧ String.ofList (print value) = text then
    some printed.choose
  else none

noncomputable def codec : JsonCodec Empty where
  jsonEncode value := String.ofList (print value)
  jsonDecode := parse

theorem lawful_codec : codec.Lawful where
  inverts value proper := by
    have printed : ∃ other : JsonValue Empty, other.Proper ∧
        String.ofList (print other) = String.ofList (print value) := ⟨value, proper, rfl⟩
    have same : print printed.choose ++ [] = print value ++ [] :=
      congrArg (· ++ []) (String.ofList_inj.mp printed.choose_spec.2)
    refine (dif_pos printed).trans (congrArg some ?_)
    exact (print_inj _ _ same).1
  proper text value parsed := by
    obtain ⟨printed, chosen⟩ := Option.dite_none_right_eq_some.mp parsed
    rw [← Option.some.inj chosen]
    exact printed.choose_spec.1

end TermPlux.JsonText
