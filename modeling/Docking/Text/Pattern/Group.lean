import Docking.Text.Numeral
import Docking.Text.Pattern.Bracket

namespace Docking

/-! Which texts are patterns: rows of atoms, classes and groups, any of which may be
repeated, with bars between alternatives. A pattern stands in braces itself, so that no
closing brace occurs in it; what needs one, such as a counted repetition, is refused. -/

structure PatternGroup where
  row : PatternRow
  last : Option Nat
deriving DecidableEq, Inhabited

namespace PatternGroup

def empty : PatternGroup := ⟨.empty, none⟩

def add (group : PatternGroup) (depth : Nat) : PatternGroup :=
  ⟨group.row.add depth, some depth⟩

/-- Flags are a part of their row, but cannot be repeated. -/
def addFlags (group : PatternGroup) : PatternGroup :=
  ⟨group.row.add 0, none⟩

/-- The last part gives way to its repetition, which is one level deeper. -/
def repeat? (group : PatternGroup) : Option PatternGroup :=
  group.last.map fun depth =>
    ⟨{ group.row with deepest := max group.row.deepest (depth + 1) }, some (depth + 1)⟩

def behindBar (group : PatternGroup) : PatternGroup :=
  ⟨group.row.behindBar, none⟩

end PatternGroup

structure PatternReading where
  mode : PatternMode
  names : List (List Char)
  group : PatternGroup
  /-- The groups around the open one, and the mode to go back to in each. -/
  outer : List (PatternGroup × PatternMode)
deriving DecidableEq, Inhabited

/-- Whether a text can name a group: a letter or underscore, with letters, numerals,
underscores, points and square brackets behind it. -/
def isGroupName : List Char → Bool
  | [] => false
  | first :: rest =>
      (isLetter first || first = '_') &&
        rest.all fun char => isLetterOrNumeral char || "_.[]".toList.contains char

namespace PatternReading

def initial : PatternReading := ⟨.initial, [], .empty, []⟩

def onGroup (reading : PatternReading) (group : PatternGroup) : PatternReading :=
  { reading with group }

def openGroup (reading : PatternReading) (mode : PatternMode) : PatternReading :=
  { reading with
    mode
    group := .empty
    outer := (reading.group, reading.mode) :: reading.outer }

def closeGroup? (reading : PatternReading) : Option PatternReading :=
  match reading.outer with
  | [] => none
  | (group, mode) :: outer =>
      some { reading with mode, group := group.add (reading.group.row.depth + 1), outer }

/-- Opens a group behind its name. No two groups have one name. -/
def namedGroup? (reading : PatternReading) (text : List Char) :
    Option (PatternReading × List Char) :=
  match text.span fun char => char ≠ '>' with
  | (name, _ :: rest) =>
      if isGroupName name && !reading.names.contains name then
        some ({ reading with names := name :: reading.names }.openGroup reading.mode, rest)
      else
        none
  | _ => none

def flags? (reading : PatternReading) (text : List Char) :
    Option (PatternReading × List Char) :=
  match text.span fun char => char ≠ ':' && char ≠ ')' with
  | (flags, closing :: rest) =>
      match reading.mode.withFlags? flags with
      | some mode =>
          if closing = ':' then some (reading.openGroup mode, rest)
          else if flags.isEmpty then none
          else some ({ reading with mode, group := reading.group.addFlags }, rest)
      | none => none
  | _ => none

def parenthesis? (reading : PatternReading) (text : List Char) :
    Option (PatternReading × List Char) :=
  match reading.mode.skip text with
  | '?' :: 'P' :: '<' :: rest => reading.namedGroup? rest
  | '?' :: '<' :: rest => reading.namedGroup? rest
  | '?' :: rest => reading.flags? rest
  | rest => some (reading.openGroup reading.mode, rest)

def atom? (reading : PatternReading) (atom : PatternAtom) : Option PatternReading :=
  if atom.stands reading.mode then some (reading.onGroup (reading.group.add 0)) else none

/-- Reads one part of a pattern, one character at least. A question mark behind a
repetition belongs to it. -/
def step? (reading : PatternReading) : List Char → Option (PatternReading × List Char)
  | [] => none
  | '(' :: rest => reading.parenthesis? rest
  | ')' :: rest => reading.closeGroup?.map fun reading => (reading, rest)
  | '|' :: rest => some (reading.onGroup reading.group.behindBar, rest)
  | '[' :: rest =>
      (bracket? reading.mode rest).map fun (depth, rest) =>
        (reading.onGroup (reading.group.add depth), rest)
  | '{' :: _ => none
  | '\\' :: rest =>
      match escape? reading.mode rest with
      | some (atom, rest) => (reading.atom? atom).map fun reading => (reading, rest)
      | none => none
  | char :: rest =>
      if "?*+".toList.contains char then
        reading.group.repeat?.map fun group =>
          (reading.onGroup group, if rest.head? = some '?' then rest.tail else rest)
      else
        let atom : PatternAtom :=
          if char = '.' then .any
          else if char = '^' || char = '$' then .edge
          else .literal char false
        (reading.atom? atom).map fun reading => (reading, rest)

/-- Reads a pattern to its end. Each step reads a character or more. -/
def finish? : Nat → PatternReading → List Char → Option PatternReading
  | steps, reading, text =>
      match reading.mode.skip text with
      | [] => some reading
      | text =>
          match steps with
          | 0 => none
          | steps + 1 =>
              match reading.step? text with
              | some (reading, rest) => finish? steps reading rest
              | none => none

end PatternReading

def isPattern (text : List Char) : Bool :=
  match PatternReading.initial.finish? text.length text with
  | some reading =>
      reading.outer.isEmpty && reading.group.row.depth ≤ patternDepthLimit
  | none => false

end Docking
