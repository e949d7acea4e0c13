import Docking.Text.Pattern.Atom
import Docking.Text.Pattern.Nesting

namespace Docking

/-! Classes of characters in square brackets: single characters, ranges, named classes and
further brackets, combined by operators. -/

structure PatternBracket where
  row : PatternRow
  /-- Whether only minus signs were read, which then stand for themselves. -/
  fresh : Bool
deriving DecidableEq, Inhabited

namespace PatternBracket

def empty : PatternBracket := ⟨.empty, true⟩

def add (bracket : PatternBracket) (depth : Nat) : PatternBracket :=
  ⟨bracket.row.add depth, false⟩

def addMinus (bracket : PatternBracket) : PatternBracket :=
  { bracket with row := bracket.row.add 0 }

def behindOperator (bracket : PatternBracket) : PatternBracket :=
  ⟨bracket.row.behindOperator, false⟩

/-- Whether nothing was read yet; a closing bracket then stands for itself. -/
def isEmpty (bracket : PatternBracket) : Bool :=
  bracket.fresh && bracket.row.count = 0

end PatternBracket

/-- Reads the beginning of a bracket. Only of characters can all others be meant. -/
def openBracket? (mode : PatternMode) (text : List Char) : Option (List Char) :=
  match mode.skip text with
  | '^' :: rest => if mode.unicode then some rest else none
  | rest => some rest

def namedClasses : List String :=
  ["alnum", "alpha", "ascii", "blank", "cntrl", "digit", "graph", "lower", "print", "punct",
    "space", "upper", "word", "xdigit"]

def namedClass? (text : List Char) : Option (Bool × List Char) :=
  match text with
  | ':' :: rest =>
      let (negated, rest) := match rest with
        | '^' :: rest => (true, rest)
        | rest => (false, rest)
      match rest.span fun char => char ≠ ':' with
      | (name, ':' :: ']' :: rest) =>
          if namedClasses.contains (String.ofList name) then some (negated, rest) else none
      | _ => none
  | _ => none

def allowsNamedClass (mode : PatternMode) (negated : Bool) : Bool :=
  if mode.unicode then !mode.foldCase else !negated

def classOperator? : List Char → Option (List Char)
  | '&' :: '&' :: rest => some rest
  | '-' :: '-' :: rest => some rest
  | '~' :: '~' :: rest => some rest
  | _ => none

def memberAtom? (mode : PatternMode) : List Char → Option (PatternAtom × List Char)
  | [] => none
  | '\\' :: rest => escape? mode rest
  | char :: rest => some (.literal char false, rest)

/-- Reads a character or a range. A minus sign before a closing bracket or another minus
sign makes no range. -/
def member? (mode : PatternMode) (text : List Char) : Option (List Char) :=
  match memberAtom? mode text with
  | none => none
  | some (first, rest) =>
      match mode.skip rest with
      | '-' :: behind =>
          if mode.peek behind = some ']' || mode.peek behind = some '-' then
            if first.isMember mode then some ('-' :: behind) else none
          else
            match memberAtom? mode (mode.skip behind) with
            | some (last, rest) =>
                if first.isMember mode && last.isMember mode && first.areRange last then
                  some rest
                else
                  none
            | none => none
      | rest => if first.isMember mode then some rest else none

/-- Reads on within an open bracket and the brackets around it, up to the end of the
outermost; gives its depth and what follows it. Each step reads a character or more. -/
def closeBracket? (mode : PatternMode) :
    Nat → PatternBracket → List PatternBracket → List Char → Option (Nat × List Char)
  | 0, _, _, _ => none
  | steps + 1, bracket, outer, text =>
      let text := mode.skip text
      let sign := PatternAtom.isMember mode (.literal ']' false)
      match text with
      | [] => none
      | ']' :: rest =>
          if bracket.isEmpty then
            if sign then closeBracket? mode steps (bracket.add 0) outer rest else none
          else
            match outer with
            | [] => some (bracket.row.depth + 1, rest)
            | next :: outer =>
                closeBracket? mode steps (next.add (bracket.row.depth + 1)) outer rest
      | '[' :: rest =>
          match namedClass? rest with
          | some (negated, rest) =>
              if allowsNamedClass mode negated then
                closeBracket? mode steps (bracket.add 0) outer rest
              else
                none
          | none =>
              match openBracket? mode rest with
              | some rest => closeBracket? mode steps .empty (bracket :: outer) rest
              | none => none
      | char :: rest =>
          if char = '-' && bracket.fresh then
            if sign then closeBracket? mode steps bracket.addMinus outer rest else none
          else
            match classOperator? text with
            | some rest => closeBracket? mode steps bracket.behindOperator outer rest
            | none =>
                match member? mode text with
                | some rest => closeBracket? mode steps (bracket.add 0) outer rest
                | none => none

def bracket? (mode : PatternMode) (text : List Char) : Option (Nat × List Char) :=
  match openBracket? mode text with
  | some rest => closeBracket? mode (rest.length + 1) .empty [] rest
  | none => none

end Docking
