import Docking.Text.Pattern.Mode

namespace Docking

/-! The smallest parts of a pattern, and the backslash sequences among them. Which of them
have a meaning depends on the mode: tables of letters, digits and blanks, and of letters
that differ in case only, are at hand for ASCII alone. -/

inductive PatternAtom
  /-- A character, perhaps given as the number of a byte. -/
  | literal (char : Char) (asByte : Bool)
  | any
  | shorthand (negated : Bool)
  | edge
  | wordEdge
deriving DecidableEq, Inhabited

namespace PatternAtom

def stands (mode : PatternMode) : PatternAtom → Bool
  | literal char asByte =>
      if mode.unicode then !mode.foldCase else !asByte || char.toNat < 0x80
  | any => mode.unicode
  | shorthand negated => !mode.unicode && !negated
  | edge => true
  | wordEdge => !mode.unicode

def isMember (mode : PatternMode) : PatternAtom → Bool
  | literal char _ => if mode.unicode then !mode.foldCase else char.toNat < 0x80
  | shorthand negated => !mode.unicode && !negated
  | _ => false

def areRange : PatternAtom → PatternAtom → Bool
  | literal first _, literal last _ => first ≤ last
  | _, _ => false

end PatternAtom

def hexDigitValue? (char : Char) : Option Nat :=
  if char.isDigit then some (char.toNat - '0'.toNat)
  else if 'a' ≤ char && char ≤ 'f' then some (char.toNat - 'a'.toNat + 10)
  else if 'A' ≤ char && char ≤ 'F' then some (char.toNat - 'A'.toNat + 10)
  else none

def hexValue? (mode : PatternMode) (value : Nat) :
    Nat → List Char → Option (Nat × List Char)
  | 0, text => some (value, text)
  | digits + 1, text =>
      match mode.skip text with
      | [] => none
      | char :: rest =>
          match hexDigitValue? char with
          | some digit => hexValue? mode (16 * value + digit) digits rest
          | none => none

def hexLiteral? (mode : PatternMode) (digits : Nat) (text : List Char) :
    Option (PatternAtom × List Char) :=
  match hexValue? mode 0 digits text with
  | some (value, rest) =>
      if value.isValidChar then some (.literal (Char.ofNat value) (digits = 2), rest)
      else none
  | none => none

def controlOfLetter? : Char → Option Char
  | 'a' => some '\x07'
  | 't' => some '\t'
  | 'n' => some '\n'
  | 'v' => some '\x0B'
  | 'f' => some '\x0C'
  | 'r' => some '\r'
  | _ => none

/-- Reads what follows a backslash. Before a sign the backslash only takes its meaning
away; letters and digits without a meaning are refused. -/
def escape? (mode : PatternMode) : List Char → Option (PatternAtom × List Char)
  | [] => none
  | 'x' :: rest => hexLiteral? mode 2 rest
  | 'u' :: rest => hexLiteral? mode 4 rest
  | 'U' :: rest => hexLiteral? mode 8 rest
  | char :: rest =>
      if "dsw".toList.contains char then some (.shorthand false, rest)
      else if "DSW".toList.contains char then some (.shorthand true, rest)
      else if "Az".toList.contains char then some (.edge, rest)
      else if "bB<>".toList.contains char then some (.wordEdge, rest)
      else
        match controlOfLetter? char with
        | some control => some (.literal control false, rest)
        | none =>
            if char.toNat < 0x80 && !char.isAlphanum then some (.literal char false, rest)
            else none

end Docking
