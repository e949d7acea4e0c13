import Docking.Text.Blank

namespace Docking

/-! How a pattern is read. Flags within a pattern change it from there on, up to the end of
the group they stand in. -/

structure PatternMode where
  foldCase : Bool
  unicode : Bool
  verbose : Bool
deriving DecidableEq, Inhabited

/-- Drops blanks, and remarks from a hash sign to the end of its line. -/
def dropRemarks (inRemark : Bool) : List Char → List Char
  | [] => []
  | char :: rest =>
      if inRemark then dropRemarks (char ≠ '\n') rest
      else if char = '#' then dropRemarks true rest
      else if isBlank char then dropRemarks false rest
      else char :: rest

namespace PatternMode

def initial : PatternMode := ⟨false, true, false⟩

def skip (mode : PatternMode) (text : List Char) : List Char :=
  if mode.verbose then dropRemarks false text else text

/-- The next character behind blanks that mean nothing, and behind the hash sign of a
remark, whose own text counts. -/
def peek (mode : PatternMode) (text : List Char) : Option Char :=
  if mode.verbose then
    match text.dropWhile isBlank with
    | '#' :: rest => (rest.dropWhile isBlank).head?
    | rest => rest.head?
  else
    text.head?

/-- Reads flags, each given once: letters that turn them on, and perhaps a minus sign with
letters that turn them off. -/
def withFlags? (mode : PatternMode) (flags : List Char) : Option PatternMode :=
  let on := flags.takeWhile fun flag => flag ≠ '-'
  let set (flag : Char) (before : Bool) :=
    on.contains flag || before && !flags.contains flag
  if flags.Nodup && flags.all (fun flag => "imsuURx-".toList.contains flag) &&
      flags.getLast? ≠ some '-' then
    some ⟨set 'i' mode.foldCase, set 'u' mode.unicode, set 'x' mode.verbose⟩
  else
    none

end PatternMode
end Docking
