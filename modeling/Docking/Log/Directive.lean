import Docking.Log.Level
import Docking.Text.Bytes
import Docking.Text.Decimal
import Docking.Text.Numeral
import Docking.Text.Pattern.Group

namespace Docking

/-! Log directives: a level, or a target whose messages, with those of all targets whose
text begins like it, are wanted up to a level. Brackets behind the target name spans, or a
field in braces that a message must have. -/

structure LogDirective where
  target : Option String
  field : Option String
  level : LogLevel
  withinSpans : Bool
deriving DecidableEq, Inhabited

/-- What stands in brackets: the name of spans, and perhaps a field in braces. -/
structure SpanText where
  name : List Char
  field : Option (List Char)
deriving DecidableEq, Inhabited

/-- The parts of a directive: a target or level, perhaps brackets, and perhaps a level
behind an equals sign. -/
structure DirectiveText where
  head : List Char
  span : Option SpanText
  level : Option (List Char)
deriving DecidableEq, Inhabited

namespace SpanText

def ofText? (text : List Char) : Option (SpanText × List Char) :=
  match text.span fun char => char ≠ ']' && char ≠ '{' with
  | (name, ']' :: rest) => some (⟨name, none⟩, rest)
  | (name, '{' :: rest) =>
      match rest.span fun char => char ≠ '}' with
      | (first :: others, '}' :: ']' :: rest) => some (⟨name, some (first :: others)⟩, rest)
      | _ => none
  | _ => none

end SpanText

namespace DirectiveText

def startsHead (char : Char) : Bool :=
  isLetterOrNumeral char || char = '-' || char = ':' || char = '_'

def ofText? (text : List Char) : Option DirectiveText :=
  match text.span fun char => char ≠ '=' && char ≠ '[' with
  | (head, '[' :: rest) =>
      if head.head?.all startsHead then
        match SpanText.ofText? rest with
        | some (span, []) => some ⟨head, some span, none⟩
        | some (span, '=' :: level) => some ⟨head, some span, some level⟩
        | _ => none
      else
        none
  | (head, rest) =>
      if head.head?.any startsHead then some ⟨head, none, rest.tail?⟩ else none

end DirectiveText

namespace LogDirective

/-- Reads a field and whether a value behind an equals sign is wanted for it: a number or
a pattern. -/
def field? (text : List Char) : Option (String × Bool) :=
  match text.span fun char => char ≠ '=' with
  | (name, []) => some (String.ofList name, false)
  | (name, _ :: rest) =>
      let value := rest.takeWhile fun char => char ≠ '='
      if isDecimal value || isPattern value then some (String.ofList name, true) else none

/-- The level behind an equals sign; when nothing is there, everything is wanted. -/
def givenLevel? (text : List Char) : Option LogLevel :=
  if text.isEmpty then some .trace else LogLevel.ofText? (String.ofList text)

/-- A directive with brackets. It is about messages outside of spans only if a field without
a value is all they hold. -/
def withBrackets? (target : Option String) (level : LogLevel) (name : List Char)
    (field : Option (List Char)) : Option LogDirective :=
  match field with
  | none => some ⟨target, none, level, true⟩
  | some field =>
      (field? field).map fun (fieldName, hasValue) =>
        if name.isEmpty && !hasValue then ⟨target, some fieldName, level, false⟩
        else ⟨target, none, level, true⟩

def ofWord (text : String) : LogDirective :=
  match LogLevel.ofText? text with
  | some level => ⟨none, none, level, false⟩
  | none => ⟨some text, none, .trace, false⟩

/-- Reads one directive. Its parts are found in the text without the blanks around it, but
cut at the same byte positions out of the whole text, so that blanks belong to a part or
spoil it. -/
def ofText? (text : String) : Option LogDirective := do
  let whole := text.toList
  let body := trimBlanks whole
  let parts ← DirectiveText.ofText? body
  let headEnd := byteLength parts.head
  let head := String.ofList (takeBytes headEnd whole)
  let level ← match parts.level with
    | none => some .trace
    | some level => givenLevel? (dropBytes (byteLength body - byteLength level) whole)
  match parts.span with
  | some ⟨name, field⟩ =>
      let target := if parts.head.isEmpty then none else some head
      let behindBrace := dropBytes (headEnd + byteLength name + 2) whole
      withBrackets? target level name
        (field.map fun field => takeBytes (byteLength field) behindBrace)
  | none =>
      if parts.level.isNone then some (ofWord text)
      else some ⟨some head, none, level, false⟩

/-- Whether a directive speaks about the messages of a target outside of all spans: its
own text is the beginning of the target. -/
def appliesTo (directive : LogDirective) (target : String) : Bool :=
  !directive.withinSpans &&
    match directive.target with
    | none => true
    | some beginning => beginning.toList.isPrefixOf target.toList

def allowsFields (directive : LogDirective) (fields : List String) : Bool :=
  directive.field.all fun field => fields.contains field

def rank (directive : LogDirective) : Nat :=
  match directive.target with
  | none => 0
  | some beginning => beginning.length + 1

/-- Whether a field decides over another: any field over none, and a later one in the order
of texts. -/
def fieldPrecedes : Option String → Option String → Bool
  | some first, some second => second < first
  | some _, none => true
  | none, _ => false

def precedes (first second : LogDirective) : Bool :=
  second.rank < first.rank ||
    first.rank = second.rank && fieldPrecedes first.field second.field

end LogDirective
end Docking
