import Docking.Log.Directive

namespace Docking

/-! Which log messages are wanted. A filter is a comma-separated list of directives. -/

structure LogFilter where
  directives : List LogDirective
deriving DecidableEq, Inhabited

namespace LogFilter

def parts (text : String) : List String :=
  (text.splitOn ",").filter fun part => !part.isEmpty

/-- Reads a filter, leaving out directives that cannot be read. When none is left, errors
are wanted. -/
def lenient (text : String) : LogFilter :=
  match (parts text).filterMap LogDirective.ofText? with
  | [] => ⟨[⟨none, none, .error, false⟩]⟩
  | directives => ⟨directives⟩

/-- Reads a filter, if every directive can be read. Without any, nothing is wanted. -/
def strict? (text : String) : Option LogFilter :=
  ((parts text).mapM LogDirective.ofText?).map LogFilter.mk

/-- Of two directives the one that decides: that which precedes, or else the later. -/
def stronger (first second : Option LogDirective) : Option LogDirective :=
  match first, second with
  | some first, some second => if first.precedes second then some first else some second
  | some first, none => some first
  | none, second => second

def decidedLevel (directives : List LogDirective) : LogLevel :=
  match directives.foldl (fun best directive => stronger best (some directive)) none with
  | some directive => directive.level
  | none => .off

def levelOf (filter : LogFilter) (target : String) : LogLevel :=
  decidedLevel (filter.directives.filter fun directive => directive.appliesTo target)

def messageLevel (filter : LogFilter) (target : String) (fields : List String) : LogLevel :=
  decidedLevel (filter.directives.filter fun directive =>
    directive.appliesTo target && directive.allowsFields fields)

end LogFilter
end Docking
