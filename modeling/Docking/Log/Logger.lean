import Docking.Log.Filter

namespace Docking

/-! The logger of a process. It is installed once; installing it again is harmless and
leaves at most a trace message. -/

structure Logger where
  filter : Option LogFilter
  printed : List String
deriving DecidableEq, Inhabited

namespace Logger

def defaultFilter : String :=
  "info,tether_dock=debug,tether_winit=debug,winit=info"

def absent : Logger := ⟨none, []⟩

def levelOf (logger : Logger) (target : String) : LogLevel :=
  match logger.filter with
  | some filter => filter.levelOf target
  | none => .off

/-- The filter in force: that of the environment, if it is set and can be read. -/
def chosenFilter (environment : Option String) (text : String) : LogFilter :=
  match environment.bind LogFilter.strict? with
  | some filter => filter
  | none => LogFilter.lenient text

def install (logger : Logger) (environment : Option String) (text : String) : Logger :=
  match logger.filter with
  | none => { logger with filter := some (chosenFilter environment text) }
  | some filter =>
      if filter.messageLevel "tether_core::logging" ["message"] = .trace then
        { logger with
          printed := logger.printed ++
            ["TRACE tether_core::logging: tracing subscriber already installed"] }
      else
        logger

end Logger
end Docking
