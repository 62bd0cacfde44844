/-!
Events that a run reports while it works: a level and a message.
-/

namespace CorpusTally

inductive LogLevel where
  | error
  | warn
  | info
  | debug
  | trace
  deriving DecidableEq

def LogLevel.name : LogLevel → String
  | .error => "error"
  | .warn => "warn"
  | .info => "info"
  | .debug => "debug"
  | .trace => "trace"

structure LogEvent where
  level : LogLevel
  message : String
  deriving DecidableEq

abbrev Log := List LogEvent

end CorpusTally
