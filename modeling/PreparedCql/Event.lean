import PreparedCql.BuildError
import PreparedCql.Command.Basic

/-! What a builder reports while it is used. -/

namespace PreparedCql

inductive Event where
  | built (command : Command) (query : Text) (params : Nat)
  | rejected (mismatch : Mismatch)
  /-- A call filled a fragment that the command leaves out. -/
  | ignored (command : Command) (fragment : Fragment)
  | clearing (command : Command)
deriving DecidableEq, Repr

namespace Event

inductive Level where
  | trace
  | debug
  | warn
deriving DecidableEq, Repr

inductive Datum where
  | text (content : Text)
  | count (number : Nat)
deriving DecidableEq, Repr

def Level.name : Level → String
  | trace => "TRACE"
  | debug => "DEBUG"
  | warn => "WARN"

def level : Event → Level
  | built _ _ _ => .debug
  | rejected _ => .warn
  | ignored _ _ | clearing _ => .trace

def message : Event → String
  | built _ _ _ => "built statement"
  | rejected _ => "rejected where clause"
  | ignored _ _ => "fragment ignored by command"
  | clearing _ => "clearing builder"

def fields : Event → List (String × Datum)
  | built command query params =>
      [("command", .text command.name.toList), ("query", .text query), ("params", .count params)]
  | rejected mismatch =>
      [("clause", .text mismatch.clause), ("placeholders", .count mismatch.markers),
        ("values", .count mismatch.values)]
  | ignored command fragment =>
      [("command", .text command.name.toList), ("fragment", .text fragment.name.toList)]
  | clearing command => [("command", .text command.name.toList)]

end Event

end PreparedCql
