import PreparedCql.Fragment.Basic

/-! The kinds of statements. -/

namespace PreparedCql

inductive Command where
  | insert
  | select
  | update
  | delete
deriving DecidableEq, Repr

namespace Command

def name : Command → String
  | insert => "INSERT"
  | select => "SELECT"
  | update => "UPDATE"
  | delete => "DELETE"

/-- The fragments that take part, in the order in which their values are bound. -/
def fragments : Command → List Fragment
  | insert => [.table, .value, .option]
  | select => [.field, .table, .predicate, .order, .limit]
  | update => [.table, .option, .set, .predicate, .condition]
  | delete => [.field, .table, .option, .predicate]

def uses (command : Command) (fragment : Fragment) : Bool :=
  command.fragments.contains fragment

def json (writer : JsonWriter) (command : Command) : Text := writer.string command.name.toList

instance : Inspect Command where
  inspect
    | insert => "Insert".toList
    | select => "Select".toList
    | update => "Update".toList
    | delete => "Delete".toList

theorem uses_table (command : Command) : command.uses .table = true := by
  cases command <;> rfl

end Command

end PreparedCql
