import PreparedCql.Command.Basic
import PreparedCql.Fragment.Slots

/-! The template of each command: keywords with slots for its fragments between them. -/

namespace PreparedCql

inductive Part where
  | keyword (words : String)
  | slot (fragment : Fragment)
deriving DecidableEq, Repr

namespace Part

def fragment? : Part → Option Fragment
  | keyword _ => none
  | slot fragment => some fragment

end Part

namespace Command

def template : Command → List Part
  | insert => [.keyword "INSERT INTO", .slot .table, .slot .value, .slot .option]
  | select =>
      [.keyword "SELECT", .slot .field, .keyword "FROM", .slot .table, .slot .predicate,
        .slot .order, .slot .limit]
  | update =>
      [.keyword "UPDATE", .slot .table, .slot .option, .keyword "SET", .slot .set,
        .slot .predicate, .slot .condition]
  | delete =>
      [.keyword "DELETE", .slot .field, .keyword "FROM", .slot .table, .slot .option,
        .slot .predicate]

/-- The text that a fragment shows in its slot. A deletion of all columns names none. -/
def shown (command : Command) (fragment : Fragment) (text : Text) : Text :=
  if command = .delete ∧ fragment = .field ∧ text = ['*'] then [] else text

def partText (command : Command) (slots : Slots) : Part → Text
  | .keyword words => words.toList
  | .slot fragment => command.shown fragment (slots.get fragment)

/-- The template with its slots filled. Empty slots leave their spaces behind. -/
def render (command : Command) (slots : Slots) : Text :=
  [' '].intercalate (command.template.map (command.partText slots))

/-- The slots stand in the order in which the fragments are bound. -/
theorem template_fragments (command : Command) :
    command.template.filterMap Part.fragment? = command.fragments := by
  cases command <;> rfl

end Command

end PreparedCql
