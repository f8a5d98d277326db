import PreparedCql.Command.Template
import PreparedCql.Draft.Basic
import PreparedCql.Text.Words

/-! The text of each fragment of a draft, with markers for the values, and the values that these
markers bind. -/

namespace PreparedCql

namespace Fragment

/-- The text of a fragment. It depends on how many values there are but on none of them. -/
def text (draft : Draft) : Fragment → Text
  | field => if draft.fields.isEmpty then ['*'] else ", ".toList.intercalate draft.fields
  | table =>
      let name := draft.table.getD []
      match draft.keyspaceName? with
      | none => name
      | some keyspace => keyspace ++ '.' :: name
  | predicate =>
      if draft.predicates.clauses.isEmpty then []
      else "WHERE ".toList ++ " AND ".toList.intercalate draft.predicates.clauses
  | order =>
      match draft.orderClause? with
      | none => []
      | some clause => "ORDER BY ".toList ++ clause
  | limit => if draft.limit.enabled then "LIMIT ?".toList else []
  | value =>
      let names := draft.inserts.names
      '(' :: ", ".toList.intercalate names ++ ") VALUES (".toList ++
        ", ".toList.intercalate (names.map fun _ => ['?']) ++ [')']
  | set => ", ".toList.intercalate (draft.assignments.names.map (· ++ " = ?".toList))
  | option =>
      if draft.options.names.isEmpty then []
      else "USING ".toList ++ " AND ".toList.intercalate (draft.options.names.map (· ++ " ?".toList))
  | condition => if draft.upsert then [] else "IF EXISTS".toList

/-- The values that the fragment's markers bind, from left to right. -/
def bound (draft : Draft) : Fragment → List Value
  | predicate => draft.predicates.values
  | limit => if draft.limit.enabled then [.int draft.limit.count] else []
  | value => draft.inserts.values
  | set => draft.assignments.values
  | option => draft.options.values
  | field | table | order | condition => []

end Fragment

namespace Draft

def slots (draft : Draft) (command : Command) : Slots :=
  command.fragments.foldl (fun slots fragment => slots.insert fragment (fragment.text draft)) {}

/-- The text of the statement, with one space between its words. -/
def query (draft : Draft) (command : Command) : Text :=
  (command.render (draft.slots command)).collapse

def params (draft : Draft) (command : Command) : List Value :=
  command.fragments.flatMap (·.bound draft)

end Draft

end PreparedCql
