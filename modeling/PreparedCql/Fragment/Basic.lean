import PreparedCql.Json.Writer
import PreparedCql.Text.Inspect

/-! The pieces that a statement is put together from. -/

namespace PreparedCql

/-- A piece of a statement that is filled on its own. -/
inductive Fragment where
  | field
  | table
  | predicate
  | order
  | limit
  | value
  | set
  /-- Options after `USING`. -/
  | option
  /-- The guard `IF EXISTS`. -/
  | condition
deriving DecidableEq, Repr

namespace Fragment

/-- The fragments by their index. -/
def all : List Fragment :=
  [field, table, predicate, order, limit, value, set, option, condition]

def count : Nat := 9

/-- The place of a fragment in a table with one entry for each of them. -/
def index (fragment : Fragment) : Fin count where
  val := fragment.ctorIdx
  isLt := by cases fragment <;> decide

def name : Fragment → String
  | field => "field"
  | table => "table"
  | predicate => "where"
  | order => "order"
  | limit => "limit"
  | value => "value"
  | set => "set"
  | option => "option"
  | condition => "condition"

def json (writer : JsonWriter) (fragment : Fragment) : Text := writer.string fragment.name.toList

instance : Inspect Fragment where
  inspect
    | field => "Field".toList
    | table => "Table".toList
    | predicate => "Where".toList
    | order => "Order".toList
    | limit => "Limit".toList
    | value => "Value".toList
    | set => "Set".toList
    | option => "Option".toList
    | condition => "Condition".toList

theorem getElem?_index (fragment : Fragment) : all[fragment.index.val]? = some fragment := by
  cases fragment <;> rfl

theorem index_injective {left right : Fragment} (same : left.index = right.index) :
    left = right := by
  have found := right.getElem?_index
  rw [← same, left.getElem?_index] at found
  exact Option.some.inj found

end Fragment

end PreparedCql
