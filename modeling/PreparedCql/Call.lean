import PreparedCql.BuildError
import PreparedCql.Draft.Basic
import PreparedCql.Fragment.Basic
import PreparedCql.Marker

/-! Calls that fill a draft. Whether a call is refused depends on the call alone. -/

namespace PreparedCql

inductive Call where
  | table (name : Text)
  | qualifiedTable (keyspace name : Text)
  | field (names : List Text)
  | predicate (clause : Text) (values : List Value)
  | rawPredicate (clause : Text)
  | order (clause : Text)
  | limit (count : Int64)
  | value (column : Text) (value : Value)
  | set (column : Text) (value : Value)
  | option (name : Text) (value : Value)
  | upsert (flag : Bool)
  | clear
deriving Repr

namespace Call

/-- The fragment that the call fills, if it is one that a command may leave out. -/
def fragment? : Call → Option Fragment
  | field _ => some .field
  | predicate _ _ | rawPredicate _ => some .predicate
  | order _ => some .order
  | limit _ => some .limit
  | value _ _ => some .value
  | set _ _ => some .set
  | option _ _ => some .option
  | upsert _ => some .condition
  | table _ | qualifiedTable _ _ | clear => none

/-- A predicate is refused unless it has as many markers as values. -/
def mismatch? (clause : Text) (values : List Value) : Option Mismatch :=
  if clause.markers = values.length then none
  else some ⟨clause, clause.markers, values.length⟩

def refusal? : Call → Option Mismatch
  | predicate clause values => mismatch? clause values
  | rawPredicate clause => mismatch? clause []
  | _ => none

end Call

namespace Draft

/-- The draft after an accepted call. -/
def record (draft : Draft) : Call → Draft
  | .table name => { draft with keyspace := none, table := some name }
  | .qualifiedTable keyspace name => { draft with keyspace := some keyspace, table := some name }
  | .field names => { draft with fields := draft.fields ++ names }
  | .predicate clause values => { draft with predicates := draft.predicates.add clause values }
  | .rawPredicate clause => { draft with predicates := draft.predicates.add clause [] }
  | .order clause => { draft with order := some clause }
  | .limit count => { draft with limit := .ofCount count }
  | .value column value => { draft with inserts := draft.inserts.add column value }
  | .set column value => { draft with assignments := draft.assignments.add column value }
  | .option name value => { draft with options := draft.options.add name value }
  | .upsert flag => { draft with upsert := flag }
  | .clear => {}

end Draft

end PreparedCql
