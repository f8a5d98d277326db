import PreparedCql.Call
import PreparedCql.Draft.Rendering
import PreparedCql.Event
import PreparedCql.Names
import PreparedCql.Statement
import PreparedCql.Value.Conversion

/-! Builders: a command and the draft that calls have filled for it. A call that is refused leaves the
builder as it was; a call for a fragment that the command leaves out is recorded all the same. -/

namespace PreparedCql

structure Builder where
  command : Command
  draft : Draft := {}
deriving BEq, Repr

namespace Builder

def apply (builder : Builder) (call : Call) : Except BuildError Builder :=
  match call.refusal? with
  | some mismatch => .error (.markerMismatch mismatch)
  | none => .ok { builder with draft := builder.draft.record call }

/-- The statement of everything collected so far; it needs a table. -/
def build (builder : Builder) : Except BuildError Statement :=
  match builder.draft.tableName? with
  | none => .error .missingTable
  | some _ => .ok ⟨builder.draft.query builder.command, builder.draft.params builder.command⟩

/-! Builders are made for a command and filled by chained calls. -/

/-- A builder for which no call has been made. -/
def new (command : Command) : Builder := { command := command }

def insert : Builder := new .insert

def select : Builder := new .select

def update : Builder := new .update

def delete : Builder := new .delete

/-- Records a call that is never refused. -/
def record (builder : Builder) (call : Call) : Builder :=
  { builder with draft := builder.draft.record call }

/-- Sets the table and drops the keyspace. -/
def table (builder : Builder) (name : Text) : Builder := builder.record (.table name)

def qualifiedTable (builder : Builder) (keyspace name : Text) : Builder :=
  builder.record (.qualifiedTable keyspace name)

def field {ν : Type} [Names ν] (builder : Builder) (columns : ν) : Builder :=
  builder.record (.field (names columns))

def predicate {α : Type} [ToValue α] (builder : Builder) (clause : Text) (values : List α) :
    Except BuildError Builder :=
  builder.apply (.predicate clause (values.map toValue))

def rawPredicate (builder : Builder) (clause : Text) : Except BuildError Builder :=
  builder.apply (.rawPredicate clause)

def order (builder : Builder) (clause : Text) : Builder := builder.record (.order clause)

/-- Limits the number of rows; a count below one lifts the limit. -/
def limit (builder : Builder) (count : Int64) : Builder := builder.record (.limit count)

def value {α : Type} [ToValue α] (builder : Builder) (column : Text) (content : α) : Builder :=
  builder.record (.value column (toValue content))

def set {α : Type} [ToValue α] (builder : Builder) (column : Text) (content : α) : Builder :=
  builder.record (.set column (toValue content))

def option {α : Type} [ToValue α] (builder : Builder) (name : Text) (content : α) : Builder :=
  builder.record (.option name (toValue content))

/-- Says whether an update may create the row, and so goes without `IF EXISTS`. -/
def upsert (builder : Builder) (flag : Bool) : Builder := builder.record (.upsert flag)

def clear (builder : Builder) : Builder := builder.record .clear

example :
    (do
      let adults ← (select.table "users".toList).predicate "age >= ?".toList [(18 : Int64)]
      (adults.limit 5).build) =
    .ok ⟨"SELECT * FROM users WHERE age >= ? LIMIT ?".toList, [.int 18, .int 5]⟩ := rfl

theorem apply_eq_record {builder : Builder} {call : Call} (accepted : call.refusal? = none) :
    builder.apply call = .ok (builder.record call) := by
  simp [apply, record, accepted]

theorem apply_eq_error_iff {builder : Builder} {call : Call} {error : BuildError} :
    builder.apply call = .error error ↔
      ∃ mismatch, call.refusal? = some mismatch ∧ error = .markerMismatch mismatch := by
  cases refusal : call.refusal? <;> simp [apply, refusal, eq_comm]

end Builder

end PreparedCql
