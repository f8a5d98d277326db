import Mathlib.Data.List.DropRight
import PreparedCql.Builder.Run

/-! The history of a builder: the calls since the last clearing that were not refused. Whatever the
order of the calls, the draft they leave behind is read off their history, each part of it from the
calls that fill its own fragment. -/

namespace PreparedCql.Call

def isClear : Call → Bool
  | clear => true
  | _ => false

def accepted (call : Call) : Bool := call.refusal?.isNone

/-- The fragment that the call fills, the table among them. A clearing fills none. -/
def target? : Call → Option Fragment
  | table _ | qualifiedTable _ _ => some .table
  | call => call.fragment?

def recent (calls : List Call) : List Call := calls.rtakeWhile (!·.isClear)

/-- The calls since the last clearing, refused ones left out. -/
def history (calls : List Call) : List Call := (recent calls).filter accepted

def grouped (calls : List Call) (fragment : Fragment) : List Call :=
  calls.filter (·.target? == some fragment)

/-! What a call brings to the fragment it fills. -/

def place? : Call → Option (Option Text × Text)
  | table name => some (none, name)
  | qualifiedTable keyspace name => some (some keyspace, name)
  | _ => none

def columns : Call → List Text
  | field names => names
  | _ => []

def condition? : Call → Option (Text × List Value)
  | predicate clause values => some (clause, values)
  | rawPredicate clause => some (clause, [])
  | _ => none

def ordering? : Call → Option Text
  | order clause => some clause
  | _ => none

def count? : Call → Option Int64
  | limit count => some count
  | _ => none

/-- A name and the value bound with it: a column of a row, an assignment or an option. -/
def binding? : Call → Option (Text × Value)
  | value name content | set name content | option name content => some (name, content)
  | _ => none

def flag? : Call → Option Bool
  | upsert flag => some flag
  | _ => none

theorem isClear_iff {call : Call} : call.isClear = true ↔ call = clear := by
  cases call <;> simp [isClear]

theorem recent_concat (calls : List Call) (call : Call) :
    recent (calls ++ [call]) = if call.isClear then [] else recent calls ++ [call] := by
  rw [recent, List.rtakeWhile_concat]
  cases call.isClear <;> rfl

theorem history_concat_clear (calls : List Call) : history (calls ++ [clear]) = [] := by
  rw [history, recent_concat]
  rfl

theorem history_concat {call : Call} (kept : call.isClear = false) (calls : List Call) :
    history (calls ++ [call]) = history calls ++ [call].filter accepted := by
  rw [history, recent_concat, kept]
  exact List.filter_append ..

theorem accepted_of_mem_history {calls : List Call} {call : Call} (member : call ∈ history calls) :
    call.accepted = true :=
  (List.mem_filter.mp member).2

theorem values_length_of_accepted {call : Call} (accepted : call.accepted = true) {clause : Text}
    {values : List Value} (given : call.condition? = some (clause, values)) :
    values.length = clause.markers := by
  by_contra differ
  cases call with
  | predicate | rawPredicate =>
    cases given
    have refused : Call.mismatch? _ _ = some _ := if_neg (Ne.symm differ)
    simp [Call.accepted, Call.refusal?, refused] at accepted
  | _ => cases given

theorem values_length_of_mem_conditions {calls : List Call}
    (accepted : ∀ call ∈ calls, call.accepted = true) :
    ∀ condition ∈ calls.filterMap condition?, condition.2.length = Text.markers condition.1 := by
  intro condition member
  obtain ⟨call, made, given⟩ := List.mem_filterMap.mp member
  exact values_length_of_accepted (accepted call made) given

theorem accepted_of_mem_grouped {calls : List Call}
    (accepted : ∀ call ∈ calls, call.accepted = true) (fragment : Fragment) :
    ∀ call ∈ grouped calls fragment, call.accepted = true :=
  fun call member => accepted call (List.mem_filter.mp member).1

theorem grouped_concat (calls : List Call) (call : Call) (fragment : Fragment) :
    grouped (calls ++ [call]) fragment =
      if call.target? = some fragment then grouped calls fragment ++ [call]
      else grouped calls fragment := by
  rw [grouped, List.filter_append]
  by_cases same : call.target? = some fragment
  · rw [if_pos same, List.filter_cons_of_pos (by simpa using same)]
    rfl
  · rw [if_neg same, List.filter_cons_of_neg (by simpa using same)]
    exact List.append_nil _

theorem grouped_history (calls : List Call) (fragment : Fragment) :
    grouped (history calls) fragment = (grouped (recent calls) fragment).filter accepted := by
  rw [history, grouped, grouped, List.filter_comm]

end PreparedCql.Call

namespace PreparedCql

namespace Bindings

def collected (calls : List Call) : Bindings where
  names := (calls.filterMap Call.binding?).map Prod.fst
  values := (calls.filterMap Call.binding?).map Prod.snd

theorem collected_concat (call : Call) {name : Text} {value : Value}
    (bound : call.binding? = some (name, value)) (calls : List Call) :
    collected (calls ++ [call]) = (collected calls).add name value := by
  simp [collected, add, bound]

end Bindings

namespace Predicates

def collected (calls : List Call) : Predicates where
  clauses := (calls.filterMap Call.condition?).map Prod.fst
  values := (calls.filterMap Call.condition?).flatMap Prod.snd

theorem collected_concat (call : Call) {clause : Text} {values : List Value}
    (given : call.condition? = some (clause, values)) (calls : List Call) :
    collected (calls ++ [call]) = (collected calls).add clause values := by
  simp [collected, add, given]

end Predicates

namespace Draft

/-- A draft with every part read off the calls for its own fragment: the last of them decides on the
table, the order, the limit and the guard, and all of them, in their order, make up the rest. -/
def collected (calls : Fragment → List Call) : Draft where
  keyspace := ((calls .table).filterMap Call.place?).getLast?.bind Prod.fst
  table := ((calls .table).filterMap Call.place?).getLast?.map Prod.snd
  fields := (calls .field).flatMap Call.columns
  predicates := .collected (calls .predicate)
  order := ((calls .order).filterMap Call.ordering?).getLast?
  limit := ((calls .limit).filterMap Call.count?).getLast?.elim {} RowLimit.ofCount
  inserts := .collected (calls .value)
  assignments := .collected (calls .set)
  options := .collected (calls .option)
  upsert := ((calls .condition).filterMap Call.flag?).getLast?.getD false

theorem collected_fields (calls : Fragment → List Call) :
    (collected calls).fields = (calls .field).flatMap Call.columns := rfl

theorem collected_clauses (calls : Fragment → List Call) :
    (collected calls).predicates.clauses =
      ((calls .predicate).filterMap Call.condition?).map Prod.fst := rfl

theorem collected_limit (calls : Fragment → List Call) :
    (collected calls).limit =
      ((calls .limit).filterMap Call.count?).getLast?.elim {} RowLimit.ofCount := rfl

theorem collected_option_names (calls : Fragment → List Call) :
    (collected calls).options.names = ((calls .option).filterMap Call.binding?).map Prod.fst := rfl

theorem collected_option_values (calls : Fragment → List Call) :
    (collected calls).options.values = ((calls .option).filterMap Call.binding?).map Prod.snd := rfl

theorem collected_upsert (calls : Fragment → List Call) :
    (collected calls).upsert =
      ((calls .condition).filterMap Call.flag?).getLast?.getD false := rfl

/-- Recording a call adds it to the calls for its fragment and to no others. -/
theorem collected_concat {call : Call} (kept : call.isClear = false) (calls : List Call) :
    collected (Call.grouped (calls ++ [call])) = (collected (Call.grouped calls)).record call := by
  have grouped : Call.grouped (calls ++ [call]) = fun fragment =>
      if call.target? = some fragment then Call.grouped calls fragment ++ [call]
      else Call.grouped calls fragment :=
    funext (Call.grouped_concat calls call)
  simp only [grouped, collected, record, Call.target?, Call.fragment?]
  cases call with
  | clear => cases kept
  | predicate clause values => simp [Predicates.collected_concat (.predicate clause values) rfl]
  | rawPredicate clause => simp [Predicates.collected_concat (.rawPredicate clause) rfl]
  | value column value => simp [Bindings.collected_concat (.value column value) rfl]
  | set column value => simp [Bindings.collected_concat (.set column value) rfl]
  | option name value => simp [Bindings.collected_concat (.option name value) rfl]
  | table | qualifiedTable => simp [Call.place?]
  | field => simp [Call.columns]
  | order => simp [Call.ordering?]
  | limit => simp [Call.count?]
  | upsert => simp [Call.flag?]

end Draft

namespace Builder

/-- The builder after one call after another, refused ones leaving it as it was. -/
def after (builder : Builder) (calls : List Call) : Builder := calls.foldl next builder

theorem after_concat (builder : Builder) (calls : List Call) (call : Call) :
    builder.after (calls ++ [call]) = (builder.after calls).next call := by
  simp only [after, List.foldl_append, List.foldl_cons, List.foldl_nil]

theorem next_eq (builder : Builder) (call : Call) :
    builder.next call = if call.accepted then builder.record call else builder := by
  cases refusal : call.refusal? with
  | none => simp [next, apply, record, Call.accepted, refusal]
  | some mismatch => simp [next, apply, Call.accepted, refusal]

theorem command_after (builder : Builder) (calls : List Call) :
    (builder.after calls).command = builder.command := by
  induction calls using List.reverseRecOn with
  | nil => rfl
  | append_singleton calls call ih =>
    rw [after_concat, next_eq]
    split
    · exact ih
    · exact ih

/-- What holds of a new builder and its empty history, and is kept when a call is recorded, holds of
every builder and its history: a refused call changes neither, and a clearing renews both. -/
theorem after_induction {command : Command} {motive : List Call → Builder → Prop}
    (fresh : motive [] (new command))
    (step : ∀ (history : List Call) (builder : Builder) (call : Call), call.isClear = false →
      call.accepted = true → motive history builder →
      motive (history ++ [call]) (builder.record call))
    (calls : List Call) : motive (Call.history calls) ((new command).after calls) := by
  induction calls using List.reverseRecOn with
  | nil => exact fresh
  | append_singleton calls call ih =>
    rw [after_concat, next_eq]
    by_cases cleared : call.isClear = true
    · have clearing : call = .clear := Call.isClear_iff.mp cleared
      have renewed : ((new command).after calls).record .clear = new command :=
        congrArg new (command_after (new command) calls)
      have accepted : Call.clear.accepted = true := rfl
      rw [clearing, Call.history_concat_clear, if_pos accepted, renewed]
      exact fresh
    · have kept : call.isClear = false := eq_false_of_ne_true cleared
      rw [Call.history_concat kept]
      by_cases accepted : call.accepted = true
      · have added : [call].filter Call.accepted = [call] := List.filter_cons_of_pos accepted
        rw [if_pos accepted, added]
        exact step _ _ call kept accepted ih
      · have dropped : [call].filter Call.accepted = [] := List.filter_cons_of_neg accepted
        rw [if_neg accepted, dropped, List.append_nil]
        exact ih

/-- The builder depends on nothing but its command and the history, and each part of its draft on
the calls for one fragment. -/
theorem after_new (command : Command) (calls : List Call) :
    (new command).after calls =
      { command := command, draft := .collected (Call.grouped (Call.history calls)) } := by
  apply after_induction
    (motive := fun history builder => builder = ⟨command, .collected (Call.grouped history)⟩)
  · rfl
  · intro history builder call kept _ same
    rw [same, Draft.collected_concat kept]
    rfl

end Builder

end PreparedCql
