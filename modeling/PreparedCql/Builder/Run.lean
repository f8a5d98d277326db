import PreparedCql.Builder.Basic

/-! Runs of a builder: calls and builds one after another, with what each of them answers and the
events that it emits. -/

namespace PreparedCql

inductive Action where
  | call (call : Call)
  | build
deriving Repr

structure Reply where
  events : List Event
  outcome : Except BuildError (Option Statement)

namespace Builder

/-- What a call reports: its refusal, the clearing, or that the command leaves its fragment out. -/
def callEvents (builder : Builder) (call : Call) : List Event :=
  match call.refusal? with
  | some mismatch => [.rejected mismatch]
  | none =>
      match call with
      | .clear => [.clearing builder.command]
      | _ =>
          match call.fragment? with
          | none => []
          | some fragment =>
              if builder.command.uses fragment then [] else [.ignored builder.command fragment]

/-- What a build reports: the statement, if there is one. -/
def buildEvents (builder : Builder) : List Event :=
  match builder.build with
  | .ok statement => [.built builder.command statement.query statement.params.length]
  | .error _ => []

def next (builder : Builder) (call : Call) : Builder :=
  match builder.apply call with
  | .ok changed => changed
  | .error _ => builder

def perform (builder : Builder) : Action → Builder × Reply
  | .call call =>
      (builder.next call, ⟨builder.callEvents call, (builder.apply call).map fun _ => none⟩)
  | .build => (builder, ⟨builder.buildEvents, builder.build.map some⟩)

def run (builder : Builder) : List Action → Builder × List Reply
  | [] => (builder, [])
  | action :: actions =>
      let (changed, reply) := builder.perform action
      let (last, replies) := changed.run actions
      (last, reply :: replies)

end Builder

end PreparedCql
