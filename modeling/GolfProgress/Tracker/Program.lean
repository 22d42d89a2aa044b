import GolfProgress.BreakingPoint.Store
import GolfProgress.Sessions.Log
import GolfProgress.Results.Basic

/-!
# Operations as programs of calls

A tracker operation is a program: it makes one call after another to the store
of breaking points, the session log and the result log, and each reply decides
how it goes on.  A call is the unit that other operations can come between, so
two operations that run at once are two programs whose calls interleave.

`Workspace.perform` answers one call, `Program.step?` runs a program by one
call, and `Program.run` runs it to its end.
-/

set_option autoImplicit false

namespace GolfProgress

/-- A call of an operation. -/
inductive Call where
  /-- Read the record of an identifier. -/
  | get (id : Uuid)
  /-- Write a patch to a record of an expected version. -/
  | update (id : Uuid) (expected : UInt64) (patch : Patch)
  /-- List the records of a player. -/
  | list (player : Uuid)
  /-- Count sessions since an instant. -/
  | count (scope : SessionScope) (since : Instant)
  /-- Find the latest result of a player and test in a span of dates. -/
  | latest (player : Uuid) (test : String) (start finish : Date)
deriving DecidableEq

/-- What a call is answered with when it succeeds. -/
def Call.Answer : Call → Type
  | .get _ => Option BreakingPoint
  | .update .. => BreakingPoint
  | .list _ => List BreakingPoint
  | .count .. => UInt32
  | .latest .. => Option TestResult

/-- What a call is answered with. -/
abbrev Call.Reply (call : Call) : Type := Except StoreFailure call.Answer

/-- An operation with a result. -/
inductive Program (Result : Type) where
  /-- The operation has ended. -/
  | done (result : Result)
  /-- The operation makes a call and goes on with its reply. -/
  | call (request : Call) (next : request.Reply → Program Result)

namespace Program

variable {Result Other : Type}

/-- One operation after another, which knows the result of the first. -/
def andThen (program : Program Result) (rest : Result → Program Other) : Program Other :=
  match program with
  | .done result => rest result
  | .call request next => .call request fun reply => (next reply).andThen rest

/-- The result of an operation, changed. -/
def map (change : Result → Other) (program : Program Result) : Program Other :=
  program.andThen fun result => .done (change result)

/-- Operations one after another, with the list of their results. -/
def inTurn : List (Program Result) → Program (List Result)
  | [] => .done []
  | program :: rest =>
    program.andThen fun result => (inTurn rest).andThen fun results => .done (result :: results)

end Program

/-! ## Answering calls -/

/-- Everything that operations call. -/
structure Workspace where
  store : BreakingPointStore := {}
  sessions : SessionLog := {}
  results : ResultLog := {}
  /-- Writes of others, of which one lands just before each update. -/
  rivals : List (Uuid × Patch) := []
  /-- The failure with which updates are answered, when there is one. -/
  updateFailure : Option StoreFailure := none
deriving Inhabited

namespace Workspace

/-- The workspace after the next write of others, if any, has landed on the
current version of its record. -/
def meetRival (workspace : Workspace) : Workspace :=
  match workspace.rivals with
  | [] => workspace
  | (id, patch) :: rest =>
    let store := match workspace.store.find? id with
      | some point => (workspace.store.update id point.version patch).2
      | none => workspace.store
    { workspace with store, rivals := rest }

/-- The reply to a call, and the workspace after it. -/
def perform (workspace : Workspace) : (call : Call) → call.Reply × Workspace
  | .get id => (workspace.store.get id, workspace)
  | .list player => (workspace.store.listForPlayer player, workspace)
  | .count scope since => (workspace.sessions.count scope since, workspace)
  | .latest player test start finish =>
    (workspace.results.findLatest player test start finish, workspace)
  | .update id expected patch =>
    let workspace := workspace.meetRival
    match workspace.updateFailure with
    | some failure => (.error failure, workspace)
    | none =>
      let (reply, store) := workspace.store.update id expected patch
      (reply, { workspace with store })

end Workspace

namespace Program

variable {Result : Type}

/-- A program after its next call, with the workspace after that call; none when
it has ended. -/
def step? (program : Program Result) (workspace : Workspace) :
    Option (Program Result × Workspace) :=
  match program with
  | .done _ => none
  | .call request next => some (next (workspace.perform request).1, (workspace.perform request).2)

/-- The result of a program that runs alone, and the workspace at its end. -/
def run (program : Program Result) (workspace : Workspace) : Result × Workspace :=
  match program with
  | .done result => (result, workspace)
  | .call request next => (next (workspace.perform request).1).run (workspace.perform request).2

end Program

end GolfProgress
