import SheetSql.Render

namespace SheetSql

/-! Sessions: formulas compiled step by step, where a call can take the SQL of earlier steps. -/

inductive Argument where
  | sql (text : String)
  | result (step : Nat)
  deriving DecidableEq, Repr, Inhabited

inductive Step where
  | zone (name : String)
  | tableAlias (name : String)
  | storage (storage : Storage)
  | now (moment : Instant)
  | field (field : Field)
  | columnAlias (column id : String)
  | target (target : Target)
  | leaf (leaf : Leaf)
  | call (name : String) (args : List Argument) (hints : List Hint)
  deriving Repr, Inhabited

inductive Reply where
  | job (job : Job)
  | target (target : Target)
  | sql (text : String)
  deriving Repr, Inhabited

namespace Reply

def sql? : Reply → Option String
  | .sql text => some text
  | _ => none

end Reply

inductive StepError where
  | library (error : Error)
  | noResult
  deriving Repr, Inhabited

structure Session where
  job : Job
  target : Target
  results : List (Option String)
  deriving Repr, Inhabited

namespace Session

def start (job : Job) (target : Target) : Session := ⟨job, target, []⟩

def resolve (session : Session) : Argument → Except StepError String
  | .sql text => .ok text
  | .result step =>
    match session.results[step]?.join with
    | some text => .ok text
    | none => .error .noResult

def changed (session : Session) (job : Job) : Session × Reply := ({ session with job }, .job job)

def apply (session : Session) : Step → Except StepError (Session × Reply)
  | .zone name => do
      let job ← (session.job.withZone name).mapError .library
      return session.changed job
  | .tableAlias name => .ok (session.changed { session.job with tableAlias := some name })
  | .storage storage => .ok (session.changed { session.job with storage := some storage })
  | .now now => .ok (session.changed { session.job with now })
  | .field field =>
    .ok (session.changed { session.job with catalog := session.job.catalog.append field })
  | .columnAlias column id =>
    .ok (session.changed
      { session.job with catalog := session.job.catalog.withAlias column id })
  | .target target => .ok ({ session with target }, .target target)
  | .leaf leaf => do
      let sql ← (session.target.renderLeaf session.job leaf).mapError .library
      return (session, .sql sql)
  | .call name args hints => do
      let args ← args.mapM session.resolve
      let sql ← (session.target.render session.job name args hints).mapError .library
      return (session, .sql sql)

def recorded (session : Session) (result : Option String) : Session :=
  { session with results := session.results ++ [result] }

/-- Runs a step. One that fails is counted and changes nothing else. -/
def step (session : Session) (step : Step) : Session × Except StepError Reply :=
  match session.apply step with
  | .ok (next, reply) => (next.recorded reply.sql?, .ok reply)
  | .error error => (session.recorded none, .error error)

end Session

end SheetSql
