/-
# Errors

What can go wrong, apart from an arithmetic overflow: eight kinds, each with a code of its own, a
sentence for people and a JSON form for programs.  The errors that the library raises itself are
named below the type, so that their wording stands in one place.
-/
import JoinOrder.Json.Value
import JoinOrder.Text.Quoted

namespace JoinOrder

/-- The kinds of error. -/
inductive Error where
  /-- A file cannot be read. -/
  | io (reason : String)
  /-- A name, an edge or a topology is not acceptable. -/
  | invalidArgument (reason : String)
  /-- The settings are malformed or contradict their rules. -/
  | config (reason : String)
  /-- A text does not denote the expected record. -/
  | serialization (reason : String)
  /-- The worker pool cannot be set up. -/
  | workerPool (reason : String)
  /-- A worker gave up. -/
  | threadPanic (reason : String)
  /-- An operation does not apply to its operand. -/
  | invalidOperation (reason : String)
  /-- A generated list does not have the size that its closed form predicts. -/
  | searchSpaceMismatch (what : String) (expected actual : Nat)
  deriving DecidableEq, Repr

namespace Error

/-! ## How an error is shown -/

/-- The name of the kind. -/
def kind : Error → String
  | io _ => "Io"
  | invalidArgument _ => "InvalidArgument"
  | config _ => "Config"
  | serialization _ => "Serialization"
  | workerPool _ => "WorkerPool"
  | threadPanic _ => "ThreadPanic"
  | invalidOperation _ => "InvalidOperation"
  | searchSpaceMismatch .. => "SearchSpaceMismatch"

/-- The number of the kind. -/
def code : Error → Int
  | io _ => -1
  | invalidArgument _ => -2
  | config _ => -3
  | serialization _ => -4
  | workerPool _ => -5
  | threadPanic _ => -6
  | invalidOperation _ => -7
  | searchSpaceMismatch .. => -8

/-- The sentence that reports the error. -/
def message : Error → String
  | io reason => "IO error: " ++ reason
  | invalidArgument reason => "Invalid argument: " ++ reason
  | config reason => "Configuration error: " ++ reason
  | serialization reason => "Serialization error: " ++ reason
  | workerPool reason => "Worker pool error: " ++ reason
  | threadPanic reason => "Thread panic: " ++ reason
  | invalidOperation reason => "Invalid operation: " ++ reason
  | searchSpaceMismatch what expected actual =>
    "Search space mismatch for " ++ what ++ ": expected " ++ expected.repr ++ ", generated " ++
      actual.repr

/-- The JSON form: the name of the kind over its contents.  Contents of one unnamed part stand
alone, named parts are a record. -/
def toJson (error : Error) : Json :=
  Json.record [(error.kind,
    match error with
    | io reason | invalidArgument reason | config reason | serialization reason
    | workerPool reason | threadPanic reason => Json.text reason
    | invalidOperation reason => Json.record [("reason", Json.text reason)]
    | searchSpaceMismatch what expected actual =>
      Json.record [("what", Json.text what), ("expected", Json.natural expected),
        ("actual", Json.natural actual)])]

/-- Two errors of one kind have one code, and two kinds never share one. -/
theorem code_eq_iff_kind_eq (a b : Error) : a.code = b.code ↔ a.kind = b.kind := by
  cases a <;> cases b <;> simp [code, kind]

/-! ## The errors of the library -/

/-- A table needs a name. -/
def emptyTableName : Error := invalidArgument "Table name must not be empty"

/-- Both sides of a condition need names. -/
def unnamedSide (left right : String) : Error :=
  invalidArgument ("Join condition needs two table names, got " ++ Text.quoted left ++ " and " ++
    Text.quoted right)

/-- An edge text needs a name on either side of its colon. -/
def malformedEdge (edge : String) : Error :=
  invalidArgument ("Edge must be written as left:right, got " ++ Text.quoted edge)

/-- No topology has this name. -/
def unknownTopology (name : String) : Error := invalidArgument ("Unknown topology: " ++ name)

/-- A leaf of a template names a slot that the order does not have. -/
def slotOutsideOrder (slot length : Nat) : Error :=
  invalidOperation ("Template slot " ++ slot.repr ++ " is outside an order of " ++ length.repr ++
    " tables")

/-- A pool of no threads does no work. -/
def noWorkerThread : Error := config "Worker pool must have at least 1 thread"

/-- Threads are named after their pool. -/
def emptyThreadPrefix : Error := config "Thread name prefix must not be empty"

/-- A variable of the environment has a value that cannot be read. -/
def invalidVariable (name value : String) : Error :=
  config ("Invalid " ++ name ++ ": " ++ value)

/-- A settings text is not one. -/
def malformedSettings : Error := config "JSON parse error"

/-- A graph text is not one. -/
def malformedGraph : Error := serialization "Invalid join graph"

end Error

/-! ## Computations that may fail -/

/-- Two computations in a row have a result if the first has one and the second has one for it. -/
theorem bind_eq_ok_iff {ε α β : Type} {first : Except ε α} {next : α → Except ε β} {b : β} :
    first >>= next = .ok b ↔ ∃ a, first = .ok a ∧ next a = .ok b := by
  cases first with
  | error e =>
    constructor
    · intro h
      cases h
    · rintro ⟨a, h, -⟩
      cases h
  | ok a =>
    constructor
    · intro h
      exact ⟨a, rfl, h⟩
    · rintro ⟨a', same, h⟩
      cases same
      exact h

/-- A result behind a failure of another kind is a result. -/
theorem mapError_eq_ok_iff {ε ε' α : Type} {result : Except ε α} {f : ε → ε'} {a : α} :
    result.mapError f = .ok a ↔ result = .ok a := by
  cases result with
  | error e =>
    constructor
    · intro h
      cases h
    · intro h
      cases h
  | ok b =>
    show Except.ok b = .ok a ↔ Except.ok b = .ok a
    rw [Except.ok.injEq, Except.ok.injEq]

section State

variable {ε σ α β : Type} {first : ExceptT ε (StateM σ) α} {before after : σ}

/-- A computation on a state that is followed by another one hands its result and its state on. -/
theorem run_bind_of_ok {a : α} (h : first.run.run before = (.ok a, after))
    (next : α → ExceptT ε (StateM σ) β) :
    (first >>= next).run.run before = (next a).run.run after := by
  show (ExceptT.bindCont next (first.run.run before).1).run (first.run.run before).2 = _
  rw [h]
  rfl

/-- A failure is the end of a computation, and the state stays as it is then. -/
theorem run_bind_of_error {e : ε} (h : first.run.run before = (.error e, after))
    (next : α → ExceptT ε (StateM σ) β) :
    (first >>= next).run.run before = (.error e, after) := by
  show (ExceptT.bindCont next (first.run.run before).1).run (first.run.run before).2 = _
  rw [h]
  rfl

end State

end JoinOrder
