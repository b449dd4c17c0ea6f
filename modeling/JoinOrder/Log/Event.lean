/-
# Events

What a graph and a count report while they are worked on.  An event has a level, a message and
fields of its own; in its JSON form the fields stand in the order of their names.

A level says how important an event is.  It admits the events that are at least as important as
itself.
-/
import JoinOrder.Json.Writer

namespace JoinOrder

/-! ## Levels -/

/-- The levels, the most talkative first. -/
inductive Level where
  | trace
  | debug
  | info
  | warn
  | error
  deriving DecidableEq, Repr

namespace Level

/-- The levels in the order of their importance, the least important first. -/
def all : List Level := [trace, debug, info, warn, error]

/-- The name of a level. -/
def name : Level → String
  | trace => "TRACE"
  | debug => "DEBUG"
  | info => "INFO"
  | warn => "WARN"
  | error => "ERROR"

/-- The importance of a level as a number. -/
def importance : Level → Nat
  | trace => 0
  | debug => 1
  | info => 2
  | warn => 3
  | error => 4

/-- The level with a name, in any mixture of upper and lower case ASCII letters. -/
def ofName? (text : String) : Option Level :=
  let raised := String.ofList (text.toList.map Char.toUpper)
  all.find? fun level => level.name = raised

/-- Whether a limit lets events of a level pass. -/
def admits (limit level : Level) : Bool := limit.importance ≤ level.importance

@[simp] theorem ofName?_name (level : Level) : ofName? level.name = some level := by
  cases level <;> decide

end Level

/-! ## Events -/

/-- The events of the library. -/
inductive Event where
  /-- A table got its number. -/
  | tableRegistered (table : String) (id : Nat)
  /-- There are more tables than a count is practical for. -/
  | impracticalSize (inputs limit : Nat)
  /-- The leaf orders and templates have been generated. -/
  | searchSpaceGenerated (inputs orders templates : Nat)
  /-- The trees are about to be checked. -/
  | started (inputs conditions pairs : Nat)
  /-- Some leaf orders have been checked with every template. -/
  | progress (finished total found : Nat)
  /-- The memo is full. -/
  | memoFilled (inputSets verdicts : Nat)
  /-- The trees have been counted. -/
  | completed (inputs count : Nat)
  deriving DecidableEq, Repr

namespace Event

/-! ## Where events come from -/

/-- The name that all targets of the library start with. -/
def library : String := "join_enumerator"

/-- The target of an event: the part of the library that it comes from. -/
def target : Event → String
  | tableRegistered .. => library ++ "::core::join_enum::registry"
  | _ => library ++ "::core::join_enum::enumerator"

/-- The events of tables that got their numbers. -/
def registrations (tables : List (String × Nat)) : List Event :=
  tables.map fun table => tableRegistered table.1 table.2

/-! ## What events say -/

/-- How important an event is. -/
def level : Event → Level
  | tableRegistered .. => .trace
  | impracticalSize .. => .warn
  | searchSpaceGenerated .. => .debug
  | started .. => .info
  | progress .. => .info
  | memoFilled .. => .debug
  | completed .. => .info

/-- What an event says. -/
def message : Event → String
  | tableRegistered .. => "Registered table"
  | impracticalSize .. => "Exhaustive enumeration beyond the practical input limit"
  | searchSpaceGenerated .. => "Generated search space"
  | started .. => "Starting join enumeration"
  | progress .. => "Join enumeration progress"
  | memoFilled .. => "Memo cache sizes"
  | completed .. => "Join enumeration completed"

/-- The fields of an event besides its level and message. -/
def fields : Event → List (String × Json)
  | tableRegistered table id => [("table", Json.text table), ("id", Json.natural id)]
  | impracticalSize inputs limit => [("inputs", Json.natural inputs), ("limit", Json.natural limit)]
  | searchSpaceGenerated inputs orders templates =>
    [("inputs", Json.natural inputs), ("orders", Json.natural orders),
      ("templates", Json.natural templates)]
  | started inputs conditions pairs =>
    [("inputs", Json.natural inputs), ("conditions", Json.natural conditions),
      ("pairs", Json.natural pairs)]
  | progress finished total found =>
    [("completed_orders", Json.natural finished), ("total_orders", Json.natural total),
      ("found_so_far", Json.natural found)]
  | memoFilled inputSets verdicts =>
    [("cached_input_sets", Json.natural inputSets), ("cached_verdicts", Json.natural verdicts)]
  | completed inputs count => [("inputs", Json.natural inputs), ("count", Json.natural count)]

/-- The names of all fields by which an event can be selected.  The end of a count has a field for
the time taken as well. -/
def fieldNames (event : Event) : List String :=
  "message" :: event.fields.map Prod.fst ++
    match event with
    | completed .. => ["duration_ms"]
    | _ => []

/-- The JSON form: all fields with level and message, in the order of their names. -/
def toJson (event : Event) : Json :=
  Json.record <|
    (("level", Json.text event.level.name) :: ("message", Json.text event.message) ::
      event.fields).mergeSort fun a b => (compare a.1 b.1).isLE

end Event

end JoinOrder
