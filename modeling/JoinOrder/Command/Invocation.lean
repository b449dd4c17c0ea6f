/-
# Invocations

What a list of arguments asks for: the version, a count, a closed form, or a list of templates.
What is said about the log may stand before or after the name of the command, and the later of the
two wins.  Anything that is not understood makes the whole list a usage error, except that the
version is shown as soon as it is asked for.
-/
import JoinOrder.Command.Scan
import JoinOrder.Graph.Topology

namespace JoinOrder.Command

/-- What is to be logged. -/
structure LogChoice where
  /-- The name of the least important level. -/
  level : String
  /-- Whether events are written, as lines of JSON. -/
  json : Bool
  deriving DecidableEq, Repr

/-- What a count is asked to do. -/
structure CountRequest where
  /-- A canonical shape with its number of tables. -/
  shape : Option (Topology × Nat)
  /-- Edge texts. -/
  edges : List String
  /-- The path of a graph file. -/
  graphFile : Option String
  /-- The size of a pool of its own. -/
  threads : Option Nat
  /-- The path of a settings file. -/
  settingsFile : Option String
  /-- Whether the statistics are printed as JSON. -/
  json : Bool
  /-- Whether the count of a shape is compared with its closed form. -/
  verify : Bool
  deriving DecidableEq, Repr

/-- What is asked for. -/
inductive Request where
  /-- The version. -/
  | version
  /-- A count. -/
  | count (request : CountRequest)
  /-- The closed form of a shape. -/
  | formula (topology : Topology) (inputs : Nat)
  /-- The templates of a number of tables. -/
  | templates (inputs : Nat)
  deriving DecidableEq, Repr

/-- A request, and what is to be logged meanwhile. -/
structure Invocation where
  /-- What is to be logged. -/
  log : LogChoice
  /-- What is asked for. -/
  request : Request
  deriving DecidableEq, Repr

/-! ## The options -/

/-- The options about the log, which are understood everywhere. -/
def logOptions : List OptionSpec :=
  [⟨"log-level", none, .single⟩, ⟨"json-logs", none, .flag⟩]

/-- The options before the name of a command. -/
def topOptions : List OptionSpec :=
  ⟨"version", some 'V', .flag⟩ :: logOptions

/-- The option for a shape. -/
def topologyOption : OptionSpec := ⟨"topology", none, .single⟩

/-- The option for a number of tables. -/
def inputsOption : OptionSpec := ⟨"inputs", some 'n', .single⟩

/-- The options of a count. -/
def countOptions : List OptionSpec :=
  [topologyOption, inputsOption, ⟨"edge", some 'e', .repeated⟩, ⟨"graph", none, .single⟩,
    ⟨"threads", none, .single⟩, ⟨"config", none, .single⟩, ⟨"json", none, .flag⟩,
    ⟨"verify", none, .flag⟩] ++ logOptions

/-- The options of each command; nothing for a name that is no command. -/
def commandOptions? (command : String) : Option (List OptionSpec) :=
  if command = "count" then some countOptions
  else if command = "formula" then some ([topologyOption, inputsOption] ++ logOptions)
  else if command = "templates" then some (inputsOption :: logOptions)
  else none

/-! ## Reading options -/

/-- The value of an option that may be left out; a value that cannot be read is a usage error. -/
def optionalValue {α : Type} (given : List Given) (name : String) (read? : String → Option α) :
    Option (Option α) :=
  match valueOf? given name with
  | none => some none
  | some text => (read? text).map some

/-- A path, which is never empty. -/
def path? (text : String) : Option String :=
  if text = "" then none else some text

/-- The shape of a count, for which the number of tables is needed. -/
def shape? (topology : Option Topology) (inputs : Option Nat) : Option (Option (Topology × Nat)) :=
  match topology, inputs with
  | none, _ => some none
  | some topology, some inputs => some (some (topology, inputs))
  | some _, none => none

/-- The request of a count. -/
def countRequest? (given : List Given) : Option CountRequest := do
  let topology ← optionalValue given "topology" Topology.ofExactName?
  let inputs ← optionalValue given "inputs" Word.ofText?
  let shape ← shape? topology inputs
  let graphFile ← optionalValue given "graph" path?
  let threads ← optionalValue given "threads" Word.ofText?
  let settingsFile ← optionalValue given "config" path?
  let verify := isGiven given "verify"
  if verify ∧ shape.isNone then none
  else return {
    shape, graphFile, threads, settingsFile, verify
    edges := valuesOf given "edge"
    json := isGiven given "json" }

/-- The request of a command with its options. -/
def request? (command : String) (given : List Given) : Option Request := do
  if command = "count" then
    let request ← countRequest? given
    return .count request
  else if command = "formula" then
    let topology ← (valueOf? given "topology").bind Topology.ofExactName?
    let inputs ← (valueOf? given "inputs").bind Word.ofText?
    return .formula topology inputs
  else if command = "templates" then
    let inputs ← (valueOf? given "inputs").bind Word.ofText?
    return .templates inputs
  else none

/-- What is to be logged, by the options before and after the name of the command. -/
def logChoice (before after : List Given) : LogChoice where
  level := ((valueOf? after "log-level").or (valueOf? before "log-level")).getD "warn"
  json := isGiven before "json-logs" || isGiven after "json-logs"

/-! ## Reading arguments -/

/-- The invocation behind the options that stand first. -/
def ofCommand? (before : List Given) : List String → Option Invocation
  | [] => none
  | command :: arguments => do
    let specs ← commandOptions? command
    let scanned := scan specs arguments
    if scanned.rest = some [] ∧ withinArity specs scanned.given then
      let request ← request? command scanned.given
      return ⟨logChoice before scanned.given, request⟩
    else none

/-- The invocation that a list of arguments denotes; nothing for a usage error. -/
def Invocation.ofArguments? (arguments : List String) : Option Invocation :=
  let scanned := scan topOptions arguments
  let asked := scanned.given.takeWhile (·.name ≠ "version")
  if isGiven scanned.given "version" then
    if withinArity topOptions asked then some ⟨logChoice asked [], .version⟩ else none
  else if withinArity topOptions scanned.given then
    scanned.rest.bind (ofCommand? scanned.given)
  else none

end JoinOrder.Command
