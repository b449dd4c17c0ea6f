/-
# Outcomes

What the command line does with an invocation: the lines that it prints, the complaint that it ends
with if it fails, and its exit status.  Files and variables are handed in as contents, and a count
is set apart from its report, so that the time it takes can be measured around it.
-/
import JoinOrder.Command.Invocation
import JoinOrder.Enumeration.Count
import JoinOrder.Enumeration.Preparation
import JoinOrder.Graph.EdgeText
import JoinOrder.Graph.Spec
import JoinOrder.Log.Filter

namespace JoinOrder.Command

/-- What the command line finds around itself. -/
structure Surroundings where
  /-- The variables of the environment. -/
  environment : Settings.Environment
  /-- The files by their paths. -/
  files : String → Content

/-- How a run of the command line ends. -/
structure Outcome where
  /-- The exit status. -/
  status : Nat
  /-- What happened on the way. -/
  events : List Event
  /-- The lines of the result. -/
  lines : List String
  /-- What is said about a failure. -/
  complaint : Option String

namespace Outcome

/-- The status of a failure with a complaint. -/
def failureStatus : Nat := 1

/-- The status for arguments that are not understood. -/
def usageStatus : Nat := 2

/-- The status of a run that is broken off. -/
def brokenOffStatus : Nat := 101

/-- A result. -/
def success (lines : List String) : Outcome := ⟨0, [], lines, none⟩

/-- A failure after some events and lines. -/
def failure (events : List Event) (lines : List String) (reason : String) : Outcome :=
  ⟨failureStatus, events, lines, some ("Error: " ++ reason)⟩

/-- A run that is broken off after some events and lines. -/
def brokenOff (events : List Event) (lines : List String) : Outcome :=
  ⟨brokenOffStatus, events, lines, none⟩

/-- Arguments that are not understood. -/
def usage : Outcome := ⟨usageStatus, [], [], none⟩

end Outcome

/-! ## Counts -/

/-- The settings of a count: those of its file, or else of the environment, with the number of
threads that was asked for. -/
def CountRequest.settings (request : CountRequest) (around : Surroundings) :
    Except Error Settings := do
  let settings ← Settings.load <|
    match request.settingsFile with
    | some path => .file (around.files path)
    | none => .environment around.environment
  match request.threads with
  | none => return settings
  | some threads => (settings.set (.workerThreads threads)).validate

/-- The specification of a count without a shape: that of its file, with the edges that were given
added. -/
def CountRequest.spec (request : CountRequest) (around : Surroundings) :
    Except Error GraphSpec := do
  let spec ←
    match request.graphFile with
    | some path => GraphSpec.ofContent (around.files path)
    | none => .ok .empty
  let edges ← request.edges.mapM EdgeText.parse
  return { spec with edges := spec.edges ++ edges }

/-- What is registered for a count; a graph has to come from somewhere. -/
def CountRequest.items (request : CountRequest) (around : Surroundings) :
    Except String (List Registration) :=
  match request.shape with
  | some (topology, inputs) => .ok (topology.registrations inputs)
  | none =>
    match request.spec around with
    | .error e => .error e.message
    | .ok spec =>
      if spec.items = [] then .error "Provide --topology, --edge or --graph" else .ok spec.items

/-- The events of the tables that a graph has. -/
def registrationEvents (graph : JoinGraph) : List Event :=
  Event.registrations (JoinGraph.empty.newTables graph)

/-- A count that is ready to run. -/
structure CountJob where
  /-- What was asked for. -/
  request : CountRequest
  /-- The graph. -/
  graph : JoinGraph
  /-- The settings. -/
  settings : Settings

namespace CountJob

/-- Runs the count. -/
def run (job : CountJob) : CountRun := job.graph.countRun job.settings

/-- The lines of a text, without the line feeds between them. -/
def linesOf (text : String) : List String := (text.toList.splitOn '\n').map String.ofList

/-- The lines of a text, put together with line feeds, are the text. -/
theorem intercalate_linesOf (text : String) : "\n".intercalate (linesOf text) = text := by
  apply String.toList_injective
  have lines : (linesOf text).map String.toList = text.toList.splitOn '\n' := by
    rw [linesOf, List.map_map]
    exact List.map_id'' (fun _ => String.toList_ofList) _
  rw [String.toList_intercalate, lines]
  exact List.intercalate_splitOn '\n'

/-- The lines that show the statistics. -/
def statisticsLines (statistics : Statistics) : List String :=
  ["Tables:                " ++ statistics.inputs.repr,
    "Leaf orders:           " ++ statistics.orders.repr,
    "Templates:             " ++ statistics.templates.repr,
    "Trees evaluated:       " ++ statistics.pairsEvaluated.repr,
    "Cross-product free:    " ++ statistics.crossProductFree.repr,
    "Elapsed:               " ++ statistics.elapsedMs.repr ++ " ms"]

/-- The lines of the result, in the form that was asked for. -/
def resultLines (job : CountJob) (statistics : Statistics) : List String :=
  if job.request.json then linesOf statistics.toJson.indented
  else statisticsLines statistics

/-- The end of a count with a result: where the closed form of its shape is asked for as well, the
two are compared. -/
def conclude (job : CountJob) (events : List Event) (statistics : Statistics) : Outcome :=
  let lines := job.resultLines statistics
  match job.request.verify, job.request.shape with
  | true, some (topology, _) =>
    match topology.expectedCount statistics.inputs with
    | .error _ => .brokenOff events lines
    | .ok expected =>
      if expected = statistics.crossProductFree then
        ⟨0, events, lines ++ ["✓ Matches closed form for " ++ topology.name ++ " (" ++
          expected.repr ++ ")"], none⟩
      else
        .failure events lines (topology.name ++ " of " ++ statistics.inputs.repr ++
          " tables: expected " ++ expected.repr ++ ", counted " ++
          statistics.crossProductFree.repr)
  | _, _ => ⟨0, events, lines, none⟩

/-- Reports on a count that took a time. -/
def report (job : CountJob) (run : CountRun) (elapsedMs : Nat) : Outcome :=
  let events := registrationEvents job.graph ++ run.events
  match run.result with
  | .error (.error e) => .failure events [] e.message
  | .error (.overflow _) => .brokenOff events []
  | .ok statistics => job.conclude events (statistics.withElapsed elapsedMs)

end CountJob

/-! ## Running an invocation -/

/-- The first half of a run: it is over, or a count has to be carried out. -/
inductive Start where
  | finished (outcome : Outcome)
  | counting (job : CountJob)

/-- Prepares a count. -/
def CountRequest.start (request : CountRequest) (around : Surroundings) : Start :=
  match request.settings around with
  | .error e => .finished (.failure [] [] e.message)
  | .ok settings =>
    match request.items around with
    | .error reason => .finished (.failure [] [] reason)
    | .ok items =>
      match settings.setUpWorkers with
      | .error _ => .finished (.brokenOff [] [])
      | .ok () =>
        match JoinGraph.empty.registerAll items with
        | (graph, some e) => .finished (.failure (registrationEvents graph) [] e.message)
        | (graph, none) => .counting ⟨request, graph, settings⟩

/-- The line that shows the version. -/
def versionLine : String := "join-enum-cli 0.1.0"

/-- The closed forms of a shape. -/
def showFormula (topology : Topology) (inputs : Nat) : Outcome :=
  match searchSpaceSize inputs with
  | .error _ => .brokenOff [] []
  | .ok size =>
    let sizeLine := "Search space:          " ++ size.repr
    match topology.expectedCount inputs with
    | .error _ => .brokenOff [] [sizeLine]
    | .ok count => .success [sizeLine, "Cross-product free:    " ++ count.repr]

/-- The templates of a number of tables, and how many there are. -/
def showTemplates (inputs : Nat) : Outcome :=
  let trees := templates inputs
  .success (trees.map JoinTree.digest ++ ["", "Total templates: " ++ trees.length.repr])

/-! ## The log -/

/-- The variable that holds a log filter. -/
def filterVariable : String := "RUST_LOG"

/-- The filter that decides which events are written. -/
def LogChoice.filter (log : LogChoice) (environment : Settings.Environment) :
    Except FilterFault Filter :=
  Filter.choose (environment filterVariable).text? log.level

/-- The lines for the events that are to be written, in their JSON form.  The other form puts the
time in front of every event, and no line stands for it here. -/
def LogChoice.lines (log : LogChoice) (environment : Settings.Environment) (events : List Event) :
    List String :=
  match log.json, log.filter environment with
  | true, .ok filter => (events.filter filter.allows).map fun event => event.toJson.compact
  | _, _ => []

/-! ## Whole runs -/

/-- Starts on a request. -/
def Request.start (around : Surroundings) : Request → Start
  | .version => .finished (.success [versionLine])
  | .count request => request.start around
  | .formula topology inputs => .finished (showFormula topology inputs)
  | .templates inputs => .finished (showTemplates inputs)

namespace Invocation

/-- Starts on an invocation.  The log is set up before anything is done, except that the version
needs no log; a filter that cannot even be taken apart breaks the run off. -/
def start (invocation : Invocation) (around : Surroundings) : Start :=
  match invocation.request, invocation.log.filter around.environment with
  | .version, _ => Request.version.start around
  | _, .error _ => .finished (.brokenOff [] [])
  | request, .ok _ => request.start around

/-- The whole run of an invocation, of which a count takes no time. -/
def outcome (invocation : Invocation) (around : Surroundings) : Outcome :=
  match invocation.start around with
  | .finished outcome => outcome
  | .counting job => job.report job.run 0

/-- The whole run of an invocation, of which a count takes a time. -/
def outcomeAfter (invocation : Invocation) (around : Surroundings) (elapsedMs : Nat) : Outcome :=
  match invocation.start around with
  | .finished outcome => outcome
  | .counting job => job.report job.run elapsedMs

/-- All lines that a run prints: its log, then its result. -/
def printed (invocation : Invocation) (around : Surroundings) (outcome : Outcome) : List String :=
  invocation.log.lines around.environment outcome.events ++ outcome.lines

/-- The paths of the files that an invocation needs. -/
def paths (invocation : Invocation) : List String :=
  match invocation.request with
  | .count request => request.settingsFile.toList ++ request.graphFile.toList
  | _ => []

end Invocation

end JoinOrder.Command
