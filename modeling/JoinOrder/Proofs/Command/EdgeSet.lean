/-
# Counting a Set of Edges

For a count without a shape, the edge texts of a command line matter only for the pairs of tables
that they name.  If the run succeeds, then it does so for every other way to give the same edges,
and it shows the same statistics, since the tables get other numbers but the graphs are isomorphic.

Main statements: what a successful start is (`CountRequest.start_eq_counting_iff`), the start with
rearranged edges (`CountRequest.exists_start_of_rearranged`), a successful run of a command line
(`CountLine.exists_counts`, `Counts.succeeds`), and the runs of two command lines
(`count_depends_on_edge_set`).
-/
import JoinOrder.Command.Outcome
import JoinOrder.Proofs.Command.CountLine
import JoinOrder.Proofs.Counting.Isomorphic
import JoinOrder.Proofs.Graph.Rearrangement

namespace JoinOrder.Command

open EdgeText

/-! ## What is registered -/

namespace CountRequest

variable {request : CountRequest} {around : Surroundings}

/-- The specification that the edge texts are added to. -/
def base (request : CountRequest) (around : Surroundings) : Except Error GraphSpec :=
  match request.graphFile with
  | some path => GraphSpec.ofContent (around.files path)
  | none => .ok .empty

/-- A specification is that of the file with the edges added. -/
theorem spec_eq_ok_iff {spec : GraphSpec} :
    request.spec around = .ok spec ↔ ∃ base edges, request.base around = .ok base ∧
      request.edges.mapM EdgeText.parse = .ok edges ∧
      spec = { base with edges := base.edges ++ edges } := by
  have bound : request.spec around = request.base around >>= fun base =>
      request.edges.mapM EdgeText.parse >>= fun edges =>
        .ok { base with edges := base.edges ++ edges } := by
    rw [CountRequest.spec, base]
    cases request.graphFile <;> rfl
  rw [bound]
  simp only [bind_eq_ok_iff]
  constructor
  · rintro ⟨base, based, edges, parsed, same⟩
    cases same
    exact ⟨base, edges, based, parsed, rfl⟩
  · rintro ⟨base, edges, based, parsed, rfl⟩
    exact ⟨base, based, edges, parsed, rfl⟩

/-- Without a shape, the specification is registered, and there must be something in it. -/
theorem items_eq_ok_iff (shapeless : request.shape = none) {items : List Registration} :
    request.items around = .ok items ↔
      ∃ spec, request.spec around = .ok spec ∧ spec.items ≠ [] ∧ items = spec.items := by
  rw [CountRequest.items, shapeless]
  cases request.spec around with
  | error e => simp
  | ok spec =>
    simp only [Except.ok.injEq, exists_eq_left', eq_comm (a := items)]
    by_cases nothing : spec.items = [] <;> simp [nothing]

/-- **Rearranged edges** are registered with the same content. -/
theorem exists_items_of_rearranged (shapeless : request.shape = none) {texts texts' : List String}
    (rearranged : Relation.ReflTransGen Rearranged texts texts') {items : List Registration}
    (made : (request.withEdges texts).items around = .ok items) :
    ∃ items', (request.withEdges texts').items around = .ok items' ∧
      Registration.SameContent items items' := by
  have shapeless' : ∀ texts, (request.withEdges texts).shape = none := fun _ => shapeless
  obtain ⟨spec, specified, something, rfl⟩ := (items_eq_ok_iff (shapeless' _)).1 made
  obtain ⟨base, edges, based, parsed, rfl⟩ := spec_eq_ok_iff.1 specified
  obtain ⟨edges', parsed', links⟩ := exists_mapM_of_rearranged rearranged parsed
  have same : Registration.SameContent
      (GraphSpec.items { base with edges := base.edges ++ edges })
      (GraphSpec.items { base with edges := base.edges ++ edges' }) :=
    GraphSpec.sameContent_items rfl fun pair => by
      simp only [GraphSpec.linksOf_append, List.mem_append, links]
  refine ⟨_, (items_eq_ok_iff (shapeless' _)).2 ⟨_, spec_eq_ok_iff.2
    ⟨base, edges', based, parsed', rfl⟩, same.ne_nil something, rfl⟩, same⟩

/-! ## Starts -/

/-- **A count starts** when it has settings and something to register, and everything is
accepted. -/
theorem start_eq_counting_iff {job : CountJob} :
    request.start around = .counting job ↔ ∃ settings items graph,
      request.settings around = .ok settings ∧ request.items around = .ok items ∧
      settings.setUpWorkers = .ok () ∧ JoinGraph.empty.registerAll items = (graph, none) ∧
      job = ⟨request, graph, settings⟩ := by
  rw [CountRequest.start]
  cases request.settings around with
  | error e => simp
  | ok settings =>
    cases request.items around with
    | error reason => simp
    | ok items =>
      cases workers : settings.setUpWorkers with
      | error e => simp [workers]
      | ok =>
        rcases registered : JoinGraph.empty.registerAll items with ⟨graph, _ | refusal⟩
        · simp [workers, registered, eq_comm]
        · simp [workers, registered]

/-- A run that is over before its count has not succeeded. -/
theorem status_of_start_eq_finished {outcome : Outcome}
    (h : request.start around = .finished outcome) : outcome.status ≠ 0 := by
  rw [CountRequest.start] at h
  -- Each of the four ways to end before the count has a status of its own.
  split at h
  · cases h
    exact Nat.one_ne_zero
  · split at h
    · cases h
      exact Nat.one_ne_zero
    · split at h
      · cases h
        decide
      · split at h
        · cases h
          exact Nat.one_ne_zero
        · cases h

/-- **A count with rearranged edges** starts as well, and the shape of its graph is isomorphic. -/
theorem exists_start_of_rearranged (shapeless : request.shape = none) {texts texts' : List String}
    (rearranged : Relation.ReflTransGen Rearranged texts texts') {job : CountJob}
    (started : (request.withEdges texts).start around = .counting job) :
    ∃ graph', (request.withEdges texts').start around =
        .counting ⟨request.withEdges texts', graph', job.settings⟩ ∧
      Nonempty (job.graph.shape ≃g graph'.shape) := by
  obtain ⟨settings, items, graph, settled, made, workers, registered, rfl⟩ :=
    start_eq_counting_iff.1 started
  obtain ⟨items', made', same⟩ := exists_items_of_rearranged shapeless rearranged made
  obtain ⟨graph', registered', iso⟩ := same.exists_registerAll registered
  exact ⟨graph', start_eq_counting_iff.2
    ⟨settings, items', graph', settled, made', workers, registered', rfl⟩, iso⟩

end CountRequest

/-! ## Ends -/

namespace CountJob

variable {job : CountJob} {run : CountRun} {elapsedMs : ℕ}

/-- Statistics as they are shown, as JSON or not. -/
def shown (json : Bool) (statistics : Statistics) : List String :=
  if json then linesOf statistics.toJson.indented else statisticsLines statistics

/-- A run that succeeds has a result. -/
theorem exists_result_of_status (succeeded : (job.report run elapsedMs).status = 0) :
    ∃ statistics, run.result = .ok statistics := by
  cases result : run.result with
  | ok statistics => exact ⟨statistics, rfl⟩
  | error failure =>
    rw [report, result] at succeeded
    cases failure <;> cases succeeded

/-- Without a shape, a count with a result succeeds and shows it. -/
theorem report_of_result (shapeless : job.request.shape = none) {statistics : Statistics}
    (result : run.result = .ok statistics) (elapsedMs : ℕ) :
    (job.report run elapsedMs).status = 0 ∧
      (job.report run elapsedMs).lines =
        shown job.request.json (statistics.withElapsed elapsedMs) := by
  rw [report, result]
  dsimp only
  rw [conclude, shapeless]
  cases job.request.verify <;> exact ⟨rfl, rfl⟩

end CountJob

/-! ## Whole runs -/

/-- The whole run of a command line, of which a count takes a time. -/
def outcomeOf (line : List String) (around : Surroundings) (elapsedMs : ℕ) : Outcome :=
  match Invocation.ofArguments? line with
  | none => .usage
  | some invocation => invocation.outcomeAfter around elapsedMs

/-- All lines that the run of a command line prints. -/
def printedBy (line : List String) (around : Surroundings) (elapsedMs : ℕ) : List String :=
  match Invocation.ofArguments? line with
  | none => []
  | some invocation => invocation.printed around (invocation.outcomeAfter around elapsedMs)

/-- The log is off: there is no event that it writes. -/
def LogChoice.IsOff (log : LogChoice) (environment : Settings.Environment) : Prop :=
  ∀ filter, log.filter environment = .ok filter → ∀ event, filter.allows event = false

/-- A log that is off writes nothing. -/
theorem LogChoice.IsOff.lines_eq_nil {log : LogChoice} {environment : Settings.Environment}
    (off : log.IsOff environment) (events : List Event) : log.lines environment events = [] := by
  rw [LogChoice.lines]
  split
  · rename_i filter _ chosen
    rw [List.filter_eq_nil_iff.2 fun event _ => by rw [off filter chosen event]; decide]
    rfl
  · rfl

/-- Errors alone are no events: at this level the log is off unless the environment says
otherwise. -/
theorem isOff_of_error {log : LogChoice} {environment : Settings.Environment}
    (level : Level.ofName? log.level = some .error)
    (unset : (environment filterVariable).text? = none) : log.IsOff environment := by
  rintro filter chosen event
  rw [LogChoice.filter, unset, Filter.choose, level] at chosen
  obtain rfl : Filter.upTo .error = filter := Except.ok.inj chosen
  rw [Filter.allows_upTo]
  cases event <;> rfl

/-- The command line of a count succeeds with these statistics, however long the count takes. -/
structure Succeeds (log : LogChoice) (json : Bool) (around : Surroundings) (statistics : Statistics)
    (line : List String) : Prop where
  /-- The exit status says so. -/
  status : ∀ elapsedMs, (outcomeOf line around elapsedMs).status = 0
  /-- The lines of the result show the statistics. -/
  lines : ∀ elapsedMs, (outcomeOf line around elapsedMs).lines =
    CountJob.shown json (statistics.withElapsed elapsedMs)
  /-- Nothing else is printed if the log is off. -/
  printed : log.IsOff around.environment → ∀ elapsedMs, printedBy line around elapsedMs =
    CountJob.shown json (statistics.withElapsed elapsedMs)

variable {before options : List Given} {texts texts' line line' : List String}
  {around : Surroundings}

/-- What makes a count succeed: the request of the options with the edge texts, the job that it
starts, and the statistics. -/
structure Counts (before options : List Given) (texts : List String) (around : Surroundings)
    (request : CountRequest) (job : CountJob) (statistics : Statistics) : Prop where
  /-- No option is given too often. -/
  once : withinArity topOptions before = true ∧ withinArity countOptions options = true
  /-- The options are understood. -/
  asked : countRequest? options = some request
  /-- The log can be set up. -/
  logged : ∃ filter, (logChoice before options).filter around.environment = .ok filter
  /-- The count starts. -/
  started : (request.withEdges texts).start around = .counting job
  /-- The count has a result. -/
  counted : job.graph.statistics job.settings = .ok statistics

/-- The run of an invocation that asks for a count. -/
theorem outcomeAfter_count (log : LogChoice) (request : CountRequest) (elapsedMs : ℕ) :
    (⟨log, .count request⟩ : Invocation).outcomeAfter around elapsedMs =
      match log.filter around.environment, request.start around with
      | .error _, _ => .brokenOff [] []
      | .ok _, .finished outcome => outcome
      | .ok _, .counting job => job.report job.run elapsedMs := by
  have start : Request.start around (.count request) = request.start around := rfl
  rw [Invocation.outcomeAfter, Invocation.start]
  cases log.filter around.environment with
  | error fault => rfl
  | ok filter =>
    dsimp only
    rw [start]
    cases request.start around <;> rfl

/-- A count that succeeds has something that makes it succeed. -/
theorem CountLine.exists_counts (isLine : CountLine before options texts line) {elapsedMs : ℕ}
    (succeeded : (outcomeOf line around elapsedMs).status = 0) :
    ∃ request job statistics, Counts before options texts around request job statistics := by
  rw [outcomeOf, isLine.ofArguments?_eq] at succeeded
  split_ifs at succeeded with once
  · cases asked : countRequest? options with
    | none =>
      rw [asked] at succeeded
      cases succeeded
    | some request =>
      rw [asked] at succeeded
      change (Invocation.outcomeAfter ⟨_, .count _⟩ around elapsedMs).status = 0 at succeeded
      rw [outcomeAfter_count] at succeeded
      cases logged : (logChoice before options).filter around.environment with
      | error fault =>
        rw [logged] at succeeded
        cases succeeded
      | ok filter =>
        cases started : (request.withEdges texts).start around with
        | finished outcome =>
          rw [logged, started] at succeeded
          exact absurd succeeded (CountRequest.status_of_start_eq_finished started)
        | counting job =>
          rw [logged, started] at succeeded
          obtain ⟨statistics, counted⟩ := CountJob.exists_result_of_status succeeded
          exact ⟨request, job, statistics, once, asked, ⟨filter, logged⟩, started, counted⟩
  · cases succeeded

/-- **With rearranged edges** a count succeeds with the same statistics. -/
theorem Counts.exists_of_rearranged {request : CountRequest} {job : CountJob}
    {statistics : Statistics} (h : Counts before options texts around request job statistics)
    (shapeless : isGiven options "topology" = false)
    (rearranged : Relation.ReflTransGen Rearranged texts texts') :
    ∃ job', Counts before options texts' around request job' statistics := by
  obtain ⟨graph', started', ⟨iso⟩⟩ := CountRequest.exists_start_of_rearranged
    (shape_eq_none_of_countRequest? h.asked shapeless).1 rearranged h.started
  exact ⟨_, h.once, h.asked, h.logged, started',
    (JoinGraph.statistics_congr_of_iso iso job.settings).trans h.counted⟩

/-- **A count that has what it needs** succeeds with its statistics. -/
theorem Counts.succeeds {request : CountRequest} {job : CountJob} {statistics : Statistics}
    (h : Counts before options texts around request job statistics)
    (shapeless : isGiven options "topology" = false)
    (isLine : CountLine before options texts line) :
    Succeeds (logChoice before options) (isGiven options "json") around statistics line := by
  obtain ⟨shape, json⟩ := shape_eq_none_of_countRequest? h.asked shapeless
  obtain ⟨filter, logged⟩ := h.logged
  have served : job.request = request.withEdges texts := by
    obtain ⟨-, -, -, -, -, -, -, rfl⟩ := CountRequest.start_eq_counting_iff.1 h.started
    rfl
  have read : Invocation.ofArguments? line =
      some ⟨logChoice before options, .count (request.withEdges texts)⟩ := by
    rw [isLine.ofArguments?_eq, if_pos h.once, h.asked]
    rfl
  have outcome : ∀ elapsedMs, Invocation.outcomeAfter
      ⟨logChoice before options, .count (request.withEdges texts)⟩ around elapsedMs =
        job.report job.run elapsedMs := by
    intro elapsedMs
    rw [outcomeAfter_count, logged, h.started]
  have shape' : job.request.shape = none := by rw [served]; exact shape
  have json' : job.request.json = isGiven options "json" := by rw [served]; exact json
  have counted : job.run.result = .ok statistics := h.counted
  have ends := CountJob.report_of_result shape' counted
  rw [json'] at ends
  refine ⟨fun elapsedMs => ?_, fun elapsedMs => ?_, fun off elapsedMs => ?_⟩
  · rw [outcomeOf, read]
    exact (congrArg Outcome.status (outcome elapsedMs)).trans (ends elapsedMs).1
  · rw [outcomeOf, read]
    exact (congrArg Outcome.lines (outcome elapsedMs)).trans (ends elapsedMs).2
  · rw [printedBy, read]
    dsimp only
    rw [Invocation.printed, off.lines_eq_nil, List.nil_append, outcome]
    exact (ends elapsedMs).2

/-- **A count depends on the set of its edges.**  Let two command lines ask for a count without a
shape, with the same other options, and let the edge texts of the second be those of the first in
another order, some of them repeated, with their sides swapped or other white space around their
names.  If the first one succeeds, however long its count takes, then so does the second, and both
show the same statistics but for the time taken, as a text or as JSON.  With the log off they print
nothing else. -/
theorem count_depends_on_edge_set (isLine : CountLine before options texts line)
    (isLine' : CountLine before options texts' line')
    (shapeless : isGiven options "topology" = false)
    (rearranged : Relation.ReflTransGen Rearranged texts texts') {elapsedMs : ℕ}
    (succeeded : (outcomeOf line around elapsedMs).status = 0) :
    ∃ statistics,
      Succeeds (logChoice before options) (isGiven options "json") around statistics line ∧
      Succeeds (logChoice before options) (isGiven options "json") around statistics line' := by
  obtain ⟨request, job, statistics, counts⟩ := isLine.exists_counts succeeded
  obtain ⟨job', counts'⟩ := counts.exists_of_rearranged shapeless rearranged
  exact ⟨statistics, counts.succeeds shapeless isLine, counts'.succeeds shapeless isLine'⟩

/-- Three tables in a row with the log off: the two edges as they come, and the second one with its
sides swapped and white space around its names, between twice the first one, which is swapped as
well. -/
theorem count_depends_on_edge_set_three_in_a_row :
    ∃ (around : Surroundings) (line line' : List String) (statistics : Statistics),
      line = ["--log-level=error", "count", "--json", "--edge=" ++ "A:B", "--edge=" ++ "B:C"] ∧
      line' = ["--log-level=error", "count", "--edge=" ++ "B:A", "--edge=" ++ "C\u3000: B",
        "--json", "--edge=" ++ "B:A"] ∧
      CountLine [⟨"log-level", "error"⟩] [⟨"json", ""⟩] ["A:B", "B:C"] line ∧
      CountLine [⟨"log-level", "error"⟩] [⟨"json", ""⟩] ["B:A", "C\u3000: B", "B:A"] line' ∧
      isGiven [⟨"json", ""⟩] "topology" = false ∧
      Relation.ReflTransGen Rearranged ["A:B", "B:C"] ["B:A", "C\u3000: B", "B:A"] ∧
      (outcomeOf line around 5).status = 0 ∧
      (outcomeOf line' around 7).status = 0 ∧
      printedBy line around 7 = CountJob.shown true (statistics.withElapsed 7) ∧
      printedBy line' around 7 = CountJob.shown true (statistics.withElapsed 7) := by
  have first : Options topOptions [⟨"log-level", "error"⟩] ["--log-level=error"] := .single rfl
  have json : Options countOptions [⟨"json", ""⟩] ["--json"] := .single rfl
  have isLine : CountLine [⟨"log-level", "error"⟩] [⟨"json", ""⟩] ["A:B", "B:C"]
      ["--log-level=error", "count", "--json", "--edge=" ++ "A:B", "--edge=" ++ "B:C"] :=
    .mk first (by decide) (.options json (by decide) (.edge _ (.edge _ .nil)))
  have isLine' : CountLine [⟨"log-level", "error"⟩] [⟨"json", ""⟩] ["B:A", "C\u3000: B", "B:A"]
      ["--log-level=error", "count", "--edge=" ++ "B:A", "--edge=" ++ "C\u3000: B", "--json",
        "--edge=" ++ "B:A"] :=
    .mk first (by decide) (.edge _ (.edge _ (.options json (by decide) (.edge _ .nil))))
  have swapped : Respelled "A:B" "B:A" := @Respelled.swapped "A" "B" (by decide) (by decide)
  have swapped' : Respelled "B:C" "C:B" := @Respelled.swapped "B" "C" (by decide) (by decide)
  have spaced : Respelled "C:B" "C\u3000: B" :=
    @Respelled.spaced "C" "B" (by decide) ⟨"", by decide⟩ ⟨"", by decide⟩ ⟨"", by decide⟩
      ⟨"", by decide⟩ ⟨"", by decide⟩ ⟨"\u3000", by decide⟩ ⟨" ", by decide⟩ ⟨"", by decide⟩
  have rearranged : Relation.ReflTransGen Rearranged ["A:B", "B:C"] ["B:A", "C\u3000: B", "B:A"] :=
    .head (.respelled [] swapped ["B:C"]) <| .head (.respelled ["B:A"] swapped' []) <|
    .head (.respelled ["B:A"] spaced []) <| .head (.repeated List.mem_cons_self) <|
    .single (.permuted (by decide))
  have succeeded : (outcomeOf ["--log-level=error", "count", "--json", "--edge=" ++ "A:B",
      "--edge=" ++ "B:C"] ⟨fun _ => .missing, fun _ => .missing⟩ 5).status = 0 := by decide +kernel
  have off : (logChoice [⟨"log-level", "error"⟩] [⟨"json", ""⟩]).IsOff fun _ => .missing :=
    isOff_of_error (by decide) rfl
  obtain ⟨statistics, succeeds, succeeds'⟩ :=
    count_depends_on_edge_set isLine isLine' rfl rearranged succeeded
  exact ⟨_, _, _, statistics, rfl, rfl, isLine, isLine', rfl, rearranged, succeeded,
    succeeds'.status 7, succeeds.printed off 7, succeeds'.printed off 7⟩

end JoinOrder.Command
