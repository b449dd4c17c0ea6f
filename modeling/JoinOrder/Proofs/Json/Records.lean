/-
# Graphs and Statistics Read Back

The text of a graph specification is read as that specification, and the text of statistics as those
statistics, as long as their figures are words.  White space makes no difference, so the text that a
count prints is read as well.

Main statements: a list of values (`list?_array_map`), the JSON forms (`GraphSpec.ofJson?_toJson`,
`Statistics.ofJson?_toJson`), and the texts (`records_read_back`).
-/
import JoinOrder.Command.Outcome
import JoinOrder.Proofs.Json.RoundTrip

namespace JoinOrder

/-! ## Fields and lists -/

/-- Among names that are all different each one is paired with its own value. -/
theorem Json.lookup_zip {names : List String} {values : List Json} (distinct : names.Nodup)
    {i : Nat} {name : String} {value : Json} (named : names[i]? = some name)
    (valued : values[i]? = some value) :
    (names.zip values).lookup name = some value := by
  induction names generalizing values i with
  | nil => simp at named
  | cons first names ih =>
    cases values with
    | nil => simp at valued
    | cons _ values =>
      rw [List.nodup_cons] at distinct
      cases i with
      | zero =>
        cases named
        cases valued
        exact List.lookup_cons_self
      | succ i =>
        have later : names[i]? = some name := named
        have other : (name == first) = false := by
          refine beq_false_of_ne ?_
          rintro rfl
          exact distinct.1 (List.mem_of_getElem? later)
        rw [List.zip_cons_cons, List.lookup_cons, other]
        exact ih distinct.2 later valued

/-- A list reads back if each of its members does. -/
theorem Json.list?_array_map {α : Type} {encode : α → Json} {decode : Json → Option α}
    (reads : ∀ a, decode (encode a) = some a) (items : List α) :
    (Json.array (items.map encode)).list? decode = some items := by
  induction items with
  | nil => rfl
  | cons item items ih =>
    rw [Json.list?] at ih ⊢
    rw [List.map_cons, List.mapM_cons, reads, ih]
    rfl

/-! ## Graph specifications -/

namespace GraphSpec

theorem pair?_edgeToJson (edge : String × String) : (edgeToJson edge).pair? = some edge := rfl

/-- **The JSON form denotes the specification.** -/
theorem ofJson?_toJson (spec : GraphSpec) : ofJson? spec.toJson = some spec := by
  have tables := Json.list?_array_map Json.text?_text spec.tables
  have edges := Json.list?_array_map pair?_edgeToJson spec.edges
  rw [ofJson?, toJson, Json.fields?_record (show _ = fieldNames from rfl) (by decide)]
  show (Json.list? Json.text? (.array (spec.tables.map Json.text)) >>= fun _ =>
    Json.list? Json.pair? (.array (spec.edges.map edgeToJson)) >>= fun _ => _) = _
  rw [tables, edges]
  rfl

/-- **The text of a specification denotes it.** -/
theorem parse_compact (spec : GraphSpec) : parse spec.toJson.compact = .ok spec := by
  rw [parse, Json.parse_compact, Option.bind_some, ofJson?_toJson]

/-- Brackets, commas and quotes in a name do not end it. -/
example : (toJson ⟨["\",["], [("a", "b")]⟩).compact =
    "\x7b\"tables\":[\"\\\",[\"],\"edges\":[[\"a\",\"b\"]]\x7d" := by decide

end GraphSpec

/-! ## Statistics -/

namespace Statistics

/-- Every figure is a word. -/
def FitsWords (statistics : Statistics) : Prop :=
  ∀ figure ∈ statistics.figures, figure < wordBound

instance (statistics : Statistics) : Decidable statistics.FitsWords :=
  inferInstanceAs (Decidable (∀ figure ∈ statistics.figures, figure < wordBound))

variable {statistics : Statistics}

/-- Each field holds its figure. -/
theorem required_figure (h : statistics.FitsWords) (i : Nat) {name : String} {figure : Nat}
    (named : fieldNames[i]? = some name) (valued : statistics.figures[i]? = some figure) :
    Json.required (fieldNames.zip (statistics.figures.map Json.natural)) name Json.word? =
      some figure := by
  have value : (statistics.figures.map Json.natural)[i]? = some (Json.natural figure) := by
    rw [List.getElem?_map, valued]
    rfl
  rw [Json.required, Json.lookup_zip (by decide) named value]
  exact Json.word?_natural (h figure (List.mem_of_getElem? valued))

/-- **The JSON form denotes the statistics.** -/
theorem ofJson?_toJson (h : statistics.FitsWords) :
    ofJson? statistics.toJson = some statistics := by
  rw [ofJson?, toJson, Json.fields?_record (show _ = fieldNames from rfl) (by decide)]
  simp only [Option.bind_eq_bind, Option.bind_some, required_figure h 0 rfl rfl,
    required_figure h 1 rfl rfl, required_figure h 2 rfl rfl, required_figure h 3 rfl rfl,
    required_figure h 4 rfl rfl, required_figure h 5 rfl rfl, required_figure h 6 rfl rfl,
    required_figure h 7 rfl rfl, required_figure h 8 rfl rfl]
  rfl

/-- **The text of statistics denotes them**, in every layout of white space. -/
theorem parse?_render (h : statistics.FitsWords) {layout : Json.Layout} (blank : layout.IsBlank) :
    parse? (statistics.toJson.render layout) = some statistics := by
  rw [parse?, Json.parse_render blank, Option.bind_some, ofJson?_toJson h]

end Statistics

/-! ## Printed statistics -/

/-- The lines of a result in JSON, put together, are the indented text. -/
theorem Command.CountJob.intercalate_resultLines {job : Command.CountJob}
    (json : job.request.json = true) (statistics : Statistics) :
    "\n".intercalate (job.resultLines statistics) = statistics.toJson.indented := by
  rw [resultLines, if_pos json, intercalate_linesOf]

/-- **Graphs and statistics read back.**  The compact text of a specification is read as the
specification, whatever its names are made of; and statistics whose figures are words are read from
their compact text, from their indented one, and from the lines that a count prints when JSON is
asked for. -/
theorem records_read_back :
    (∀ spec : GraphSpec, GraphSpec.parse spec.toJson.compact = .ok spec) ∧
    ∀ statistics : Statistics, statistics.FitsWords →
      Statistics.parse? statistics.toJson.compact = some statistics ∧
      Statistics.parse? statistics.toJson.indented = some statistics ∧
      ∀ job : Command.CountJob, job.request.json = true →
        Statistics.parse? ("\n".intercalate (job.resultLines statistics)) = some statistics := by
  refine ⟨GraphSpec.parse_compact, fun statistics h => ?_⟩
  have indented := Statistics.parse?_render h Json.Layout.isBlank_indented
  refine ⟨Statistics.parse?_render h Json.Layout.isBlank_compact, indented, fun job json => ?_⟩
  rw [Command.CountJob.intercalate_resultLines json]
  exact indented

/-- A specification with an empty name, quotes, backslashes, control characters and characters
beyond ASCII; and statistics with the least and the greatest word, printed by a count that is asked
for JSON. -/
theorem records_read_back_extreme :
    ∃ (spec : GraphSpec) (statistics : Statistics) (job : Command.CountJob),
      spec = ⟨["", "\"a\\\n\x00"], [("é→𝄞", ""), ("[,]", "\x1f\"")]⟩ ∧
      statistics = ⟨18446744073709551615, 0, 1, 18446744073709551615, 0, 10, 18446744073709551615,
        0, 18446744073709551615⟩ ∧
      statistics.FitsWords ∧ job.request.json = true ∧
      GraphSpec.parse spec.toJson.compact = .ok spec ∧
      Statistics.parse? statistics.toJson.compact = some statistics ∧
      Statistics.parse? statistics.toJson.indented = some statistics ∧
      Statistics.parse? ("\n".intercalate (job.resultLines statistics)) = some statistics := by
  have words : Statistics.FitsWords ⟨18446744073709551615, 0, 1, 18446744073709551615, 0, 10,
      18446744073709551615, 0, 18446744073709551615⟩ := by decide
  obtain ⟨compact, indented, printed⟩ := records_read_back.2 _ words
  refine ⟨_, _, ⟨⟨none, [], none, none, none, true, false⟩, .empty, .standard⟩, rfl, rfl, words,
    rfl, records_read_back.1 _, compact, indented, printed _ rfl⟩

end JoinOrder
