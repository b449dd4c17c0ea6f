/-
# The Command Line of a Count

The arguments of a count are options, among which edge texts stand, each written `--edge=` and the
text.  The scan sorts them out: what is asked for is known from the other options and from the texts
in their order, wherever these stand.

Main statements: arguments that are options (`Options.scan_append`), edge texts among them
(`CountArguments.exists_scan`), and what a command line asks for (`CountLine.ofArguments?_eq`).
-/
import JoinOrder.Command.Invocation

namespace JoinOrder.Command

/-! ## Options -/

/-- The arguments are these options, as they are understood. -/
inductive Options (specs : List OptionSpec) : List Given → List String → Prop
  /-- No arguments are no options. -/
  | nil : Options specs [] []
  /-- An argument has its options with their values. -/
  | complete {argument : String} {given options : List Given} {arguments : List String}
      (reads : readToken specs argument = .complete given)
      (others : Options specs options arguments) :
      Options specs (given ++ options) (argument :: arguments)
  /-- The last option of an argument has the next argument as its value. -/
  | valued {argument name value : String} {given options : List Given} {arguments : List String}
      (reads : readToken specs argument = .pending given name) (proper : isValue value = true)
      (others : Options specs options arguments) :
      Options specs (given ++ [⟨name, value⟩] ++ options) (argument :: value :: arguments)

variable {specs : List OptionSpec} {given options : List Given} {arguments : List String}

theorem Options.single {argument : String} (reads : readToken specs argument = .complete given) :
    Options specs given [argument] := by
  have single := Options.complete reads .nil
  rwa [List.append_nil] at single

theorem Scan.prepend_append (given options : List Given) (scan : Scan) :
    scan.prepend (given ++ options) = (scan.prepend options).prepend given := by
  rw [prepend, prepend, prepend, List.append_assoc]

/-- **Options at the front** are scanned, whatever follows them. -/
theorem Options.scan_append (h : Options specs options arguments) (rest : List String) :
    scan specs (arguments ++ rest) = (scan specs rest).prepend options := by
  induction h with
  | nil => rfl
  | complete reads _ ih =>
    rw [List.cons_append, scan, reads, Scan.prepend_append, ← ih]
  | valued reads proper _ ih =>
    rw [List.cons_append, List.cons_append, scan, reads, Scan.prepend_append, ← ih]
    exact if_pos proper

/-! ## Edge texts among options -/

/-- The arguments of a count with these other options and these edge texts. -/
inductive CountArguments : List Given → List String → List String → Prop
  /-- No arguments are left. -/
  | nil : CountArguments [] [] []
  /-- The options are ended. -/
  | ended : CountArguments [] [] ["--"]
  /-- An edge text. -/
  | edge {options : List Given} {texts arguments : List String} (text : String)
      (others : CountArguments options texts arguments) :
      CountArguments options (text :: texts) (("--edge=" ++ text) :: arguments)
  /-- Other options. -/
  | options {given options : List Given} {texts front arguments : List String}
      (reads : Options countOptions given front) (apart : ∀ option ∈ given, option.name ≠ "edge")
      (others : CountArguments options texts arguments) :
      CountArguments (given ++ options) texts (front ++ arguments)

/-- The options that are no edges. -/
def otherOptions (given : List Given) : List Given := given.filter (·.name ≠ "edge")

/-- Options of other names are left. -/
theorem filter_of_apart (apart : ∀ option ∈ given, option.name ≠ "edge") :
    given.filter (·.name ≠ "edge") = given :=
  List.filter_eq_self.2 (by simpa using apart)

/-- How an edge text is read. -/
theorem readToken_edge (text : String) :
    readToken countOptions ("--edge=" ++ text) = .complete [⟨"edge", text⟩] := by
  have body : ("--edge=" ++ text).toList = '-' :: '-' :: ("edge=".toList ++ text.toList) :=
    String.toList_append
  rw [readToken, body]
  show Token.complete [⟨"edge", String.ofList text.toList⟩] = _
  rw [String.ofList_toList]

/-- **The scan sorts out the edge texts.** -/
theorem CountArguments.exists_scan {texts : List String}
    (h : CountArguments options texts arguments) :
    ∃ given, scan countOptions arguments = ⟨given, some []⟩ ∧ otherOptions given = options ∧
      valuesOf given "edge" = texts := by
  induction h with
  | nil => exact ⟨[], rfl, rfl, rfl⟩
  | ended => exact ⟨[], rfl, rfl, rfl⟩
  | edge text _ ih =>
    obtain ⟨given, scanned, rfl, rfl⟩ := ih
    refine ⟨⟨"edge", text⟩ :: given, ?_, rfl, rfl⟩
    rw [scan, readToken_edge]
    exact congrArg (Scan.prepend [⟨"edge", text⟩]) scanned
  | @options given _ _ front arguments reads apart _ ih =>
    obtain ⟨later, scanned, rfl, rfl⟩ := ih
    refine ⟨given ++ later, ?_, ?_, ?_⟩
    · rw [reads.scan_append, scanned]
      rfl
    · rw [otherOptions, List.filter_append, filter_of_apart apart]
      rfl
    · rw [valuesOf, List.filter_append, List.filter_eq_nil_iff.2 (by simpa using apart)]
      rfl

/-! ## What other options say -/

/-- Options of another name are not among the edges. -/
theorem filter_otherOptions {name : String} (apart : name ≠ "edge") (given : List Given) :
    (otherOptions given).filter (·.name = name) = given.filter (·.name = name) := by
  rw [otherOptions, List.filter_filter]
  refine List.filter_congr fun option _ => ?_
  by_cases same : option.name = name <;> simp [same, apart]

theorem valueOf?_otherOptions {name : String} (apart : name ≠ "edge") (given : List Given) :
    valueOf? (otherOptions given) name = valueOf? given name := by
  rw [valueOf?, valuesOf, filter_otherOptions apart, valueOf?, valuesOf]

theorem optionalValue_otherOptions {α : Type} {name : String} (apart : name ≠ "edge")
    (given : List Given) (read? : String → Option α) :
    optionalValue (otherOptions given) name read? = optionalValue given name read? := by
  rw [optionalValue, valueOf?_otherOptions apart, optionalValue]

theorem isGiven_otherOptions {name : String} (apart : name ≠ "edge") (given : List Given) :
    isGiven (otherOptions given) name = isGiven given name := by
  have found : ∀ given : List Given,
      isGiven given name = (given.filter (·.name = name)).any fun _ => true := by
    intro given
    rw [isGiven, List.any_filter]
    simp
  rw [found, filter_otherOptions apart, ← found]

/-- Edges may be given as often as one likes. -/
theorem withinArity_otherOptions (given : List Given) :
    withinArity countOptions (otherOptions given) = withinArity countOptions given := by
  have edges : ∀ spec ∈ countOptions, spec.name = "edge" → spec.arity = .repeated := by decide
  rw [Bool.eq_iff_iff, withinArity, withinArity, List.all_eq_true, List.all_eq_true]
  refine forall₂_congr fun spec member => ?_
  by_cases edge : spec.name = "edge"
  · simp [edges spec member edge]
  · rw [filter_otherOptions edge]

/-- What is to be logged is said by other options. -/
theorem logChoice_otherOptions (before given : List Given) :
    logChoice before (otherOptions given) = logChoice before given := by
  rw [logChoice, logChoice, valueOf?_otherOptions (by decide), isGiven_otherOptions (by decide)]

/-- A request with these edge texts instead of its own. -/
def CountRequest.withEdges (request : CountRequest) (texts : List String) : CountRequest :=
  { request with edges := texts }

/-- **The request of a count** is that of the other options, with the edge texts. -/
theorem countRequest?_eq (given : List Given) :
    countRequest? given = (countRequest? (otherOptions given)).map fun request =>
      request.withEdges (valuesOf given "edge") := by
  have value {α : Type} {name : String} (apart : name ≠ "edge") (read? : String → Option α) :=
    optionalValue_otherOptions apart given read?
  rw [countRequest?, countRequest?, value (by decide), value (by decide), value (by decide),
    value (by decide), value (by decide), isGiven_otherOptions (by decide),
    isGiven_otherOptions (by decide)]
  simp only [bind, Option.map_bind, Function.comp_def, apply_ite (Option.map _)]
  rfl

/-- Without the option for a shape there is none, and the result has the form that is asked for. -/
theorem shape_eq_none_of_countRequest? {request : CountRequest}
    (asked : countRequest? given = some request) (shapeless : isGiven given "topology" = false) :
    request.shape = none ∧ request.json = isGiven given "json" := by
  have none : given.filter (·.name = "topology") = [] := by
    rw [isGiven, List.any_eq_false] at shapeless
    exact List.filter_eq_nil_iff.2 shapeless
  have unasked : optionalValue given "topology" Topology.ofExactName? = some .none := by
    rw [optionalValue, valueOf?, valuesOf, none]
    rfl
  simp only [countRequest?, unasked, bind, Option.bind_eq_some_iff, Option.some.injEq,
    exists_eq_left'] at asked
  obtain ⟨inputs, -, shape, formed, graphFile, -, threads, -, settingsFile, -, made⟩ := asked
  obtain rfl : .none = shape := Option.some.inj formed
  split at made
  · cases made
  · cases made
    exact ⟨rfl, rfl⟩

/-! ## Whole command lines -/

/-- A command line that asks for a count: options for the log, the name of the command, and its
other options with the edge texts among them. -/
inductive CountLine (before options : List Given) (texts : List String) : List String → Prop
  /-- The name of the command stands between the options. -/
  | mk {top arguments : List String} (first : Options topOptions before top)
      (unversioned : ∀ option ∈ before, option.name ≠ "version")
      (behind : CountArguments options texts arguments) :
      CountLine before options texts (top ++ "count" :: arguments)

variable {before : List Given} {texts line : List String}

/-- The name of a command ends the options in front of it. -/
theorem scan_command (h : Options topOptions before arguments) (rest : List String) :
    scan topOptions (arguments ++ "count" :: rest) = ⟨before, some ("count" :: rest)⟩ := by
  have name : scan topOptions ("count" :: rest) = ⟨[], some ("count" :: rest)⟩ := rfl
  rw [h.scan_append, name, Scan.prepend, List.append_nil]

/-- The invocation of a count by its arguments. -/
theorem CountArguments.ofCommand?_eq (h : CountArguments options texts arguments)
    (before : List Given) :
    ofCommand? before ("count" :: arguments) =
      if withinArity countOptions options then
        (countRequest? options).map fun request =>
          ⟨logChoice before options, .count (request.withEdges texts)⟩
      else none := by
  obtain ⟨given, scanned, rfl, rfl⟩ := h.exists_scan
  have options : commandOptions? "count" = some countOptions := rfl
  rw [withinArity_otherOptions, logChoice_otherOptions, ofCommand?, options]
  simp only [bind, Option.bind_some, scanned, true_and, request?, if_true, countRequest?_eq given]
  cases countRequest? (otherOptions given) <;> rfl

/-- **What a command line asks for** is known from the other options and the edge texts. -/
theorem CountLine.ofArguments?_eq (h : CountLine before options texts line) :
    Invocation.ofArguments? line =
      if withinArity topOptions before ∧ withinArity countOptions options then
        (countRequest? options).map fun request =>
          ⟨logChoice before options, .count (request.withEdges texts)⟩
      else none := by
  cases h with
  | mk first unversioned behind =>
    have unasked : isGiven before "version" = false := by
      rw [Bool.eq_false_iff, isGiven, Ne, List.any_eq_true]
      rintro ⟨option, among, version⟩
      exact unversioned option among (of_decide_eq_true version)
    rw [Invocation.ofArguments?, scan_command first]
    simp only [unasked, Option.bind_some, behind.ofCommand?_eq, Bool.false_eq_true, if_false]
    by_cases once : withinArity topOptions before = true <;> simp [once]

end JoinOrder.Command
