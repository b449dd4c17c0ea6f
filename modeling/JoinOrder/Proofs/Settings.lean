/-
# Settings Read Back

The text of settings is read as those settings, whatever the name of the threads is made of.
Loading it therefore comes to accepting the settings or refusing them, whether the text is at hand
or in a file.

Main statements: the JSON form (`ofJson?_toJson`), the text (`parse_render`), and loading
(`load_rendered`).
-/
import JoinOrder.Proofs.Json.RoundTrip
import JoinOrder.Settings

namespace JoinOrder.Settings

/-- The number of threads is a word, if there is one. -/
def FitsWord (settings : Settings) : Prop :=
  ∀ threads ∈ settings.workerThreads, threads < wordBound

variable {settings : Settings}

/-- **The JSON form denotes the settings.** -/
theorem ofJson?_toJson (h : settings.FitsWord) : ofJson? settings.toJson = some settings := by
  obtain ⟨threads, name, verify, progress⟩ := settings
  rw [ofJson?, toJson, Json.fields?_record (show _ = fieldNames from rfl) (by decide)]
  cases threads with
  | none => rfl
  | some threads =>
    have word : (Json.natural threads).nullable? Json.word? = some (some threads) :=
      congrArg (Option.map some) (Json.word?_natural (h threads rfl))
    show ((Json.natural threads).nullable? Json.word? >>= _) = _
    rw [word]
    rfl

/-- **The text of settings denotes them.** -/
theorem parse_render (h : settings.FitsWord) : parse settings.render = .ok settings := by
  rw [parse, render, Json.parse_indented, Option.bind_some, ofJson?_toJson h]

/-- The bytes of a text are a file that holds it. -/
theorem ofBytes_toUTF8 (text : String) : Content.ofBytes text.toUTF8 = .text text := by
  rw [Content.ofBytes, String.toUTF8, Text.fromUTF8?_toByteArray]

/-- The settings that a file gives are those that its text denotes. -/
theorem ofSource_file (text : String) : ofSource (.file (.text text)) = parse text := rfl

/-- What a source gives is validated. -/
theorem load_of_ofSource {source : Source} (h : ofSource source = .ok settings) :
    load source = settings.validate := by
  rw [load, h]
  rfl

/-- **Loading the text of settings comes to validating them**, whether the text is at hand or the
content of a file: they are loaded if they are acceptable, and otherwise refused with the error that
validating them gives. -/
theorem load_rendered (settings : Settings) (h : settings.FitsWord) (source : Source)
    (rendered : source = .inline settings.render ∨
      source = .file (.ofBytes settings.render.toUTF8)) :
    load source = settings.validate ∧
      (settings.Acceptable → load source = .ok settings) ∧
      (¬settings.Acceptable →
        ∃ e, load source = .error e ∧ settings.validate = .error e ∧ e.kind = "Config") := by
  have read : ofSource source = .ok settings := by
    rcases rendered with rfl | rfl
    · rw [ofSource, parse_render h]
    · rw [ofBytes_toUTF8, ofSource_file, parse_render h]
  have loaded := load_of_ofSource read
  refine ⟨loaded, ?_, ?_⟩
  · intro acceptable
    exact loaded.trans (validate_eq_ok_iff.2 ⟨acceptable, rfl⟩)
  · intro refused
    obtain ⟨e, failed, kind⟩ := exists_validate_eq_error refused
    exact ⟨e, loaded.trans failed, failed, kind⟩

/-- A name with a quote, a backslash, control characters and characters beyond ASCII, and as many
threads as a word can say; and the same name without any thread. -/
theorem load_rendered_unusual_name :
    ∃ settings idle : Settings,
      settings = ⟨some 18446744073709551615, "\"\\/\n\x00\x1fé→𝄞", false, true⟩ ∧
      idle = { settings with workerThreads := some 0 } ∧
      settings.FitsWord ∧ idle.FitsWord ∧
      load (.inline settings.render) = .ok settings ∧
      load (.file (.ofBytes settings.render.toUTF8)) = .ok settings ∧
      load (.inline idle.render) = .error .noWorkerThread := by
  have most : FitsWord ⟨some 18446744073709551615, "\"\\/\n\x00\x1fé→𝄞", false, true⟩ := by
    rintro threads same
    cases same
    decide
  have idle : FitsWord ⟨some 0, "\"\\/\n\x00\x1fé→𝄞", false, true⟩ := by
    rintro threads same
    cases same
    decide
  refine ⟨_, _, rfl, rfl, most, idle, ?_, ?_, ?_⟩
  · exact (load_rendered _ most _ (.inl rfl)).2.1 (by decide)
  · exact (load_rendered _ most _ (.inr rfl)).2.1 (by decide)
  · exact (load_rendered _ idle _ (.inl rfl)).1

end JoinOrder.Settings
