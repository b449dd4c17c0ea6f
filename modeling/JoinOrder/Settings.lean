/-
# Settings

How a count is carried out: the number of worker threads, the names of the threads, whether the
sizes of the generated lists are verified, and whether progress is reported.  Settings come from a
file, from the environment or from a text, each of which overrides the defaults in part.  However
they come about, they are accepted only if there is a thread to work and a name for it.
-/
import JoinOrder.Content
import JoinOrder.Json.Fields
import JoinOrder.Json.Reader
import JoinOrder.Json.Writer

namespace JoinOrder

/-- The settings of a count. -/
structure Settings where
  /-- The size of a pool of its own; the shared pool when there is none. -/
  workerThreads : Option Nat
  /-- What the names of the pool's threads start with. -/
  threadNamePrefix : String
  /-- Whether the sizes of the generated lists are compared with their closed forms. -/
  verifySearchSpace : Bool
  /-- Whether progress is reported. -/
  logProgress : Bool
  deriving DecidableEq, Repr

namespace Settings

/-- The settings that hold where nothing else is said. -/
def standard : Settings where
  workerThreads := none
  threadNamePrefix := "join-enum"
  verifySearchSpace := true
  logProgress := true

instance : Inhabited Settings := ⟨standard⟩

/-! ## Acceptance -/

/-- Settings that a count can be carried out with. -/
def Acceptable (settings : Settings) : Prop :=
  settings.workerThreads ≠ some 0 ∧ settings.threadNamePrefix ≠ ""

instance (settings : Settings) : Decidable settings.Acceptable :=
  inferInstanceAs (Decidable (_ ∧ _))

/-- Accepts settings as they are or refuses them; the threads are looked at first. -/
def validate (settings : Settings) : Except Error Settings :=
  if settings.workerThreads = some 0 then .error .noWorkerThread
  else if settings.threadNamePrefix = "" then .error .emptyThreadPrefix
  else .ok settings

/-- **Settings are accepted, unchanged, exactly when they are acceptable.** -/
theorem validate_eq_ok_iff {settings accepted : Settings} :
    settings.validate = .ok accepted ↔ settings.Acceptable ∧ accepted = settings := by
  unfold validate Acceptable
  by_cases threads : settings.workerThreads = some 0
  · simp [threads]
  · by_cases named : settings.threadNamePrefix = ""
    · simp [threads, named]
    · simp [threads, named, eq_comm]

/-- Other settings are refused as a contradiction to the rules. -/
theorem exists_validate_eq_error {settings : Settings} (h : ¬settings.Acceptable) :
    ∃ e, settings.validate = .error e ∧ e.kind = "Config" := by
  unfold validate
  by_cases threads : settings.workerThreads = some 0
  · exact ⟨_, if_pos threads, rfl⟩
  · have unnamed : settings.threadNamePrefix = "" :=
      Decidable.not_not.1 fun named => h ⟨threads, named⟩
    rw [if_neg threads, if_pos unnamed]
    exact ⟨_, rfl, rfl⟩

/-- The standard settings are acceptable. -/
theorem standard_acceptable : standard.Acceptable := by decide

/-! ## Single settings -/

/-- One setting with its value. -/
inductive Setting where
  | workerThreads (threads : Nat)
  | threadNamePrefix (name : String)
  | verifySearchSpace (enabled : Bool)
  | logProgress (enabled : Bool)
  deriving DecidableEq, Repr

/-- Replaces one setting. -/
def set (settings : Settings) : Setting → Settings
  | .workerThreads threads => { settings with workerThreads := some threads }
  | .threadNamePrefix name => { settings with threadNamePrefix := name }
  | .verifySearchSpace enabled => { settings with verifySearchSpace := enabled }
  | .logProgress enabled => { settings with logProgress := enabled }

/-- The standard settings with some replaced one after another, if they are acceptable. -/
def build (replacements : List Setting) : Except Error Settings :=
  (replacements.foldl set standard).validate

/-! ## JSON form -/

/-- The fields of the record in the order of declaration. -/
def fieldNames : List String :=
  ["worker_threads", "thread_name_prefix", "verify_search_space", "log_progress"]

/-- The JSON form. -/
def toJson (settings : Settings) : Json :=
  Json.record [
    ("worker_threads",
      match settings.workerThreads with
      | none => .null
      | some threads => Json.natural threads),
    ("thread_name_prefix", Json.text settings.threadNamePrefix),
    ("verify_search_space", .bool settings.verifySearchSpace),
    ("log_progress", .bool settings.logProgress)]

/-- The JSON text, a line for each setting. -/
def render (settings : Settings) : String := settings.toJson.indented

/-- The settings that a JSON value denotes; what is left out has its standard value. -/
def ofJson? (json : Json) : Option Settings := do
  let fields ← json.fields? fieldNames
  let threads ←
    Json.optional fields "worker_threads" (Json.nullable? Json.word?) standard.workerThreads
  let name ← Json.optional fields "thread_name_prefix" Json.text? standard.threadNamePrefix
  let verify ← Json.optional fields "verify_search_space" Json.bool? standard.verifySearchSpace
  let progress ← Json.optional fields "log_progress" Json.bool? standard.logProgress
  return ⟨threads, name, verify, progress⟩

/-- The settings that a text denotes. -/
def parse (text : String) : Except Error Settings :=
  match (Json.parse text).bind ofJson? with
  | some settings => .ok settings
  | none => .error .malformedSettings

/-! ## The environment -/

/-- The variables of the environment; one that is not set is missing. -/
abbrev Environment := String → Content

/-- The variable that holds the number of worker threads. -/
def threadsVariable : String := "JOIN_ENUM_WORKER_THREADS"

/-- The variable that says whether sizes are verified. -/
def verifyVariable : String := "JOIN_ENUM_VERIFY_SEARCH_SPACE"

/-- The variable that holds what thread names start with. -/
def threadPrefixVariable : String := "JOIN_ENUM_THREAD_PREFIX"

/-- A truth value spelled out. -/
def flagOfText? (text : String) : Option Bool :=
  if text = "true" then some true else if text = "false" then some false else none

/-- The value of a variable: the fallback when it is not set or not text, an error when it cannot be
read. -/
def readVariable {α : Type} (environment : Environment) (name : String)
    (read? : String → Option α) (fallback : α) : Except Error α :=
  match (environment name).text? with
  | none => .ok fallback
  | some text =>
    match read? text with
    | some value => .ok value
    | none => .error (.invalidVariable name text)

/-- The settings that the environment gives, its variables read one after another. -/
def ofEnvironment (environment : Environment) : Except Error Settings := do
  let threads ← readVariable environment threadsVariable
    (fun text => (Word.ofText? text).map some) standard.workerThreads
  let verify ← readVariable environment verifyVariable flagOfText? standard.verifySearchSpace
  let name ← readVariable environment threadPrefixVariable some standard.threadNamePrefix
  return ⟨threads, name, verify, standard.logProgress⟩

/-! ## Sources -/

/-- Where settings come from. -/
inductive Source where
  /-- A file, by its content. -/
  | file (content : Content)
  /-- The environment. -/
  | environment (environment : Environment)
  /-- A text at hand. -/
  | inline (text : String)

/-- The settings that a source gives, not yet accepted. -/
def ofSource : Source → Except Error Settings
  | .file content => do parse (← content.read)
  | .environment environment => ofEnvironment environment
  | .inline text => parse text

/-- The settings that a source gives, if they are acceptable. -/
def load (source : Source) : Except Error Settings := do
  let settings ← ofSource source
  settings.validate

end Settings

end JoinOrder
