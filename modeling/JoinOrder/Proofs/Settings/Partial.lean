/-
# Settings Given in Part

Settings are the standard ones overridden by what a text gives, in any order and among members of
other names, whose values are passed over.  A setting that is given twice is an error, and an array
gives the first settings in the order of declaration.

Main statements: one field (`IsField`, `optional_given`), the JSON form (`ofJson?_given`), and
loading (`load_inline_given`).
-/
import JoinOrder.Proofs.Json.Fields
import JoinOrder.Proofs.Json.Recognition
import JoinOrder.Proofs.Json.RoundTrip
import JoinOrder.Proofs.Settings

namespace JoinOrder.Settings

/-! ## Members of a text -/

/-- A member of an object that settings are read from: one of the settings with a value of its type,
or a member of another name with any value. -/
inductive Given where
  | workerThreads (threads : Option Nat) (fits : ∀ n ∈ threads, n < wordBound)
  | threadNamePrefix (name : String)
  | verifySearchSpace (enabled : Bool)
  | logProgress (enabled : Bool)
  | other (name : String) (value : Json) (unknown : name ∉ fieldNames)

namespace Given

/-- The name of a member. -/
def name : Given → String
  | workerThreads _ _ => "worker_threads"
  | threadNamePrefix _ => "thread_name_prefix"
  | verifySearchSpace _ => "verify_search_space"
  | logProgress _ => "log_progress"
  | other name _ _ => name

/-- The value of a member. -/
def value : Given → Json
  | workerThreads none _ => .null
  | workerThreads (some threads) _ => Json.natural threads
  | threadNamePrefix name => Json.text name
  | verifySearchSpace enabled => .bool enabled
  | logProgress enabled => .bool enabled
  | other _ value _ => value

/-- The member of an object. -/
def field (item : Given) : Json.Field := (item.name, item.value)

end Given

/-- Replaces what a member gives; a member of another name gives nothing. -/
def give (settings : Settings) : Given → Settings
  | .workerThreads threads _ => { settings with workerThreads := threads }
  | .threadNamePrefix name => { settings with threadNamePrefix := name }
  | .verifySearchSpace enabled => { settings with verifySearchSpace := enabled }
  | .logProgress enabled => { settings with logProgress := enabled }
  | .other _ _ _ => settings

/-! ## Single fields -/

/-- A setting under a name: the value of a member of that name denotes what the settings then have,
and no other member changes it. -/
structure IsField {α : Type} (name : String) (decode : Json → Option α) (get : Settings → α) :
    Prop where
  /-- The member of that name. -/
  own : ∀ (settings : Settings) (item : Given), item.name = name →
    decode item.value = some (get (settings.give item))
  /-- The other members. -/
  others : ∀ (settings : Settings) (item : Given), item.name ≠ name →
    get (settings.give item) = get settings

/-- A member of another name is none of the settings. -/
theorem Given.other_name_ne {name known : String} {value : Json} (unknown : name ∉ fieldNames)
    (declared : known ∈ fieldNames) : (other name value unknown).name ≠ known := by
  rintro rfl
  exact unknown declared

theorem isField_workerThreads :
    IsField "worker_threads" (Json.nullable? Json.word?) workerThreads where
  own settings item named := by
    cases item with
    | workerThreads threads fits =>
      cases threads with
      | none => rfl
      | some threads => exact congrArg (Option.map some) (Json.word?_natural (fits threads rfl))
    | other name value unknown => exact absurd named (Given.other_name_ne unknown (by decide))
    | _ => simp [Given.name] at named
  others settings item different := by
    cases item with
    | workerThreads => exact absurd rfl different
    | _ => rfl

theorem isField_threadNamePrefix : IsField "thread_name_prefix" Json.text? threadNamePrefix where
  own settings item named := by
    cases item with
    | threadNamePrefix name => rfl
    | other name value unknown => exact absurd named (Given.other_name_ne unknown (by decide))
    | _ => simp [Given.name] at named
  others settings item different := by
    cases item with
    | threadNamePrefix => exact absurd rfl different
    | _ => rfl

theorem isField_verifySearchSpace :
    IsField "verify_search_space" Json.bool? verifySearchSpace where
  own settings item named := by
    cases item with
    | verifySearchSpace enabled => rfl
    | other name value unknown => exact absurd named (Given.other_name_ne unknown (by decide))
    | _ => simp [Given.name] at named
  others settings item different := by
    cases item with
    | verifySearchSpace => exact absurd rfl different
    | _ => rfl

theorem isField_logProgress : IsField "log_progress" Json.bool? logProgress where
  own settings item named := by
    cases item with
    | logProgress enabled => rfl
    | other name value unknown => exact absurd named (Given.other_name_ne unknown (by decide))
    | _ => simp [Given.name] at named
  others settings item different := by
    cases item with
    | logProgress => exact absurd rfl different
    | _ => rfl

namespace IsField

variable {α : Type} {name : String} {decode : Json → Option α} {get : Settings → α}

/-- A setting that is not given keeps its value. -/
theorem foldl_give (field : IsField name decode get) (given : List Given) (settings : Settings)
    (missing : name ∉ given.map Given.name) : get (given.foldl give settings) = get settings := by
  induction given generalizing settings with
  | nil => rfl
  | cons item given ih =>
    rw [List.map_cons, List.mem_cons, not_or] at missing
    rw [List.foldl_cons, ih _ missing.2, field.others settings item (Ne.symm missing.1)]

/-- **A setting that is given once at most** is read with the value that is given, and otherwise
with the one that it has. -/
theorem optional_given (field : IsField name decode get) (given : List Given) (settings : Settings)
    (once : (given.map Given.name).count name ≤ 1) :
    Json.optional (given.map Given.field) name decode (get settings) =
      some (get (given.foldl give settings)) := by
  induction given generalizing settings with
  | nil => rfl
  | cons item given ih =>
    rw [List.map_cons, List.count_cons] at once
    by_cases named : item.name = name
    · have missing : name ∉ given.map Given.name := by
        rw [if_pos (beq_iff_eq.2 named)] at once
        exact List.count_eq_zero.1 (by omega)
      have found : ((item :: given).map Given.field).lookup name = some item.value := by
        rw [← named]
        exact List.lookup_cons_self
      rw [Json.optional, found, List.foldl_cons, field.foldl_give given _ missing]
      exact field.own settings item named
    · have later : ((item :: given).map Given.field).lookup name =
          (given.map Given.field).lookup name := by
        rw [List.map_cons, Given.field, List.lookup_cons, beq_false_of_ne (Ne.symm named)]
      have rest := ih (settings.give item) (by omega)
      rw [field.others settings item named] at rest
      rw [Json.optional, later, List.foldl_cons]
      exact rest

end IsField

/-! ## The JSON form -/

/-- The members of an object give each of the settings once at most. -/
def GivenOnce (given : List Given) : Prop :=
  ∀ name ∈ fieldNames, (given.map Given.name).count name ≤ 1

instance (given : List Given) : Decidable (GivenOnce given) :=
  inferInstanceAs (Decidable (∀ name ∈ fieldNames, (given.map Given.name).count name ≤ 1))

/-- **What is given overrides the standard settings**, in any order. -/
theorem ofJson?_given {given : List Given} (once : GivenOnce given) :
    ofJson? (Json.record (given.map Given.field)) = some (given.foldl give standard) := by
  have names : (given.map Given.field).map Prod.fst = given.map Given.name := by
    rw [List.map_map]
    rfl
  have distinct : (((given.map Given.field).filter fun field => field.1 ∈ fieldNames).map
      Prod.fst).Nodup := Json.nodup_known_iff.2 (by rwa [names])
  have read : ∀ {α : Type} {name : String} {decode : Json → Option α} {get : Settings → α},
      IsField name decode get → name ∈ fieldNames →
      Json.optional ((given.map Given.field).filter fun field => field.1 ∈ fieldNames) name decode
        (get standard) = some (get (given.foldl give standard)) := by
    intro α name decode get field known
    rw [Json.optional_known known]
    exact field.optional_given given standard (once name known)
  rw [ofJson?, Json.fields?_record_of_nodup distinct]
  simp only [Option.bind_eq_bind, Option.bind_some, read isField_workerThreads (by decide),
    read isField_threadNamePrefix (by decide), read isField_verifySearchSpace (by decide),
    read isField_logProgress (by decide)]
  rfl

/-- A setting that is repeated leaves nothing to be read. -/
theorem ofJson?_of_repeated {members : List (Json.Text × Json)} {name : String}
    (known : name ∈ fieldNames) (repeated : 2 ≤ (members.map Prod.fst).count (.proper name)) :
    ofJson? (.object members) = none := by
  rw [ofJson?, Json.fields?_of_repeated known repeated]
  rfl

/-- **An array is read as the object of the first fields.** -/
theorem ofJson?_array {values : List Json} (short : values.length ≤ fieldNames.length) :
    ofJson? (.array values) = ofJson? (Json.record (fieldNames.zip values)) := by
  rw [ofJson?, ofJson?, Json.fields?_array_eq_record (by decide) short]

/-! ## Loading -/

variable {text : String} {json : Json}

/-- A text at hand gives the settings that its value denotes, if it denotes any. -/
theorem ofSource_inline (denoted : Json.Denotes text json) :
    ofSource (.inline text) = (ofJson? json).elim (.error .malformedSettings) .ok := by
  rw [ofSource, parse, Json.parse_eq_some_iff.2 denoted, Option.bind_some]
  cases ofJson? json <;> rfl

/-- **Settings given in part** are the standard ones with what is given in their place.  The members
of an object may come in any order and among members of other names with any values: if each of the
settings is given once at most, with a value of its type, loading the text comes to validating the
standard settings with those replaced; if one of them is given twice, the text is refused as a
contradiction to the rules.  The array of the first values in the order of declaration is loaded as
the object that names them. -/
theorem load_inline_given :
    (∀ (given : List Given) (text : String), GivenOnce given →
      Json.Denotes text (Json.record (given.map Given.field)) →
      load (.inline text) = (given.foldl give standard).validate) ∧
    (∀ (members : List (Json.Text × Json)) (text : String), ∀ name ∈ fieldNames,
      2 ≤ (members.map Prod.fst).count (.proper name) →
      Json.Denotes text (.object members) →
      ∃ e, load (.inline text) = .error e ∧ e.kind = "Config") ∧
    ∀ (values : List Json) (positional named : String), values.length ≤ fieldNames.length →
      Json.Denotes positional (.array values) →
      Json.Denotes named (Json.record (fieldNames.zip values)) →
      load (.inline positional) = load (.inline named) := by
  refine ⟨fun given text once denoted => ?_, fun members text name known repeated denoted => ?_,
    fun values positional named short first second => ?_⟩
  · have read : ofSource (.inline text) = .ok (given.foldl give standard) := by
      rw [ofSource_inline denoted, ofJson?_given once, Option.elim_some]
    exact load_of_ofSource read
  · have refused : ofSource (.inline text) = .error .malformedSettings := by
      rw [ofSource_inline denoted, ofJson?_of_repeated known repeated, Option.elim_none]
    refine ⟨.malformedSettings, ?_, rfl⟩
    rw [load, refused]
    rfl
  · rw [load, load, ofSource_inline first, ofSource_inline second, ofJson?_array short]

/-- Two settings out of order with a member of another name between them, a setting that is repeated
behind such a member, and an array of two values with white space and an escape where they need not
be. -/
theorem load_inline_given_out_of_order :
    ∃ (given : List Given) (members : List (Json.Text × Json))
      (text repeated positional named : String),
      text = "\x7b\"log_progress\":false,\"extra\":[\x7b\"a\":[\"\\ud800\"]\x7d,-1.5e2]," ++
        "\"worker_threads\":3\x7d" ∧
      GivenOnce given ∧ Json.Denotes text (Json.record (given.map Given.field)) ∧
      load (.inline text) = .ok ⟨some 3, "join-enum", true, false⟩ ∧
      repeated = "\x7b\"log_progress\":true,\"x\":0,\"log_progress\":true\x7d" ∧
      Json.Denotes repeated (.object members) ∧
      2 ≤ (members.map Prod.fst).count (.proper "log_progress") ∧
      (∃ e, load (.inline repeated) = .error e ∧ e.kind = "Config") ∧
      positional = "[ null ,\"\\u0061\"]" ∧
      named = "\x7b\"worker_threads\":null,\"thread_name_prefix\":\"a\"\x7d" ∧
      load (.inline positional) = load (.inline named) := by
  let given : List Given := [.logProgress false,
    .other "extra" (.array [.object [(.proper "a", .array [.string .unpaired])],
      .number ⟨true, 1, [5], some 2⟩]) (by decide),
    .workerThreads (some 3) (by decide)]
  let members : List (Json.Text × Json) := [(.proper "log_progress", .bool true),
    (.proper "x", Json.natural 0), (.proper "log_progress", .bool true)]
  have compact : ∀ json : Json, Json.Denotes json.compact json :=
    Json.denotes_render Json.Layout.isBlank_compact
  have spaced : Json.Denotes "[ null ,\"\\u0061\"]" (.array [.null, Json.text "a"]) := by
    have blank : Json.IsBlank [' '] := by decide
    have letter : Json.Text.ofUnits [0x61] = .proper "a" := by decide
    have spelled : Json.SpellsText (.proper "a") "\"\\u0061\"".toList :=
      letter ▸ .quoted (.digits (show Json.hexUnit '0' '0' '6' '1' = some 0x61 by decide) .close)
    have inside := Json.Spells.item (.spaced blank .null) blank
      (.lastItem (.string spelled) Json.isBlank_nil)
    exact ⟨_, [], .array inside, Json.isBlank_nil, by decide⟩
  have accepted := load_inline_given.1 given _ (by decide) (compact _)
  have refused := load_inline_given.2.1 members _ "log_progress" (by decide) (by decide) (compact _)
  have agreed := load_inline_given.2.2 [.null, Json.text "a"] _ _ (by decide) spaced (compact _)
  refine ⟨given, members, _, _, _, _, ?_, by decide, compact _, accepted.trans (by decide), ?_,
    compact _, by decide, refused, rfl, ?_, agreed⟩
  · decide
  · decide
  · decide

end JoinOrder.Settings
