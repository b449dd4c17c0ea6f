/-
# Settings From the Environment

Three variables of the environment have a say in the settings.  They are read one after another, and
only when all of them could be read are the settings looked at as a whole.  So a number of threads
that cannot be read is noticed before anything else, but a number that is zero only after the flag
has been read.

Main statements: the texts that denote a word (`Word.ofText?_eq_some_iff`), what is loaded
(`load_environment_eq_ok_iff`), the fault that is reported (`load_of_isFirst`), and both together
(`environment_loaded_exactly`).
-/
import Mathlib.Order.WellFounded
import JoinOrder.Proofs.ClosedForm
import JoinOrder.Settings

namespace JoinOrder

/-! ## Numbers as text -/

namespace Word

variable {n : ℕ}

/-- The text consists of decimal digits, at least one and any number of them zeros in front, with
one plus sign before them allowed; the number is their value. -/
def Spells (text : String) (n : ℕ) : Prop :=
  ∃ digits, (text.toList = digits ∨ text.toList = '+' :: digits) ∧ digits ≠ [] ∧
    (∀ c ∈ digits, c.isDigit = true) ∧ Nat.ofDigitChars 10 digits 0 = n

/-- Digits denote their value, if it is a word. -/
theorem ofDigits?_eq_some_iff {digits : List Char} :
    ofDigits? digits = some n ↔ digits ≠ [] ∧ (∀ c ∈ digits, c.isDigit = true) ∧
      Nat.ofDigitChars 10 digits 0 = n ∧ n < wordBound := by
  unfold ofDigits?
  dsimp only
  constructor
  · intro h
    split_ifs at h with spelled fits
    obtain rfl := Option.some.inj h
    exact ⟨spelled.1, List.all_eq_true.1 spelled.2, rfl, fits⟩
  · rintro ⟨nonempty, all, rfl, fits⟩
    rw [if_pos ⟨nonempty, List.all_eq_true.2 all⟩]
    exact if_pos fits

/-- **A text denotes a word** exactly if it spells it and the number is not too large for a word. -/
theorem ofText?_eq_some_iff {text : String} :
    ofText? text = some n ↔ Spells text n ∧ n < wordBound := by
  unfold ofText?
  constructor
  · intro h
    rw [ofChars?.eq_def] at h
    split at h
    · rename_i digits signed
      obtain ⟨nonempty, all, value, fits⟩ := ofDigits?_eq_some_iff.1 h
      exact ⟨⟨digits, Or.inr signed, nonempty, all, value⟩, fits⟩
    · obtain ⟨nonempty, all, value, fits⟩ := ofDigits?_eq_some_iff.1 h
      exact ⟨⟨text.toList, Or.inl rfl, nonempty, all, value⟩, fits⟩
  · rintro ⟨⟨digits, unsigned | signed, nonempty, all, value⟩, fits⟩
    · rw [unsigned, ofChars?.eq_def]
      split
      · -- A plus sign is no digit.
        have digit := all '+' List.mem_cons_self
        cases digit
      · exact ofDigits?_eq_some_iff.2 ⟨nonempty, all, value, fits⟩
    · rw [signed]
      exact ofDigits?_eq_some_iff.2 ⟨nonempty, all, value, fits⟩

end Word

namespace Settings

variable {environment : Environment} {settings : Settings} {text : String}

/-! ## Reading the variables -/

section Variable

variable {α : Type} {name : String} {read? : String → Option α} {fallback value : α}

/-- **A variable has the value that its text denotes**, or the fallback when it is not set. -/
theorem readVariable_eq_ok_iff :
    readVariable environment name read? fallback = .ok value ↔
      match (environment name).text? with
      | none => value = fallback
      | some text => read? text = some value := by
  unfold readVariable
  cases (environment name).text? with
  | none => simp [eq_comm]
  | some text =>
    dsimp only
    cases read? text with
    | none => simp
    | some denoted => simp

/-- A variable that cannot be read is reported with its name and its text. -/
theorem readVariable_of_unreadable (given : (environment name).text? = some text)
    (unreadable : read? text = none) :
    readVariable environment name read? fallback = .error (.invalidVariable name text) := by
  unfold readVariable
  simp only [given, unreadable]

/-- A variable is read if its text, where there is one, denotes a value. -/
theorem exists_readVariable (fallback : α)
    (readable : ∀ text, (environment name).text? = some text → ∃ value, read? text = some value) :
    ∃ value, readVariable environment name read? fallback = .ok value := by
  cases given : (environment name).text? with
  | none => exact ⟨fallback, readVariable_eq_ok_iff.2 (by rw [given])⟩
  | some text =>
    obtain ⟨value, read⟩ := readable text given
    exact ⟨value, readVariable_eq_ok_iff.2 (by rw [given]; exact read)⟩

end Variable

/-- A text is a flag if it is one of two words. -/
theorem flagOfText?_eq_some_iff {flag : Bool} :
    flagOfText? text = some flag ↔
      (text = "true" ∧ flag = true) ∨ (text = "false" ∧ flag = false) := by
  unfold flagOfText?
  split_ifs with yes no
  · simp [yes, eq_comm]
  · simp [no, eq_comm]
  · simp [yes, no]

/-- What the variables say, as far as they are set, and the standard settings otherwise. -/
structure ReadFrom (settings : Settings) (environment : Environment) : Prop where
  /-- The number of threads is spelled out and is a word. -/
  threads : match (environment threadsVariable).text? with
    | none => settings.workerThreads = standard.workerThreads
    | some text => ∃ n, Word.Spells text n ∧ n < 2 ^ 64 ∧ settings.workerThreads = some n
  /-- The flag is one of two words. -/
  flag : match (environment verifyVariable).text? with
    | none => settings.verifySearchSpace = standard.verifySearchSpace
    | some text => (text = "true" ∧ settings.verifySearchSpace = true) ∨
        (text = "false" ∧ settings.verifySearchSpace = false)
  /-- The name is taken as it is. -/
  name : match (environment threadPrefixVariable).text? with
    | none => settings.threadNamePrefix = standard.threadNamePrefix
    | some text => settings.threadNamePrefix = text
  /-- No variable has a say in the reports. -/
  progress : settings.logProgress = true

/-- The number of threads that a text denotes. -/
abbrev threadsOfText? (text : String) : Option (Option ℕ) := (Word.ofText? text).map some

theorem threadsOfText?_eq_some_iff {threads : Option ℕ} :
    threadsOfText? text = some threads ↔
      ∃ n, Word.Spells text n ∧ n < 2 ^ 64 ∧ threads = some n := by
  rw [Option.map_eq_some_iff, ← wordBound_eq]
  constructor
  · rintro ⟨n, denoted, rfl⟩
    obtain ⟨spelled, fits⟩ := Word.ofText?_eq_some_iff.1 denoted
    exact ⟨n, spelled, fits, rfl⟩
  · rintro ⟨n, spelled, fits, rfl⟩
    exact ⟨n, Word.ofText?_eq_some_iff.2 ⟨spelled, fits⟩, rfl⟩

/-- The variables are read one after another. -/
theorem ofEnvironment_eq (environment : Environment) :
    ofEnvironment environment = (do
      let threads ←
        readVariable environment threadsVariable threadsOfText? standard.workerThreads
      let flag ← readVariable environment verifyVariable flagOfText? standard.verifySearchSpace
      let name ← readVariable environment threadPrefixVariable some standard.threadNamePrefix
      .ok ⟨threads, name, flag, standard.logProgress⟩) := rfl

/-- Settings are put together from what each variable gives. -/
theorem ofEnvironment_eq_ok_iff_parts :
    ofEnvironment environment = .ok settings ↔
      readVariable environment threadsVariable threadsOfText? standard.workerThreads =
          .ok settings.workerThreads ∧
        readVariable environment verifyVariable flagOfText? standard.verifySearchSpace =
          .ok settings.verifySearchSpace ∧
        readVariable environment threadPrefixVariable some standard.threadNamePrefix =
          .ok settings.threadNamePrefix ∧
        settings.logProgress = true := by
  rw [ofEnvironment_eq]
  simp only [bind_eq_ok_iff]
  constructor
  · rintro ⟨threads, first, flag, second, name, third, made⟩
    cases made
    exact ⟨first, second, third, rfl⟩
  · rintro ⟨first, second, third, progress⟩
    obtain ⟨threads, name, flag, reports⟩ := settings
    obtain rfl : reports = true := progress
    exact ⟨threads, first, flag, second, name, third, rfl⟩

/-- **The environment gives settings** exactly if they are what its variables say. -/
theorem ofEnvironment_eq_ok_iff :
    ofEnvironment environment = .ok settings ↔ settings.ReadFrom environment := by
  have name : readVariable environment threadPrefixVariable some standard.threadNamePrefix =
        .ok settings.threadNamePrefix ↔
      match (environment threadPrefixVariable).text? with
      | none => settings.threadNamePrefix = standard.threadNamePrefix
      | some text => settings.threadNamePrefix = text := by
    rw [readVariable_eq_ok_iff]
    cases (environment threadPrefixVariable).text? with
    | none => rfl
    | some text => exact Option.some_inj.trans eq_comm
  rw [ofEnvironment_eq_ok_iff_parts, name, readVariable_eq_ok_iff, readVariable_eq_ok_iff]
  simp only [threadsOfText?_eq_some_iff, flagOfText?_eq_some_iff]
  constructor
  · rintro ⟨threads, flag, name, progress⟩
    exact ⟨threads, flag, name, progress⟩
  · rintro ⟨threads, flag, name, progress⟩
    exact ⟨threads, flag, name, progress⟩

/-- **Settings are loaded from the environment** exactly if they are what its variables say and are
acceptable. -/
theorem load_environment_eq_ok_iff :
    load (.environment environment) = .ok settings ↔
      settings.ReadFrom environment ∧ settings.Acceptable := by
  rw [load, bind_eq_ok_iff]
  constructor
  · rintro ⟨read, given, accepted⟩
    obtain ⟨acceptable, rfl⟩ := validate_eq_ok_iff.1 accepted
    exact ⟨ofEnvironment_eq_ok_iff.1 given, acceptable⟩
  · rintro ⟨given, acceptable⟩
    exact ⟨settings, ofEnvironment_eq_ok_iff.2 given, validate_eq_ok_iff.2 ⟨acceptable, rfl⟩⟩

/-! ## Faults -/

/-- What can be wrong with the variables. -/
inductive Fault where
  /-- The number of threads is not spelled out or is not a word. -/
  | unreadableThreads (text : String)
  /-- The flag is neither of its two words. -/
  | unreadableFlag (text : String)
  /-- The number of threads is zero. -/
  | noThread
  /-- The threads have no name. -/
  | noName

namespace Fault

/-- The variables have a fault. -/
def Occurs (environment : Environment) : Fault → Prop
  | unreadableThreads text => (environment threadsVariable).text? = some text ∧
      ¬ ∃ n, Word.Spells text n ∧ n < 2 ^ 64
  | unreadableFlag text => (environment verifyVariable).text? = some text ∧
      text ≠ "true" ∧ text ≠ "false"
  | noThread => ∃ text, (environment threadsVariable).text? = some text ∧ Word.Spells text 0
  | noName => (environment threadPrefixVariable).text? = some ""

/-- The place of a fault in the order in which faults are noticed. -/
def rank : Fault → ℕ
  | unreadableThreads _ => 0
  | unreadableFlag _ => 1
  | noThread => 2
  | noName => 3

/-- The error that reports a fault. -/
def error : Fault → Error
  | unreadableThreads text => .invalidVariable threadsVariable text
  | unreadableFlag text => .invalidVariable verifyVariable text
  | noThread => .noWorkerThread
  | noName => .emptyThreadPrefix

/-- A fault before which no other one is noticed. -/
def IsFirst (environment : Environment) (fault : Fault) : Prop :=
  fault.Occurs environment ∧ ∀ other : Fault, other.Occurs environment → fault.rank ≤ other.rank

/-- All faults are contradictions to the rules of the settings. -/
theorem kind_error (fault : Fault) : fault.error.kind = "Config" := by
  cases fault <;> rfl

/-- Among faults there is a first one. -/
theorem exists_isFirst {fault : Fault} (h : fault.Occurs environment) :
    ∃ first, IsFirst environment first := by
  obtain ⟨first, occurs, least⟩ :=
    (measure rank).wf.has_min {fault | fault.Occurs environment} ⟨fault, h⟩
  exact ⟨first, occurs, fun other there => Nat.le_of_not_lt (least other there)⟩

end Fault

open Fault

/-- The number of threads is read if it has no fault of this kind. -/
theorem exists_threads (readable : ∀ text, ¬ (unreadableThreads text).Occurs environment) :
    ∃ threads, readVariable environment threadsVariable threadsOfText? standard.workerThreads =
      .ok threads := by
  refine exists_readVariable _ fun text given => ?_
  by_contra unread
  refine readable text ⟨given, ?_⟩
  rintro ⟨n, spelled, fits⟩
  exact unread ⟨some n, threadsOfText?_eq_some_iff.2 ⟨n, spelled, fits, rfl⟩⟩

/-- The flag is read if it has no fault. -/
theorem exists_flag (readable : ∀ text, ¬ (unreadableFlag text).Occurs environment) :
    ∃ flag, readVariable environment verifyVariable flagOfText? standard.verifySearchSpace =
      .ok flag := by
  refine exists_readVariable _ fun text given => ?_
  by_contra unread
  refine readable text ⟨given, ?_, ?_⟩
  · rintro rfl
    exact unread ⟨true, rfl⟩
  · rintro rfl
    exact unread ⟨false, rfl⟩

/-- If all variables can be read, then there are settings that they give. -/
theorem exists_readFrom (threads : ∀ text, ¬ (unreadableThreads text).Occurs environment)
    (flag : ∀ text, ¬ (unreadableFlag text).Occurs environment) :
    ∃ settings : Settings, settings.ReadFrom environment := by
  obtain ⟨threads, first⟩ := exists_threads threads
  obtain ⟨flag, second⟩ := exists_flag flag
  obtain ⟨name, third⟩ : ∃ name, readVariable environment threadPrefixVariable some
      standard.threadNamePrefix = .ok name :=
    exists_readVariable _ fun text _ => ⟨text, rfl⟩
  exact ⟨⟨threads, name, flag, true⟩, ofEnvironment_eq_ok_iff.1
    (ofEnvironment_eq_ok_iff_parts.2 ⟨first, second, third, rfl⟩)⟩

/-- What the variables give has no thread exactly if this is a fault of theirs. -/
theorem ReadFrom.noThread_occurs_iff (h : settings.ReadFrom environment) :
    noThread.Occurs environment ↔ settings.workerThreads = some 0 := by
  have threads := h.threads
  cases given : (environment threadsVariable).text? with
  | none =>
    rw [given] at threads
    simp [Occurs, given, threads, standard]
  | some text =>
    rw [given] at threads
    obtain ⟨n, spelled, fits, same⟩ := threads
    constructor
    · rintro ⟨other, given', zero⟩
      obtain rfl : text = other := Option.some.inj (given.symm.trans given')
      have read : threadsOfText? text = some (some n) :=
        threadsOfText?_eq_some_iff.2 ⟨n, spelled, fits, rfl⟩
      have none : threadsOfText? text = some (some 0) :=
        threadsOfText?_eq_some_iff.2 ⟨0, zero, by decide, rfl⟩
      rw [same]
      exact Option.some.inj (read.symm.trans none)
    · intro none
      obtain rfl : n = 0 := Option.some.inj (same.symm.trans none)
      exact ⟨text, given, spelled⟩

/-- What the variables give has no name exactly if this is a fault of theirs. -/
theorem ReadFrom.noName_occurs_iff (h : settings.ReadFrom environment) :
    noName.Occurs environment ↔ settings.threadNamePrefix = "" := by
  have name := h.name
  cases given : (environment threadPrefixVariable).text? with
  | none =>
    rw [given] at name
    simp [Occurs, given, name, standard]
  | some text =>
    rw [given] at name
    simp [Occurs, given, name]

/-- What cannot be read is reported, if everything before it can. -/
theorem load_of_unreadable {fault : Fault} (occurs : fault.Occurs environment)
    (least : ∀ other : Fault, other.Occurs environment → fault.rank ≤ other.rank)
    (early : fault.rank < 2) : ofEnvironment environment = .error fault.error := by
  rw [ofEnvironment_eq]
  cases fault with
  | unreadableThreads text =>
    obtain ⟨given, unreadable⟩ := occurs
    have none : threadsOfText? text = none := by
      refine Option.eq_none_iff_forall_ne_some.2 fun threads read => ?_
      obtain ⟨n, spelled, fits, -⟩ := threadsOfText?_eq_some_iff.1 read
      exact unreadable ⟨n, spelled, fits⟩
    rw [readVariable_of_unreadable given none]
    rfl
  | unreadableFlag text =>
    obtain ⟨given, notTrue, notFalse⟩ := occurs
    have none : flagOfText? text = none := by
      rw [flagOfText?, if_neg notTrue, if_neg notFalse]
    obtain ⟨threads, read⟩ := exists_threads fun text there => by
      have := least _ there
      contradiction
    rw [read, readVariable_of_unreadable given none]
    rfl
  | noThread => exact absurd early (Nat.lt_irrefl 2)
  | noName => exact absurd early (by decide)

/-- **The fault that is noticed first is reported.** -/
theorem load_of_isFirst {fault : Fault} (h : fault.IsFirst environment) :
    load (.environment environment) = .error fault.error := by
  obtain ⟨occurs, least⟩ := h
  have before : ∀ other : Fault, other.rank < fault.rank → ¬ other.Occurs environment :=
    fun other earlier there => Nat.not_lt.2 (least other there) earlier
  show ofEnvironment environment >>= validate = _
  rcases Nat.lt_or_ge fault.rank 2 with early | late
  · rw [load_of_unreadable occurs least early]
    rfl
  · -- Everything can be read, and so the fault is one of the settings as a whole.
    obtain ⟨settings, given⟩ := exists_readFrom
      (fun text => before (unreadableThreads text) (Nat.lt_of_lt_of_le Nat.two_pos late))
      (fun text => before (unreadableFlag text) (Nat.lt_of_lt_of_le Nat.one_lt_two late))
    rw [ofEnvironment_eq_ok_iff.2 given]
    show settings.validate = _
    cases fault with
    | unreadableThreads text => exact absurd late (Nat.not_succ_le_zero 1)
    | unreadableFlag text => exact absurd late (Nat.lt_irrefl 1)
    | noThread =>
      rw [validate, if_pos (given.noThread_occurs_iff.1 occurs)]
      rfl
    | noName =>
      have some : settings.workerThreads ≠ some 0 :=
        mt given.noThread_occurs_iff.2 (before noThread (by decide))
      rw [validate, if_neg some, if_pos (given.noName_occurs_iff.1 occurs)]
      rfl

/-! ## The environment as a whole -/

/-- **Settings are loaded from the environment exactly.**  They are loaded if they are what the
variables say, and the standard settings where a variable is not set or not text, with reports; the
number of threads has to be positive and their name must not be empty.  Otherwise there is a fault,
and the one that is reported is the first in the order in which they are noticed: a number of
threads that cannot be read, a flag that cannot be read, no thread, no name. -/
theorem environment_loaded_exactly (environment : Environment) :
    (∀ settings, load (.environment environment) = .ok settings ↔
      settings.ReadFrom environment ∧ settings.workerThreads ≠ some 0 ∧
        settings.threadNamePrefix ≠ "") ∧
    ((∃ settings, load (.environment environment) = .ok settings) ↔
      ∀ fault : Fault, ¬ fault.Occurs environment) ∧
    (∀ e, load (.environment environment) = .error e ↔
      ∃ fault : Fault, fault.IsFirst environment ∧ e = fault.error) ∧
    ∀ fault : Fault, fault.error.kind = "Config" := by
  have faultless : (∀ fault : Fault, ¬ fault.Occurs environment) →
      ∃ settings, load (.environment environment) = .ok settings := by
    intro none
    obtain ⟨settings, given⟩ := exists_readFrom (fun text => none _) fun text => none _
    exact ⟨settings, load_environment_eq_ok_iff.2 ⟨given, mt given.noThread_occurs_iff.2 (none _),
      mt given.noName_occurs_iff.2 (none _)⟩⟩
  refine ⟨fun settings => load_environment_eq_ok_iff, ⟨?_, faultless⟩, ?_, kind_error⟩
  · rintro ⟨settings, loaded⟩ fault occurs
    obtain ⟨first, isFirst⟩ := exists_isFirst occurs
    rw [load_of_isFirst isFirst] at loaded
    cases loaded
  · intro e
    constructor
    · intro failed
      by_cases none : ∀ fault : Fault, ¬ fault.Occurs environment
      · obtain ⟨settings, loaded⟩ := faultless none
        rw [loaded] at failed
        cases failed
      · obtain ⟨fault, occurs⟩ := not_forall_not.1 none
        obtain ⟨first, isFirst⟩ := exists_isFirst occurs
        rw [load_of_isFirst isFirst] at failed
        exact ⟨first, isFirst, (Except.error.inj failed).symm⟩
    · rintro ⟨fault, isFirst, rfl⟩
      exact load_of_isFirst isFirst

/-- A number of threads that is zero is not noticed before a flag that cannot be read. -/
example :
    load (.environment fun name =>
      if name = threadsVariable then .text "+000"
      else if name = verifyVariable then .text "yes" else .missing) =
        .error (.invalidVariable verifyVariable "yes") := by
  decide

end Settings

end JoinOrder
