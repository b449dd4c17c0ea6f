/-
# Preparing a Count

Before anything is registered, the settings of a count have to be accepted and its pool of workers
has to be set up.  What is registered then, makes the graph that is counted with these settings.

The pool is that of the threads which a count works in.  Settings that ask for no pool of their own
use the shared one, which is always there.  The threads of a pool are named after its settings and
numbered from zero, and no name may hold a null byte.

Main statements: the pool can be set up exactly when none is asked for or its name holds no null
byte (`Settings.setUpWorkers_eq_ok_iff`), and what is prepared is an empty graph with the settings
as they were given (`PreparedCount.start_eq_ok_iff`).
-/
import JoinOrder.Graph.Topology
import JoinOrder.Settings

namespace JoinOrder

/-! ## Workers -/

/-- A name with a null byte, which no thread can bear. -/
structure UnusableName where
  /-- The name. -/
  name : String
  deriving DecidableEq, Repr

namespace UnusableName

/-- The number of bytes before the first null byte. -/
def position (unusable : UnusableName) : Nat :=
  Text.byteCount (unusable.name.toList.takeWhile (· ≠ '\x00'))

/-- The bytes of the name in decimal, between commas. -/
def bytes (unusable : UnusableName) : String :=
  ", ".intercalate (unusable.name.toUTF8.toList.map fun byte => byte.toNat.repr)

/-- The sentence that reports the name. -/
def message (unusable : UnusableName) : String :=
  "thread name may not contain interior null bytes: NulError(" ++ unusable.position.repr ++ ", [" ++
    unusable.bytes ++ "])"

end UnusableName

namespace Settings

/-- The name of the `i`-th thread of the pool. -/
def threadName (settings : Settings) (i : Nat) : String :=
  settings.threadNamePrefix ++ "-" ++ i.repr

/-- Sets up the pool; the first thread is where a name that cannot be used is noticed. -/
def setUpWorkers (settings : Settings) : Except UnusableName Unit :=
  if settings.workerThreads.isSome ∧ '\x00' ∈ settings.threadNamePrefix.toList then
    .error ⟨settings.threadName 0⟩
  else .ok ()

/-- **The pool can be set up** exactly when none is asked for or its name holds no null byte. -/
theorem setUpWorkers_eq_ok_iff (settings : Settings) :
    settings.setUpWorkers = .ok () ↔
      settings.workerThreads = none ∨ '\x00' ∉ settings.threadNamePrefix.toList := by
  unfold setUpWorkers
  cases settings.workerThreads with
  | none => simp
  | some threads =>
    by_cases null : '\x00' ∈ settings.threadNamePrefix.toList <;> simp [null]

end Settings

/-! ## Prepared counts -/

/-- A join graph and the settings that it is counted with. -/
structure PreparedCount where
  /-- The graph. -/
  graph : JoinGraph
  /-- The settings. -/
  settings : Settings

/-- Why a count cannot be prepared. -/
inductive PreparationFailure where
  /-- The settings, or something to register, are not accepted. -/
  | error (cause : Error)
  /-- The threads cannot bear their name. -/
  | unusableName (cause : UnusableName)
  deriving DecidableEq, Repr

/-- A count without tables; the settings are looked at before the pool is set up. -/
def PreparedCount.start (settings : Settings) : Except PreparationFailure PreparedCount := do
  let settings ← settings.validate.mapError .error
  settings.setUpWorkers.mapError .unusableName
  return ⟨.empty, settings⟩

/-- A count of a shape over `n` tables. -/
def Topology.prepare (topology : Topology) (n : Nat) (settings : Settings) :
    Except PreparationFailure PreparedCount := do
  let prepared ← PreparedCount.start settings
  let graph ← (topology.build n).mapError .error
  return { prepared with graph }

/-- **A count can be prepared** exactly if its settings are acceptable and its workers can be set
up. -/
theorem PreparedCount.start_eq_ok_iff {settings : Settings} {prepared : PreparedCount} :
    start settings = .ok prepared ↔ settings.Acceptable ∧ settings.setUpWorkers = .ok () ∧
      prepared = ⟨.empty, settings⟩ := by
  rw [start, bind_eq_ok_iff]
  simp only [bind_eq_ok_iff, mapError_eq_ok_iff, Settings.validate_eq_ok_iff]
  constructor
  · rintro ⟨_, ⟨acceptable, rfl⟩, ⟨⟩, workers, made⟩
    exact ⟨acceptable, workers, (Except.ok.inj made).symm⟩
  · rintro ⟨acceptable, workers, rfl⟩
    exact ⟨settings, ⟨acceptable, rfl⟩, (), workers, rfl⟩

/-- **A count of a shape can be prepared** exactly if its settings allow it, and then the graph is
that of the shape. -/
theorem Topology.prepare_eq_ok_iff {topology : Topology} {n : Nat} {settings : Settings}
    {prepared : PreparedCount} :
    topology.prepare n settings = .ok prepared ↔ settings.Acceptable ∧
      settings.setUpWorkers = .ok () ∧ topology.build n = .ok prepared.graph ∧
      prepared.settings = settings := by
  rw [prepare, bind_eq_ok_iff]
  simp only [bind_eq_ok_iff, mapError_eq_ok_iff, PreparedCount.start_eq_ok_iff]
  constructor
  · rintro ⟨_, ⟨acceptable, workers, rfl⟩, graph, built, made⟩
    cases made
    exact ⟨acceptable, workers, built, rfl⟩
  · rintro ⟨acceptable, workers, built, rfl⟩
    exact ⟨_, ⟨acceptable, workers, rfl⟩, prepared.graph, built, rfl⟩

end JoinOrder
