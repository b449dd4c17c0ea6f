/-
# The Memo

What has been looked up about trees is remembered under their digests: the inputs of a tree, and the
verdict whether two sides are linked.  All access to the memo is by four single steps, reading or
writing one entry, so that several evaluations may share a memo and take their steps in any order.
An `Access` is a program of such steps.
-/
import Std.Data.TreeMap

namespace JoinOrder

/-- The digests of the two sides of a join. -/
structure JoinKey where
  /-- The digest of the left side. -/
  left : String
  /-- The digest of the right side. -/
  right : String
  deriving DecidableEq, Repr

namespace JoinKey

/-- Keys are ordered by their left digests, then by their right ones. -/
instance : Ord JoinKey where
  compare := compareLex (compareOn left) (compareOn right)

instance : Std.TransOrd JoinKey :=
  inferInstanceAs (Std.TransCmp (compareLex (compareOn left) (compareOn right)))

instance : Std.LawfulEqOrd JoinKey where
  eq_of_compare {a b} h := by
    have sides : compare a.left b.left = .eq ∧ compare a.right b.right = .eq :=
      Ordering.then_eq_eq.1 h
    cases a
    cases b
    rw [JoinKey.mk.injEq]
    exact ⟨Std.LawfulEqOrd.eq_of_compare sides.1, Std.LawfulEqOrd.eq_of_compare sides.2⟩

end JoinKey

/-- What has been found out about trees. -/
structure Memo where
  /-- The inputs of trees, by digest. -/
  inputSets : Std.TreeMap String (List Nat)
  /-- Whether two sides are linked, by their digests. -/
  verdicts : Std.TreeMap JoinKey Bool

namespace Memo

/-- Nothing has been found out. -/
def empty : Memo := ⟨∅, ∅⟩

/-- The number of trees with known inputs. -/
def inputSetCount (memo : Memo) : Nat := memo.inputSets.size

/-- The number of joins with a known verdict. -/
def verdictCount (memo : Memo) : Nat := memo.verdicts.size

end Memo

/-- A program that reads and writes a memo entry by entry and ends with a value. -/
inductive Access (α : Type) where
  /-- The program is finished. -/
  | done (value : α)
  /-- Reads the inputs of a tree. -/
  | readInputs (digest : String) (next : Option (List Nat) → Access α)
  /-- Writes the inputs of a tree. -/
  | writeInputs (digest : String) (inputs : List Nat) (next : Access α)
  /-- Reads the verdict on a join. -/
  | readVerdict (key : JoinKey) (next : Option Bool → Access α)
  /-- Writes the verdict on a join. -/
  | writeVerdict (key : JoinKey) (verdict : Bool) (next : Access α)

namespace Access

variable {α β : Type}

/-- One program after another. -/
def bind : Access α → (α → Access β) → Access β
  | done value, f => f value
  | readInputs digest next, f => readInputs digest fun found => (next found).bind f
  | writeInputs digest inputs next, f => writeInputs digest inputs (next.bind f)
  | readVerdict key next, f => readVerdict key fun found => (next found).bind f
  | writeVerdict key verdict next, f => writeVerdict key verdict (next.bind f)

instance : Monad Access where
  pure := done
  bind := bind

/-- Programs one after another may be grouped in any way. -/
instance : LawfulMonad Access := LawfulMonad.mk' Access
  (by
    intro α program
    induction program with
    | done value => rfl
    | readInputs digest next ih => exact congrArg (readInputs digest) (funext ih)
    | writeInputs digest inputs next ih => exact congrArg (writeInputs digest inputs) ih
    | readVerdict key next ih => exact congrArg (readVerdict key) (funext ih)
    | writeVerdict key verdict next ih => exact congrArg (writeVerdict key verdict) ih)
  (by
    intro α β value f
    rfl)
  (by
    intro α β γ program f g
    induction program with
    | done value => rfl
    | readInputs digest next ih => exact congrArg (readInputs digest) (funext ih)
    | writeInputs digest inputs next ih => exact congrArg (writeInputs digest inputs) ih
    | readVerdict key next ih => exact congrArg (readVerdict key) (funext ih)
    | writeVerdict key verdict next ih => exact congrArg (writeVerdict key verdict) ih)

/-! ## Single accesses -/

/-- The inputs that the memo holds for a digest. -/
def knownInputs (digest : String) : Access (Option (List Nat)) := readInputs digest done

/-- Puts the inputs for a digest into the memo. -/
def rememberInputs (digest : String) (inputs : List Nat) : Access Unit :=
  writeInputs digest inputs (done ())

/-- The verdict that the memo holds for a join. -/
def knownVerdict (key : JoinKey) : Access (Option Bool) := readVerdict key done

/-- Puts the verdict on a join into the memo. -/
def rememberVerdict (key : JoinKey) (verdict : Bool) : Access Unit :=
  writeVerdict key verdict (done ())

/-! ## Steps and runs -/

/-- One step of a program on a memo; a finished program takes no step. -/
def step : Access α → Memo → Option (Access α × Memo)
  | done _, _ => none
  | readInputs digest next, memo => some (next memo.inputSets[digest]?, memo)
  | writeInputs digest inputs next, memo =>
    some (next, { memo with inputSets := memo.inputSets.insert digest inputs })
  | readVerdict key next, memo => some (next memo.verdicts[key]?, memo)
  | writeVerdict key verdict next, memo =>
    some (next, { memo with verdicts := memo.verdicts.insert key verdict })

/-- Runs a program to its end, with no other program in between. -/
def run : Access α → Memo → α × Memo
  | done value, memo => (value, memo)
  | readInputs digest next, memo => (next memo.inputSets[digest]?).run memo
  | writeInputs digest inputs next, memo =>
    next.run { memo with inputSets := memo.inputSets.insert digest inputs }
  | readVerdict key next, memo => (next memo.verdicts[key]?).run memo
  | writeVerdict key verdict next, memo =>
    next.run { memo with verdicts := memo.verdicts.insert key verdict }

@[simp] theorem run_done (value : α) (memo : Memo) : (done value).run memo = (value, memo) := rfl

/-- Running one program after another hands the memo on. -/
theorem run_bind (program : Access α) (f : α → Access β) (memo : Memo) :
    (program.bind f).run memo = (f (program.run memo).1).run (program.run memo).2 := by
  induction program generalizing memo with
  | done value => rfl
  | readInputs digest next ih => exact ih _ memo
  | writeInputs digest inputs next ih => exact ih _
  | readVerdict key next ih => exact ih _ memo
  | writeVerdict key verdict next ih => exact ih _

/-- A step does not change how a program ends. -/
theorem run_of_step {program next : Access α} {memo later : Memo}
    (h : program.step memo = some (next, later)) : program.run memo = next.run later := by
  cases program <;> simp only [step, Option.some.injEq, Prod.mk.injEq, reduceCtorEq] at h
  all_goals
    obtain ⟨rfl, rfl⟩ := h
    rfl

end Access

end JoinOrder
