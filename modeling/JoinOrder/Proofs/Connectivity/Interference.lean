/-
# Programs Among Others

Several programs share a memo and take their steps in any order.  What one of them can rely on is
that the others keep every entry and an invariant; what it owes them is to do the same.  A program
that lives up to this ends with its postcondition, whatever the others do between its steps.

Main statements: one program after another (`Ensures.bind`), what a single step keeps
(`Ensures.step`), and the run of a program that is alone (`Ensures.run`).
-/
import JoinOrder.Connectivity.Memo

namespace JoinOrder

/-! ## Growing memos -/

/-- Every entry of the memo is still there later, with the same value. -/
structure Memo.Extends (memo later : Memo) : Prop where
  /-- Known inputs stay known. -/
  inputs : ∀ (digest : String) found, memo.inputSets[digest]? = some found →
    later.inputSets[digest]? = some found
  /-- Known verdicts stay known. -/
  verdicts : ∀ (key : JoinKey) verdict, memo.verdicts[key]? = some verdict →
    later.verdicts[key]? = some verdict

namespace Memo.Extends

variable {memo later last : Memo}

theorem refl (memo : Memo) : memo.Extends memo := ⟨fun _ _ h => h, fun _ _ h => h⟩

theorem trans (first : memo.Extends later) (second : later.Extends last) : memo.Extends last where
  inputs digest found h := second.inputs digest found (first.inputs digest found h)
  verdicts key verdict h := second.verdicts key verdict (first.verdicts key verdict h)

/-- A tree with known inputs keeps them. -/
theorem mem_inputSets (h : memo.Extends later) {digest : String} (known : digest ∈ memo.inputSets) :
    digest ∈ later.inputSets := by
  rw [Std.TreeMap.mem_iff_isSome_getElem?, Option.isSome_iff_exists] at known ⊢
  exact known.imp fun found there => h.inputs digest found there

/-- A join with a known verdict keeps it. -/
theorem mem_verdicts (h : memo.Extends later) {key : JoinKey} (known : key ∈ memo.verdicts) :
    key ∈ later.verdicts := by
  rw [Std.TreeMap.mem_iff_isSome_getElem?, Option.isSome_iff_exists] at known ⊢
  exact known.imp fun verdict there => h.verdicts key verdict there

end Memo.Extends

/-! ## What a program ensures -/

variable {α β : Type} {inv : Memo → Prop} {post : α → Memo → Prop} {memo later : Memo}

/-- From this memo on the program keeps all entries and the invariant, and it ends with the
postcondition, provided that the others keep all entries and the invariant before each of its
steps. -/
def Access.Ensures (inv : Memo → Prop) (post : α → Memo → Prop) : Access α → Memo → Prop
  | .done value, memo => ∀ later, memo.Extends later → inv later → post value later
  | .readInputs digest next, memo => ∀ later, memo.Extends later → inv later →
    (next later.inputSets[digest]?).Ensures inv post later
  | .writeInputs digest inputs next, memo => ∀ later, memo.Extends later → inv later →
    let written := { later with inputSets := later.inputSets.insert digest inputs }
    inv written ∧ later.Extends written ∧ next.Ensures inv post written
  | .readVerdict key next, memo => ∀ later, memo.Extends later → inv later →
    (next later.verdicts[key]?).Ensures inv post later
  | .writeVerdict key verdict next, memo => ∀ later, memo.Extends later → inv later →
    let written := { later with verdicts := later.verdicts.insert key verdict }
    inv written ∧ later.Extends written ∧ next.Ensures inv post written

namespace Access

variable {program : Access α}

/-- What is ensured from a memo on is ensured from each later one on. -/
theorem Ensures.of_extends (h : program.Ensures inv post memo) (grown : memo.Extends later) :
    program.Ensures inv post later := by
  cases program with
  | done | readInputs | writeInputs | readVerdict | writeVerdict =>
    exact fun last ext keeps => h last (grown.trans ext) keeps

/-- What is ensured from all later memos on is ensured. -/
theorem ensures_of_forall
    (h : ∀ later, memo.Extends later → inv later → program.Ensures inv post later) :
    program.Ensures inv post memo := by
  cases program with
  | done | readInputs | writeInputs | readVerdict | writeVerdict =>
    exact fun later ext keeps => h later ext keeps later (.refl later) keeps

/-- A postcondition may be weakened, also by what the memo holds already. -/
theorem Ensures.mono {weak : α → Memo → Prop} (h : program.Ensures inv post memo)
    (weaken : ∀ value later, memo.Extends later → post value later → weak value later) :
    program.Ensures inv weak memo := by
  induction program generalizing memo with
  | done value => exact fun later ext keeps => weaken value later ext (h later ext keeps)
  | readInputs digest next ih | readVerdict digest next ih =>
    intro later ext keeps
    exact ih _ (h later ext keeps) fun value last grown => weaken value last (ext.trans grown)
  | writeInputs digest inputs next ih | writeVerdict digest inputs next ih =>
    intro later ext keeps
    obtain ⟨kept, wrote, rest⟩ := h later ext keeps
    exact ⟨kept, wrote, ih rest fun value last grown =>
      weaken value last (ext.trans (wrote.trans grown))⟩

/-- **One program after another**: the second one starts with the value of the first, at some memo
that satisfies the postcondition of the first. -/
theorem Ensures.bind {mid : α → Memo → Prop} {post : β → Memo → Prop} {f : α → Access β}
    (h : program.Ensures inv mid memo)
    (onward : ∀ value later, memo.Extends later → inv later → mid value later →
      (f value).Ensures inv post later) :
    (program >>= f).Ensures inv post memo := by
  show (program.bind f).Ensures inv post memo
  induction program generalizing memo with
  | done value =>
    exact ensures_of_forall fun later ext keeps =>
      onward value later ext keeps (h later ext keeps)
  | readInputs digest next ih | readVerdict digest next ih =>
    intro later ext keeps
    exact ih _ (h later ext keeps) fun value last grown => onward value last (ext.trans grown)
  | writeInputs digest inputs next ih | writeVerdict digest inputs next ih =>
    intro later ext keeps
    obtain ⟨kept, wrote, rest⟩ := h later ext keeps
    exact ⟨kept, wrote, ih rest fun value last grown =>
      onward value last (ext.trans (wrote.trans grown))⟩

/-- **A step keeps** all entries, the invariant, and what is ensured. -/
theorem Ensures.step {next : Access α} (h : program.Ensures inv post memo) (keeps : inv memo)
    (stepped : program.step memo = some (next, later)) :
    inv later ∧ memo.Extends later ∧ next.Ensures inv post later := by
  cases program with
  | done value => cases stepped
  | readInputs digest next | readVerdict digest next =>
    cases stepped
    exact ⟨keeps, .refl memo, h memo (.refl memo) keeps⟩
  | writeInputs digest inputs next | writeVerdict digest inputs next =>
    cases stepped
    exact h memo (.refl memo) keeps

/-- **The run of a program that is alone** ends with the postcondition. -/
theorem Ensures.run (h : program.Ensures inv post memo) (keeps : inv memo) :
    inv (program.run memo).2 ∧ memo.Extends (program.run memo).2 ∧
      post (program.run memo).1 (program.run memo).2 := by
  induction program generalizing memo with
  | done value => exact ⟨keeps, .refl memo, h memo (.refl memo) keeps⟩
  | readInputs digest next ih | readVerdict digest next ih =>
    exact ih _ (h memo (.refl memo) keeps) keeps
  | writeInputs digest inputs next ih | writeVerdict digest inputs next ih =>
    obtain ⟨kept, wrote, rest⟩ := h memo (.refl memo) keeps
    obtain ⟨kept', grown, value⟩ := ih rest kept
    exact ⟨kept', wrote.trans grown, value⟩

end Access

end JoinOrder
