/-
# Reading Digests

The inverse of `JoinTree.digest`: the reader takes one tree off the front of a text and leaves the
rest.

Main statements: a digest reads back whatever follows it, as long as no digit follows
(`readTree_digestChars`), and so two trees with one digest are the same tree (`digest_injective`).
-/
import Std.Data.TreeMap
import JoinOrder.Text.Digits
import JoinOrder.Tree.Basic

namespace JoinOrder.JoinTree

open Text

/-- The leaf at the front of a text. -/
def readLeaf (cs : List Char) : Option (JoinTree × List Char) :=
  match cs.takeWhile Char.isDigit with
  | [] => none
  | digits => some (leaf (Nat.ofDigitChars 10 digits 0), cs.dropWhile Char.isDigit)

/-- The tree at the front of a text, of a depth below the given number. -/
def readTree : Nat → List Char → Option (JoinTree × List Char)
  | 0, _ => none
  | depth + 1, '(' :: cs => do
    let (left, cs) ← readTree depth cs
    match cs with
    | 'x' :: cs =>
      let (right, cs) ← readTree depth cs
      match cs with
      | ')' :: cs => return (join left right, cs)
      | _ => none
    | _ => none
  | _ + 1, cs => readLeaf cs

/-! ## Reading back -/

/-- The digits of a leaf read back. -/
theorem readLeaf_toDigits (index : Nat) (rest : List Char) (stop : EndsNumber rest) :
    readLeaf (Nat.toDigits 10 index ++ rest) = some (leaf index, rest) := by
  have taken := takeWhile_digits_append (Nat.toDigits 10 index) rest
    (fun _ => isDigit_of_mem_toDigits) stop
  unfold readLeaf
  rw [taken.1, taken.2]
  split
  · rename_i none
    exact absurd none Nat.toDigits_ne_nil
  · rw [Nat.ofDigitChars_ten_toDigits]

/-- The depth of a tree: the longest way from the root to a leaf. -/
def depth : JoinTree → Nat
  | leaf _ => 0
  | join left right => max left.depth right.depth + 1

/-- **A digest reads back**, whatever follows it, as long as no digit follows. -/
theorem readTree_digestChars (tree : JoinTree) (bound : Nat) (enough : tree.depth < bound)
    (rest : List Char) (stop : EndsNumber rest) :
    readTree bound (tree.digestChars ++ rest) = some (tree, rest) := by
  induction tree generalizing bound rest with
  | leaf index =>
    cases bound with
    | zero => simp [depth] at enough
    | succ bound =>
      -- The digest of a leaf starts with a digit, so the reader takes its second branch.
      rw [digestChars_leaf, readTree]
      · exact readLeaf_toDigits index rest stop
      · exact toDigits_append_ne (by decide) index rest
  | join left right ihl ihr =>
    cases bound with
    | zero => simp at enough
    | succ bound =>
      have depths : left.depth < bound ∧ right.depth < bound := by
        simp only [depth] at enough
        omega
      -- Neither side is followed by a digit: the left one by the cross, the right one by a bracket.
      have stopLeft : EndsNumber ('x' :: (right.digestChars ++ ')' :: rest)) := by
        simp [EndsNumber]
      have stopRight : EndsNumber (')' :: rest) := by simp [EndsNumber]
      have leftRead := ihl bound depths.1 _ stopLeft
      have rightRead := ihr bound depths.2 _ stopRight
      have layout : (join left right).digestChars ++ rest =
          '(' :: (left.digestChars ++ 'x' :: (right.digestChars ++ ')' :: rest)) := by
        simp
      rw [layout, readTree, leftRead]
      simp [rightRead]

/-- **Two trees with one digest are the same tree.** -/
theorem digestChars_injective {a b : JoinTree} (h : a.digestChars = b.digestChars) : a = b := by
  have stop : EndsNumber [] := by simp [EndsNumber]
  have readA := readTree_digestChars a (max a.depth b.depth + 1) (by omega) [] stop
  have readB := readTree_digestChars b (max a.depth b.depth + 1) (by omega) [] stop
  rw [h, readB] at readA
  simpa using readA.symm

theorem digest_injective {a b : JoinTree} (h : a.digest = b.digest) : a = b :=
  digestChars_injective (String.ofList_injective h)

instance : Std.TransOrd JoinTree :=
  inferInstanceAs (Std.TransCmp (compareOn digest))

/-- Trees that compare as equal are the same tree. -/
instance : Std.LawfulEqOrd JoinTree where
  eq_of_compare h := digest_injective (Std.LawfulEqOrd.eq_of_compare h)

end JoinOrder.JoinTree
