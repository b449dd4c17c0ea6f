/-
# Edge Texts Are Parsed Exactly

A text names an edge exactly if it has a colon and neither of its parts is blank: the one in front
of the first colon, and all that follows it.  The names are what trimming leaves of the parts.  With
nothing but a colon between them they make an edge text of their own, which names the same edge, and
so does every text that has white space around them besides.

Main statements: the texts that name a given edge (`parse_eq_ok_iff_spelled`), the texts that name
any (`exists_parse_eq_ok_iff`), and all of it together (`parsed_exactly`).
-/
import JoinOrder.Graph.EdgeText
import JoinOrder.Proofs.Graph.Registration

namespace JoinOrder.EdgeText

open Text

/-! ## Names -/

/-- A name as an edge text gives it: there is something to it, and no white space around it. -/
structure IsName (name : String) : Prop where
  /-- It is not empty. -/
  nonempty : name ≠ ""
  /-- It neither starts nor ends with white space. -/
  trimmed : IsTrimmed name.toList

/-- What is left of a part that is not blank is a name. -/
theorem isName_of_trimChars {part : List Char} {name : String} (kept : trimChars part = name.toList)
    (nonempty : name ≠ "") : IsName name :=
  ⟨nonempty, kept ▸ isTrimmed_trimChars part⟩

/-- What is left of a part has no colon if the part has none. -/
theorem colon_notMem_of_trimChars {part kept : List Char} (trimmed : trimChars part = kept)
    (plain : ':' ∉ part) : ':' ∉ kept := by
  obtain ⟨-, before, after, -, -, rfl⟩ := trimChars_eq_iff.1 trimmed
  exact fun member => plain (List.mem_append_left _ (List.mem_append_right _ member))

/-- White space has no colon. -/
theorem colon_notMem_of_isBlank {gap : List Char} (blank : IsBlank gap) : ':' ∉ gap := by
  intro member
  exact absurd (blank _ member) (by decide)

/-! ## The texts of an edge -/

/-- **The texts that name an edge**: the two names with a colon between them, and white space around
either. -/
theorem parse_eq_ok_iff_spelled {edge left right : String} :
    parse edge = .ok (left, right) ↔ IsName left ∧ IsName right ∧ ':' ∉ left.toList ∧
      ∃ p q s t : String, IsBlank p.toList ∧ IsBlank q.toList ∧ IsBlank s.toList ∧
        IsBlank t.toList ∧ edge = p ++ left ++ q ++ ":" ++ (s ++ right ++ t) := by
  rw [parse_eq_ok_iff_parts]
  constructor
  · rintro ⟨before, after, parted, keptLeft, keptRight, nonempty, nonempty'⟩
    obtain ⟨plain, whole⟩ := splitAtColon_eq_some_iff.1 parted
    obtain ⟨-, p, q, blank, blank', rfl⟩ := trimChars_eq_iff.1 keptLeft
    obtain ⟨-, s, t, blank'', blank''', rfl⟩ := trimChars_eq_iff.1 keptRight
    refine ⟨isName_of_trimChars keptLeft nonempty, isName_of_trimChars keptRight nonempty',
      colon_notMem_of_trimChars keptLeft plain, .ofList p, .ofList q, .ofList s, .ofList t, ?_⟩
    simp only [String.toList_ofList]
    refine ⟨blank, blank', blank'', blank''', String.toList_injective ?_⟩
    simp [whole]
  · rintro ⟨isLeft, isRight, plain, p, q, s, t, blank, blank', blank'', blank''', rfl⟩
    refine ⟨p.toList ++ left.toList ++ q.toList, s.toList ++ right.toList ++ t.toList,
      splitAtColon_eq_some_iff.2 ⟨?_, by simp⟩,
      trimChars_eq_iff.2 ⟨isLeft.trimmed, _, _, blank, blank', rfl⟩,
      trimChars_eq_iff.2 ⟨isRight.trimmed, _, _, blank'', blank''', rfl⟩,
      isLeft.nonempty, isRight.nonempty⟩
    rw [List.mem_append, List.mem_append, not_or, not_or]
    exact ⟨⟨colon_notMem_of_isBlank blank, plain⟩, colon_notMem_of_isBlank blank'⟩

/-- A part that is not blank has a name. -/
theorem exists_trimChars_eq {part : List Char} (visible : ¬ IsBlank part) :
    ∃ name : String, trimChars part = name.toList ∧ name ≠ "" := by
  refine ⟨.ofList (trimChars part), String.toList_ofList.symm, fun none => visible ?_⟩
  rwa [← String.toList_eq_nil_iff, String.toList_ofList, trimChars_eq_nil_iff] at none

/-- **The texts that name an edge at all**: neither what is in front of the first colon nor what
follows it is blank. -/
theorem exists_parse_eq_ok_iff {edge : String} :
    (∃ names, parse edge = .ok names) ↔ ∃ before after : String, edge = before ++ ":" ++ after ∧
      ':' ∉ before.toList ∧ ¬ IsBlank before.toList ∧ ¬ IsBlank after.toList := by
  constructor
  · rintro ⟨⟨left, right⟩, parsed⟩
    obtain ⟨before, after, parted, keptLeft, keptRight, nonempty, nonempty'⟩ :=
      parse_eq_ok_iff_parts.1 parsed
    obtain ⟨plain, whole⟩ := splitAtColon_eq_some_iff.1 parted
    -- A blank part would leave the empty name.
    have visible : ∀ {part : List Char} {name : String}, trimChars part = name.toList →
        name ≠ "" → ¬ IsBlank part := by
      intro part name kept nonempty blank
      rw [trimChars_eq_nil_iff.2 blank, eq_comm, String.toList_eq_nil_iff] at kept
      exact nonempty kept
    refine ⟨.ofList before, .ofList after, String.toList_injective (by simp [whole]), ?_⟩
    simp only [String.toList_ofList]
    exact ⟨plain, visible keptLeft nonempty, visible keptRight nonempty'⟩
  · rintro ⟨before, after, rfl, plain, visible, visible'⟩
    obtain ⟨left, keptLeft, nonempty⟩ := exists_trimChars_eq visible
    obtain ⟨right, keptRight, nonempty'⟩ := exists_trimChars_eq visible'
    exact ⟨(left, right), parse_eq_ok_iff_parts.2 ⟨before.toList, after.toList,
      splitAtColon_eq_some_iff.2 ⟨plain, by simp⟩, keptLeft, keptRight, nonempty, nonempty'⟩⟩

/-- Only the form of a text is ever wrong with it. -/
theorem eq_malformedEdge_of_parse {edge : String} {e : Error} (refused : parse edge = .error e) :
    e = .malformedEdge edge := by
  unfold parse at refused
  split at refused
  · cases refused
  · exact (Except.error.inj refused).symm

/-- A condition between two names is added to any graph. -/
theorem IsName.exists_addCondition {left right : String} (isLeft : IsName left)
    (isRight : IsName right) (graph : JoinGraph) :
    ∃ later, graph.addCondition left right = .ok later ∧ later.hasCondition left right = true := by
  have named : "" ∉ (Registration.condition left right).names := by
    simpa [Registration.names, eq_comm] using And.intro isLeft.nonempty isRight.nonempty
  obtain ⟨later, registered, -⟩ := Draft.run_perform_of_named named graph
  have adds := JoinGraph.adds_of_register named registered
  exact ⟨later, registered, (adds.links left right).2 (.inl (by simp [Registration.pair?]))⟩

/-- **Edge texts are parsed exactly.**  A text is accepted if and only if it has a colon and both
the part in front of the first one and all that follows it hold a character that is not white space;
any other text is refused as an argument.  The names of an accepted text are not empty and have no
white space around them, the left one has no colon, with a colon between them they name the same
edge again, and the condition between them can be added to every graph.  Two such names are also
read from any text with further white space around either of them. -/
theorem parsed_exactly :
    (∀ edge : String, (∃ names, parse edge = .ok names) ↔
      ∃ before after : String, edge = before ++ ":" ++ after ∧ ':' ∉ before.toList ∧
        (∃ c ∈ before.toList, isBlank c = false) ∧ ∃ c ∈ after.toList, isBlank c = false) ∧
    (∀ edge e, parse edge = .error e → e.kind = "InvalidArgument") ∧
    (∀ edge left right, parse edge = .ok (left, right) →
      ':' ∉ left.toList ∧ IsName left ∧ IsName right ∧
      parse (left ++ ":" ++ right) = .ok (left, right) ∧
      ∀ graph : JoinGraph, ∃ later, graph.addCondition left right = .ok later ∧
        later.hasCondition left right = true) ∧
    ∀ left right p q s t : String, IsName left → IsName right → ':' ∉ left.toList →
      IsBlank p.toList → IsBlank q.toList → IsBlank s.toList → IsBlank t.toList →
      parse (p ++ left ++ q ++ ":" ++ (s ++ right ++ t)) = .ok (left, right) := by
  have visible : ∀ cs : List Char, (∃ c ∈ cs, isBlank c = false) ↔ ¬ IsBlank cs := by
    intro cs
    simp [IsBlank]
  refine ⟨fun edge => ?_, fun edge e refused => ?_, fun edge left right parsed => ?_, ?_⟩
  · simp only [exists_parse_eq_ok_iff, visible]
  · rw [eq_malformedEdge_of_parse refused]
    rfl
  · obtain ⟨isLeft, isRight, plain, -⟩ := parse_eq_ok_iff_spelled.1 parsed
    have gap : IsBlank "".toList := by decide
    have again : parse (left ++ ":" ++ right) = .ok (left, right) :=
      parse_eq_ok_iff_spelled.2
        ⟨isLeft, isRight, plain, "", "", "", "", gap, gap, gap, gap, by simp⟩
    exact ⟨plain, isLeft, isRight, again, isLeft.exists_addCondition isRight⟩
  · intro left right p q s t isLeft isRight plain blank blank' blank'' blank'''
    exact parse_eq_ok_iff_spelled.2
      ⟨isLeft, isRight, plain, p, q, s, t, blank, blank', blank'', blank''', rfl⟩

/-- White space of several kinds around a name with a space and a name with a colon, and a text with
a blank part. -/
theorem parsed_exactly_with_gaps :
    IsName "d 1" ∧ IsName "a:b" ∧ ':' ∉ "d 1".toList ∧
      parse ("\t " ++ "d 1" ++ "\u3000" ++ ":" ++ ("\u00a0" ++ "a:b" ++ "\n")) =
        .ok ("d 1", "a:b") ∧
      parse "d 1:a:b" = .ok ("d 1", "a:b") ∧
      (∃ later, JoinGraph.empty.addCondition "d 1" "a:b" = .ok later ∧
        later.hasCondition "d 1" "a:b" = true) ∧
      (∃ names, parse "x : y" = .ok names) ∧
      ∀ e, parse "\u2003:a" = .error e → e.kind = "InvalidArgument" := by
  have first : IsName "d 1" := ⟨by decide, by decide⟩
  have second : IsName "a:b" := ⟨by decide, by decide⟩
  have plain : ':' ∉ "d 1".toList := by decide
  obtain ⟨accepted, refused, again, spaced⟩ := parsed_exactly
  have read := spaced "d 1" "a:b" "\t " "\u3000" "\u00a0" "\n" first second plain (by decide)
    (by decide) (by decide) (by decide)
  obtain ⟨-, -, -, bare, added⟩ := again _ _ _ read
  exact ⟨first, second, plain, read, bare, added JoinGraph.empty,
    (accepted "x : y").2 ⟨"x ", " y", by decide, by decide, ⟨'x', by decide, by decide⟩,
      'y', by decide, by decide⟩,
    refused "\u2003:a"⟩

end JoinOrder.EdgeText
