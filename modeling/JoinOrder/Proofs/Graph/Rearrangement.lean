/-
# Edges Given in Another Way

What a graph is made of decides its shape: two lists of registrations that mention the same names
and link the same pairs lead to isomorphic shapes, in whatever order they come and however often
they repeat themselves.

A list of edge texts may be rearranged: the texts in another order, a text given once more, the two
sides of a text swapped, or other white space around its names.  This changes neither that all texts
can be parsed, nor the pairs that they name.

Main statements: graphs with the same content (`Registration.SameContent.exists_registerAll`), what
a text names after a change (`EdgeText.Respelled.names`), and what a list names
(`EdgeText.Rearranged.link`, `EdgeText.exists_mapM_of_rearranged`).
-/
import Mathlib.Logic.Relation
import JoinOrder.Proofs.Graph.EdgeText
import JoinOrder.Proofs.Graph.Specification

namespace JoinOrder

/-! ## The same content -/

/-- Two lists of registrations mention the same names and link the same pairs. -/
structure Registration.SameContent (items items' : List Registration) : Prop where
  /-- They mention the same names. -/
  names : ∀ name, name ∈ items'.flatMap names ↔ name ∈ items.flatMap names
  /-- They link the same pairs. -/
  pairs : ∀ pair, pair ∈ items'.filterMap pair? ↔ pair ∈ items.filterMap pair?

namespace JoinGraph

variable {graph graph' : JoinGraph} {items : List Registration}

/-- The tables after registrations from the beginning. -/
theorem mem_names_of_registerAll (registered : empty.registerAll items = (graph, none))
    {name : String} : name ∈ graph.tables.names ↔ name ∈ items.flatMap Registration.names := by
  rw [(adds_registerAll registered).names [] rfl, List.nil_append, List.mem_eraseDups]

/-- The links after registrations from the beginning. -/
theorem hasCondition_iff_of_registerAll (registered : empty.registerAll items = (graph, none))
    {left right : String} :
    graph.hasCondition left right = true ↔ s(left, right) ∈ items.filterMap Registration.pair? := by
  have none : empty.hasCondition left right = false := by
    rw [Bool.eq_false_iff, Ne, represents_empty.links]
    simp [NameGraph.ofRegistrations]
  rw [(adds_registerAll registered).links, none, or_iff_left Bool.false_ne_true]

/-- Graphs with the same names and the same links have isomorphic shapes. -/
def isoOfNames (names : ∀ name, name ∈ graph.tables.names ↔ name ∈ graph'.tables.names)
    (links : ∀ left right, graph'.hasCondition left right = graph.hasCondition left right) :
    graph.shape ≃g graph'.shape where
  toEquiv := Equiv.subtypeEquivRight names
  map_rel_iff' := by
    intro a b
    show (_ ≠ _ ∧ graph'.hasCondition a.1 b.1 = true) ↔ a ≠ b ∧ graph.hasCondition a.1 b.1 = true
    rw [links, (Equiv.subtypeEquivRight names).injective.ne_iff]

end JoinGraph

/-- **Registrations with the same content** are accepted as well, and lead to an isomorphic
shape. -/
theorem Registration.SameContent.exists_registerAll {items items' : List Registration}
    (same : SameContent items items') {graph : JoinGraph}
    (registered : JoinGraph.empty.registerAll items = (graph, none)) :
    ∃ graph', JoinGraph.empty.registerAll items' = (graph', none) ∧
      Nonempty (graph.shape ≃g graph'.shape) := by
  have unnamed : ∀ items : List Registration, (∀ item ∈ items, "" ∉ item.names) ↔
      "" ∉ items.flatMap Registration.names := by simp
  have named := JoinGraph.registerAll_eq_none_iff.1 (congrArg Prod.snd registered)
  have accepted : (JoinGraph.empty.registerAll items').2 = none := by
    rwa [JoinGraph.registerAll_eq_none_iff, unnamed, same.names, ← unnamed]
  refine ⟨(JoinGraph.empty.registerAll items').1, Prod.ext rfl accepted, ?_⟩
  have registered' : JoinGraph.empty.registerAll items' =
      ((JoinGraph.empty.registerAll items').1, none) := Prod.ext rfl accepted
  refine ⟨JoinGraph.isoOfNames (fun name => ?_) fun left right => Bool.eq_iff_iff.2 ?_⟩
  · rw [JoinGraph.mem_names_of_registerAll registered,
      JoinGraph.mem_names_of_registerAll registered', same.names]
  · rw [JoinGraph.hasCondition_iff_of_registerAll registered,
      JoinGraph.hasCondition_iff_of_registerAll registered', same.pairs]

/-- Each registration mentions a name, so there are as few of them with the same content. -/
theorem Registration.SameContent.ne_nil {items items' : List Registration}
    (same : SameContent items items') (h : items ≠ []) : items' ≠ [] := by
  obtain ⟨item, others, rfl⟩ := List.exists_cons_of_ne_nil h
  obtain ⟨name, mentioned⟩ : ∃ name, name ∈ item.names := by
    cases item with
    | condition left right => exact ⟨left, List.mem_cons_self⟩
    | table name => exact ⟨name, List.mem_cons_self⟩
  rintro rfl
  have among := (same.names name).2 (List.mem_flatMap.2 ⟨item, List.mem_cons_self, mentioned⟩)
  cases among

/-! ## Links of a specification -/

namespace GraphSpec

/-- The pairs of names that edges link. -/
def linksOf (edges : List (String × String)) : List (Sym2 String) :=
  edges.map fun edge => s(edge.1, edge.2)

theorem linksOf_append (edges more : List (String × String)) :
    linksOf (edges ++ more) = linksOf edges ++ linksOf more := List.map_append

/-- The pairs of a specification are those of its edges. -/
theorem filterMap_items (spec : GraphSpec) :
    spec.items.filterMap Registration.pair? = linksOf spec.edges := by
  rw [items, List.filterMap_append, List.filterMap_map, List.filterMap_map]
  have edges : Registration.pair? ∘ (fun edge : String × String =>
      Registration.condition edge.1 edge.2) = some ∘ fun edge => s(edge.1, edge.2) := rfl
  have tables : Registration.pair? ∘ Registration.table = fun _ => none := rfl
  rw [edges, tables, List.filterMap_eq_map]
  simp [linksOf]

/-- The names of a specification are those of its tables and the ends of its edges. -/
theorem mem_flatMap_items {spec : GraphSpec} {name : String} :
    name ∈ spec.items.flatMap Registration.names ↔
      (∃ pair ∈ linksOf spec.edges, name ∈ pair) ∨ name ∈ spec.tables := by
  simp [items, linksOf, Registration.names, List.flatMap_append, List.flatMap_map]

/-- **Specifications with the same tables and links** have the same content. -/
theorem sameContent_items {spec spec' : GraphSpec} (tables : spec'.tables = spec.tables)
    (links : ∀ pair, pair ∈ linksOf spec'.edges ↔ pair ∈ linksOf spec.edges) :
    Registration.SameContent spec.items spec'.items where
  names name := by simp only [mem_flatMap_items, links, tables]
  pairs pair := by rw [filterMap_items, filterMap_items, links]

end GraphSpec

/-! ## Edge texts -/

namespace EdgeText

open Text

/-- The text can be parsed and names this pair. -/
def Names (text : String) (pair : Sym2 String) : Prop :=
  ∃ left right, parse text = .ok (left, right) ∧ s(left, right) = pair

/-- White space, which may be empty. -/
abbrev Gap := {text : String // IsBlank text.toList}

/-- A side of an edge text with white space around it. -/
def padded (before : Gap) (side : String) (after : Gap) : String := before.1 ++ side ++ after.1

/-- Another text for the same edge. -/
inductive Respelled : String → String → Prop
  /-- The two sides are swapped. -/
  | swapped {left right : String} (plain : ':' ∉ left.toList) (plain' : ':' ∉ right.toList) :
      Respelled (left ++ ":" ++ right) (right ++ ":" ++ left)
  /-- There is other white space around the sides. -/
  | spaced {left right : String} (plain : ':' ∉ left.toList) (p q s t p' q' s' t' : Gap) :
      Respelled (padded p left q ++ ":" ++ padded s right t)
        (padded p' left q' ++ ":" ++ padded s' right t')

/-- A list of edge texts with one change. -/
inductive Rearranged : List String → List String → Prop
  /-- The texts are in another order. -/
  | permuted {texts texts' : List String} (perm : texts.Perm texts') : Rearranged texts texts'
  /-- A text is given once more. -/
  | repeated {texts : List String} {text : String} (known : text ∈ texts) :
      Rearranged texts (text :: texts)
  /-- A text is given in another way. -/
  | respelled (before : List String) {text text' : String} (other : Respelled text text')
      (after : List String) : Rearranged (before ++ text :: after) (before ++ text' :: after)

/-- What parsing makes of two sides with a colon between them. -/
theorem parse_eq_ok_iff_sides {before after left right : String} (plain : ':' ∉ before.toList) :
    parse (before ++ ":" ++ after) = .ok (left, right) ↔
      trimChars before.toList = left.toList ∧ trimChars after.toList = right.toList ∧
        left ≠ "" ∧ right ≠ "" := by
  have parted : splitAtColon (before ++ ":" ++ after).toList = some (before.toList, after.toList) :=
    splitAtColon_eq_some_iff.2 ⟨plain, by simp⟩
  rw [parse_eq_ok_iff_parts, parted]
  constructor
  · rintro ⟨_, _, ⟨⟩, parts⟩
    exact parts
  · intro parts
    exact ⟨_, _, rfl, parts⟩

/-- White space around a side leaves its name. -/
theorem trimChars_padded (before : Gap) (side : String) (after : Gap) :
    trimChars (padded before side after).toList = trimChars side.toList := by
  rw [padded, String.toList_append, String.toList_append, trimChars_append_blank after.2,
    trimChars_blank_append before.2]

/-- White space around a side adds no colon. -/
theorem colon_notMem_padded (before : Gap) {side : String} (plain : ':' ∉ side.toList)
    (after : Gap) : ':' ∉ (padded before side after).toList := by
  simp only [padded, String.toList_append, List.mem_append, not_or]
  exact ⟨⟨colon_notMem_of_isBlank before.2, plain⟩, colon_notMem_of_isBlank after.2⟩

/-- **A text in another way** names the same pair. -/
theorem Respelled.names {text text' : String} (h : Respelled text text') {pair : Sym2 String}
    (named : Names text pair) : Names text' pair := by
  obtain ⟨first, second, parsed, rfl⟩ := named
  cases h with
  | swapped plain plain' =>
    obtain ⟨left, right, nonempty, nonempty'⟩ := (parse_eq_ok_iff_sides plain).1 parsed
    exact ⟨second, first, (parse_eq_ok_iff_sides plain').2 ⟨right, left, nonempty', nonempty⟩,
      Sym2.eq_swap⟩
  | spaced plain p q s t p' q' s' t' =>
    refine ⟨first, second, ?_, rfl⟩
    rw [parse_eq_ok_iff_sides (colon_notMem_padded _ plain _), trimChars_padded,
      trimChars_padded] at parsed ⊢
    exact parsed

/-! ## Lists of edge texts -/

/-- All texts can be parsed, and these are the pairs that they name. -/
structure Link (texts : List String) (pairs : Set (Sym2 String)) : Prop where
  /-- Each text names one of the pairs. -/
  text : ∀ text ∈ texts, ∃ pair ∈ pairs, Names text pair
  /-- Each of the pairs is named. -/
  pair : ∀ pair ∈ pairs, ∃ text ∈ texts, Names text pair

/-- **A change to the list** leaves the pairs that it names. -/
theorem Rearranged.link {texts texts' : List String} (h : Rearranged texts texts')
    {pairs : Set (Sym2 String)} (link : Link texts pairs) : Link texts' pairs := by
  cases h with
  | permuted perm =>
    refine ⟨fun text member => link.text text (perm.mem_iff.2 member), fun pair member => ?_⟩
    obtain ⟨text, among, named⟩ := link.pair pair member
    exact ⟨text, perm.mem_iff.1 among, named⟩
  | repeated known =>
    refine ⟨List.forall_mem_cons.2 ⟨link.text _ known, link.text⟩, fun pair member => ?_⟩
    obtain ⟨text, among, named⟩ := link.pair pair member
    exact ⟨text, List.mem_cons_of_mem _ among, named⟩
  | @respelled before text text' other after =>
    obtain ⟨front, here, back⟩ : (∀ text ∈ before, _) ∧ _ ∧ ∀ text ∈ after, _ := by
      simpa only [List.forall_mem_append, List.forall_mem_cons] using link.text
    refine ⟨?_, fun pair member => ?_⟩
    · rw [List.forall_mem_append, List.forall_mem_cons]
      exact ⟨front, here.imp fun pair => And.imp_right other.names, back⟩
    · obtain ⟨known, among, named⟩ := link.pair pair member
      rcases List.mem_append.1 among with among | among
      · exact ⟨known, List.mem_append_left _ among, named⟩
      rcases List.mem_cons.1 among with rfl | among
      · exact ⟨text', List.mem_append_right _ List.mem_cons_self, other.names named⟩
      · exact ⟨known, List.mem_append_right _ (List.mem_cons_of_mem _ among), named⟩

/-- **Any number of changes** leave the pairs that a list names. -/
theorem link_of_rearranged {texts texts' : List String}
    (h : Relation.ReflTransGen Rearranged texts texts') {pairs : Set (Sym2 String)}
    (link : Link texts pairs) : Link texts' pairs := by
  induction h with
  | refl => exact link
  | tail _ change ih => exact change.link ih

/-- A text names one pair only. -/
theorem Names.unique {text : String} {pair pair' : Sym2 String} (h : Names text pair)
    (h' : Names text pair') : pair = pair' := by
  obtain ⟨left, right, parsed, rfl⟩ := h
  obtain ⟨left', right', parsed', rfl⟩ := h'
  rw [parsed] at parsed'
  cases parsed'
  rfl

/-- The pairs that a list names are known from the list. -/
theorem Link.unique {texts : List String} {pairs pairs' : Set (Sym2 String)} (h : Link texts pairs)
    (h' : Link texts pairs') : pairs = pairs' := by
  have half : ∀ {pairs pairs' : Set (Sym2 String)}, Link texts pairs → Link texts pairs' →
      pairs ⊆ pairs' := by
    intro pairs pairs' h h' pair member
    obtain ⟨text, among, named⟩ := h.pair pair member
    obtain ⟨pair', member', named'⟩ := h'.text text among
    rwa [named.unique named']
  exact (half h h').antisymm (half h' h)

/-- A list whose first text names an edge names its pair as well. -/
theorem Link.cons {text : String} {texts : List String} {edge : String × String}
    {edges : List (String × String)} (parsed : parse text = .ok edge)
    (link : Link texts {pair | pair ∈ GraphSpec.linksOf edges}) :
    Link (text :: texts) {pair | pair ∈ GraphSpec.linksOf (edge :: edges)} where
  text := by
    refine List.forall_mem_cons.2 ⟨⟨_, List.mem_cons_self, _, _, parsed, rfl⟩, ?_⟩
    exact fun other among => (link.text other among).imp fun pair =>
      And.imp_left (List.mem_cons_of_mem _)
  pair := by
    refine List.forall_mem_cons.2 ⟨⟨text, List.mem_cons_self, _, _, parsed, rfl⟩, ?_⟩
    exact fun pair member => (link.pair pair member).imp fun other =>
      And.imp_left (List.mem_cons_of_mem _)

/-- Texts that have been parsed name the pairs of their edges. -/
theorem link_of_mapM {texts : List String} {edges : List (String × String)}
    (parsed : texts.mapM parse = .ok edges) :
    Link texts {pair | pair ∈ GraphSpec.linksOf edges} := by
  induction texts generalizing edges with
  | nil =>
    cases parsed
    exact ⟨by simp, by simp [GraphSpec.linksOf]⟩
  | cons text texts ih =>
    rw [List.mapM_cons] at parsed
    cases first : parse text with
    | error e =>
      rw [first] at parsed
      cases parsed
    | ok edge =>
      cases others : texts.mapM parse with
      | error e =>
        rw [first, others] at parsed
        cases parsed
      | ok rest =>
        rw [first, others] at parsed
        cases parsed
        exact (ih others).cons first

/-- Texts that name pairs can be parsed. -/
theorem exists_mapM_of_link {texts : List String} {pairs : Set (Sym2 String)}
    (link : Link texts pairs) :
    ∃ edges, texts.mapM parse = .ok edges ∧
      ∀ pair, pair ∈ GraphSpec.linksOf edges ↔ pair ∈ pairs := by
  obtain ⟨edges, parsed⟩ : ∃ edges, texts.mapM parse = .ok edges := by
    have each := link.text
    clear link
    induction texts with
    | nil => exact ⟨[], rfl⟩
    | cons text texts ih =>
      obtain ⟨⟨-, -, left, right, first, -⟩, others⟩ := List.forall_mem_cons.1 each
      obtain ⟨edges, parsed⟩ := ih others
      refine ⟨(left, right) :: edges, ?_⟩
      rw [List.mapM_cons, first, parsed]
      rfl
  exact ⟨edges, parsed, Set.ext_iff.1 ((link_of_mapM parsed).unique link)⟩

/-- **Rearranged texts** can be parsed as well, and their edges have the same links. -/
theorem exists_mapM_of_rearranged {texts texts' : List String}
    (h : Relation.ReflTransGen Rearranged texts texts') {edges : List (String × String)}
    (parsed : texts.mapM parse = .ok edges) :
    ∃ edges', texts'.mapM parse = .ok edges' ∧
      ∀ pair, pair ∈ GraphSpec.linksOf edges' ↔ pair ∈ GraphSpec.linksOf edges :=
  exists_mapM_of_link (link_of_rearranged h (link_of_mapM parsed))

end EdgeText

end JoinOrder
