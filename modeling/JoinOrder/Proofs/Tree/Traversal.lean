/-
# Walks in Post-Order

A walk with a visitor that keeps a state and may fail calls the visitor again and again.  To say
which calls those are, the visitor is taken along with a record: it makes the same visits in the
same states and puts down each of them behind the earlier ones.

Main statements: the visits of a walk go through the nodes in post-order, from state to state, up to
the first failure (`IsPostOrderRun`), which is what every walk does, recorded or not
(`walk_runs_in_postOrder`).  Which node of the tree a visit is about is said by its place
(`IsPostOrderRun.subtree?_eq`).
-/
import JoinOrder.Error
import JoinOrder.Tree.Way

namespace JoinOrder

/-! ## Recorded visits -/

/-- A call of a visitor. -/
inductive Call (α : Type) where
  | leaf (index : ℕ)
  | join (left right : JoinTree) (a b : α)

/-- The node that a call is about, with all below it. -/
def Call.node {α : Type} : Call α → JoinTree
  | leaf index => .leaf index
  | join left right _ _ => .join left right

/-- A call in a state, and what came of it. -/
structure Visit (ε σ α : Type) where
  /-- The call. -/
  call : Call α
  /-- The state in which the call was made. -/
  before : σ
  /-- What the call produced, or how it failed. -/
  result : Except ε α
  /-- The state that the call left, also if it failed. -/
  after : σ

variable {ε σ α : Type}

namespace Visitor

/-- Makes a call. -/
def visit {m : Type → Type} (visitor : Visitor m α) : Call α → m α
  | .leaf index => visitor.leaf index
  | .join left right a b => visitor.join left right a b

variable (visitor : Visitor (ExceptT ε (StateM σ)) α)

/-- The visit that a call makes in a state. -/
def made (call : Call α) (s : σ) : Visit ε σ α where
  call := call
  before := s
  result := ((visitor.visit call).run.run s).1
  after := ((visitor.visit call).run.run s).2

/-- Makes a call, and puts down the visit behind the earlier ones. -/
def record (call : Call α) : ExceptT ε (StateM (σ × List (Visit ε σ α))) α :=
  ExceptT.mk fun (s, visits) =>
    let visit := visitor.made call s
    (visit.result, visit.after, visits ++ [visit])

/-- The visitor that puts down its visits. -/
def recorded : Visitor (ExceptT ε (StateM (σ × List (Visit ε σ α)))) α where
  leaf index := visitor.record (.leaf index)
  join left right a b := visitor.record (.join left right a b)

/-- Visits lead from one state to another: each is the visit that its call makes in the state that
the one before it left. -/
def Leads : σ → List (Visit ε σ α) → σ → Prop
  | s, [], last => s = last
  | s, visit :: visits, last => visit = visitor.made visit.call s ∧ Leads visit.after visits last

/-- Visits in a row lead from state to state if the first of them lead to where the others start. -/
theorem Leads.append {visitor : Visitor (ExceptT ε (StateM σ)) α} {s mid last : σ}
    {visits more : List (Visit ε σ α)} (first : visitor.Leads s visits mid)
    (second : visitor.Leads mid more last) : visitor.Leads s (visits ++ more) last := by
  induction visits generalizing s with
  | nil =>
    cases first
    exact second
  | cons visit visits ih =>
    obtain ⟨isMade, rest⟩ := first
    exact ⟨isMade, ih rest⟩

/-- A single visit leads to the state that it leaves. -/
theorem leads_made (call : Call α) (s : σ) :
    visitor.Leads s [visitor.made call s] (visitor.made call s).after :=
  ⟨rfl, rfl⟩

end Visitor

namespace JoinTree

/-! ## The place of a visit -/

/-- A visit stands at the place that a way leads to: both are equally far from the start. -/
def VisitedAt (tree : JoinTree) (visits : List (Visit ε σ α)) (way : Way) (visit : Visit ε σ α) :
    Prop :=
  (way, visit) ∈ tree.ways.zip visits

/-- The place of a visit is its number among the visits, and that of the way among the ways. -/
theorem visitedAt_iff {tree : JoinTree} {visits : List (Visit ε σ α)} {way : Way}
    {visit : Visit ε σ α} :
    tree.VisitedAt visits way visit ↔
      ∃ i : ℕ, tree.ways[i]? = some way ∧ visits[i]? = some visit := by
  unfold VisitedAt
  rw [List.mem_iff_getElem?]
  simp only [List.getElem?_zip_eq_some]

/-- At a way there is one visit at most. -/
theorem VisitedAt.unique {tree : JoinTree} {visits : List (Visit ε σ α)} {way : Way}
    {visit other : Visit ε σ α} (first : tree.VisitedAt visits way visit)
    (second : tree.VisitedAt visits way other) : visit = other := by
  obtain ⟨i, wayAt, visitAt⟩ := visitedAt_iff.1 first
  obtain ⟨j, wayAt', otherAt⟩ := visitedAt_iff.1 second
  obtain ⟨inside, -⟩ := List.getElem?_eq_some_iff.1 wayAt
  have same : i = j := (List.getElem?_inj inside tree.nodup_ways).1 (wayAt.trans wayAt'.symm)
  rw [same, otherAt] at visitAt
  exact (Option.some.inj visitAt).symm

/-- What is behind the end of a shorter list is not paired with anything. -/
theorem zip_append_of_length_le {β γ : Type} {xs : List β} {ys : List γ}
    (short : ys.length ≤ xs.length) (more : List β) : (xs ++ more).zip ys = xs.zip ys := by
  induction xs generalizing ys with
  | nil =>
    rw [List.length_eq_zero_iff.1 (Nat.le_zero.1 short), List.zip_nil_right, List.zip_nil_right]
  | cons x xs ih =>
    cases ys with
    | nil => rfl
    | cons y ys =>
      rw [List.cons_append, List.zip_cons_cons, List.zip_cons_cons,
        ih (Nat.le_of_succ_le_succ short)]

variable {left right : JoinTree} {lefts rights : List (Visit ε σ α)} {way : Way}
  {visit : Visit ε σ α}

/-- Pairs with ways through one side are pairs of that side. -/
theorem mem_zip_map_cons {side : Side} {ways : List Way} {visits : List (Visit ε σ α)} :
    (way, visit) ∈ (ways.map (side :: ·)).zip visits ↔
      ∃ rest, way = side :: rest ∧ (rest, visit) ∈ ways.zip visits := by
  rw [List.zip_map_left, List.mem_map]
  constructor
  · rintro ⟨⟨rest, _⟩, mem, same⟩
    cases same
    exact ⟨rest, rfl, mem⟩
  · rintro ⟨rest, rfl, mem⟩
    exact ⟨(rest, visit), mem, rfl⟩

/-- As long as only the left side was visited, each visit stands at its place there. -/
theorem visitedAt_join_of_left (short : lefts.length ≤ left.ways.length) :
    (join left right).VisitedAt lefts way visit ↔
      ∃ rest, way = .left :: rest ∧ left.VisitedAt lefts rest visit := by
  unfold VisitedAt
  rw [ways_join, List.append_assoc, zip_append_of_length_le (by rwa [List.length_map])]
  exact mem_zip_map_cons

/-- Once the left side was visited as a whole, the further visits stand at their places on the right
side. -/
theorem visitedAt_join_of_right (all : lefts.length = left.ways.length)
    (short : rights.length ≤ right.ways.length) :
    (join left right).VisitedAt (lefts ++ rights) way visit ↔
      (∃ rest, way = .left :: rest ∧ left.VisitedAt lefts rest visit) ∨
        ∃ rest, way = .right :: rest ∧ right.VisitedAt rights rest visit := by
  unfold VisitedAt
  rw [ways_join, List.append_assoc, List.zip_append (by rw [List.length_map, all]),
    zip_append_of_length_le (by rwa [List.length_map]), List.mem_append]
  exact or_congr mem_zip_map_cons mem_zip_map_cons

/-- The visit behind those of both sides stands at the root. -/
theorem visitedAt_join_of_root (allLeft : lefts.length = left.ways.length)
    (allRight : rights.length = right.ways.length) (root : Visit ε σ α) :
    (join left right).VisitedAt (lefts ++ rights ++ [root]) way visit ↔
      ((∃ rest, way = .left :: rest ∧ left.VisitedAt lefts rest visit) ∨
        ∃ rest, way = .right :: rest ∧ right.VisitedAt rights rest visit) ∨
        way = [] ∧ visit = root := by
  unfold VisitedAt
  rw [ways_join, List.zip_append (by simp [allLeft, allRight]),
    List.zip_append (by rw [List.length_map, allLeft]), List.mem_append, List.mem_append]
  refine or_congr (or_congr mem_zip_map_cons mem_zip_map_cons) ?_
  simp

/-- A visit of a join gets what the visits of its own sides have produced. -/
def IsSupplied (tree : JoinTree) (visits : List (Visit ε σ α)) (way : Way) (visit : Visit ε σ α) :
    Prop :=
  ∀ left right a b, visit.call = .join left right a b →
    (∃ below, tree.VisitedAt visits (way ++ [.left]) below ∧ below.result = .ok a) ∧
      ∃ below, tree.VisitedAt visits (way ++ [.right]) below ∧ below.result = .ok b

/-- A visit inside of a side is supplied there, and so it is in the join. -/
theorem IsSupplied.inside {tree inner : JoinTree} {visits innerVisits : List (Visit ε σ α)}
    {side : Side} (supplied : inner.IsSupplied innerVisits way visit)
    (inside : ∀ way visit, inner.VisitedAt innerVisits way visit →
      tree.VisitedAt visits (side :: way) visit) :
    tree.IsSupplied visits (side :: way) visit := by
  intro left right a b isJoin
  obtain ⟨⟨l, atLeft, producedLeft⟩, r, atRight, producedRight⟩ := supplied left right a b isJoin
  exact ⟨⟨l, inside _ l atLeft, producedLeft⟩, r, inside _ r atRight, producedRight⟩

/-! ## Runs -/

/-- Visits go through a tree in post-order up to the first failure, from one state to another and
with the given result. -/
structure IsPostOrderRun (visitor : Visitor (ExceptT ε (StateM σ)) α) (tree : JoinTree) (s : σ)
    (result : Except ε α) (last : σ) (visits : List (Visit ε σ α)) : Prop where
  /-- The visited nodes are the first ones in post-order. -/
  in_order : visits.map (·.call.node) <+: tree.postOrder
  /-- The state goes through the visits, one after another. -/
  leads : visitor.Leads s visits last
  /-- All visits but the last succeed, and what the last one comes to is the result. -/
  up_to_failure : ∃ earlier final, visits = earlier ++ [final] ∧
    (∀ visit ∈ earlier, ∃ a, visit.result = .ok a) ∧ final.result = result ∧ final.after = last
  /-- If there is no failure, every node is visited. -/
  whole : ∀ a, result = .ok a → visits.map (·.call.node) = tree.postOrder
  /-- The visit of a join gets what the visits of its own sides have produced. -/
  supplied : ∀ way visit, tree.VisitedAt visits way visit → tree.IsSupplied visits way visit

namespace IsPostOrderRun

variable {visitor : Visitor (ExceptT ε (StateM σ)) α} {tree : JoinTree} {s mid last : σ}
  {result : Except ε α} {visits : List (Visit ε σ α)} {a b : α} {e : ε}

/-- There are at most as many visits as ways. -/
theorem length_le (run : IsPostOrderRun visitor tree s result last visits) :
    visits.length ≤ tree.ways.length := by
  have := run.in_order.length_le
  rwa [List.length_map, ← length_ways] at this

/-- Without a failure there are as many visits as ways. -/
theorem length_eq (run : IsPostOrderRun visitor tree s (.ok a) last visits) :
    visits.length = tree.ways.length := by
  have := congrArg List.length (run.whole a rfl)
  rwa [List.length_map, ← length_ways] at this

/-- Without a failure every visit succeeds. -/
theorem exists_ok (run : IsPostOrderRun visitor tree s (.ok a) last visits) :
    ∀ visit ∈ visits, ∃ b, visit.result = .ok b := by
  obtain ⟨earlier, final, rfl, succeed, isResult, -⟩ := run.up_to_failure
  intro visit mem
  rcases List.mem_append.1 mem with mem | mem
  · exact succeed visit mem
  · rw [List.mem_singleton.1 mem]
    exact ⟨a, isResult⟩

/-- Without a failure there is one visit at every way. -/
theorem existsUnique_visitedAt (run : IsPostOrderRun visitor tree s (.ok a) last visits) {way : Way}
    (inTree : (tree.subtree? way).isSome) : ∃! visit, tree.VisitedAt visits way visit := by
  obtain ⟨i, inside, isWay⟩ := List.getElem_of_mem ((tree.mem_ways_iff way).2 inTree)
  have insideVisits : i < visits.length := by
    rwa [run.length_eq]
  have visited : tree.VisitedAt visits way visits[i] :=
    visitedAt_iff.2 ⟨i, List.getElem?_eq_some_iff.2 ⟨inside, isWay⟩, List.getElem?_eq_getElem _⟩
  exact ⟨_, visited, fun other otherwise => otherwise.unique visited⟩

/-- Without a failure the visit of the root is the one with the result. -/
theorem exists_visitedAt_root (run : IsPostOrderRun visitor tree s (.ok a) last visits) :
    ∃ final, tree.VisitedAt visits [] final ∧ final.result = .ok a := by
  have same := run.length_eq
  obtain ⟨earlier, final, rfl, -, isResult, -⟩ := run.up_to_failure
  obtain ⟨inner, ends⟩ := tree.exists_ways_eq
  refine ⟨final, ?_, isResult⟩
  unfold VisitedAt
  rw [ends, List.length_append, List.length_append] at same
  rw [ends, List.zip_append (Nat.add_right_cancel same.symm), List.mem_append]
  exact Or.inr (List.mem_singleton.2 rfl)

/-- The way to the place of a visit leads to the node that was visited. -/
theorem subtree?_eq (run : IsPostOrderRun visitor tree s result last visits) {way : Way}
    {visit : Visit ε σ α} (visited : tree.VisitedAt visits way visit) :
    tree.subtree? way = some visit.call.node := by
  obtain ⟨i, wayAt, visitAt⟩ := visitedAt_iff.1 visited
  have mapped : (visits.map (·.call.node))[i]? = some visit.call.node := by
    rw [List.getElem?_map, visitAt]
    rfl
  obtain ⟨inside, isNode⟩ := List.getElem?_eq_some_iff.1 mapped
  have nodeAt := List.prefix_iff_getElem?.1 run.in_order i inside
  rw [isNode] at nodeAt
  have subtreeAt := congrArg (·[i]?) tree.map_subtree?_ways
  simp only [List.getElem?_map, wayAt, nodeAt, Option.map_some] at subtreeAt
  exact Option.some.inj subtreeAt

/-- A leaf is visited by one call. -/
theorem of_leaf (visitor : Visitor (ExceptT ε (StateM σ)) α) (index : ℕ) (s : σ) :
    IsPostOrderRun visitor (leaf index) s (visitor.made (.leaf index) s).result
      (visitor.made (.leaf index) s).after [visitor.made (.leaf index) s] where
  in_order := List.prefix_refl _
  leads := visitor.leads_made (.leaf index) s
  up_to_failure := ⟨[], _, rfl, by simp, rfl, rfl⟩
  whole _ _ := rfl
  supplied way visit visited left right a b isJoin := by
    have : visit = visitor.made (.leaf index) s := (Prod.mk.inj (List.mem_singleton.1 visited)).2
    rw [this] at isJoin
    cases isJoin

/-- A failure on the left side of a join ends the run. -/
theorem join_of_left_error (runLeft : IsPostOrderRun visitor left s (.error e) last lefts)
    (right : JoinTree) :
    IsPostOrderRun visitor (join left right) s (.error e) last lefts where
  in_order := by
    rw [postOrder_join, List.append_assoc]
    exact runLeft.in_order.trans (List.prefix_append _ _)
  leads := runLeft.leads
  up_to_failure := runLeft.up_to_failure
  whole _ failed := by cases failed
  supplied way visit visited := by
    obtain ⟨rest, rfl, inner⟩ := (visitedAt_join_of_left runLeft.length_le).1 visited
    refine (runLeft.supplied rest visit inner).inside fun way visit inner => ?_
    exact (visitedAt_join_of_left runLeft.length_le).2 ⟨way, rfl, inner⟩

/-- A failure on the right side of a join ends the run that went through the left side before. -/
theorem join_of_right_error (runLeft : IsPostOrderRun visitor left s (.ok a) mid lefts)
    (runRight : IsPostOrderRun visitor right mid (.error e) last rights) :
    IsPostOrderRun visitor (join left right) s (.error e) last (lefts ++ rights) where
  in_order := by
    rw [postOrder_join, List.map_append, runLeft.whole a rfl, List.append_assoc,
      List.prefix_append_right_inj]
    exact runRight.in_order.trans (List.prefix_append _ _)
  leads := runLeft.leads.append runRight.leads
  up_to_failure := by
    obtain ⟨earlier, final, rfl, succeed, isResult, isLast⟩ := runRight.up_to_failure
    refine ⟨lefts ++ earlier, final, (List.append_assoc _ _ _).symm, ?_, isResult, isLast⟩
    intro visit mem
    rcases List.mem_append.1 mem with mem | mem
    · exact runLeft.exists_ok visit mem
    · exact succeed visit mem
  whole _ failed := by cases failed
  supplied way visit visited := by
    have places : ∀ way visit, (join left right).VisitedAt (lefts ++ rights) way visit ↔ _ :=
      fun _ _ => visitedAt_join_of_right runLeft.length_eq runRight.length_le
    rcases (places way visit).1 visited with ⟨rest, rfl, inner⟩ | ⟨rest, rfl, inner⟩
    · refine (runLeft.supplied rest visit inner).inside fun way visit inner => ?_
      exact (places _ visit).2 (Or.inl ⟨way, rfl, inner⟩)
    · refine (runRight.supplied rest visit inner).inside fun way visit inner => ?_
      exact (places _ visit).2 (Or.inr ⟨way, rfl, inner⟩)

/-- After both sides of a join the join itself is visited, with what the sides have come to. -/
theorem join_of_ok (runLeft : IsPostOrderRun visitor left s (.ok a) mid lefts)
    (runRight : IsPostOrderRun visitor right mid (.ok b) last rights) :
    IsPostOrderRun visitor (join left right) s (visitor.made (.join left right a b) last).result
      (visitor.made (.join left right a b) last).after
      (lefts ++ rights ++ [visitor.made (.join left right a b) last]) := by
  have nodes : (lefts ++ rights ++ [visitor.made (.join left right a b) last]).map (·.call.node) =
      (join left right).postOrder := by
    rw [List.map_append, List.map_append, runLeft.whole a rfl, runRight.whole b rfl]
    rfl
  have places : ∀ way visit, (join left right).VisitedAt _ way visit ↔ _ := fun _ _ =>
    visitedAt_join_of_root runLeft.length_eq runRight.length_eq
      (visitor.made (.join left right a b) last)
  have inLeft : ∀ way visit, left.VisitedAt lefts way visit → (join left right).VisitedAt _ _ _ :=
    fun way visit inner => (places (.left :: way) visit).2 (Or.inl (Or.inl ⟨way, rfl, inner⟩))
  have inRight : ∀ way visit, right.VisitedAt rights way visit →
      (join left right).VisitedAt _ _ _ :=
    fun way visit inner => (places (.right :: way) visit).2 (Or.inl (Or.inr ⟨way, rfl, inner⟩))
  refine ⟨nodes ▸ List.prefix_refl _,
    (runLeft.leads.append runRight.leads).append (visitor.leads_made _ last),
    ⟨lefts ++ rights, _, rfl, ?_, rfl, rfl⟩, fun _ _ => nodes, ?_⟩
  · intro visit mem
    rcases List.mem_append.1 mem with mem | mem
    · exact runLeft.exists_ok visit mem
    · exact runRight.exists_ok visit mem
  · intro way visit visited
    rcases (places way visit).1 visited with (⟨rest, rfl, inner⟩ | ⟨rest, rfl, inner⟩) | ⟨rfl, rfl⟩
    · exact (runLeft.supplied rest visit inner).inside inLeft
    · exact (runRight.supplied rest visit inner).inside inRight
    · -- The roots of the sides are visited last on their sides, and so they have what the sides
      -- come to.
      obtain ⟨l, atLeft, producedLeft⟩ := runLeft.exists_visitedAt_root
      obtain ⟨r, atRight, producedRight⟩ := runRight.exists_visitedAt_root
      intro left' right' a' b' isJoin
      cases isJoin
      exact ⟨⟨l, inLeft [] l atLeft, producedLeft⟩, r, inRight [] r atRight, producedRight⟩

end IsPostOrderRun

/-- A walk, recorded behind earlier visits, makes the visits of a run in post-order and comes to the
same as without a record. -/
theorem exists_run (visitor : Visitor (ExceptT ε (StateM σ)) α) (tree : JoinTree) (s : σ)
    (earlier : List (Visit ε σ α)) :
    ∃ result last visits, IsPostOrderRun visitor tree s result last visits ∧
      (tree.walk visitor).run.run s = (result, last) ∧
      (tree.walk visitor.recorded).run.run (s, earlier) = (result, last, earlier ++ visits) := by
  induction tree generalizing s earlier with
  | leaf index => exact ⟨_, _, _, .of_leaf visitor index s, rfl, rfl⟩
  | join left right ihl ihr =>
    obtain ⟨resultLeft, mid, lefts, runLeft, plainLeft, recordedLeft⟩ := ihl s earlier
    rw [walk_join, walk_join]
    cases resultLeft with
    | error e =>
      exact ⟨.error e, mid, lefts, runLeft.join_of_left_error right, run_bind_of_error plainLeft _,
        run_bind_of_error recordedLeft _⟩
    | ok a =>
      obtain ⟨resultRight, last, rights, runRight, plainRight, recordedRight⟩ :=
        ihr mid (earlier ++ lefts)
      rw [run_bind_of_ok plainLeft, run_bind_of_ok recordedLeft]
      cases resultRight with
      | error e =>
        refine ⟨.error e, last, lefts ++ rights, runLeft.join_of_right_error runRight,
          run_bind_of_error plainRight _, ?_⟩
        rw [run_bind_of_error recordedRight, List.append_assoc]
      | ok b =>
        refine ⟨_, _, _, runLeft.join_of_ok runRight, ?_, ?_⟩
        · rw [run_bind_of_ok plainRight]
          rfl
        · rw [run_bind_of_ok recordedRight, ← List.append_assoc, ← List.append_assoc]
          rfl

/-- **A walk is a fallible fold in post-order.**  The ways of a tree name its nodes, each once.
Whatever the visitor does, a walk makes visits that go through the nodes in post-order up to the
first failure, and comes to what the last visit comes to.  If none of them fails, every node is
visited once, and the visit of the root has the result. -/
theorem walk_runs_in_postOrder {ε σ α : Type} (visitor : Visitor (ExceptT ε (StateM σ)) α)
    (tree : JoinTree) (s : σ) :
    (tree.ways.Nodup ∧ ∀ way, way ∈ tree.ways ↔ (tree.subtree? way).isSome) ∧
    ∃ result last visits,
      (tree.walk visitor).run.run s = (result, last) ∧
      (tree.walk visitor.recorded).run.run (s, []) = (result, last, visits) ∧
      IsPostOrderRun visitor tree s result last visits ∧
      (∀ way visit, tree.VisitedAt visits way visit →
        tree.subtree? way = some visit.call.node) ∧
      ∀ a, result = .ok a →
        (∀ way, (tree.subtree? way).isSome → ∃! visit, tree.VisitedAt visits way visit) ∧
          ∃ root, tree.VisitedAt visits [] root ∧ root.result = .ok a := by
  obtain ⟨result, last, visits, run, plain, recorded⟩ := exists_run visitor tree s []
  refine ⟨⟨tree.nodup_ways, tree.mem_ways_iff⟩, result, last, visits, plain, recorded, run, ?_, ?_⟩
  · intro way visit visited
    exact run.subtree?_eq visited
  · rintro a rfl
    exact ⟨fun way inTree => run.existsUnique_visitedAt inTree, run.exists_visitedAt_root⟩

/-- A visitor that counts its visits and refuses every join makes three of the five visits here. -/
example :
    let refusing : Visitor (ExceptT Unit (StateM ℕ)) Unit :=
      { leaf := fun _ => modify (· + 1)
        join := fun _ _ _ _ => do modify (· + 1); throw () }
    let tree := join (join (leaf 0) (leaf 1)) (leaf 2)
    let (count, visits) := ((tree.walk refusing.recorded).run.run (0, [])).2
    count = 3 ∧ visits.map (·.call.node) = [leaf 0, leaf 1, join (leaf 0) (leaf 1)] := by
  decide

end JoinTree

end JoinOrder
