/-
# Leaf Orders

A leaf order assigns the tables `0, …, n - 1` to the slots of a template, each table once.  The
orders are listed lexicographically: choosing the first table in ascending order, and for each
choice the orders of the tables that are left.

A search finds the same orders.  It keeps one order and changes it in place: each open slot is
filled with every table that the order does not have yet, one after another, and behind each table
the slots after it; then the table is taken back, and the next one follows.  Marks say which tables
the order has.
-/

namespace JoinOrder

/-! ## Lists of leaf orders -/

/-- The ways to pick `k` members of a pool one after another, each member once; the picks follow the
order of the pool. -/
def arrangements : Nat → List Nat → List (List Nat)
  | 0, _ => [[]]
  | k + 1, pool => pool.flatMap fun x => (arrangements k (pool.erase x)).map (x :: ·)

/-- The leaf orders of `n` tables; the empty order for no table. -/
def leafOrders (n : Nat) : List (List Nat) :=
  arrangements n (List.range n)

@[simp] theorem arrangements_zero (pool : List Nat) : arrangements 0 pool = [[]] := rfl

theorem arrangements_succ (k : Nat) (pool : List Nat) :
    arrangements (k + 1) pool =
      pool.flatMap fun x => (arrangements k (pool.erase x)).map (x :: ·) := rfl

/-- An arrangement has as many members as were picked. -/
theorem length_of_mem_arrangements {k : Nat} {pool xs : List Nat} (h : xs ∈ arrangements k pool) :
    xs.length = k := by
  induction k generalizing pool xs with
  | zero => simp_all
  | succ k ih =>
    obtain ⟨x, -, hx⟩ := List.mem_flatMap.1 h
    obtain ⟨rest, hrest, rfl⟩ := List.mem_map.1 hx
    simp [ih hrest]

/-! ## Searching in place -/

/-- How far a search for leaf orders is. -/
structure OrderSearch where
  /-- The order so far, from its first slot on. -/
  current : List Nat
  /-- The marks of the tables that the order has. -/
  used : List Bool
  /-- The orders that have been completed. -/
  found : List (List Nat)
  deriving DecidableEq, Repr

namespace OrderSearch

/-- No slot of `n` is filled. -/
def start (n : Nat) : OrderSearch := ⟨[], List.replicate n false, []⟩

/-- Whether a table is there and the order does not have it yet. -/
def lacks (search : OrderSearch) (table : Nat) : Bool := search.used[table]? = some false

/-- Fills the next slot with a table. -/
def choose (search : OrderSearch) (table : Nat) : OrderSearch :=
  { search with current := search.current ++ [table], used := search.used.set table true }

/-- Takes back the table of the last slot that is filled. -/
def takeBack (search : OrderSearch) (table : Nat) : OrderSearch :=
  { search with current := search.current.dropLast, used := search.used.set table false }

/-- Keeps the order as it is. -/
def complete (search : OrderSearch) : OrderSearch :=
  { search with found := search.found ++ [search.current] }

/-- Fills the next slot with a table that the order does not have, searches on from there, and takes
the table back. -/
def tryTable (searchOn : OrderSearch → OrderSearch) (search : OrderSearch) (table : Nat) :
    OrderSearch :=
  if search.lacks table then (searchOn (search.choose table)).takeBack table
  else search

/-- Fills so many open slots in every way. -/
def fill : Nat → OrderSearch → OrderSearch
  | 0, search => search.complete
  | slots + 1, search => (List.range search.used.length).foldl (tryTable (fill slots)) search

/-- Fills all open slots in every way. -/
def run (search : OrderSearch) : OrderSearch :=
  search.fill (search.used.length - search.current.length)

end OrderSearch

end JoinOrder
