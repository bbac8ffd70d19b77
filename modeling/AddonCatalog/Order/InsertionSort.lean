/-!
# Sorting small lists by binary insertion

The sort that ranks the entries of a small group. It is stable, and it asks the order
only the questions below, so its result is fixed even for an order that is not
transitive (where "less than" is one-sided, any two elements that neither precede the
other count as equal):

1. The leading run is the longest prefix in which no element is less than the one
   before it, or, when the second element is less than the first, the longest prefix in
   which every element is less than the one before it; such a descending run is
   reversed.
2. The remaining elements are inserted one by one into the sorted prefix, each at the
   rightmost place where it is not less than the element before it, found by halving:
   the element is compared with the middle of the remaining span, and the search goes
   left exactly when it is less than that middle element.

The order may be a computation that fails (`insertionSortM`): the sort then stops at
the first question whose answer fails, and fails with it.

* `leadingRun` splits off the leading run, already ascending;
* `insertAt` finds the place of an element, `insertionSort` sorts;
* each has a form over any monad, whose order answers in that monad.
-/

namespace AddonCatalog.Order

variable {α : Type} {m : Type → Type} [Monad m]

/-- The longest prefix whose elements are each less than the one before, after `prev`,
and the rest. -/
def descendingFromM (lt : α → α → m Bool) (prev : α) : List α → m (List α × List α)
  | [] => pure ([], [])
  | x :: xs => do
    if ← lt x prev then
      let (run, rest) ← descendingFromM lt x xs
      pure (x :: run, rest)
    else pure ([], x :: xs)

/-- The longest prefix whose elements are each not less than the one before, after
`prev`, and the rest. -/
def ascendingFromM (lt : α → α → m Bool) (prev : α) : List α → m (List α × List α)
  | [] => pure ([], [])
  | x :: xs => do
    if ← lt x prev then pure ([], x :: xs)
    else
      let (run, rest) ← ascendingFromM lt x xs
      pure (x :: run, rest)

/-- The leading run, in ascending order, and the rest of the list. -/
def leadingRunM (lt : α → α → m Bool) : List α → m (List α × List α)
  | [] => pure ([], [])
  | [a] => pure ([a], [])
  | a :: b :: rest => do
    if ← lt b a then
      let (run, rest') ← descendingFromM lt b rest
      pure ((a :: b :: run).reverse, rest')
    else
      let (run, rest') ← ascendingFromM lt b rest
      pure (a :: b :: run, rest')

/-- The place of `x` in the sorted `s`, searched between `lo` and `hi` by halving. -/
def insertAtM (lt : α → α → m Bool) (s : Array α) (x : α) (lo hi : Nat) : m Nat :=
  if _h : lo < hi then
    match s[(lo + hi) / 2]? with
    | some p => do
      if ← lt x p then insertAtM lt s x lo ((lo + hi) / 2)
      else insertAtM lt s x ((lo + hi) / 2 + 1) hi
    | none => pure lo
  else pure lo
termination_by hi - lo

/-- Inserts the elements of a list one by one into a sorted array. -/
def insertAllM (lt : α → α → m Bool) (s : Array α) : List α → m (Array α)
  | [] => pure s
  | x :: xs => do
    let i ← insertAtM lt s x 0 s.size
    insertAllM lt (s.insertIdxIfInBounds i x) xs

/-- Sorts a list: the leading run, then binary insertion of the rest. -/
def insertionSortM (lt : α → α → m Bool) (l : List α) : m (List α) := do
  let (run, rest) ← leadingRunM lt l
  pure (← insertAllM lt run.toArray rest).toList

/-- The leading run under an order that always answers. -/
def leadingRun (lt : α → α → Bool) (l : List α) : List α × List α :=
  Id.run (leadingRunM (fun a b => pure (lt a b)) l)

/-- The place of `x` in the sorted `s` under an order that always answers. -/
def insertAt (lt : α → α → Bool) (s : Array α) (x : α) (lo hi : Nat) : Nat :=
  Id.run (insertAtM (fun a b => pure (lt a b)) s x lo hi)

/-- Sorts a list under an order that always answers. -/
def insertionSort (lt : α → α → Bool) (l : List α) : List α :=
  Id.run (insertionSortM (fun a b => pure (lt a b)) l)

end AddonCatalog.Order
