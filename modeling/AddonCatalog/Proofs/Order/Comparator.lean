import AddonCatalog.Proofs.Order.InsertionSort
import Mathlib.Data.List.Sort

/-!
# Sorting by a three-way comparator

A comparator answers a negative number, zero or a positive number for two elements. The sort
of `AddonCatalog.Order` asks it one question only, whether an element is less than another:
whether the answer is negative (`lessOf`). Whatever the comparator answers, even when its
answers contradict one another, the sort permutes its input. When the comparator is a total
preorder, the sort is *the* stable sort:

* `TotalPreorder`: swapping the arguments negates the answer, and "not after" is transitive;
  "less than" is then a strict weak order on every list (`TotalPreorder.strictWeakOn`), and the
  elements that tie with one element are ties of one another (`TotalPreorder.tiesOn`);
* `eq_of_perm_of_ties`: two arrangements of the same elements that are both sorted and both keep
  every class of ties in one order are equal;
* `List.insertionSort`, inserting each element before the first later one it is not after, is
  such an arrangement (`insertionSort_ties_stable`);
* `insertionSort_comparator`: the sort is a permutation for every comparator, and for a total
  preorder it is sorted, keeps ties in their order, and equals `List.insertionSort`.
-/

namespace AddonCatalog.Order

open scoped List

variable {α : Type}

/-- "Less than" read off a three-way comparator: a negative answer. -/
def lessOf (cmp : α → α → ℤ) (a b : α) : Bool := decide (cmp a b < 0)

/-- A three-way comparator that is a total preorder: swapping the arguments negates the
answer, and "not after" (an answer of at most zero) is transitive. -/
structure TotalPreorder (cmp : α → α → ℤ) : Prop where
  swap : ∀ a b, cmp a b = -cmp b a
  trans : ∀ a b c, cmp a b ≤ 0 → cmp b c ≤ 0 → cmp a c ≤ 0

/-- The elements that tie with `a`. -/
def tiesWith (cmp : α → α → ℤ) (a : α) (z : α) : Bool := decide (cmp a z = 0)

section TotalPreorder

variable {cmp : α → α → ℤ} (h : TotalPreorder cmp)
include h

theorem TotalPreorder.self (a : α) : cmp a a = 0 := by
  have := h.swap a a
  omega

theorem TotalPreorder.le_or_le (a b : α) : cmp a b ≤ 0 ∨ cmp b a ≤ 0 := by
  have := h.swap a b
  omega

/-- Two elements that tie with a third tie with each other. -/
theorem TotalPreorder.tie_of_ties {a y z : α} (hy : cmp a y = 0) (hz : cmp a z = 0) :
    cmp y z = 0 := by
  have hyz := h.trans y a z (by rw [h.swap, hy]; simp) (le_of_eq hz)
  have hzy := h.trans z a y (by rw [h.swap, hz]; simp) (le_of_eq hy)
  have := h.swap y z
  omega

/-- "Less than" of a total preorder is a strict weak order on every list. -/
theorem TotalPreorder.strictWeakOn (l : List α) :
    StrictWeakOn (lessOf cmp) l fun _ => True where
  asymm a _ b _ _ _ hab := by
    have := h.swap b a
    simp only [lessOf, decide_eq_true_eq, decide_eq_false_iff_not] at hab ⊢
    omega
  negTrans a _ b _ c _ _ _ _ hab hbc := by
    simp only [lessOf, decide_eq_false_iff_not, not_lt] at hab hbc ⊢
    -- read backwards, `c` is not after `b` and `b` not after `a`
    have hca := h.trans c b a (by rw [h.swap]; omega) (by rw [h.swap]; omega)
    rw [h.swap]
    omega

/-- The elements that tie with one element are ties of one another. -/
theorem TotalPreorder.tiesOn (l : List α) (a : α) :
    TiesOn (lessOf cmp) l (fun _ => True) (tiesWith cmp a) where
  mem_class _ _ _ := trivial
  not_before y _ z _ hy hz := by
    simp only [tiesWith, decide_eq_true_eq] at hy hz
    simp [lessOf, h.tie_of_ties hy hz]

/-- The ties of one element are sorted in any order. -/
theorem TotalPreorder.pairwise_ties (l : List α) (a : α) :
    (l.filter (tiesWith cmp a)).Pairwise fun y z => cmp y z ≤ 0 :=
  List.pairwise_of_forall_mem_list fun y hy z hz => by
    simp only [List.mem_filter, tiesWith, decide_eq_true_eq] at hy hz
    exact le_of_eq (h.tie_of_ties hy.2 hz.2)

/-- **Sorted stable arrangements are unique.** Two arrangements of the same elements, both
sorted by a total preorder and both keeping every class of ties in one order, are equal. -/
theorem eq_of_perm_of_ties {l₁ l₂ : List α} (hp : l₁ ~ l₂)
    (h₁ : l₁.Pairwise fun a b => cmp a b ≤ 0) (h₂ : l₂.Pairwise fun a b => cmp a b ≤ 0)
    (ht : ∀ a, l₁.filter (tiesWith cmp a) = l₂.filter (tiesWith cmp a)) : l₁ = l₂ := by
  induction l₁ generalizing l₂ with
  | nil => exact hp.symm.eq_nil.symm
  | cons x t ih =>
    obtain ⟨y, u, rfl⟩ : ∃ y u, l₂ = y :: u := by
      cases l₂ with
      | nil => exact absurd hp.eq_nil (List.cons_ne_nil x t)
      | cons y u => exact ⟨y, u, rfl⟩
    -- each head is not after the other, so the two heads tie
    have hxy : cmp x y ≤ 0 := by
      rcases List.mem_cons.mp (hp.symm.subset (List.mem_cons_self ..)) with hyx | hyt
      · rw [hyx, h.self]
      · exact List.rel_of_pairwise_cons h₁ hyt
    have hyx : cmp y x ≤ 0 := by
      rcases List.mem_cons.mp (hp.subset (List.mem_cons_self ..)) with hxy' | hxu
      · rw [hxy', h.self]
      · exact List.rel_of_pairwise_cons h₂ hxu
    have htie : tiesWith cmp x y = true := by
      have := h.swap x y
      simp only [tiesWith, decide_eq_true_eq]
      omega
    -- the tie class of `x` starts with `x` on one side and with `y` on the other
    have hhead := ht x
    rw [List.filter_cons_of_pos (by simp [tiesWith, h.self]), List.filter_cons_of_pos htie] at hhead
    obtain rfl := (List.cons.inj hhead).1
    refine congrArg (x :: ·) (ih hp.cons_inv h₁.tail h₂.tail fun a => ?_)
    have hta := ht a
    by_cases hxa : tiesWith cmp a x = true
    · rw [List.filter_cons_of_pos hxa, List.filter_cons_of_pos hxa] at hta
      exact List.cons.inj hta |>.2
    · rwa [List.filter_cons_of_neg hxa, List.filter_cons_of_neg hxa] at hta

/-- The insertion sort of lists keeps every class of ties in the order of its input: the ties
are sorted among themselves, so they stay a sublist, and a sublist as long as the class is the
whole class. -/
theorem insertionSort_ties_stable (l : List α) (a : α) :
    (l.insertionSort fun y z => cmp y z ≤ 0).filter (tiesWith cmp a) = l.filter (tiesWith cmp a) := by
  have hsub : l.filter (tiesWith cmp a) <+ (l.insertionSort fun y z => cmp y z ≤ 0) :=
    List.sublist_insertionSort (h.pairwise_ties l a) (List.filter_sublist)
  have hsub' := hsub.filter (tiesWith cmp a)
  rw [List.filter_filter, List.filter_congr (fun z _ => Bool.and_self _)] at hsub'
  have hlen := ((List.perm_insertionSort (fun y z => cmp y z ≤ 0) l).filter (tiesWith cmp a)).length_eq
  exact (hsub'.eq_of_length hlen.symm).symm

theorem insertionSort_pairwise_of_totalPreorder (l : List α) :
    (l.insertionSort fun y z => cmp y z ≤ 0).Pairwise fun y z => cmp y z ≤ 0 :=
  have : Std.Total fun y z => cmp y z ≤ 0 := ⟨h.le_or_le⟩
  have : IsTrans α fun y z => cmp y z ≤ 0 := ⟨h.trans⟩
  List.pairwise_insertionSort _ l

/-- The sort by a total preorder is sorted: no element is after a later one. -/
theorem insertionSort_sorted_of_totalPreorder (l : List α) :
    (insertionSort (lessOf cmp) l).Pairwise fun y z => cmp y z ≤ 0 :=
  (insertionSort_arranged (fun _ _ _ _ _ hb => absurd trivial hb) (h.strictWeakOn l)).imp
    fun {y z} hyz => by
      have hzy := hyz.2 trivial trivial
      have := h.swap y z
      simp only [lessOf, decide_eq_false_iff_not, not_lt] at hzy
      omega

/-- The sort by a total preorder keeps every class of ties in the order of its input. -/
theorem insertionSort_ties (l : List α) (a : α) :
    (insertionSort (lessOf cmp) l).filter (tiesWith cmp a) = l.filter (tiesWith cmp a) :=
  insertionSort_filter (fun _ _ _ _ _ hb => absurd trivial hb) (h.strictWeakOn l) (h.tiesOn l a)

end TotalPreorder

/-- **The sort by a comparator.** Whatever a comparator answers, sorting by it permutes the
list. When it is a total preorder, the result is sorted, every class of ties keeps the order
of the list, and the result is the insertion sort of lists under "not after". -/
theorem insertionSort_comparator (cmp : α → α → ℤ) (xs : List α) :
    insertionSort (lessOf cmp) xs ~ xs ∧
      (TotalPreorder cmp →
        (insertionSort (lessOf cmp) xs).Pairwise (fun a b => cmp a b ≤ 0) ∧
        (∀ a, (insertionSort (lessOf cmp) xs).filter (tiesWith cmp a) = xs.filter (tiesWith cmp a)) ∧
        insertionSort (lessOf cmp) xs = xs.insertionSort fun a b => cmp a b ≤ 0) := by
  refine ⟨insertionSort_perm xs, fun h => ⟨insertionSort_sorted_of_totalPreorder h xs,
    insertionSort_ties h xs, ?_⟩⟩
  -- both sorts are sorted, stable arrangements of `xs`, and there is only one
  refine eq_of_perm_of_ties h ((insertionSort_perm xs).trans (List.perm_insertionSort _ xs).symm)
    (insertionSort_sorted_of_totalPreorder h xs) (insertionSort_pairwise_of_totalPreorder h xs)
    fun a => ?_
  rw [insertionSort_ties h, insertionSort_ties_stable h]

/-- Entries compared by their first component, the second telling ties apart. -/
def byFirst (a b : ℕ × ℕ) : ℤ := (a.1 : ℤ) - b.1

theorem totalPreorder_byFirst : TotalPreorder byFirst where
  swap a b := by simp only [byFirst]; omega
  trans a b c hab hbc := by simp only [byFirst] at hab hbc ⊢; omega

/-- Four entries in two classes of ties, each class out of order with the other: the sort by
the first component puts the class of `1` first, each class in the order of the list. -/
theorem insertionSort_byFirst_stable :
    TotalPreorder byFirst ∧
      ((insertionSort (lessOf byFirst) [(2, 0), (1, 0), (2, 1), (1, 1)]).Pairwise
          (fun a b => byFirst a b ≤ 0) ∧
        (∀ a, (insertionSort (lessOf byFirst) [(2, 0), (1, 0), (2, 1), (1, 1)]).filter
            (tiesWith byFirst a) = [(2, 0), (1, 0), (2, 1), (1, 1)].filter (tiesWith byFirst a)) ∧
        insertionSort (lessOf byFirst) [(2, 0), (1, 0), (2, 1), (1, 1)] =
          [(2, 0), (1, 0), (2, 1), (1, 1)].insertionSort fun a b => byFirst a b ≤ 0) :=
  ⟨totalPreorder_byFirst,
    (insertionSort_comparator byFirst [(2, 0), (1, 0), (2, 1), (1, 1)]).2 totalPreorder_byFirst⟩

example : insertionSort (lessOf byFirst) [(2, 0), (1, 0), (2, 1), (1, 1)] =
    [(1, 0), (1, 1), (2, 0), (2, 1)] := by decide +kernel

end AddonCatalog.Order
