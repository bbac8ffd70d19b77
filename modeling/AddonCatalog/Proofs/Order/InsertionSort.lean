import AddonCatalog.Order.InsertionSort
import Mathlib.Data.List.Chain
import Mathlib.Data.List.InsertIdx
import Mathlib.Data.List.Perm.Basic
import Mathlib.Data.Nat.Notation

/-!
# What binary insertion sort guarantees

The sort of `AddonCatalog.Order` asks a Boolean order a fixed set of questions. Nothing is
assumed of the order for the first two facts below; the last two assume only what the order
does on the list being sorted.

* `insertionSortM_ok`: a sort under an order that may fail, when it succeeds, is the sort
  under any order that agrees with it wherever it answers;
* `insertionSortM_eq_ok`: an order that may fail but answers every question about the
  elements of the list never makes the sort fail;
* `insertionSort_perm`: the sort permutes its input;
* `insertionSort_partitioned`: an order that puts a class of elements first leaves that
  class in front;
* `insertionSort_arranged`, `insertionSort_head`: if the order is moreover a strict weak
  order on the class, the class comes out sorted, and the first element is one of the class
  that no other element of the class is before;
* `insertionSort_filter`: the sort is then stable on the class: elements of the class that
  are not before one another keep their order. A strictly descending leading run, which the
  sort reverses, holds at most one of them.

The proofs follow the sort's phases: the leading run, one binary search, one insertion,
all insertions.
-/

namespace AddonCatalog.Order

open scoped List

variable {α : Type}

/-- The descending run after `prev` under an order that always answers. -/
def descendingFrom (lt : α → α → Bool) (prev : α) (l : List α) : List α × List α :=
  Id.run (descendingFromM (fun a b => pure (lt a b)) prev l)

/-- The ascending run after `prev` under an order that always answers. -/
def ascendingFrom (lt : α → α → Bool) (prev : α) (l : List α) : List α × List α :=
  Id.run (ascendingFromM (fun a b => pure (lt a b)) prev l)

/-- All insertions under an order that always answers. -/
def insertAll (lt : α → α → Bool) (s : Array α) (l : List α) : Array α :=
  Id.run (insertAllM (fun a b => pure (lt a b)) s l)

/-! ### Unfolding the sort under an order that always answers -/

section Equations

variable (lt : α → α → Bool)

@[simp] theorem descendingFrom_nil (prev : α) : descendingFrom lt prev [] = ([], []) := rfl

theorem descendingFrom_cons (prev x : α) (xs : List α) :
    descendingFrom lt prev (x :: xs) =
      if lt x prev then (x :: (descendingFrom lt x xs).1, (descendingFrom lt x xs).2)
      else ([], x :: xs) := by
  simp only [descendingFrom, descendingFromM]
  cases lt x prev <;> rfl

@[simp] theorem ascendingFrom_nil (prev : α) : ascendingFrom lt prev [] = ([], []) := rfl

theorem ascendingFrom_cons (prev x : α) (xs : List α) :
    ascendingFrom lt prev (x :: xs) =
      if lt x prev then ([], x :: xs)
      else (x :: (ascendingFrom lt x xs).1, (ascendingFrom lt x xs).2) := by
  simp only [ascendingFrom, ascendingFromM]
  cases lt x prev <;> rfl

@[simp] theorem leadingRun_nil : leadingRun lt ([] : List α) = ([], []) := rfl

@[simp] theorem leadingRun_single (a : α) : leadingRun lt [a] = ([a], []) := rfl

theorem leadingRun_cons_cons (a b : α) (rest : List α) :
    leadingRun lt (a :: b :: rest) =
      if lt b a then ((a :: b :: (descendingFrom lt b rest).1).reverse, (descendingFrom lt b rest).2)
      else (a :: b :: (ascendingFrom lt b rest).1, (ascendingFrom lt b rest).2) := by
  simp only [leadingRun, leadingRunM, descendingFrom, ascendingFrom]
  cases lt b a <;> rfl

variable {lt} {s : Array α} {x : α} {lo hi : ℕ}

theorem insertAt_of_not_lt (h : ¬ lo < hi) : insertAt lt s x lo hi = lo := by
  simp only [insertAt]
  rw [insertAtM, dif_neg h]
  rfl

theorem insertAt_of_none (h : lo < hi) (hp : s[(lo + hi) / 2]? = none) :
    insertAt lt s x lo hi = lo := by
  simp only [insertAt]
  rw [insertAtM]
  simp only [h, hp]
  rfl

theorem insertAt_of_some {p : α} (h : lo < hi) (hp : s[(lo + hi) / 2]? = some p) :
    insertAt lt s x lo hi =
      if lt x p then insertAt lt s x lo ((lo + hi) / 2) else insertAt lt s x ((lo + hi) / 2 + 1) hi := by
  simp only [insertAt]
  rw [insertAtM]
  simp only [h, hp]
  cases lt x p <;> rfl

@[simp] theorem insertAll_nil (s : Array α) : insertAll lt s [] = s := rfl

theorem insertAll_cons (s : Array α) (x : α) (xs : List α) :
    insertAll lt s (x :: xs) = insertAll lt (s.insertIdxIfInBounds (insertAt lt s x 0 s.size) x) xs := rfl

theorem insertionSort_eq (l : List α) :
    insertionSort lt l = (insertAll lt (leadingRun lt l).1.toArray (leadingRun lt l).2).toList := rfl

end Equations

/-! ### Orders that may fail -/

theorem except_bind_eq_ok {ε β γ : Type} {x : Except ε β} {f : β → Except ε γ} {c : γ} :
    x >>= f = .ok c ↔ ∃ b, x = .ok b ∧ f b = .ok c := by
  cases x <;> simp [bind, Except.bind]

section Failing

variable {ε : Type} {lt : α → α → Except ε Bool} {rel : α → α → Bool}

/-- The order `rel` gives every answer that `lt` gives. -/
def Agrees (lt : α → α → Except ε Bool) (rel : α → α → Bool) : Prop :=
  ∀ a b c, lt a b = .ok c → c = rel a b

variable (h : Agrees lt rel)
include h

theorem descendingFromM_ok {prev : α} {l : List α} {p : List α × List α}
    (hp : descendingFromM lt prev l = .ok p) : p = descendingFrom rel prev l := by
  induction l generalizing prev p with
  | nil => exact (Except.ok.inj hp).symm
  | cons x xs ih =>
    rw [descendingFromM] at hp
    obtain ⟨c, hc, hp⟩ := except_bind_eq_ok.mp hp
    rw [descendingFrom_cons, ← h _ _ _ hc]
    cases c
    · exact (Except.ok.inj hp).symm
    · obtain ⟨q, hq, hp⟩ := except_bind_eq_ok.mp hp
      rw [← ih hq]
      exact (Except.ok.inj hp).symm

theorem ascendingFromM_ok {prev : α} {l : List α} {p : List α × List α}
    (hp : ascendingFromM lt prev l = .ok p) : p = ascendingFrom rel prev l := by
  induction l generalizing prev p with
  | nil => exact (Except.ok.inj hp).symm
  | cons x xs ih =>
    rw [ascendingFromM] at hp
    obtain ⟨c, hc, hp⟩ := except_bind_eq_ok.mp hp
    rw [ascendingFrom_cons, ← h _ _ _ hc]
    cases c
    · obtain ⟨q, hq, hp⟩ := except_bind_eq_ok.mp hp
      rw [← ih hq]
      exact (Except.ok.inj hp).symm
    · exact (Except.ok.inj hp).symm

theorem leadingRunM_ok {l : List α} {p : List α × List α} (hp : leadingRunM lt l = .ok p) :
    p = leadingRun rel l := by
  match l with
  | [] => exact (Except.ok.inj hp).symm
  | [a] => exact (Except.ok.inj hp).symm
  | a :: b :: rest =>
    rw [leadingRunM] at hp
    obtain ⟨c, hc, hp⟩ := except_bind_eq_ok.mp hp
    rw [leadingRun_cons_cons, ← h _ _ _ hc]
    cases c
    · obtain ⟨q, hq, hp⟩ := except_bind_eq_ok.mp hp
      rw [← ascendingFromM_ok h hq]
      exact (Except.ok.inj hp).symm
    · obtain ⟨q, hq, hp⟩ := except_bind_eq_ok.mp hp
      rw [← descendingFromM_ok h hq]
      exact (Except.ok.inj hp).symm

theorem insertAtM_ok {s : Array α} {x : α} {lo hi i : ℕ} (hi' : insertAtM lt s x lo hi = .ok i) :
    i = insertAt rel s x lo hi := by
  induction lo, hi using insertAtM.induct s with
  | case1 lo hi hlt p hp ih₁ ih₂ =>
    rw [insertAtM, dif_pos hlt] at hi'
    simp only [hp] at hi'
    obtain ⟨c, hc, hi'⟩ := except_bind_eq_ok.mp hi'
    rw [insertAt_of_some hlt hp, ← h _ _ _ hc]
    cases c
    · exact ih₂ hi'
    · exact ih₁ hi'
  | case2 lo hi hlt hp =>
    rw [insertAtM, dif_pos hlt] at hi'
    simp only [hp] at hi'
    rw [insertAt_of_none hlt hp]
    exact (Except.ok.inj hi').symm
  | case3 lo hi hlt =>
    rw [insertAtM, dif_neg hlt] at hi'
    rw [insertAt_of_not_lt hlt]
    exact (Except.ok.inj hi').symm

theorem insertAllM_ok {s : Array α} {l : List α} {r : Array α} (hr : insertAllM lt s l = .ok r) :
    r = insertAll rel s l := by
  induction l generalizing s with
  | nil => exact (Except.ok.inj hr).symm
  | cons x xs ih =>
    rw [insertAllM] at hr
    obtain ⟨i, hi, hr⟩ := except_bind_eq_ok.mp hr
    rw [insertAll_cons, ← insertAtM_ok h hi]
    exact ih hr

/-- A sort under an order that may fail, when it succeeds, is the sort under any order
that agrees with it wherever it answers. -/
theorem insertionSortM_ok {l r : List α} (hr : insertionSortM lt l = .ok r) :
    r = insertionSort rel l := by
  rw [insertionSortM] at hr
  obtain ⟨p, hp, hr⟩ := except_bind_eq_ok.mp hr
  obtain ⟨t, ht, hr⟩ := except_bind_eq_ok.mp hr
  rw [insertionSort_eq, ← leadingRunM_ok h hp, ← insertAllM_ok h ht]
  exact (Except.ok.inj hr).symm

end Failing

/-! ### Permutation -/

section Permutation

variable {lt : α → α → Bool}

theorem descendingFrom_append (prev : α) (l : List α) :
    (descendingFrom lt prev l).1 ++ (descendingFrom lt prev l).2 = l := by
  induction l generalizing prev with
  | nil => rfl
  | cons x xs ih =>
    rw [descendingFrom_cons]
    split
    · simp [ih x]
    · rfl

theorem ascendingFrom_append (prev : α) (l : List α) :
    (ascendingFrom lt prev l).1 ++ (ascendingFrom lt prev l).2 = l := by
  induction l generalizing prev with
  | nil => rfl
  | cons x xs ih =>
    rw [ascendingFrom_cons]
    split
    · rfl
    · simp [ih x]

theorem leadingRun_perm (l : List α) : (leadingRun lt l).1 ++ (leadingRun lt l).2 ~ l := by
  match l with
  | [] => simp
  | [a] => simp
  | a :: b :: rest =>
    rw [leadingRun_cons_cons]
    split
    · have := @descendingFrom_append _ lt b rest
      calc (a :: b :: (descendingFrom lt b rest).1).reverse ++ (descendingFrom lt b rest).2
          ~ (a :: b :: (descendingFrom lt b rest).1) ++ (descendingFrom lt b rest).2 :=
            (List.reverse_perm _).append_right _
        _ = a :: b :: rest := by simp [this]
    · simp [ascendingFrom_append]

theorem insertAt_le {s : Array α} {x : α} {lo hi : ℕ} (h : lo ≤ hi) : insertAt lt s x lo hi ≤ hi := by
  induction lo, hi using insertAtM.induct s with
  | case1 lo hi hlt p hp ih₁ ih₂ =>
    rw [insertAt_of_some hlt hp]
    split
    · exact Nat.le_trans (ih₁ (by omega)) (by omega)
    · exact ih₂ (by omega)
  | case2 lo hi hlt hp => rw [insertAt_of_none hlt hp]; exact h
  | case3 lo hi hlt => rw [insertAt_of_not_lt hlt]; exact h

theorem toList_insertIdxIfInBounds {s : Array α} {i : ℕ} (x : α) (h : i ≤ s.size) :
    (s.insertIdxIfInBounds i x).toList = s.toList.insertIdx i x := by
  rw [Array.insertIdxIfInBounds, dif_pos h, Array.toList_insertIdx]

/-- Inserting the next element anywhere leaves the same elements to come. -/
theorem forall_mem_insert {P : α → Prop} {s : Array α} {x : α} {xs : List α} {i : ℕ}
    (hi : i ≤ s.size) (hl : ∀ y ∈ s.toList ++ x :: xs, P y) :
    ∀ y ∈ (s.insertIdxIfInBounds i x).toList ++ xs, P y := by
  intro y hy
  rw [List.mem_append, toList_insertIdxIfInBounds x hi] at hy
  rcases hy with hy | hy
  · rcases List.mem_cons.mp (List.insertIdx_subset_cons _ _ _ hy) with rfl | hy
    · exact hl y (by simp)
    · exact hl y (by simp [hy])
  · exact hl y (by simp [hy])

theorem insertAll_perm (s : Array α) (l : List α) : (insertAll lt s l).toList ~ s.toList ++ l := by
  induction l generalizing s with
  | nil => simp
  | cons x xs ih =>
    rw [insertAll_cons]
    have hi := @insertAt_le _ lt s x 0 s.size (Nat.zero_le _)
    refine (ih _).trans ?_
    rw [toList_insertIdxIfInBounds x hi]
    calc s.toList.insertIdx (insertAt lt s x 0 s.size) x ++ xs ~ (x :: s.toList) ++ xs :=
          (List.perm_insertIdx x s.toList (by simpa using hi)).append_right _
      _ ~ s.toList ++ x :: xs := List.perm_middle.symm

/-- The sort permutes its input. -/
theorem insertionSort_perm (l : List α) : insertionSort lt l ~ l := by
  rw [insertionSort_eq]
  exact (insertAll_perm _ _).trans (by simpa using leadingRun_perm l)

end Permutation

/-! ### Orders that answer on the list -/

section Answering

variable {ε : Type} {lt : α → α → Except ε Bool} {rel : α → α → Bool} {L : List α}

/-- On the elements of `L`, the order that may fail answers as `rel` does. -/
def AnswersOn (lt : α → α → Except ε Bool) (rel : α → α → Bool) (L : List α) : Prop :=
  ∀ a ∈ L, ∀ b ∈ L, lt a b = .ok (rel a b)

variable (hA : AnswersOn lt rel L)
include hA

theorem descendingFromM_eq_ok :
    ∀ {prev : α} {l : List α}, prev ∈ L → (∀ y ∈ l, y ∈ L) →
      descendingFromM lt prev l = .ok (descendingFrom rel prev l)
  | _, [], _, _ => rfl
  | prev, x :: xs, hp, hl => by
    have hx : x ∈ L := hl x (by simp)
    rw [descendingFromM, hA x hx prev hp, descendingFrom_cons]
    cases rel x prev
    · rfl
    · have ih : descendingFromM lt x xs = .ok (descendingFrom rel x xs) :=
        descendingFromM_eq_ok hx fun y hy => hl y (by simp [hy])
      simp only [ite_true, bind, Except.bind, ih]
      rfl

theorem ascendingFromM_eq_ok :
    ∀ {prev : α} {l : List α}, prev ∈ L → (∀ y ∈ l, y ∈ L) →
      ascendingFromM lt prev l = .ok (ascendingFrom rel prev l)
  | _, [], _, _ => rfl
  | prev, x :: xs, hp, hl => by
    have hx : x ∈ L := hl x (by simp)
    rw [ascendingFromM, hA x hx prev hp, ascendingFrom_cons]
    cases rel x prev
    · have ih : ascendingFromM lt x xs = .ok (ascendingFrom rel x xs) :=
        ascendingFromM_eq_ok hx fun y hy => hl y (by simp [hy])
      simp only [bind, Except.bind, ih]
      rfl
    · rfl

theorem leadingRunM_eq_ok {l : List α} (hl : ∀ y ∈ l, y ∈ L) :
    leadingRunM lt l = .ok (leadingRun rel l) := by
  match l with
  | [] => rfl
  | [a] => rfl
  | a :: b :: rest =>
    have ha : a ∈ L := hl a (by simp)
    have hb : b ∈ L := hl b (by simp)
    have hrest : ∀ y ∈ rest, y ∈ L := fun y hy => hl y (by simp [hy])
    rw [leadingRunM, hA b hb a ha, leadingRun_cons_cons]
    cases rel b a
    · simp only [bind, Except.bind, ascendingFromM_eq_ok hA hb hrest]
      rfl
    · simp only [bind, Except.bind, descendingFromM_eq_ok hA hb hrest]
      rfl

theorem insertAtM_eq_ok {s : Array α} {x : α} (hs : ∀ y ∈ s.toList, y ∈ L) (hx : x ∈ L)
    (lo hi : ℕ) : insertAtM lt s x lo hi = .ok (insertAt rel s x lo hi) := by
  induction lo, hi using insertAtM.induct s with
  | case1 lo hi hlt p hp ih₁ ih₂ =>
    have hpL : p ∈ L := hs p (Array.mem_toList_iff.mpr (Array.mem_of_getElem? hp))
    rw [insertAtM, dif_pos hlt, insertAt_of_some hlt hp]
    simp only [hp, hA x hx p hpL]
    cases rel x p
    · exact ih₂
    · exact ih₁
  | case2 lo hi hlt hp =>
    rw [insertAtM, dif_pos hlt, insertAt_of_none hlt hp]
    simp only [hp]
    rfl
  | case3 lo hi hlt =>
    rw [insertAtM, dif_neg hlt, insertAt_of_not_lt hlt]
    rfl

theorem insertAllM_eq_ok :
    ∀ {s : Array α} {rest : List α}, (∀ y ∈ s.toList ++ rest, y ∈ L) →
      insertAllM lt s rest = .ok (insertAll rel s rest)
  | _, [], _ => rfl
  | s, x :: xs, hl => by
    have hs : ∀ y ∈ s.toList, y ∈ L := fun y hy => hl y (by simp [hy])
    rw [insertAllM, insertAll_cons, insertAtM_eq_ok hA hs (hl x (by simp))]
    exact insertAllM_eq_ok (forall_mem_insert (insertAt_le (Nat.zero_le _)) hl)

/-- **A sort that never fails.** An order that answers every question about the elements of
a list sorts it, as the order that always answers with its answers does. -/
theorem insertionSortM_eq_ok {l : List α} (hl : ∀ y ∈ l, y ∈ L) :
    insertionSortM lt l = .ok (insertionSort rel l) := by
  rw [insertionSortM, insertionSort_eq, leadingRunM_eq_ok hA hl]
  simp only [bind, Except.bind]
  rw [insertAllM_eq_ok hA fun y hy => hl y ((leadingRun_perm l).subset (by simpa using hy))]
  rfl

end Answering

/-! ### The binary search -/

section Search

variable {lt : α → α → Bool} {s : Array α} {x : α}

theorem le_insertAt {n lo hi : ℕ} (hhi : hi ≤ s.size) (hn : n ≤ hi)
    (hP : ∀ k p, k < n → s[k]? = some p → lt x p = false) : n ≤ insertAt lt s x lo hi := by
  induction lo, hi using insertAtM.induct s with
  | case1 lo hi hlt p hp ih₁ ih₂ =>
    rw [insertAt_of_some hlt hp]
    split
    · rename_i hx
      have hmid : n ≤ (lo + hi) / 2 := Nat.le_of_not_lt fun hk => by simp [hP _ _ hk hp] at hx
      exact ih₁ (by omega) hmid
    · exact ih₂ hhi hn
  | case2 lo hi hlt hp =>
    have : (lo + hi) / 2 < s.size := by omega
    simp at hp
    omega
  | case3 lo hi hlt =>
    rw [insertAt_of_not_lt hlt]
    omega

theorem insertAt_le_of {n lo hi : ℕ} (hlo : lo ≤ n)
    (hP : ∀ k p, n ≤ k → s[k]? = some p → lt x p = true) : insertAt lt s x lo hi ≤ n := by
  induction lo, hi using insertAtM.induct s with
  | case1 lo hi hlt p hp ih₁ ih₂ =>
    rw [insertAt_of_some hlt hp]
    split
    · exact ih₁ hlo
    · rename_i hx
      have hmid : (lo + hi) / 2 < n := Nat.lt_of_not_le fun hk => by simp [hP _ _ hk hp] at hx
      exact ih₂ (by omega)
  | case2 lo hi hlt hp =>
    rw [insertAt_of_none hlt hp]
    exact hlo
  | case3 lo hi hlt =>
    rw [insertAt_of_not_lt hlt]
    exact hlo

end Search

/-! ### Inserting into a list ordered pairwise -/

section Lists

variable {R : α → α → Prop}

theorem insertIdx_eq_take_drop (x : α) : ∀ (l : List α) (i : ℕ), i ≤ l.length →
    l.insertIdx i x = l.take i ++ x :: l.drop i
  | l, 0, _ => by simp [List.insertIdx_zero]
  | [], _ + 1, h => by simp at h
  | a :: l, i + 1, h => by
    simp [List.insertIdx_succ_cons, insertIdx_eq_take_drop x l i (by simpa using h)]

theorem pairwise_insertIdx {L : List α} {i : ℕ} {x : α} (hL : L.Pairwise R) (hi : i ≤ L.length)
    (hb : ∀ y ∈ L.take i, R y x) (ha : ∀ y ∈ L.drop i, R x y) : (L.insertIdx i x).Pairwise R := by
  rw [insertIdx_eq_take_drop x L i hi, List.pairwise_append, List.pairwise_cons]
  rw [← List.take_append_drop i L, List.pairwise_append] at hL
  refine ⟨hL.1, ⟨ha, hL.2.1⟩, fun a ha' b hb' => ?_⟩
  rcases List.mem_cons.mp hb' with rfl | hb'
  · exact hb a ha'
  · exact hL.2.2 a ha' b hb'

theorem pairwise_of_isChain : ∀ {L : List α},
    (∀ a ∈ L, ∀ b ∈ L, ∀ c ∈ L, R a b → R b c → R a c) → L.IsChain R → L.Pairwise R
  | [], _, _ => .nil
  | [_], _, _ => List.pairwise_singleton _ _
  | a :: b :: l, ht, hc => by
    rw [List.isChain_cons_cons] at hc
    have ih := pairwise_of_isChain (fun x hx y hy z hz => ht x (.tail _ hx) y (.tail _ hy) z (.tail _ hz)) hc.2
    refine List.pairwise_cons.mpr ⟨fun c hc' => ?_, ih⟩
    rcases List.mem_cons.mp hc' with rfl | hc'
    · exact hc.1
    · exact ht a (by simp) b (by simp) c (by simp [hc']) hc.1 (List.rel_of_pairwise_cons ih hc')

end Lists

/-! ### The leading run -/

section Runs

variable {lt : α → α → Bool}

theorem ascendingFrom_isChain (prev : α) (l : List α) :
    (prev :: (ascendingFrom lt prev l).1).IsChain (fun a b => lt b a = false) := by
  induction l generalizing prev with
  | nil => exact .singleton prev
  | cons x xs ih =>
    rw [ascendingFrom_cons]
    split
    · exact .singleton prev
    · rename_i hx
      exact List.isChain_cons_cons.mpr ⟨by simpa using hx, ih x⟩

theorem descendingFrom_isChain (prev : α) (l : List α) :
    (prev :: (descendingFrom lt prev l).1).IsChain (fun a b => lt b a = true) := by
  induction l generalizing prev with
  | nil => exact .singleton prev
  | cons x xs ih =>
    rw [descendingFrom_cons]
    split
    · rename_i hx
      exact List.isChain_cons_cons.mpr ⟨hx, ih x⟩
    · exact .singleton prev

/-- The leading run is ascending: no element is before the one preceding it, or, once
reversed, each element is before the next. -/
theorem leadingRun_isChain (l : List α) :
    (leadingRun lt l).1.IsChain (fun a b => lt b a = false) ∨
      (leadingRun lt l).1.IsChain (fun a b => lt a b = true) := by
  match l with
  | [] => exact .inl .nil
  | [a] => exact .inl (.singleton a)
  | a :: b :: rest =>
    rw [leadingRun_cons_cons]
    split
    · rename_i hba
      refine .inr (List.isChain_reverse.mpr ?_)
      exact List.isChain_cons_cons.mpr ⟨hba, descendingFrom_isChain b rest⟩
    · rename_i hba
      exact .inl (List.isChain_cons_cons.mpr ⟨by simpa using hba, ascendingFrom_isChain b rest⟩)

theorem mem_of_mem_leadingRun {l : List α} {a : α} (h : a ∈ (leadingRun lt l).1) : a ∈ l :=
  (leadingRun_perm l).subset (List.mem_append_left _ h)

end Runs

/-! ### The place of an element in a split array -/

section Split

variable {lt : α → α → Bool} {s : Array α} {x : α} {A B : List α}

theorem mem_left_of_getElem? (hs : s.toList = A ++ B) {k : ℕ} {p : α} (hk : k < A.length)
    (hp : s[k]? = some p) : p ∈ A := by
  rw [← Array.getElem?_toList, hs, List.getElem?_append_left hk] at hp
  exact List.mem_of_getElem? hp

theorem mem_right_of_getElem? (hs : s.toList = A ++ B) {k : ℕ} {p : α} (hk : A.length ≤ k)
    (hp : s[k]? = some p) : p ∈ B := by
  rw [← Array.getElem?_toList, hs, List.getElem?_append_right hk] at hp
  exact List.mem_of_getElem? hp

theorem le_insertAt_of_split (hs : s.toList = A ++ B) (hA : ∀ y ∈ A, lt x y = false) :
    A.length ≤ insertAt lt s x 0 s.size := by
  have hsize : A.length ≤ s.size := by rw [← Array.length_toList, hs]; simp
  exact le_insertAt (le_refl _) hsize fun _ p hk hp => hA p (mem_left_of_getElem? hs hk hp)

theorem insertAt_le_of_split (hs : s.toList = A ++ B) (hB : ∀ y ∈ B, lt x y = true) :
    insertAt lt s x 0 s.size ≤ A.length :=
  insertAt_le_of (Nat.zero_le _) fun _ p hk hp => hB p (mem_right_of_getElem? hs hk hp)

end Split

/-! ### An order that puts a class first -/

section Classes

variable {lt : α → α → Bool} {l : List α} {S : α → Prop}

/-- Within the list `l`, the order puts the elements of class `S` first: each is before
every other element of `l`, and no other element is before it. -/
def PutsFirst (lt : α → α → Bool) (l : List α) (S : α → Prop) : Prop :=
  ∀ a ∈ l, ∀ b ∈ l, S a → ¬ S b → lt a b = true ∧ lt b a = false

/-- Within the list `l`, the order is a strict weak order on the elements of class `S`. -/
structure StrictWeakOn (lt : α → α → Bool) (l : List α) (S : α → Prop) : Prop where
  asymm : ∀ a ∈ l, ∀ b ∈ l, S a → S b → lt a b = true → lt b a = false
  negTrans : ∀ a ∈ l, ∀ b ∈ l, ∀ c ∈ l, S a → S b → S c →
    lt a b = false → lt b c = false → lt a c = false

/-- How the sort leaves two elements, the first before the second: no element outside `S`
comes before one of `S`, and of two elements of `S` the second is not before the first. -/
def Arranged (lt : α → α → Bool) (S : α → Prop) (a b : α) : Prop :=
  (S b → S a) ∧ (S a → S b → lt b a = false)

/-- Within the list `l`, the elements that `p` picks are ties of the class `S`: they belong to
it, and none is before another. -/
structure TiesOn (lt : α → α → Bool) (l : List α) (S : α → Prop) (p : α → Bool) : Prop where
  mem_class : ∀ a ∈ l, p a → S a
  not_before : ∀ a ∈ l, ∀ b ∈ l, p a → p b → lt a b = false

theorem exists_split_of_partitioned :
    ∀ {L : List α}, L.Pairwise (fun a b => S b → S a) →
      ∃ A B, L = A ++ B ∧ (∀ a ∈ A, S a) ∧ ∀ b ∈ B, ¬ S b
  | [], _ => ⟨[], [], rfl, by simp, by simp⟩
  | y :: L, h => by
    rw [List.pairwise_cons] at h
    by_cases hy : S y
    · obtain ⟨A, B, rfl, hA, hB⟩ := exists_split_of_partitioned h.2
      exact ⟨y :: A, B, rfl, by simpa [hy] using hA, hB⟩
    · refine ⟨[], y :: L, rfl, by simp, ?_⟩
      intro b hb
      rcases List.mem_cons.mp hb with rfl | hb
      · exact hy
      · exact fun hSb => hy (h.1 b hb hSb)

theorem PutsFirst.arranged_of_ascending (h : PutsFirst lt l S) {a b : α} (ha : a ∈ l) (hb : b ∈ l)
    (hab : lt b a = false) : Arranged lt S a b :=
  ⟨fun hSb => Classical.byContradiction fun hSa => by simp [(h b hb a ha hSb hSa).1] at hab,
    fun _ _ => hab⟩

/-- An element before one of the class belongs to the class. -/
theorem PutsFirst.mem_class_of_before (h : PutsFirst lt l S) {a b : α} (ha : a ∈ l) (hb : b ∈ l)
    (hSb : S b) (hab : lt a b = true) : S a :=
  Classical.byContradiction fun hSa => by simp [(h b hb a ha hSb hSa).2] at hab

theorem PutsFirst.arranged_of_before (h : PutsFirst lt l S) (hw : StrictWeakOn lt l S) {a b : α}
    (ha : a ∈ l) (hb : b ∈ l) (hab : lt a b = true) : Arranged lt S a b :=
  ⟨fun hSb => h.mem_class_of_before ha hb hSb hab, fun hSa hSb => hw.asymm a ha b hb hSa hSb hab⟩

theorem StrictWeakOn.arranged_trans (hw : StrictWeakOn lt l S) {a b c : α} (ha : a ∈ l) (hb : b ∈ l)
    (hc : c ∈ l) (hab : Arranged lt S a b) (hbc : Arranged lt S b c) : Arranged lt S a c :=
  ⟨fun hSc => hab.1 (hbc.1 hSc), fun hSa hSc =>
    hw.negTrans c hc b hb a ha hSc (hbc.1 hSc) hSa (hbc.2 (hbc.1 hSc) hSc) (hab.2 hSa (hbc.1 hSc))⟩

theorem leadingRun_arranged (h : PutsFirst lt l S) (hw : StrictWeakOn lt l S) :
    (leadingRun lt l).1.Pairwise (Arranged lt S) := by
  refine pairwise_of_isChain (fun a ha b hb c hc => hw.arranged_trans
    (mem_of_mem_leadingRun ha) (mem_of_mem_leadingRun hb) (mem_of_mem_leadingRun hc)) ?_
  rcases leadingRun_isChain l with hc | hc
  · exact hc.imp_of_mem_imp fun a b ha hb hab =>
      h.arranged_of_ascending (mem_of_mem_leadingRun ha) (mem_of_mem_leadingRun hb) hab
  · exact hc.imp_of_mem_imp fun a b ha hb hab =>
      h.arranged_of_before hw (mem_of_mem_leadingRun ha) (mem_of_mem_leadingRun hb) hab

theorem exists_split_of_sorted (hw : StrictWeakOn lt l S) {x : α} (hx : x ∈ l) (hSx : S x) :
    ∀ {A : List α}, (∀ a ∈ A, a ∈ l ∧ S a) → A.Pairwise (Arranged lt S) →
      ∃ A₁ A₂, A = A₁ ++ A₂ ∧ (∀ y ∈ A₁, lt x y = false) ∧ ∀ y ∈ A₂, lt x y = true
  | [], _, _ => ⟨[], [], rfl, by simp, by simp⟩
  | y :: A, hA, hs => by
    rw [List.pairwise_cons] at hs
    have hy := hA y (by simp)
    cases hxy : lt x y
    · obtain ⟨A₁, A₂, rfl, h₁, h₂⟩ :=
        exists_split_of_sorted hw hx hSx (fun a ha => hA a (.tail _ ha)) hs.2
      exact ⟨y :: A₁, A₂, rfl, by simpa [hxy] using h₁, h₂⟩
    · -- `x` is before `y`, hence before every later element, which `y` is not after
      refine ⟨[], y :: A, rfl, by simp, fun z hz => ?_⟩
      rcases List.mem_cons.mp hz with rfl | hz
      · exact hxy
      · have hz' := hA z (.tail _ hz)
        cases hxz : lt x z
        · have := hw.negTrans x hx z hz'.1 y hy.1 hSx hz'.2 hy.2 hxz ((hs.1 z hz).2 hy.2 hz'.2)
          simp [this] at hxy
        · rfl

theorem mem_of_mem_drop_append {A B : List α} {i : ℕ} {y : α} (hi : A.length ≤ i)
    (hy : y ∈ (A ++ B).drop i) : y ∈ B := by
  rw [List.drop_append, List.drop_eq_nil_of_le hi, List.nil_append] at hy
  exact List.mem_of_mem_drop hy

theorem mem_of_mem_take_append {A B : List α} {i : ℕ} {y : α} (hi : i ≤ A.length)
    (hy : y ∈ (A ++ B).take i) : y ∈ A := by
  rw [List.take_append_of_le_length hi] at hy
  exact List.mem_of_mem_take hy

section Insert

variable (h : PutsFirst lt l S) {s : Array α} {x : α} (hsub : ∀ y ∈ s.toList, y ∈ l) (hx : x ∈ l)
include h hsub hx

theorem insert_partitioned (hs : s.toList.Pairwise (fun a b => S b → S a)) :
    (s.insertIdxIfInBounds (insertAt lt s x 0 s.size) x).toList.Pairwise (fun a b => S b → S a) := by
  have hi : insertAt lt s x 0 s.size ≤ s.size := insertAt_le (Nat.zero_le _)
  rw [toList_insertIdxIfInBounds x hi]
  obtain ⟨A, B, hAB, hA, hB⟩ := exists_split_of_partitioned hs
  have hl : ∀ y ∈ A ++ B, y ∈ l := hAB ▸ hsub
  by_cases hSx : S x
  · -- `x` goes among the elements of `S`
    have hle : insertAt lt s x 0 s.size ≤ A.length :=
      insertAt_le_of_split hAB fun y hy => (h x hx y (hl y (by simp [hy])) hSx (hB y hy)).1
    refine pairwise_insertIdx hs (by simpa using hi) (fun y hy => fun _ => ?_) fun y _ _ => hSx
    rw [hAB] at hy
    exact hA y (mem_of_mem_take_append hle hy)
  · -- `x` goes after every element of `S`
    have hle : A.length ≤ insertAt lt s x 0 s.size :=
      le_insertAt_of_split hAB fun y hy => (h y (hl y (by simp [hy])) x hx (hA y hy) hSx).2
    refine pairwise_insertIdx hs (by simpa using hi) (fun y _ h' => absurd h' hSx) fun y hy h' => ?_
    rw [hAB] at hy
    exact absurd h' (hB y (mem_of_mem_drop_append hle hy))

/-- An element of `S` goes right after the elements of an arranged array that it is not
before, all of them in `S`, and it is before every element after them. -/
theorem insertAt_split_of_class (hw : StrictWeakOn lt l S) (hSx : S x)
    (hs : s.toList.Pairwise (Arranged lt S)) :
    ∃ A C, s.toList = A ++ C ∧ insertAt lt s x 0 s.size = A.length ∧
      (∀ y ∈ A, S y ∧ lt x y = false) ∧ ∀ y ∈ C, lt x y = true := by
  obtain ⟨A, B, hAB, hA, hB⟩ := exists_split_of_partitioned (hs.imp (·.1))
  have hl : ∀ y ∈ A ++ B, y ∈ l := hAB ▸ hsub
  have hAs : A.Pairwise (Arranged lt S) := (hAB ▸ hs).sublist (List.sublist_append_left A B)
  obtain ⟨A₁, A₂, rfl, h₁, h₂⟩ :=
    exists_split_of_sorted hw hx hSx (fun a ha => ⟨hl a (by simp [ha]), hA a ha⟩) hAs
  have h₃ : ∀ y ∈ A₂ ++ B, lt x y = true := by
    intro y hy
    rcases List.mem_append.mp hy with hy | hy
    · exact h₂ y hy
    · exact (h x hx y (hl y (by simp [hy])) hSx (hB y hy)).1
  have hsplit : s.toList = A₁ ++ (A₂ ++ B) := by rw [hAB, List.append_assoc]
  refine ⟨A₁, A₂ ++ B, hsplit, ?_, fun y hy => ⟨hA y (by simp [hy]), h₁ y hy⟩, h₃⟩
  exact Nat.le_antisymm (insertAt_le_of_split hsplit h₃) (le_insertAt_of_split hsplit h₁)

theorem insert_arranged (hw : StrictWeakOn lt l S) (hs : s.toList.Pairwise (Arranged lt S)) :
    (s.insertIdxIfInBounds (insertAt lt s x 0 s.size) x).toList.Pairwise (Arranged lt S) := by
  have hi : insertAt lt s x 0 s.size ≤ s.size := insertAt_le (Nat.zero_le _)
  rw [toList_insertIdxIfInBounds x hi]
  by_cases hSx : S x
  · -- `x` goes after the elements of `S` it is not before, and before all the others
    obtain ⟨A, C, hsplit, heq, hA, hC⟩ := insertAt_split_of_class h hsub hx hw hSx hs
    refine pairwise_insertIdx hs (by simpa using hi) (fun y hy => ?_) (fun y hy => ?_)
    · rw [heq, hsplit, List.take_left] at hy
      exact ⟨fun _ => (hA y hy).1, fun _ _ => (hA y hy).2⟩
    · rw [heq, hsplit, List.drop_left] at hy
      have hyl : y ∈ l := hsub y (by rw [hsplit]; exact List.mem_append_right A hy)
      exact ⟨fun _ => hSx, fun _ hSy => hw.asymm x hx y hyl hSx hSy (hC y hy)⟩
  · -- `x` goes after every element of `S`
    obtain ⟨A, B, hAB, hA, hB⟩ := exists_split_of_partitioned (hs.imp (·.1))
    have hl : ∀ y ∈ A ++ B, y ∈ l := hAB ▸ hsub
    have hle : A.length ≤ insertAt lt s x 0 s.size :=
      le_insertAt_of_split hAB fun y hy => (h y (hl y (by simp [hy])) x hx (hA y hy) hSx).2
    refine pairwise_insertIdx hs (by simpa using hi)
      (fun y _ => ⟨fun h' => absurd h' hSx, fun _ h' => absurd h' hSx⟩) fun y hy => ?_
    rw [hAB] at hy
    have hSy := hB y (mem_of_mem_drop_append hle hy)
    exact ⟨fun h' => absurd h' hSy, fun h' => absurd h' hSx⟩

/-- One insertion into an arranged array puts a tie after the ties already there. -/
theorem insert_filter (hw : StrictWeakOn lt l S) {p : α → Bool} (hp : TiesOn lt l S p)
    (hs : s.toList.Pairwise (Arranged lt S)) :
    (s.insertIdxIfInBounds (insertAt lt s x 0 s.size) x).toList.filter p =
      s.toList.filter p ++ [x].filter p := by
  have hi : insertAt lt s x 0 s.size ≤ s.size := insertAt_le (Nat.zero_le _)
  rw [toList_insertIdxIfInBounds x hi, insertIdx_eq_take_drop x _ _ (by simpa using hi)]
  by_cases hpx : p x
  · -- no tie stands among the elements that `x` is before
    obtain ⟨A, C, hsplit, heq, -, hC⟩ :=
      insertAt_split_of_class h hsub hx hw (hp.mem_class x hx hpx) hs
    have hCp : C.filter p = [] := List.filter_eq_nil_iff.mpr fun y hy hpy => by
      have hyl : y ∈ l := hsub y (by rw [hsplit]; exact List.mem_append_right A hy)
      have hxy := hC y hy
      rw [hp.not_before x hx y hyl hpx hpy] at hxy
      cases hxy
    rw [heq, hsplit, List.take_left, List.drop_left]
    simp [List.filter_append, hpx, hCp]
  · simp only [List.filter_append, List.filter_cons_of_neg hpx, List.filter_nil, List.append_nil]
    rw [← List.filter_append, List.take_append_drop]

end Insert

theorem leadingRun_partitioned (h : PutsFirst lt l S) :
    (leadingRun lt l).1.Pairwise (fun a b => S b → S a) := by
  refine pairwise_of_isChain (fun _ _ _ _ _ _ hab hbc hSc => hab (hbc hSc)) ?_
  rcases leadingRun_isChain l with hc | hc
  · exact hc.imp_of_mem_imp fun a b ha hb hab =>
      (h.arranged_of_ascending (mem_of_mem_leadingRun ha) (mem_of_mem_leadingRun hb) hab).1
  · exact hc.imp_of_mem_imp fun a b ha hb hab hSb =>
      h.mem_class_of_before (mem_of_mem_leadingRun ha) (mem_of_mem_leadingRun hb) hSb hab

/-- Inserting elements of `l` keeps any relation that one insertion keeps. -/
theorem insertAll_pairwise {R : α → α → Prop}
    (step : ∀ {s : Array α} {x : α}, (∀ y ∈ s.toList, y ∈ l) → x ∈ l → s.toList.Pairwise R →
      (s.insertIdxIfInBounds (insertAt lt s x 0 s.size) x).toList.Pairwise R) :
    ∀ {s : Array α} {rest : List α}, (∀ y ∈ s.toList ++ rest, y ∈ l) → s.toList.Pairwise R →
      (insertAll lt s rest).toList.Pairwise R
  | _, [], _, hs => hs
  | s, x :: xs, hl, hs => by
    rw [insertAll_cons]
    have hsub : ∀ y ∈ s.toList, y ∈ l := fun y hy => hl y (by simp [hy])
    exact insertAll_pairwise step (forall_mem_insert (insertAt_le (Nat.zero_le _)) hl)
      (step hsub (hl x (by simp)) hs)

theorem insertionSort_pairwise {R : α → α → Prop}
    (step : ∀ {s : Array α} {x : α}, (∀ y ∈ s.toList, y ∈ l) → x ∈ l → s.toList.Pairwise R →
      (s.insertIdxIfInBounds (insertAt lt s x 0 s.size) x).toList.Pairwise R)
    (hrun : (leadingRun lt l).1.Pairwise R) : (insertionSort lt l).Pairwise R := by
  rw [insertionSort_eq]
  refine insertAll_pairwise step (fun y hy => (leadingRun_perm l).subset (by simpa using hy)) ?_
  simpa using hrun

/-- An order that puts a class first leaves the class in front. -/
theorem insertionSort_partitioned (h : PutsFirst lt l S) :
    (insertionSort lt l).Pairwise (fun a b => S b → S a) :=
  insertionSort_pairwise (fun hsub hx hs => insert_partitioned h hsub hx hs)
    (leadingRun_partitioned h)

/-- An order that puts a class first, and orders it weakly, leaves the class in front
and sorted. -/
theorem insertionSort_arranged (h : PutsFirst lt l S) (hw : StrictWeakOn lt l S) :
    (insertionSort lt l).Pairwise (Arranged lt S) :=
  insertionSort_pairwise (fun hsub hx hs => insert_arranged h hsub hx hw hs)
    (leadingRun_arranged h hw)

/-- The first element of the sorted list belongs to the class, when some element does,
and no element of the class is before it. -/
theorem insertionSort_head (h : PutsFirst lt l S) (hw : StrictWeakOn lt l S) {a : α}
    (ha : a ∈ l) (hSa : S a) :
    ∃ w, (insertionSort lt l).head? = some w ∧ S w ∧ ∀ b ∈ l, S b → lt b w = false := by
  have hperm := @insertionSort_perm _ lt l
  have hsorted := insertionSort_arranged h hw
  obtain ⟨w, t, hwt⟩ : ∃ w t, insertionSort lt l = w :: t := by
    cases hl : insertionSort lt l with
    | nil => simp [hl] at hperm; simp [hperm] at ha
    | cons w t => exact ⟨w, t, rfl⟩
  rw [hwt] at hperm hsorted
  have hafter : ∀ b ∈ l, b ≠ w → Arranged lt S w b := fun b hb hne =>
    List.rel_of_pairwise_cons hsorted
      (by rcases List.mem_cons.mp (hperm.symm.subset hb) with rfl | hb; exacts [absurd rfl hne, hb])
  have hSw : S w := by
    by_cases haw : a = w
    · exact haw ▸ hSa
    · exact (hafter a ha haw).1 hSa
  refine ⟨w, by rw [hwt]; rfl, hSw, fun b hb hSb => ?_⟩
  by_cases hbw : b = w
  · subst hbw
    cases hbb : lt b b
    · rfl
    · simpa [hbb] using hw.asymm b hb b hb hSb hSb hbb
  · exact (hafter b hb hbw).2 hSw hSb

/-! #### Ties keep their order -/

theorem StrictWeakOn.before_trans (hw : StrictWeakOn lt l S) {a b c : α} (ha : a ∈ l) (hb : b ∈ l)
    (hc : c ∈ l) (hSa : S a) (hSb : S b) (hSc : S c) (hab : lt a b = true) (hbc : lt b c = true) :
    lt a c = true := by
  cases hac : lt a c
  · -- `c` is not before `b`, so `a` would not be before `b` either
    have hcb := hw.asymm b hb c hc hSb hSc hbc
    simpa [hab] using hw.negTrans a ha c hc b hb hSa hSc hSb hac hcb
  · rfl

/-- In a chain where each element is before the one preceding it, an element of the class is
followed only by elements of the class that are before it. -/
theorem PutsFirst.pairwise_of_descending (h : PutsFirst lt l S) (hw : StrictWeakOn lt l S)
    {L : List α} (hL : ∀ a ∈ L, a ∈ l) (hc : L.IsChain (fun a b => lt b a = true)) :
    L.Pairwise (fun a b => S a → S b ∧ lt b a = true) := by
  refine pairwise_of_isChain (fun a ha b hb c hc' hab hbc hSa => ?_)
    (hc.imp_of_mem_imp fun a b ha hb hba hSa =>
      ⟨h.mem_class_of_before (hL b hb) (hL a ha) hSa hba, hba⟩)
  obtain ⟨hSb, hba⟩ := hab hSa
  obtain ⟨hSc, hcb⟩ := hbc hSb
  exact ⟨hSc, hw.before_trans (hL c hc') (hL b hb) (hL a ha) hSc hSb hSa hcb hba⟩

variable {p : α → Bool}

/-- A descending chain holds at most one tie, so reversing it keeps its ties in order. -/
theorem filter_reverse_of_descending (h : PutsFirst lt l S) (hw : StrictWeakOn lt l S)
    (hp : TiesOn lt l S p) {L : List α} (hL : ∀ a ∈ L, a ∈ l)
    (hc : L.IsChain (fun a b => lt b a = true)) : L.reverse.filter p = L.filter p := by
  have hnone : (L.filter p).Pairwise (fun _ _ => False) :=
    ((h.pairwise_of_descending hw hL hc).filter p).imp_of_mem fun {a b} ha hb hab => by
      obtain ⟨haL, hpa⟩ := List.mem_filter.mp ha
      obtain ⟨hbL, hpb⟩ := List.mem_filter.mp hb
      have hba := (hab (hp.mem_class a (hL a haL) hpa)).2
      rw [hp.not_before b (hL b hbL) a (hL a haL) hpb hpa] at hba
      cases hba
  rw [List.filter_reverse]
  rcases hf : L.filter p with _ | ⟨a, _ | ⟨b, t⟩⟩
  · rfl
  · rfl
  · rw [hf] at hnone
    exact ((List.pairwise_cons.mp hnone).1 b (by simp)).elim

/-- The leading run and the rest hold the ties of the list in order. -/
theorem leadingRun_filter (h : PutsFirst lt l S) (hw : StrictWeakOn lt l S) (hp : TiesOn lt l S p) :
    (leadingRun lt l).1.filter p ++ (leadingRun lt l).2.filter p = l.filter p := by
  match l with
  | [] => rfl
  | [a] => simp
  | a :: b :: rest =>
    have hD := @descendingFrom_append _ lt b rest
    rw [leadingRun_cons_cons]
    split
    · -- a descending run, reversed
      rename_i hba
      have hL : ∀ y ∈ a :: b :: (descendingFrom lt b rest).1, y ∈ a :: b :: rest := by
        intro y hy
        rw [← hD]
        simp only [List.mem_cons, List.mem_append] at hy ⊢
        tauto
      rw [filter_reverse_of_descending h hw hp hL
        (List.isChain_cons_cons.mpr ⟨hba, descendingFrom_isChain b rest⟩), ← List.filter_append]
      simp only [List.cons_append, hD]
    · simp only [← List.filter_append, List.cons_append, ascendingFrom_append]

theorem insertAll_filter (h : PutsFirst lt l S) (hw : StrictWeakOn lt l S) (hp : TiesOn lt l S p) :
    ∀ {s : Array α} {rest : List α}, (∀ y ∈ s.toList ++ rest, y ∈ l) →
      s.toList.Pairwise (Arranged lt S) →
      (insertAll lt s rest).toList.filter p = s.toList.filter p ++ rest.filter p
  | _, [], _, _ => by simp
  | s, x :: xs, hl, hs => by
    have hsub : ∀ y ∈ s.toList, y ∈ l := fun y hy => hl y (by simp [hy])
    have hx : x ∈ l := hl x (by simp)
    rw [insertAll_cons, insertAll_filter h hw hp (forall_mem_insert (insertAt_le (Nat.zero_le _)) hl)
      (insert_arranged h hsub hx hw hs), insert_filter h hsub hx hw hp hs, List.append_assoc,
      ← List.filter_append]
    rfl

/-- **Ties keep their order.** Sorting by an order that puts a class first and orders it weakly
keeps the ties of the class in the order of the list. -/
theorem insertionSort_filter (h : PutsFirst lt l S) (hw : StrictWeakOn lt l S)
    (hp : TiesOn lt l S p) : (insertionSort lt l).filter p = l.filter p := by
  have hrun := leadingRun_arranged h hw
  rw [insertionSort_eq, insertAll_filter h hw hp
    (fun y hy => (leadingRun_perm l).subset (by simpa using hy)) (by simpa using hrun)]
  simpa using leadingRun_filter h hw hp

end Classes

end AddonCatalog.Order
