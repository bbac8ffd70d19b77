import AddonCatalog.Proofs.Service.Logic
import AddonCatalog.Proofs.Order.InsertionSort
import Mathlib.Data.String.Basic
/-!
# Removing records from a store

The service removes records by text key: a record whose addon is missing, or every record
when one cannot be read. This module says what such removals leave, for both kinds of store.

* `RecordStore.withoutKeys`: the store without the records of some text keys, and
  `mem_getAll_withoutKeys`, which lists exactly the records whose key is none of them;
* `RecordStore.cleared`: the store with its namespace emptied; removing every key the store
  lists clears it (`withoutKeys_eq_cleared`);
* `RecordStore.keys_of_texts`: a store whose keys are texts answers its keys sorted;
* `WorldM.removeKeys_runOn`: removing keys one after another from the world's store changes
  the store alone.
-/

namespace AddonCatalog

open scoped List

namespace Json

/-- A key is the text key `k` exactly when it is that text. -/
@[simp] theorem sameKey_str_right {j : Json} {k : String} : sameKey j (.str k) = true ↔ j = .str k := by
  cases j <;> simp [sameKey, numericValue?]

end Json

namespace RecordStore

/-- The store without the records of the text keys `ks`; a store that cannot be opened stays
as it is. -/
def withoutKeys (st : RecordStore) (ks : List String) : RecordStore :=
  match st with
  | memory rs => memory (rs.filter fun p => !ks.any fun k => Json.sameKey p.1 (.str k))
  | table ns rows => table ns (rows.filter fun r => !(r.space == ns && ks.contains r.key))
  | unopenable path => unopenable path

/-- The store with every record of its own namespace removed: an empty dictionary, or the
table with the rows of the other namespaces. -/
def cleared : RecordStore → RecordStore
  | memory _ => memory []
  | table ns rows => table ns (rows.filter (·.space != ns))
  | unopenable path => unopenable path

variable {st : RecordStore} {R : List (Json × Json)} {ks : List String}

@[simp] theorem withoutKeys_nil : st.withoutKeys [] = st := by
  cases st <;> simp [withoutKeys]

theorem withoutKeys_withoutKeys (ks ks' : List String) :
    (st.withoutKeys ks).withoutKeys ks' = st.withoutKeys (ks ++ ks') := by
  cases st with
  | memory rs => simp [withoutKeys, List.filter_filter, List.any_append, Bool.not_or, Bool.and_comm]
  | table ns rows =>
    simp only [withoutKeys, List.filter_filter, List.contains_append, table.injEq, true_and]
    congr 1
    funext r
    cases r.space == ns <;> cases ks.contains r.key <;> cases ks'.contains r.key <;> rfl
  | unopenable path => rfl

theorem opens_of_getAll (h : st.getAll = .ok R) : ∀ path, st ≠ unopenable path := by
  rintro path rfl
  cases h

/-- Removing a text key from a store that opens drops the records of that key. -/
theorem remove_str (h : ∀ path, st ≠ unopenable path) (k : String) :
    st.remove (.str k) = .ok (st.withoutKeys [k]) := by
  cases st with
  | memory rs => simp [remove, withoutKeys, Json.hashable]
  | table ns rows =>
    simp [remove, RecordStore.bind, withoutKeys, dropKey]
    rfl
  | unopenable path => exact absurd rfl (h path)

/-- A record of the table's namespace, as the table lists it. -/
theorem mem_getAll_table {ns : String} {rows : List RecordRow} (h : (table ns rows).getAll = .ok R)
    (kv : Json × Json) : kv ∈ R ↔ ∃ r ∈ rows, r.space = ns ∧ kv = (.str r.key, textValue r.value) := by
  simp only [getAll, Except.ok.injEq] at h
  subst h
  simp only [List.mem_map, List.mem_mergeSort, List.mem_filter, beq_iff_eq, Prod.exists]
  constructor
  · rintro ⟨k, v, ⟨r, ⟨hr, hns⟩, hkv⟩, rfl⟩
    obtain ⟨rfl, rfl⟩ := Prod.mk.inj hkv
    exact ⟨r, hr, hns, rfl⟩
  · rintro ⟨r, hr, hns, rfl⟩
    exact ⟨r.key, r.value, ⟨r, ⟨hr, hns⟩, rfl⟩, rfl⟩

/-- **What removal leaves.** After removing the text keys `ks`, the store lists exactly the
records it listed whose key is none of them. -/
theorem mem_getAll_withoutKeys (h : st.getAll = .ok R) :
    ∃ R', (st.withoutKeys ks).getAll = .ok R' ∧
      ∀ kv, kv ∈ R' ↔ kv ∈ R ∧ ∀ k ∈ ks, kv.1 ≠ .str k := by
  cases st with
  | memory rs =>
    simp only [getAll, Except.ok.injEq] at h
    subst h
    refine ⟨_, rfl, fun kv => ?_⟩
    simp [List.mem_filter]
  | table ns rows =>
    obtain ⟨R', hR'⟩ : ∃ R', ((table ns rows).withoutKeys ks).getAll = .ok R' := ⟨_, rfl⟩
    refine ⟨R', hR', fun kv => ?_⟩
    rw [withoutKeys] at hR'
    rw [mem_getAll_table hR', mem_getAll_table h]
    constructor
    · rintro ⟨r, hr, hns, rfl⟩
      simp only [List.mem_filter, hns, beq_self_eq_true, Bool.true_and, Bool.not_eq_eq_eq_not,
        Bool.not_true] at hr
      refine ⟨⟨r, hr.1, hns, rfl⟩, fun k hk heq => ?_⟩
      simp only [Json.str.injEq] at heq
      simp [heq, hk] at hr
    · rintro ⟨⟨r, hr, hns, rfl⟩, hks⟩
      refine ⟨r, List.mem_filter.mpr ⟨hr, ?_⟩, hns, rfl⟩
      simp only [hns, beq_self_eq_true, Bool.true_and, Bool.not_eq_eq_eq_not, Bool.not_true]
      simpa using fun hk => hks r.key hk rfl
  | unopenable path => cases h

theorem getAll_cleared (h : st.getAll = .ok R) : st.cleared.getAll = .ok [] := by
  cases st with
  | memory rs => rfl
  | table ns rows =>
    have hnone : ∀ r : RecordRow, (r.space == ns && r.space != ns) = false := fun r => by
      cases h : r.space == ns <;> simp [bne, h]
    simp [cleared, getAll, List.filter_filter, hnone]
  | unopenable path => cases h

/-- Removing every key a store lists empties its namespace. -/
theorem withoutKeys_eq_cleared (h : st.getAll = .ok R) (hk : ∀ kv ∈ R, ∃ k ∈ ks, kv.1 = .str k) :
    st.withoutKeys ks = st.cleared := by
  cases st with
  | memory rs =>
    simp only [getAll, Except.ok.injEq] at h
    subst h
    simp only [withoutKeys, cleared, memory.injEq, List.filter_eq_nil_iff, Bool.not_eq_eq_eq_not,
      Bool.not_true, Bool.not_eq_false, List.any_eq_true]
    intro kv hkv
    obtain ⟨k, hk, hkey⟩ := hk kv hkv
    exact ⟨k, hk, Json.sameKey_str_right.mpr hkey⟩
  | table ns rows =>
    simp only [withoutKeys, cleared, table.injEq, true_and]
    refine List.filter_congr fun r hr => ?_
    by_cases hns : r.space = ns
    · obtain ⟨k, hk, hkey⟩ := hk _ ((mem_getAll_table h _).mpr ⟨r, hr, hns, rfl⟩)
      simp only [Json.str.injEq] at hkey
      simp [hns, hkey, hk]
    · have hne : (r.space == ns) = false := by simpa using hns
      simpa [hne] using hns
  | unopenable path => cases h

end RecordStore

namespace Json

/-- The order of keys that sorting uses, with a question it cannot answer read as `false`. -/
def keyBefore (a b : Json) : Bool := (lessThan? a b).toOption.getD false

theorem answersOn_texts (ks : List String) :
    Order.AnswersOn lessThan? keyBefore (ks.map .str) := by
  intro a ha b hb
  obtain ⟨s, -, rfl⟩ := List.mem_map.mp ha
  obtain ⟨t, -, rfl⟩ := List.mem_map.mp hb
  rfl

theorem strictWeakOn_texts (ks : List String) :
    Order.StrictWeakOn keyBefore (ks.map .str) fun _ => True where
  asymm a ha b hb _ _ hab := by
    obtain ⟨s, -, rfl⟩ := List.mem_map.mp ha
    obtain ⟨t, -, rfl⟩ := List.mem_map.mp hb
    simp only [keyBefore, lessThan?, Except.toOption, Option.getD_some, decide_eq_true_eq,
      decide_eq_false_iff_not, not_lt] at hab ⊢
    exact hab.le
  negTrans a ha b hb c hc _ _ _ hab hbc := by
    obtain ⟨s, -, rfl⟩ := List.mem_map.mp ha
    obtain ⟨t, -, rfl⟩ := List.mem_map.mp hb
    obtain ⟨u, -, rfl⟩ := List.mem_map.mp hc
    simp only [keyBefore, lessThan?, Except.toOption, Option.getD_some,
      decide_eq_false_iff_not, not_lt] at hab hbc ⊢
    exact hbc.trans hab

end Json

namespace RecordStore

/-- **Text keys sort.** A store whose keys are texts answers its keys in sorted order. -/
theorem keys_of_texts {st : RecordStore} {R : List (Json × Json)} {ks : List String}
    (h : st.getAll = .ok R) (hk : R.map (·.1) = ks.map .str) :
    ∃ sorted : List String, sorted ~ ks ∧ sorted.Pairwise (· ≤ ·) ∧ st.keys = .ok (sorted.map .str) := by
  have hsort : st.keys = .ok (Order.insertionSort Json.keyBefore (ks.map .str)) := by
    rw [keys, h]
    show Order.insertionSortM Json.lessThan? (R.map (·.1)) = _
    rw [hk]
    exact Order.insertionSortM_eq_ok (Json.answersOn_texts ks) fun _ hy => hy
  set L := Order.insertionSort Json.keyBefore (ks.map .str) with hL
  have hperm : L ~ ks.map .str := Order.insertionSort_perm _
  have htext : ∀ j ∈ L, j = .str (j.str?.getD "") := fun j hj => by
    obtain ⟨s, -, rfl⟩ := List.mem_map.mp (hperm.subset hj)
    rfl
  have hmap : (L.map fun j => j.str?.getD "").map Json.str = L := by
    rw [List.map_map]
    exact (List.map_congr_left fun j hj => (htext j hj).symm).trans (List.map_id L)
  refine ⟨L.map fun j => j.str?.getD "", ?_, ?_, by rw [hmap]; exact hsort⟩
  · have hcomp : ((fun j : Json => j.str?.getD "") ∘ Json.str) = id := funext fun _ => rfl
    simpa [List.map_map, hcomp] using hperm.map fun j => j.str?.getD ""
  · have hput : Order.PutsFirst Json.keyBefore (ks.map Json.str) fun _ => True :=
      fun _ _ _ _ _ hb => absurd trivial hb
    have harr := Order.insertionSort_arranged hput (Json.strictWeakOn_texts ks)
    rw [← hL] at harr
    refine List.pairwise_map.mpr (harr.imp_of_mem fun {a b} ha hb hab => ?_)
    rw [htext a ha, htext b hb] at hab
    have hba := hab.2 trivial trivial
    simp only [Json.keyBefore, Json.lessThan?, Except.toOption, Option.getD_some,
      decide_eq_false_iff_not, not_lt] at hba
    exact hba

end RecordStore

namespace WorldM

theorem onStore_runOn_ok {f : RecordStore → Except Failure RecordStore} {w : World} {st : RecordStore}
    (h : f w.service.store = .ok st) : (onStore f).runOn w = (.ok (), w.withStore st) := by
  simp only [onStore, runOn_bind, runOn_get, h]
  rfl

@[simp] theorem withStore_withStore (w : World) (st st' : RecordStore) :
    (w.withStore st).withStore st' = w.withStore st' := rfl

@[simp] theorem withStore_store (w : World) (st : RecordStore) : (w.withStore st).service.store = st := rfl

@[simp] theorem withStore_self (w : World) : w.withStore w.service.store = w := rfl

/-- **Removing text keys one after another** from a store that opens removes their records and
changes nothing else. -/
theorem removeKeys_runOn {β : Type} (key : β → String) :
    ∀ (l : List β) (w : World), (∀ path, w.service.store ≠ .unopenable path) →
      (l.forM fun x => onStore (·.remove (.str (key x)))).runOn w =
        (.ok (), w.withStore (w.service.store.withoutKeys (l.map key)))
  | [], w, _ => by simp
  | x :: xs, w, hst => by
    show (onStore (·.remove (.str (key x))) >>= fun _ =>
      xs.forM fun x => onStore (·.remove (.str (key x)))).runOn w = _
    rw [runOn_bind, onStore_runOn_ok (RecordStore.remove_str hst (key x))]
    have hst' : ∀ path, (w.withStore (w.service.store.withoutKeys [key x])).service.store ≠ .unopenable path := by
      intro path
      cases hw : w.service.store with
      | unopenable p => exact absurd hw (hst p)
      | _ => simp [RecordStore.withoutKeys]
    dsimp only
    rw [removeKeys_runOn key xs _ hst']
    simp [RecordStore.withoutKeys_withoutKeys]

end WorldM

end AddonCatalog
