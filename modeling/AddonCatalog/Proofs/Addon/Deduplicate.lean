import AddonCatalog.Proofs.Addon.Merge
import Mathlib.Data.List.Nodup

/-!
# Which entry a deduplication keeps

Deduplication keeps one entry per uid: the first entry of the uid's group once the group is
sorted by the ranking. The ranking is not transitive, since a version that cannot be read
ranks as equal to every other, yet what the sort keeps is fixed:

* `deduplicate_ok`: a deduplication returns whenever no version of its entries holds a
  number of more than `Number.maxDigits` digits. Past that limit reading the number fails,
  the failure is not caught, and the sort fails with it;
* `keys_groupByUid`: the groups, and so the entries kept, come in the order in which their
  uids first occur;
* `sort_compatible_first`: sorting a group puts every compatible entry before every
  incompatible one, whatever the versions;
* `head_insertionSort_eq_find`: when the versions of a group's winning class all read, the
  winner is the first entry of the class, in the order of the group, whose version no other
  entry of the class exceeds. Entries outside the class may have any versions.

`deduplicate_keeps_each_uid_once`, `compatible_entries_sort_first` and
`deduplicate_keeps_first_newest` state these for a whole deduplication.
-/

namespace AddonCatalog

open AddonCatalog.Order

open scoped List

/-! ### Returning within the digit limit -/

namespace Version

/-- Reading the text, and comparing what it reads, converts no number of more than
`Number.maxDigits` digits: reading does not stop on a long number, and the number of the
qualifier read fits. -/
def WithinDigitLimit (t : String) : Prop :=
  (∀ n, Version.parse t ≠ .error (.tooManyDigits n)) ∧ ∀ v, Version.parse t = .ok v → v.FitsDigits

theorem not_digitFailure {s t : String} (hs : WithinDigitLimit s) (ht : WithinDigitLimit t) :
    ¬ DigitFailure s t := by
  rintro (⟨n, hn⟩ | ⟨a, ha, ⟨n, hn⟩ | ⟨b, hb, -, hfit⟩⟩)
  · exact hs.1 n hn
  · exact ht.1 n hn
  · exact hfit.elim (· (hs.2 a ha)) (· (ht.2 b hb))

end Version

namespace Addon

/-- Two entries whose versions stay within the digit limit are always ranked. -/
theorem ranksBefore_eq_before {a b : Addon} (ha : Version.WithinDigitLimit a.version)
    (hb : Version.WithinDigitLimit b.version) : ranksBefore a b = .ok (before a b) := by
  cases hr : rank a b with
  | error e => exact absurd (rank_error_iff.mp ⟨e, hr⟩).2 (Version.not_digitFailure ha hb)
  | ok x =>
    have hok : ranksBefore a b = .ok (decide (x < 0)) := by simp [ranksBefore, hr, Except.map]
    rw [hok, agrees_before a b _ hok]

end Addon

section Limit

variable {g : List Addon}

theorem answersOn_ranksBefore (hg : ∀ a ∈ g, Version.WithinDigitLimit a.version) :
    AnswersOn Addon.ranksBefore Addon.before g := fun a ha b hb =>
  Addon.ranksBefore_eq_before (hg a ha) (hg b hb)

theorem groupWinner_eq (hg : ∀ a ∈ g, Version.WithinDigitLimit a.version) :
    groupWinner g = .ok (insertionSort Addon.before g).head? := by
  match g with
  | [] => rfl
  | [a] => rfl
  | a :: b :: rest =>
    simp only [groupWinner]
    rw [insertionSortM_eq_ok (answersOn_ranksBefore hg) fun _ hy => hy]
    rfl

theorem filterMapM_groupWinner_ok {gs : List (String × List Addon)}
    (h : ∀ g ∈ gs, ∀ a ∈ g.2, Version.WithinDigitLimit a.version) :
    ∃ r, gs.filterMapM (fun g => groupWinner g.2) = .ok r := by
  induction gs with
  | nil => exact ⟨[], rfl⟩
  | cons g gs ih =>
    obtain ⟨r, hr⟩ := ih fun g' hg' => h g' (.tail _ hg')
    rw [List.filterMapM_cons, groupWinner_eq (h g (.head _))]
    cases (insertionSort Addon.before g.2).head? with
    | none => exact ⟨r, hr⟩
    | some w => exact ⟨w :: r, by simp only [bind, Except.bind, hr]; rfl⟩

/-- A deduplication returns whenever no version of its entries meets the digit limit. -/
theorem deduplicate_ok {entries : List Addon}
    (h : ∀ a ∈ entries, Version.WithinDigitLimit a.version) : ∃ r, deduplicate entries = .ok r :=
  filterMapM_groupWinner_ok fun g hg a ha => by
    rw [(grouped_groupByUid entries).group_eq g hg] at ha
    exact h a (List.mem_of_mem_filter ha)

end Limit

/-! ### Groups in order of first occurrence -/

/-- The groups come in the order in which their uids first occur. -/
theorem keys_groupByUid (entries : List Addon) :
    (groupByUid entries).map (·.1) = (entries.map (·.uid)).eraseDups := by
  induction entries using List.reverseRecOn with
  | nil => rfl
  | append_singleton l a ih =>
    have hgroups : groupByUid (l ++ [a]) = addToGroup (groupByUid l) a := by
      simp [groupByUid, List.foldl_append]
    -- the uid of `a` opens a group exactly when it has not occurred before
    have hany : (groupByUid l).any (·.1 == a.uid) = (l.map (·.uid)).contains a.uid := by
      rw [Bool.eq_iff_iff, List.contains_iff_mem, List.any_eq_true, List.mem_map]
      simpa using (grouped_groupByUid l).mem_keys a.uid
    rw [hgroups, keys_addToGroup, hany, ih, List.map_append, List.eraseDups_append]
    by_cases hu : ∃ b ∈ l, b.uid = a.uid <;> simp [hu, List.removeAll, List.eraseDups_cons]

theorem deduplicate_uids_eq_eraseDups {entries r : List Addon} (h : deduplicate entries = .ok r) :
    r.map (·.uid) = (entries.map (·.uid)).eraseDups :=
  (deduplicate_uids h).trans (keys_groupByUid entries)

/-- **One entry per uid.** A deduplication returns whenever no version of its entries meets
the digit limit. Whenever it returns, it keeps one entry for each uid of its entries, in the
order in which the uids first occur, and each entry it keeps is one it was given. -/
theorem deduplicate_keeps_each_uid_once (entries : List Addon) :
    ((∀ a ∈ entries, Version.WithinDigitLimit a.version) → ∃ r, deduplicate entries = .ok r) ∧
    ∀ r, deduplicate entries = .ok r →
      (r.map (·.uid)).Nodup ∧ r.map (·.uid) = (entries.map (·.uid)).eraseDups ∧
        ∀ e ∈ r, e ∈ entries :=
  ⟨deduplicate_ok, fun _ h =>
    ⟨deduplicate_nodup h, deduplicate_uids_eq_eraseDups h, fun _ he => mem_of_mem_deduplicate h he⟩⟩

/-! ### Compatible entries first -/

/-- Sorting a group, whenever it returns, permutes the group and puts every compatible entry
before every incompatible one. -/
theorem sort_compatible_first {g s : List Addon} (h : insertionSortM Addon.ranksBefore g = .ok s) :
    s ~ g ∧ s.Pairwise (fun a b => b.compatible = true → a.compatible = true) := by
  rw [insertionSortM_ok Addon.agrees_before h]
  exact ⟨insertionSort_perm g, insertionSort_partitioned putsFirst_compatible⟩

/-- A uid with a compatible entry keeps a compatible one. -/
theorem deduplicate_keeps_compatible {entries r : List Addon} (h : deduplicate entries = .ok r)
    {a : Addon} (ha : a ∈ entries) (hc : a.compatible = true) :
    ∃ e ∈ r, e.uid = a.uid ∧ e.compatible = true := by
  obtain ⟨e, he, heu⟩ := List.mem_map.mp ((deduplicate_uid_mem_iff h).mpr ⟨a, ha, rfl⟩)
  refine ⟨e, he, heu, ?_⟩
  rw [compatible_of_head (head_of_mem_deduplicate h he), List.any_eq_true]
  exact ⟨a, List.mem_filter.mpr ⟨ha, by simp [heu]⟩, hc⟩

/-- **Compatible entries sort first.** Sorting a group by the ranking, with any versions,
returns whenever no version meets the digit limit; whenever it returns, it permutes the
group and puts every compatible entry before every incompatible one. Hence a deduplication,
which returns under the same condition, keeps a compatible entry for every uid that has one. -/
theorem compatible_entries_sort_first (g entries : List Addon) :
    (∀ s, insertionSortM Addon.ranksBefore g = .ok s →
      s ~ g ∧ s.Pairwise (fun a b => b.compatible = true → a.compatible = true)) ∧
    ((∀ a ∈ g, Version.WithinDigitLimit a.version) →
      ∃ s, insertionSortM Addon.ranksBefore g = .ok s) ∧
    ((∀ a ∈ entries, Version.WithinDigitLimit a.version) → ∃ r, deduplicate entries = .ok r) ∧
    ∀ r, deduplicate entries = .ok r → ∀ a ∈ entries, a.compatible = true →
      ∃ e ∈ r, e.uid = a.uid ∧ e.compatible = true :=
  ⟨fun _ => sort_compatible_first,
    fun hg => ⟨_, insertionSortM_eq_ok (answersOn_ranksBefore hg) fun _ hy => hy⟩,
    deduplicate_ok, fun _ h _ => deduplicate_keeps_compatible h⟩

/-! ### The first newest entry of the winning class -/

/-- The entries a group's winner is chosen from: its compatible entries, or all of them when
none is compatible. -/
def winningClass (g : List Addon) : List Addon :=
  if g.any (·.compatible) then g.filter (·.compatible) else g

/-- Whether no entry of `W` has a newer version than `a`, in the order of versions. -/
def newestIn (W : List Addon) (a : Addon) : Bool :=
  W.all fun b => match Version.parse a.version, Version.parse b.version with
    | .ok va, .ok vb => vb.compare va != .gt
    | _, _ => true

/-- Whether `a` is in the winning class of `g` with a version no entry of the class exceeds. -/
def newestOfClass (g : List Addon) (a : Addon) : Bool :=
  (a.compatible || !g.any (·.compatible)) && newestIn (winningClass g) a

section Newest

variable {g : List Addon} {a : Addon}

theorem winning_iff : Winning g a ↔ (a.compatible || !g.any (·.compatible)) = true := by
  simp [Winning]

theorem mem_winningClass : a ∈ winningClass g ↔ a ∈ g ∧ Winning g a := by
  unfold winningClass
  split
  · rename_i hany
    obtain ⟨c, hc, hcc⟩ := List.any_eq_true.mp hany
    -- some entry is compatible, so the class holds exactly the compatible ones
    simp only [List.mem_filter, Winning]
    exact and_congr_right fun _ => ⟨.inl, fun h => h.resolve_right fun hall => by simp [hall c hc] at hcc⟩
  · rename_i hany
    simp only [Bool.not_eq_true, List.any_eq_false] at hany
    exact ⟨fun ha => ⟨ha, .inr fun b hb => by simpa using hany b hb⟩, (·.1)⟩

theorem find?_winningClass (W : List Addon) :
    (winningClass g).find? (newestIn W) =
      g.find? fun a => (a.compatible || !g.any (·.compatible)) && newestIn W a := by
  unfold winningClass
  split
  · rename_i hany
    rw [List.find?_filter]
    congr 1
    funext x
    simp [hany]
  · rename_i hany
    congr 1
    funext x
    simp [hany]

theorem newestIn_iff {W : List Addon} {va : Version} (ha : Version.parse a.version = .ok va) :
    newestIn W a = true ↔ ∀ b ∈ W, ∀ vb, Version.parse b.version = .ok vb → vb.compare va ≠ .gt := by
  simp only [newestIn, List.all_eq_true]
  refine forall₂_congr fun b _ => ?_
  cases hb : Version.parse b.version <;> simp [ha]

variable (hparse : ∀ a ∈ winningClass g, ∃ v, Version.parse a.version = .ok v)
include hparse

theorem parse_of_winning : ∀ a ∈ g, Winning g a → ∃ v, Version.parse a.version = .ok v :=
  fun a ha hS => hparse a (mem_winningClass.mpr ⟨ha, hS⟩)

/-- The entries `newestOfClass` picks are ties of the winning class under the ranking. -/
theorem tiesOn_newestOfClass : TiesOn Addon.before g (Winning g) (newestOfClass g) where
  mem_class a _ hp := winning_iff.mpr (Bool.and_eq_true_iff.mp hp).1
  not_before a ha b hb hpa hpb := by
    have hSa := winning_iff.mpr (Bool.and_eq_true_iff.mp hpa).1
    have hSb := winning_iff.mpr (Bool.and_eq_true_iff.mp hpb).1
    obtain ⟨va, hva⟩ := parse_of_winning hparse a ha hSa
    obtain ⟨vb, hvb⟩ := parse_of_winning hparse b hb hSb
    -- `b` is newest, so `a`'s version is not above it
    have hle := ((newestIn_iff hvb).mp (Bool.and_eq_true_iff.mp hpb).2) a
      (mem_winningClass.mpr ⟨ha, hSa⟩) va hva
    rw [before_eq_false_iff (Winning.compatible_eq ha hb hSa hSb) hva hvb]
    exact Ordering.isLE_iff_ne_gt.mpr hle

/-- The winner of a group is in its winning class, with a version no entry of the class
exceeds. -/
theorem newestOfClass_head {w : Addon} (hw : (insertionSort Addon.before g).head? = some w) :
    newestOfClass g w = true := by
  have hwg := head?_insertionSort_mem hw
  have hSw := winning_of_head hw
  obtain ⟨vw, hvw⟩ := parse_of_winning hparse w hwg hSw
  refine Bool.and_eq_true_iff.mpr ⟨winning_iff.mp hSw, (newestIn_iff hvw).mpr fun b hb vb hvb => ?_⟩
  obtain ⟨hbg, hSb⟩ := mem_winningClass.mp hb
  have hbw := before_head_eq_false hw (parse_of_winning hparse) b hbg hSb
  rw [before_eq_false_iff (Winning.compatible_eq hbg hwg hSb hSw) hvb hvw] at hbw
  exact Ordering.isLE_iff_ne_gt.mp hbw

/-- When the versions of a group's winning class all read, the sorted group starts with the
first entry of the class, in the order of the group, whose version no entry of the class
exceeds. -/
theorem head_insertionSort_eq_find :
    (insertionSort Addon.before g).head? = (winningClass g).find? (newestIn (winningClass g)) := by
  have hstable := insertionSort_filter putsFirst_winning (strictWeakOn_winning (parse_of_winning hparse))
    (tiesOn_newestOfClass hparse)
  rw [find?_winningClass, ← List.head?_filter]
  change _ = (g.filter (newestOfClass g)).head?
  cases hs : insertionSort Addon.before g with
  | nil =>
    have hg : g = [] := by simpa [hs] using (@insertionSort_perm _ Addon.before g).symm
    simp [hg]
  | cons w t =>
    have hw : newestOfClass g w = true := newestOfClass_head hparse (by rw [hs]; rfl)
    rw [hs, List.filter_cons_of_pos hw] at hstable
    rw [← hstable]
    rfl

end Newest

/-- The entry kept for a uid is the only entry of the list with that uid. -/
theorem find?_uid_eq {r : List Addon} (hr : (r.map (·.uid)).Nodup) {e : Addon} (he : e ∈ r) :
    r.find? (·.uid == e.uid) = some e := by
  cases hf : r.find? (·.uid == e.uid) with
  | none => exact (List.find?_eq_none.mp hf e he (by simp)).elim
  | some x =>
    have hxu : x.uid = e.uid := by simpa using List.find?_some hf
    rw [List.inj_on_of_nodup_map hr (List.mem_of_find?_eq_some hf) he hxu]

/-- **The first newest entry wins.** A deduplication returns whenever no version of its
entries meets the digit limit. Whenever it returns, for every uid whose winning class (the
compatible entries of the uid, or all of them when none is compatible) has versions that all
read, the entry it keeps for the uid is the first entry of the class, in the order of the
list, whose version no entry of the class exceeds; entries outside the class may have any
versions. -/
theorem deduplicate_keeps_first_newest (entries : List Addon) :
    ((∀ a ∈ entries, Version.WithinDigitLimit a.version) → ∃ r, deduplicate entries = .ok r) ∧
    ∀ r, deduplicate entries = .ok r → ∀ u,
      (∀ a ∈ winningClass (entries.filter (·.uid == u)), ∃ v, Version.parse a.version = .ok v) →
      r.find? (·.uid == u) =
        (winningClass (entries.filter (·.uid == u))).find?
          (newestIn (winningClass (entries.filter (·.uid == u)))) := by
  refine ⟨deduplicate_ok, fun r h u hparse => ?_⟩
  by_cases hu : ∃ e ∈ r, e.uid = u
  · obtain ⟨e, he, rfl⟩ := hu
    rw [find?_uid_eq (deduplicate_nodup h) he, ← head_of_mem_deduplicate h he]
    exact head_insertionSort_eq_find hparse
  · -- the uid has no entry, so its group and its class are empty
    have hnone : entries.filter (·.uid == u) = [] := List.filter_eq_nil_iff.mpr fun a ha hau =>
      hu (List.mem_map.mp ((deduplicate_uid_mem_iff h).mpr ⟨a, ha, by simpa using hau⟩))
    rw [hnone, List.find?_eq_none.mpr fun e he heu => hu ⟨e, he, by simpa using heu⟩]
    rfl

end AddonCatalog
