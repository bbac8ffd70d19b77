import AddonCatalog.Proofs.Order.InsertionSort
import AddonCatalog.Proofs.Version.Order
import Mathlib.Data.List.Forall2

/-!
# What merging keeps

Deduplication groups entries by uid and keeps the first entry of each group after
sorting it. The facts here hold whatever the ranking answers, and in particular for the
non-transitive ranking of entries whose versions cannot be read:

* `grouped_groupByUid`: grouping gives one group per uid that occurs, holding the
  entries of that uid in order;
* `groupWinner_ok`: the winner of a group is the first entry of the group sorted by
  `Addon.before`, an order that always answers and agrees with the ranking wherever the
  ranking answers;
* `deduplicate_nodup`, `mem_of_mem_deduplicate`: a deduplication keeps one entry per uid,
  each one it was given;
* `mergeInput`, `installed_kept`: the entries a merge deduplicates, and an installed entry
  is never displaced by a remote one;
* `compatible_of_head`, `before_head_eq_false`: the winner of a group belongs to its winning
  class (the compatible entries, if any), and when that class's versions all read, no entry
  of the class ranks before it;
* `winners_agree`: two merges of the same entries, in any order, keep for each uid winners
  of equal compatibility and, when the winning class's versions read, of equal versions.
-/

namespace AddonCatalog

open AddonCatalog.Order

open scoped List

/-! ### Grouping by uid -/

/-- The groups of a list of entries: one per uid that occurs, each holding the entries of
its uid in order. -/
structure Grouped (entries : List Addon) (groups : List (String × List Addon)) : Prop where
  keys_nodup : (groups.map (·.1)).Nodup
  mem_keys : ∀ u, u ∈ groups.map (·.1) ↔ ∃ a ∈ entries, a.uid = u
  group_eq : ∀ g ∈ groups, g.2 = entries.filter (·.uid == g.1)

theorem grouped_nil : Grouped [] [] := ⟨.nil, by simp, by simp⟩

theorem keys_addToGroup (groups : List (String × List Addon)) (a : Addon) :
    (addToGroup groups a).map (·.1) =
      if groups.any (·.1 == a.uid) then groups.map (·.1) else groups.map (·.1) ++ [a.uid] := by
  unfold addToGroup
  split
  · simp only [List.map_map]
    exact List.map_congr_left fun g _ => by by_cases hg : g.1 = a.uid <;> simp [hg]
  · simp

theorem Grouped.addToGroup {pre : List Addon} {groups : List (String × List Addon)}
    (h : Grouped pre groups) (a : Addon) : Grouped (pre ++ [a]) (addToGroup groups a) := by
  unfold AddonCatalog.addToGroup
  split
  · -- `a` joins the group of its uid
    rename_i hany
    have hkey : a.uid ∈ groups.map (·.1) := by
      obtain ⟨g, hg, hga⟩ := List.any_eq_true.mp hany
      exact List.mem_map.mpr ⟨g, hg, by simpa using hga⟩
    have hkeys : (groups.map fun g => if g.1 == a.uid then (g.1, g.2 ++ [a]) else g).map (·.1) =
        groups.map (·.1) := by
      simpa [AddonCatalog.addToGroup, hany] using keys_addToGroup groups a
    refine ⟨hkeys ▸ h.keys_nodup, fun u => ?_, fun g' hg' => ?_⟩
    · rw [hkeys, h.mem_keys]
      constructor
      · rintro ⟨b, hb, rfl⟩
        exact ⟨b, by simp [hb], rfl⟩
      · rintro ⟨b, hb, rfl⟩
        rcases List.mem_append.mp hb with hb | hb
        · exact ⟨b, hb, rfl⟩
        · rw [List.mem_singleton.mp hb]
          exact (h.mem_keys _).mp hkey
    · obtain ⟨⟨k, grp⟩, hg, rfl⟩ := List.mem_map.mp hg'
      have hgrp : grp = pre.filter (·.uid == k) := h.group_eq _ hg
      by_cases hka : k = a.uid
      · subst hka hgrp
        simp [List.filter_append]
      · have hak : (a.uid == k) = false := beq_false_of_ne fun he => hka he.symm
        simp [hka, hgrp, List.filter_append, hak]
  · -- `a` opens a group of its own
    rename_i hany
    have hkey : a.uid ∉ groups.map (·.1) := fun hk => by
      obtain ⟨g, hg, hga⟩ := List.mem_map.mp hk
      exact hany (List.any_eq_true.mpr ⟨g, hg, by simp [hga]⟩)
    have hpre : ∀ b ∈ pre, b.uid ≠ a.uid := fun b hb hba => hkey ((h.mem_keys _).mpr ⟨b, hb, hba⟩)
    refine ⟨?_, fun u => ?_, fun g hg => ?_⟩
    · rw [List.map_append]
      refine List.nodup_append.mpr ⟨h.keys_nodup, by simp, fun x hx y hy hxy => hkey ?_⟩
      rw [List.map_singleton, List.mem_singleton] at hy
      rwa [show a.uid = x by rw [hxy, hy]]
    · simp only [List.map_append, List.mem_append, h.mem_keys, List.map_cons, List.map_nil,
        List.mem_singleton]
      constructor
      · rintro (⟨b, hb, rfl⟩ | rfl)
        · exact ⟨b, .inl hb, rfl⟩
        · exact ⟨a, .inr rfl, rfl⟩
      · rintro ⟨b, hb | rfl, rfl⟩
        · exact .inl ⟨b, hb, rfl⟩
        · exact .inr rfl
    · rcases List.mem_append.mp hg with hg | hg
      · have hga : (a.uid == g.1) = false :=
          beq_false_of_ne fun he => hkey (he ▸ List.mem_map_of_mem hg)
        simp [h.group_eq g hg, List.filter_append, hga]
      · rw [List.mem_singleton.mp hg]
        have : pre.filter (·.uid == a.uid) = [] :=
          List.filter_eq_nil_iff.mpr fun b hb => by simpa using hpre b hb
        simp [List.filter_append, this]

theorem grouped_foldl {pre : List Addon} {groups : List (String × List Addon)}
    (h : Grouped pre groups) : ∀ rest : List Addon,
      Grouped (pre ++ rest) (rest.foldl AddonCatalog.addToGroup groups)
  | [] => by simpa using h
  | a :: rest => by
    have := grouped_foldl (h.addToGroup a) rest
    simpa using this

/-- Grouping by uid gives one group per uid, holding that uid's entries in order. -/
theorem grouped_groupByUid (entries : List Addon) : Grouped entries (groupByUid entries) := by
  simpa [groupByUid] using grouped_foldl grouped_nil entries


theorem Grouped.ne_nil {entries : List Addon} {groups : List (String × List Addon)}
    (h : Grouped entries groups) {g : String × List Addon} (hg : g ∈ groups) : g.2 ≠ [] := by
  obtain ⟨a, ha, hau⟩ := (h.mem_keys g.1).mp (List.mem_map_of_mem hg)
  rw [h.group_eq g hg]
  exact List.ne_nil_of_mem (List.mem_filter.mpr ⟨ha, by simp [hau]⟩)

theorem Grouped.uid_eq {entries : List Addon} {groups : List (String × List Addon)}
    (h : Grouped entries groups) {g : String × List Addon} (hg : g ∈ groups) {a : Addon}
    (ha : a ∈ g.2) : a.uid = g.1 := by
  rw [h.group_eq g hg] at ha
  simpa using (List.mem_filter.mp ha).2

/-! ### The winner of a group -/

namespace Addon

/-- The order the sort of a group follows: the ranking where it answers, and the order of
the versions where comparing them meets a number with too many digits. -/
def before (a b : Addon) : Bool :=
  match ranksBefore a b with
  | .ok c => c
  | .error _ =>
    match Version.parse a.version, Version.parse b.version with
    | .ok va, .ok vb => va.compare vb == .gt
    | _, _ => false

theorem agrees_before : Agrees ranksBefore before := fun a b c h => by
  simp [before, h]

variable {a b : Addon}

theorem before_of_compatible_ne (h : a.compatible ≠ b.compatible) : before a b = a.compatible := by
  cases hc : a.compatible <;> simp [before, ranksBefore, rank_of_compatible_ne h, hc, Except.map]

theorem before_of_parse (h : a.compatible = b.compatible) {va vb : Version}
    (ha : Version.parse a.version = .ok va) (hb : Version.parse b.version = .ok vb) :
    before a b = (va.compare vb == .gt) := by
  by_cases ho : va.Overflows vb
  · -- the ranking fails, and the versions decide
    obtain ⟨n, hn⟩ := compareTexts_of_overflows ha hb ho
    simp [before, ranksBefore, rank_of_texts_error h hn, Except.map, ha, hb]
  · simp only [before, ranksBefore, rank_of_texts_ordered h (compareTexts_of_not_overflows ha hb ho),
      Except.map]
    cases va.compare vb <;> decide

end Addon

theorem groupWinner_ok {g : List Addon} {o : Option Addon} (h : groupWinner g = .ok o) :
    o = (insertionSort Addon.before g).head? := by
  match g, h with
  | [], h => cases h; rfl
  | [a], h => cases h; rfl
  | a :: b :: rest, h =>
    simp only [groupWinner] at h
    cases hs : insertionSortM Addon.ranksBefore (a :: b :: rest) with
    | error e => simp [hs, Except.map] at h
    | ok r =>
      simp only [hs, Except.map, Except.ok.injEq] at h
      rw [← h, ← insertionSortM_ok Addon.agrees_before hs]

theorem head?_insertionSort_mem {g : List Addon} {w : Addon}
    (h : (insertionSort Addon.before g).head? = some w) : w ∈ g :=
  (insertionSort_perm g).subset (List.mem_of_head? h)

theorem head?_insertionSort_isSome {g : List Addon} (h : g ≠ []) :
    ((insertionSort Addon.before g).head?).isSome := by
  have hlen := (@insertionSort_perm _ Addon.before g).length_eq
  cases hs : insertionSort Addon.before g with
  | nil => simp [hs] at hlen; exact absurd (List.eq_nil_of_length_eq_zero hlen.symm) h
  | cons w t => rfl

/-! ### Deduplication -/

theorem filterMapM_groupWinner {gs : List (String × List Addon)} {r : List Addon}
    (hne : ∀ g ∈ gs, g.2 ≠ []) (h : gs.filterMapM (fun g => groupWinner g.2) = .ok r) :
    List.Forall₂ (fun g w => (insertionSort Addon.before g.2).head? = some w) gs r := by
  induction gs generalizing r with
  | nil => cases h; exact .nil
  | cons g gs ih =>
    rw [List.filterMapM_cons] at h
    obtain ⟨o, ho, h⟩ := except_bind_eq_ok.mp h
    have hsome := head?_insertionSort_isSome (hne g (by simp))
    rw [← groupWinner_ok ho] at hsome
    obtain ⟨w, rfl⟩ := Option.isSome_iff_exists.mp hsome
    obtain ⟨ws, hws, h⟩ := except_bind_eq_ok.mp h
    cases h
    exact .cons (groupWinner_ok ho).symm (ih (fun g' hg' => hne g' (by simp [hg'])) hws)

section Deduplicate

variable {entries r : List Addon} (h : deduplicate entries = .ok r)
include h

/-- A deduplication keeps, for each group, the first entry of the group sorted by
`Addon.before`. -/
theorem deduplicate_winners :
    List.Forall₂ (fun g w => (insertionSort Addon.before g.2).head? = some w)
      (groupByUid entries) r :=
  filterMapM_groupWinner (fun _ hg => (grouped_groupByUid entries).ne_nil hg) h

theorem deduplicate_uids : r.map (·.uid) = (groupByUid entries).map (·.1) := by
  have hw := (List.forall₂_and_left (p := fun g : String × List Addon => ∀ a ∈ g.2, a.uid = g.1)
    _ _).mpr ⟨fun g hg a ha => (grouped_groupByUid entries).uid_eq hg ha, deduplicate_winners h⟩
  have heq : List.Forall₂ (· = ·) ((groupByUid entries).map (·.1)) (r.map (·.uid)) := by
    rw [List.forall₂_map_left_iff, List.forall₂_map_right_iff]
    exact hw.imp fun g w ⟨hu, hgw⟩ => (hu w (head?_insertionSort_mem hgw)).symm
  rw [List.forall₂_eq_eq_eq] at heq
  exact heq.symm

/-- A deduplication keeps at most one entry of each uid. -/
theorem deduplicate_nodup : (r.map (·.uid)).Nodup :=
  deduplicate_uids h ▸ (grouped_groupByUid entries).keys_nodup

theorem exists_group_of_mem_deduplicate {w : Addon} (hw : w ∈ r) :
    ∃ g ∈ groupByUid entries, (insertionSort Addon.before g.2).head? = some w := by
  have hgw := deduplicate_winners h
  clear h
  generalize groupByUid entries = gs at hgw
  induction hgw with
  | nil => cases hw
  | cons hg _ ih =>
    rcases List.mem_cons.mp hw with rfl | hw
    · exact ⟨_, .head _, hg⟩
    · obtain ⟨g, hg', hgw'⟩ := ih hw
      exact ⟨g, .tail _ hg', hgw'⟩

/-- A deduplication keeps only entries it was given. -/
theorem mem_of_mem_deduplicate {w : Addon} (hw : w ∈ r) : w ∈ entries := by
  obtain ⟨g, hg, hgw⟩ := exists_group_of_mem_deduplicate h hw
  have hmem := head?_insertionSort_mem hgw
  rw [(grouped_groupByUid entries).group_eq g hg] at hmem
  exact List.mem_of_mem_filter hmem

end Deduplicate

/-! ### Merging installed and remote entries -/

/-- The entries a merge deduplicates: the installed entries, then the remote entries of the
other uids marked by the check, without the entries that are neither installed nor
compatible unless those are wanted. -/
def mergeInput (installed remote : List Addon) (includeIncompatible : Bool)
    (check : String → Bool) : List Addon :=
  let merged := installed ++ (remote.filter fun a => !(installed.map (·.uid)).contains a.uid).map
    fun a => a.withInstalled (check a.uid)
  if includeIncompatible then merged else merged.filter Addon.shown

section MergeInput

variable {installed remote : List Addon} {includeIncompatible : Bool} {check : String → Bool}

@[simp] theorem uid_withInstalled (a : Addon) (b : Bool) : (a.withInstalled b).uid = a.uid := rfl

@[simp] theorem installed_withInstalled (a : Addon) (b : Bool) : (a.withInstalled b).installed = b := rfl

@[simp] theorem compatible_withInstalled (a : Addon) (b : Bool) :
    (a.withInstalled b).compatible = a.compatible := rfl

@[simp] theorem version_withInstalled (a : Addon) (b : Bool) :
    (a.withInstalled b).version = a.version := rfl

theorem mem_mergeInput {e : Addon} :
    e ∈ mergeInput installed remote includeIncompatible check ↔
      (e ∈ installed ∨ ∃ v ∈ remote, v.uid ∉ installed.map (·.uid) ∧ v.withInstalled (check v.uid) = e) ∧
        (includeIncompatible = true ∨ e.shown = true) := by
  unfold mergeInput
  cases includeIncompatible <;> simp [and_assoc, or_and_right]

theorem mergeInput_perm {installed₁ installed₂ remote₁ remote₂ : List Addon}
    (hi : installed₁ ~ installed₂) (hr : remote₁ ~ remote₂) :
    mergeInput installed₁ remote₁ includeIncompatible check ~
      mergeInput installed₂ remote₂ includeIncompatible check := by
  have hlocal : (fun a : Addon => !(installed₁.map (·.uid)).contains a.uid) =
      fun a => !(installed₂.map (·.uid)).contains a.uid := by
    funext a
    rw [(hi.map _).contains_eq]
  have hmerged := hi.append ((hr.filter fun a => !(installed₂.map (·.uid)).contains a.uid).map
    fun a => a.withInstalled (check a.uid))
  unfold mergeInput
  rw [hlocal]
  cases includeIncompatible
  · exact hmerged.filter _
  · exact hmerged

/-- Entries of one uid in a merge share their installed flag, when the installed entries are
all marked installed. -/
theorem installed_eq_of_uid_eq (hl : ∀ a ∈ installed, a.installed = true) {e₁ e₂ : Addon}
    (h₁ : e₁ ∈ mergeInput installed remote includeIncompatible check)
    (h₂ : e₂ ∈ mergeInput installed remote includeIncompatible check) (hu : e₁.uid = e₂.uid) :
    e₁.installed = e₂.installed := by
  rcases (mem_mergeInput.mp h₁).1 with h₁ | ⟨v₁, _, hv₁, rfl⟩ <;>
    rcases (mem_mergeInput.mp h₂).1 with h₂ | ⟨v₂, _, hv₂, rfl⟩
  · rw [hl _ h₁, hl _ h₂]
  · exact absurd (List.mem_map_of_mem (f := (·.uid)) h₁) (by simpa [hu] using hv₂)
  · exact absurd (List.mem_map_of_mem (f := (·.uid)) h₂) (by simpa [← hu] using hv₁)
  · simp only [uid_withInstalled] at hu
    simp [hu]

section Merged

variable {r : List Addon} (h : deduplicate (mergeInput installed remote includeIncompatible check) = .ok r)
include h

/-- An installed entry that is shown keeps its uid in the merge, and an installed entry
of that uid is the one kept. -/
theorem installed_kept {a : Addon} (ha : a ∈ installed)
    (hs : includeIncompatible = true ∨ a.shown = true) : ∃ e ∈ r, e.uid = a.uid ∧ e ∈ installed := by
  have hin : a ∈ mergeInput installed remote includeIncompatible check :=
    mem_mergeInput.mpr ⟨.inl ha, hs⟩
  have hkey : a.uid ∈ r.map (·.uid) := by
    rw [deduplicate_uids h]
    exact ((grouped_groupByUid _).mem_keys _).mpr ⟨a, hin, rfl⟩
  obtain ⟨e, he, heu⟩ := List.mem_map.mp hkey
  refine ⟨e, he, heu, ?_⟩
  rcases (mem_mergeInput.mp (mem_of_mem_deduplicate h he)).1 with hi | ⟨v, _, hv, rfl⟩
  · exact hi
  · -- a remote entry never has the uid of an installed one
    exact absurd (List.mem_map_of_mem (f := (·.uid)) ha) (by simpa [← heu] using hv)

end Merged

end MergeInput

/-! ### The winning class of a group -/

theorem before_eq_false_iff {a b : Addon} (h : a.compatible = b.compatible) {va vb : Version}
    (ha : Version.parse a.version = .ok va) (hb : Version.parse b.version = .ok vb) :
    Addon.before a b = false ↔ (va.compare vb).isLE := by
  rw [Addon.before_of_parse h ha hb]
  cases va.compare vb <;> decide

/-- The entries of a group its winner is chosen from: the compatible ones, or all of them
when none is compatible. -/
def Winning (g : List Addon) (a : Addon) : Prop := a.compatible = true ∨ ∀ b ∈ g, b.compatible = false

section Group

variable {g : List Addon}

theorem Winning.compatible_eq {a b : Addon} (ha : a ∈ g) (hb : b ∈ g) (hSa : Winning g a)
    (hSb : Winning g b) : a.compatible = b.compatible := by
  rcases hSa with h | h <;> rcases hSb with h' | h'
  · rw [h, h']
  · simpa [h] using h' a ha
  · simpa [h'] using (h b hb).symm
  · rw [h a ha, h' b hb]

/-- The ranking puts the compatible entries first: each is before every incompatible entry,
and no incompatible entry is before it. -/
theorem putsFirst_compatible : PutsFirst Addon.before g (·.compatible = true) := by
  intro a _ b _ hSa hSb
  have hne : a.compatible ≠ b.compatible := by simp [hSa, hSb]
  exact ⟨by rw [Addon.before_of_compatible_ne hne, hSa],
    by rw [Addon.before_of_compatible_ne (Ne.symm hne)]; simpa using hSb⟩

/-- Sorting by `Addon.before` puts the winning class of a group first. -/
theorem putsFirst_winning : PutsFirst Addon.before g (Winning g) := by
  intro a ha b hb hSa hSb
  -- `b` is outside the class: some entry is compatible, and `b` is not
  simp only [Winning, not_or, not_forall, Bool.not_eq_false, exists_prop] at hSb
  obtain ⟨hbc, c, hc, hcc⟩ := hSb
  have hac : a.compatible = true := hSa.resolve_right fun hall => by simp [hall c hc] at hcc
  exact putsFirst_compatible a ha b hb hac (by simp [hbc])

/-- On a winning class whose versions all read, `Addon.before` is a strict weak order. -/
theorem strictWeakOn_winning (hparse : ∀ a ∈ g, Winning g a → ∃ v, Version.parse a.version = .ok v) :
    StrictWeakOn Addon.before g (Winning g) where
  asymm a ha b hb hSa hSb hab := by
    obtain ⟨va, hva⟩ := hparse a ha hSa
    obtain ⟨vb, hvb⟩ := hparse b hb hSb
    have hf := Winning.compatible_eq ha hb hSa hSb
    have hgt : va.compare vb = .gt := by
      simpa using mt (before_eq_false_iff hf hva hvb).mpr (by simp [hab])
    rw [before_eq_false_iff hf.symm hvb hva, @Std.OrientedCmp.eq_swap _ Version.compare _ vb va, hgt]
    rfl
  negTrans a ha b hb c hc hSa hSb hSc hab hbc := by
    obtain ⟨va, hva⟩ := hparse a ha hSa
    obtain ⟨vb, hvb⟩ := hparse b hb hSb
    obtain ⟨vc, hvc⟩ := hparse c hc hSc
    rw [before_eq_false_iff (Winning.compatible_eq ha hb hSa hSb) hva hvb] at hab
    rw [before_eq_false_iff (Winning.compatible_eq hb hc hSb hSc) hvb hvc] at hbc
    rw [before_eq_false_iff (Winning.compatible_eq ha hc hSa hSc) hva hvc]
    exact Std.TransCmp.isLE_trans hab hbc

variable {w : Addon} (hw : (insertionSort Addon.before g).head? = some w)
include hw

/-- The winner of a group belongs to its winning class. -/
theorem winning_of_head : Winning g w := by
  have hwg : w ∈ g := head?_insertionSort_mem hw
  by_cases hc : ∃ c ∈ g, c.compatible = true
  · -- the class is in front of the sorted group, so its head is in the class
    obtain ⟨c, hcg, hcc⟩ := hc
    obtain ⟨t, ht⟩ : ∃ t, insertionSort Addon.before g = w :: t := by
      cases hs : insertionSort Addon.before g with
      | nil => simp [hs] at hw
      | cons w' t => simp only [hs, List.head?_cons, Option.some.injEq] at hw; exact ⟨t, hw ▸ rfl⟩
    have hsorted := ht ▸ insertionSort_partitioned (l := g) putsFirst_winning
    rcases List.mem_cons.mp (ht ▸ (insertionSort_perm g).symm.subset hcg) with rfl | hct
    · exact .inl hcc
    · exact List.rel_of_pairwise_cons hsorted hct (.inl hcc)
  · exact .inr fun b hb => by simpa using fun h => hc ⟨b, hb, h⟩

/-- The winner of a group is compatible exactly when some entry of the group is. -/
theorem compatible_of_head : w.compatible = g.any (·.compatible) := by
  rcases winning_of_head hw with h | h
  · rw [h, eq_comm, List.any_eq_true]
    exact ⟨w, head?_insertionSort_mem hw, h⟩
  · rw [h w (head?_insertionSort_mem hw), eq_comm, List.any_eq_false]
    simpa using h

/-- When the versions of the winning class all read, no entry of the class ranks before
the winner. -/
theorem before_head_eq_false (hparse : ∀ a ∈ g, Winning g a → ∃ v, Version.parse a.version = .ok v) :
    ∀ b ∈ g, Winning g b → Addon.before b w = false := by
  obtain ⟨w', hw', _, hmax⟩ := insertionSort_head putsFirst_winning (strictWeakOn_winning hparse)
    (head?_insertionSort_mem hw) (winning_of_head hw)
  rw [hw] at hw'
  cases hw'
  exact hmax

end Group

/-! ### Two merges of the same entries -/

theorem deduplicate_uid_mem_iff {l r : List Addon} (h : deduplicate l = .ok r) {u : String} :
    u ∈ r.map (·.uid) ↔ ∃ a ∈ l, a.uid = u := by
  rw [deduplicate_uids h]
  exact (grouped_groupByUid l).mem_keys u

/-- The entry a deduplication keeps for a uid is the winner of that uid's entries. -/
theorem head_of_mem_deduplicate {l r : List Addon} (h : deduplicate l = .ok r) {e : Addon}
    (he : e ∈ r) : (insertionSort Addon.before (l.filter (·.uid == e.uid))).head? = some e := by
  obtain ⟨g, hg, hge⟩ := exists_group_of_mem_deduplicate h he
  have hG := grouped_groupByUid l
  rw [hG.uid_eq hg (head?_insertionSort_mem hge), ← hG.group_eq g hg]
  exact hge

theorem winning_iff_of_perm {g₁ g₂ : List Addon} (hp : g₁ ~ g₂) {a : Addon} :
    Winning g₁ a ↔ Winning g₂ a := by
  simp only [Winning, hp.mem_iff]

/-- Two deduplications of the same entries, in any order, keep winners of equal
compatibility for each uid; when the versions of the uid's winning class all read, the two
winners' versions are equal in the order of versions. -/
theorem winners_agree {l₁ l₂ r₁ r₂ : List Addon} (hp : l₁ ~ l₂) (h₁ : deduplicate l₁ = .ok r₁)
    (h₂ : deduplicate l₂ = .ok r₂) {e₁ e₂ : Addon} (he₁ : e₁ ∈ r₁) (he₂ : e₂ ∈ r₂)
    (hu : e₁.uid = e₂.uid) :
    e₁.compatible = e₂.compatible ∧
      ((∀ a ∈ l₁.filter (·.uid == e₁.uid), Winning (l₁.filter (·.uid == e₁.uid)) a →
          ∃ v, Version.parse a.version = .ok v) →
        ∃ v₁ v₂, Version.parse e₁.version = .ok v₁ ∧ Version.parse e₂.version = .ok v₂ ∧
          v₁.compare v₂ = .eq) := by
  have hw₁ := head_of_mem_deduplicate h₁ he₁
  have hw₂ := head_of_mem_deduplicate h₂ he₂
  rw [← hu] at hw₂
  -- the two groups of the uid hold the same entries
  have hg : l₁.filter (·.uid == e₁.uid) ~ l₂.filter (·.uid == e₁.uid) := hp.filter _
  refine ⟨by rw [compatible_of_head hw₁, compatible_of_head hw₂, hg.any_eq], fun hparse => ?_⟩
  have hparse₂ : ∀ a ∈ l₂.filter (·.uid == e₁.uid), Winning (l₂.filter (·.uid == e₁.uid)) a →
      ∃ v, Version.parse a.version = .ok v := fun a ha hS =>
    hparse a (hg.mem_iff.mpr ha) ((winning_iff_of_perm hg).mpr hS)
  have hm₁ := head?_insertionSort_mem hw₁
  have hm₂ := head?_insertionSort_mem hw₂
  have hS₁ := winning_of_head hw₁
  have hS₂ := winning_of_head hw₂
  obtain ⟨v₁, hv₁⟩ := hparse e₁ hm₁ hS₁
  obtain ⟨v₂, hv₂⟩ := hparse₂ e₂ hm₂ hS₂
  -- neither winner ranks before the other
  have hf := Winning.compatible_eq hm₁ (hg.mem_iff.mpr hm₂) hS₁ ((winning_iff_of_perm hg).mpr hS₂)
  have h₂₁ := before_head_eq_false hw₁ hparse e₂ (hg.mem_iff.mpr hm₂) ((winning_iff_of_perm hg).mpr hS₂)
  have h₁₂ := before_head_eq_false hw₂ hparse₂ e₁ (hg.mem_iff.mp hm₁) ((winning_iff_of_perm hg).mp hS₁)
  rw [before_eq_false_iff hf.symm hv₂ hv₁, @Std.OrientedCmp.eq_swap _ Version.compare _ v₂ v₁] at h₂₁
  rw [before_eq_false_iff hf hv₁ hv₂] at h₁₂
  refine ⟨v₁, v₂, hv₁, hv₂, ?_⟩
  revert h₁₂ h₂₁
  cases v₁.compare v₂ <;> decide

end AddonCatalog
