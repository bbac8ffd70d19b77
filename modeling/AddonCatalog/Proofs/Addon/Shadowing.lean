import AddonCatalog.Proofs.Addon.Deduplicate

/-!
# Installed entries shadow remote ones

A merge puts the installed entries first and adds the remote entries of the other uids,
each marked installed or not by a check. Unless incompatible entries are wanted, it then
drops the entries that are neither installed nor compatible, and it deduplicates the rest.
Shadowing is decided on uids before that filter, so an installed entry that the filter drops
still hides every remote entry of its uid.

* `mergeEntries_eq`: a merge whose check always answers deduplicates `mergeInput`;
* `candidates`: the entries a merge chooses from for one uid;
* `merge_shadows_remote_entries`: a merge returns whenever no version meets the digit
  limit; whenever it returns, an installed uid keeps an installed entry, any other uid keeps
  a remote entry marked by the check, and a uid is kept exactly when one of its candidates
  passes the filter.
-/

namespace AddonCatalog

/-- The entries a merge may keep for `u`: the installed entries of `u` when it has any, and
otherwise the remote entries of `u`, marked by the check. -/
def candidates (installed remote : List Addon) (check : String → Bool) (u : String) : List Addon :=
  if installed.any (·.uid == u) then installed.filter (·.uid == u)
  else (remote.filter (·.uid == u)).map fun a => a.withInstalled (check u)

section Merge

variable {installed remote : List Addon} {includeIncompatible : Bool} {check : String → Bool}

theorem mergeEntries_eq :
    mergeEntries installed remote includeIncompatible check =
      deduplicate (mergeInput installed remote includeIncompatible check) := by
  simp only [mergeEntries, mergeEntriesM, pure_bind, List.mapM_pure, mergeInput]
  cases deduplicate _ <;> rfl

theorem mem_candidates {u : String} {c : Addon} :
    c ∈ candidates installed remote check u ↔ c.uid = u ∧
      (c ∈ installed ∨ ∃ v ∈ remote, v.uid ∉ installed.map (·.uid) ∧ v.withInstalled (check v.uid) = c) := by
  unfold candidates
  split
  · rename_i hany
    obtain ⟨a, ha, hau⟩ := List.any_eq_true.mp hany
    simp only [List.mem_filter, beq_iff_eq]
    constructor
    · rintro ⟨hc, hcu⟩
      exact ⟨hcu, .inl hc⟩
    · rintro ⟨hcu, hc | ⟨v, -, hv, rfl⟩⟩
      · exact ⟨hc, hcu⟩
      · -- a remote entry of an installed uid is never added
        rw [uid_withInstalled] at hcu
        exact absurd (List.mem_map.mpr ⟨a, ha, by simpa [hcu] using hau⟩) hv
  · rename_i hany
    have hnone : ∀ a ∈ installed, a.uid ≠ u := by simpa using hany
    simp only [List.mem_map, List.mem_filter, beq_iff_eq]
    constructor
    · rintro ⟨v, ⟨hv, rfl⟩, rfl⟩
      exact ⟨rfl, .inr ⟨v, hv, by simpa using hnone, rfl⟩⟩
    · rintro ⟨rfl, hc | ⟨v, hv, -, rfl⟩⟩
      · exact absurd rfl (hnone c hc)
      · exact ⟨v, ⟨hv, rfl⟩, rfl⟩

/-- An entry of `u` reaches the deduplication exactly when one of `u`'s candidates passes
the filter. -/
theorem exists_mergeInput_uid {u : String} :
    (∃ e ∈ mergeInput installed remote includeIncompatible check, e.uid = u) ↔
      ∃ c ∈ candidates installed remote check u, includeIncompatible = true ∨ c.shown = true := by
  simp only [mem_mergeInput, mem_candidates]
  constructor
  · rintro ⟨e, ⟨hsrc, hf⟩, rfl⟩
    exact ⟨e, ⟨rfl, hsrc⟩, hf⟩
  · rintro ⟨c, ⟨rfl, hsrc⟩, hf⟩
    exact ⟨c, ⟨hsrc, hf⟩, rfl⟩

/-- A merge returns whenever no version of its entries meets the digit limit. -/
theorem mergeEntries_ok (h : ∀ a ∈ installed ++ remote, Version.WithinDigitLimit a.version) :
    ∃ r, mergeEntries installed remote includeIncompatible check = .ok r := by
  rw [mergeEntries_eq]
  refine deduplicate_ok fun e he => ?_
  rcases (mem_mergeInput.mp he).1 with hi | ⟨v, hv, -, rfl⟩
  · exact h e (List.mem_append_left _ hi)
  · exact h v (List.mem_append_right _ hv)

variable {r : List Addon} (h : deduplicate (mergeInput installed remote includeIncompatible check) = .ok r)
include h

theorem mem_installed_of_uid {e : Addon} (he : e ∈ r) (hu : e.uid ∈ installed.map (·.uid)) :
    e ∈ installed := by
  rcases (mem_mergeInput.mp (mem_of_mem_deduplicate h he)).1 with hi | ⟨v, -, hv, rfl⟩
  · exact hi
  · exact absurd hu (by simpa using hv)

theorem eq_withInstalled_of_uid {e : Addon} (he : e ∈ r) (hu : e.uid ∉ installed.map (·.uid)) :
    ∃ v ∈ remote, v.uid ∉ installed.map (·.uid) ∧ e = v.withInstalled (check v.uid) := by
  rcases (mem_mergeInput.mp (mem_of_mem_deduplicate h he)).1 with hi | ⟨v, hv, hvu, rfl⟩
  · exact absurd (List.mem_map_of_mem hi) hu
  · exact ⟨v, hv, hvu, rfl⟩

theorem uid_mem_merge_iff {u : String} :
    u ∈ r.map (·.uid) ↔ (∃ c ∈ candidates installed remote check u, c.shown = true) ∨
      (includeIncompatible = true ∧ candidates installed remote check u ≠ []) := by
  rw [deduplicate_uid_mem_iff h, exists_mergeInput_uid]
  constructor
  · rintro ⟨c, hc, hinc | hs⟩
    · exact .inr ⟨hinc, List.ne_nil_of_mem hc⟩
    · exact .inl ⟨c, hc, hs⟩
  · rintro (⟨c, hc, hs⟩ | ⟨hinc, hne⟩)
    · exact ⟨c, hc, .inr hs⟩
    · obtain ⟨c, hc⟩ := List.exists_mem_of_ne_nil _ hne
      exact ⟨c, hc, .inl hinc⟩

end Merge

/-- **Installed entries shadow remote ones.** A merge returns whenever no version of its
entries meets the digit limit. Whenever it returns: every entry it keeps of an installed
uid is an installed entry, so no remote entry of that uid appears, whatever its version;
every other entry it keeps is a remote entry of a uid that is not installed, marked by the
check; and a uid is kept exactly when one of its candidates (its installed entries, or
else its marked remote entries) is installed or compatible, or incompatible entries are
wanted and it has a candidate at all. An installed uid whose entries are all dropped by the
filter is therefore not kept. -/
theorem merge_shadows_remote_entries (installed remote : List Addon) (includeIncompatible : Bool)
    (check : String → Bool) :
    ((∀ a ∈ installed ++ remote, Version.WithinDigitLimit a.version) →
      ∃ r, mergeEntries installed remote includeIncompatible check = .ok r) ∧
    ∀ r, mergeEntries installed remote includeIncompatible check = .ok r →
      (∀ e ∈ r, e.uid ∈ installed.map (·.uid) → e ∈ installed) ∧
      (∀ e ∈ r, e.uid ∉ installed.map (·.uid) →
        ∃ v ∈ remote, v.uid ∉ installed.map (·.uid) ∧ e = v.withInstalled (check v.uid)) ∧
      ∀ u, u ∈ r.map (·.uid) ↔ (∃ c ∈ candidates installed remote check u, c.shown = true) ∨
        (includeIncompatible = true ∧ candidates installed remote check u ≠ []) := by
  refine ⟨mergeEntries_ok, fun r hr => ?_⟩
  rw [mergeEntries_eq] at hr
  exact ⟨fun _ => mem_installed_of_uid hr, fun _ => eq_withInstalled_of_uid hr,
    fun _ => uid_mem_merge_iff hr⟩

end AddonCatalog
