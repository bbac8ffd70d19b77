import AddonCatalog.Proofs.Service.Cycle
/-!
# What a published list holds

A published reconciliation lists the stored addons that the handlers report installed,
then the remote entries of other uids, marked by the handlers, with each uid's winner kept
(`Published`, from the cycle's inversion). This module states what that list owes its
sources, and what stays the same when the sources list their entries in another order.

* `FollowsSources`: every entry is marked as the handlers report it; a stored addon
  reported installed is listed by a stored addon; unless incompatible entries are wanted,
  every entry is installed or compatible; every entry comes from a record or from the
  remote catalog, with only its installed flag set.
* `AgreeUpToOrder`: two lists have the same uids, with equal installed and compatible
  flags for each uid, and versions equal in the order of versions wherever the uid's
  winning class reads. Comparing the two version texts then answers equal, unless a
  qualifier's number has more digits than the limit of integer conversion, where the
  comparison fails.
-/

namespace AddonCatalog

open WorldM List

/-! ### The survivors of a cycle -/

namespace World

variable {w : World} {e : Addon}

theorem mem_installedEntries :
    e ∈ w.installedEntries ↔
      ∃ a ∈ w.recordAddons, w.reportsInstalled a.uid = true ∧ a.withInstalled true = e := by
  simp [installedEntries, and_assoc]

/-- A survivor is a stored addon that the handlers report installed, or a remote entry of
another uid marked by the handlers; unless incompatible entries are wanted, it is shown. -/
theorem mem_survivors :
    e ∈ w.survivors ↔
      ((∃ a ∈ w.recordAddons, w.reportsInstalled a.uid = true ∧ a.withInstalled true = e) ∨
        ∃ v ∈ w.remoteEntries, v.uid ∉ w.installedEntries.map (·.uid) ∧
          v.withInstalled (w.reportsInstalled v.uid) = e) ∧
      (w.policy.includeIncompatible = true ∨ e.shown = true) := by
  rw [survivors, mem_mergeInput, mem_installedEntries]

theorem installed_of_mem_installedEntries (he : e ∈ w.installedEntries) :
    e.installed = true := by
  obtain ⟨a, -, -, rfl⟩ := mem_installedEntries.mp he
  rfl

theorem recordAddons_perm {w₁ w₂ : World} {R₁ R₂ : List (Json × Json)}
    (h₁ : w₁.service.store.getAll = .ok R₁) (h₂ : w₂.service.store.getAll = .ok R₂) (hR : R₁ ~ R₂) :
    w₁.recordAddons ~ w₂.recordAddons := by
  simp only [recordAddons, h₁, h₂]
  exact Service.readRecords_perm hR

/-- Worlds whose reads agree up to order have survivors that agree up to order. -/
theorem survivors_perm {w₁ w₂ : World} (hrec : w₁.recordAddons ~ w₂.recordAddons)
    (hans : w₁.answer = w₂.answer) (hpol : w₁.policy = w₂.policy)
    (hremote : w₁.remoteAnswer ~ w₂.remoteAnswer) : w₁.survivors ~ w₂.survivors := by
  have hrep := reportsInstalled_eq hans
  have hinst : w₁.installedEntries ~ w₂.installedEntries := by
    unfold installedEntries
    rw [hrep]
    exact (hrec.filter _).map _
  have hrem : w₁.remoteEntries ~ w₂.remoteEntries := by
    unfold remoteEntries
    rw [hpol]
    split
    · exact hremote
    · exact .refl _
  unfold survivors
  rw [hpol, hrep]
  exact mergeInput_perm hinst hrem

end World

/-! ### What a published list owes its sources -/

/-- What the list of a published reconciliation owes its sources. -/
structure FollowsSources (w : World) (merged : List Addon) : Prop where
  /-- Every entry is marked as the handlers report it. -/
  installed_eq : ∀ e ∈ merged, w.answer e.uid = .ok e.installed
  /-- A stored addon that the handlers report installed is listed under its uid, by a stored
  addon marked installed: a remote entry never takes its place. -/
  installed_listed : ∀ a ∈ w.recordAddons, w.answer a.uid = .ok true →
    ∃ e ∈ merged, e.uid = a.uid ∧ ∃ a' ∈ w.recordAddons, e = a'.withInstalled true
  /-- Unless incompatible entries are wanted, every entry is installed or compatible. -/
  shown : w.policy.includeIncompatible = false →
    ∀ e ∈ merged, e.installed = true ∨ e.compatible = true
  /-- Every entry is a stored addon marked installed or, when the remote catalog is read, a
  remote entry with only its installed flag set. -/
  source : ∀ e ∈ merged, (∃ a ∈ w.recordAddons, e = a.withInstalled true) ∨
    (w.policy.remoteEnabled = true ∧ ∃ v ∈ w.remoteAnswer, e = v.withInstalled e.installed)

namespace Published

variable {w : World} {merged : List Addon} (hp : Published w merged)
include hp

theorem mem_survivors_of_mem {e : Addon} (he : e ∈ merged) : e ∈ w.survivors :=
  mem_of_mem_deduplicate hp.merged_eq he

theorem answer_eq_installed {e : Addon} (he : e ∈ merged) : w.answer e.uid = .ok e.installed := by
  rcases (World.mem_survivors.mp (hp.mem_survivors_of_mem he)).1 with
    ⟨a, ha, hrep, rfl⟩ | ⟨v, hv, hl, rfl⟩
  · -- a stored addon, kept because the handlers report it installed
    obtain ⟨b, hb⟩ := hp.recordsAnswered a ha
    rw [World.reportsInstalled_of_answer hb] at hrep
    simpa [hrep] using hb
  · -- a remote entry, marked by the handlers' answer
    obtain ⟨b, hb⟩ := hp.remoteAnswered v hv hl
    simp [World.reportsInstalled_of_answer hb, hb]

theorem installed_listed {a : Addon} (ha : a ∈ w.recordAddons) (hans : w.answer a.uid = .ok true) :
    ∃ e ∈ merged, e.uid = a.uid ∧ ∃ a' ∈ w.recordAddons, e = a'.withInstalled true := by
  have hin : a.withInstalled true ∈ w.installedEntries :=
    World.mem_installedEntries.mpr ⟨a, ha, World.reportsInstalled_of_answer hans, rfl⟩
  obtain ⟨e, he, hu, hi⟩ := installed_kept hp.merged_eq hin (.inr (by simp [Addon.shown]))
  obtain ⟨a', ha', -, rfl⟩ := World.mem_installedEntries.mp hi
  exact ⟨_, he, hu, a', ha', rfl⟩

theorem shown {e : Addon} (hinc : w.policy.includeIncompatible = false) (he : e ∈ merged) :
    e.installed = true ∨ e.compatible = true := by
  have hs := (World.mem_survivors.mp (hp.mem_survivors_of_mem he)).2
  simpa [hinc, Addon.shown] using hs

theorem source {e : Addon} (he : e ∈ merged) :
    (∃ a ∈ w.recordAddons, e = a.withInstalled true) ∨
      (w.policy.remoteEnabled = true ∧ ∃ v ∈ w.remoteAnswer, e = v.withInstalled e.installed) := by
  rcases (World.mem_survivors.mp (hp.mem_survivors_of_mem he)).1 with
    ⟨a, ha, -, rfl⟩ | ⟨v, hv, -, rfl⟩
  · exact .inl ⟨a, ha, rfl⟩
  · -- remote entries are read only when the policy enables them
    unfold World.remoteEntries at hv
    split at hv
    · exact .inr ⟨‹_›, v, hv, rfl⟩
    · simp at hv

theorem followsSources : FollowsSources w merged :=
  ⟨fun _ => hp.answer_eq_installed, fun _ => hp.installed_listed, fun hinc _ => hp.shown hinc,
    fun _ => hp.source⟩

end Published

/-! ### Two reconciliations of the same sources -/

/-- Two published lists that agree up to the order their sources listed the entries in:
the same uids, and for each uid the same installed and compatible flags; where every
version of the uid's winning class among the survivors reads, the two versions are equal
in the order of versions, and comparing their texts answers equal exactly when no
qualifier's number passes the digit limit. -/
structure AgreeUpToOrder (survivors l₁ l₂ : List Addon) : Prop where
  uids_perm : l₁.map (·.uid) ~ l₂.map (·.uid)
  installed_eq : ∀ e₁ ∈ l₁, ∀ e₂ ∈ l₂, e₁.uid = e₂.uid → e₁.installed = e₂.installed
  compatible_eq : ∀ e₁ ∈ l₁, ∀ e₂ ∈ l₂, e₁.uid = e₂.uid → e₁.compatible = e₂.compatible
  versions_equal : ∀ e₁ ∈ l₁, ∀ e₂ ∈ l₂, e₁.uid = e₂.uid →
    (∀ a ∈ survivors.filter (·.uid == e₁.uid), Winning (survivors.filter (·.uid == e₁.uid)) a →
      ∃ v, Version.parse a.version = .ok v) →
    ∃ v₁ v₂, Version.parse e₁.version = .ok v₁ ∧ Version.parse e₂.version = .ok v₂ ∧
      v₁.compare v₂ = .eq ∧
      (compareTexts (some e₁.version) (some e₂.version) = .ok ⟨.eq, none⟩ ↔ ¬ v₁.Overflows v₂)

/-- Deduplicating the same entries in any order keeps the same uids. -/
theorem deduplicate_uids_perm {l₁ l₂ r₁ r₂ : List Addon} (hp : l₁ ~ l₂)
    (h₁ : deduplicate l₁ = .ok r₁) (h₂ : deduplicate l₂ = .ok r₂) :
    r₁.map (·.uid) ~ r₂.map (·.uid) := by
  refine (List.perm_ext_iff_of_nodup (deduplicate_nodup h₁) (deduplicate_nodup h₂)).mpr
    fun u => ?_
  rw [deduplicate_uid_mem_iff h₁, deduplicate_uid_mem_iff h₂]
  simp only [hp.mem_iff]

/-- Two published cycles whose survivors agree up to order publish lists that agree up to
order. -/
theorem Published.agreeUpToOrder {w₁ w₂ : World} {l₁ l₂ : List Addon} (P₁ : Published w₁ l₁)
    (P₂ : Published w₂ l₂) (hs : w₁.survivors ~ w₂.survivors) :
    AgreeUpToOrder w₁.survivors l₁ l₂ := by
  refine ⟨deduplicate_uids_perm hs P₁.merged_eq P₂.merged_eq, fun e₁ he₁ e₂ he₂ hu => ?_,
    fun e₁ he₁ e₂ he₂ hu => (winners_agree hs P₁.merged_eq P₂.merged_eq he₁ he₂ hu).1,
    fun e₁ he₁ e₂ he₂ hu hparse => ?_⟩
  · -- both entries are survivors of the first world, where the entries of a uid share their flag
    exact installed_eq_of_uid_eq (fun _ ha => World.installed_of_mem_installedEntries ha)
      (P₁.mem_survivors_of_mem he₁) (hs.mem_iff.mpr (P₂.mem_survivors_of_mem he₂)) hu
  · obtain ⟨v₁, v₂, hv₁, hv₂, heq⟩ :=
      (winners_agree hs P₁.merged_eq P₂.merged_eq he₁ he₂ hu).2 hparse
    refine ⟨v₁, v₂, hv₁, hv₂, heq, ?_⟩
    rw [← heq]
    exact compareTexts_eq_iff hv₁ hv₂

/-! ### Published cycles -/

namespace Service

/-- The list of a published reconciliation follows its sources. -/
theorem published_entries_follow_sources {fuel : Nat} {w : World} {r : Reconciled}
    (h : ((refreshSource fuel).runOn w).1 = .ok r) (hpub : r.status = .published) :
    FollowsSources w r.addons :=
  (refreshSource_published h hpub).followsSources

/-- A binding of a sample catalog. -/
def sampleBinding (id : String) (compatible : Bool) : Addon :=
  { uid := "hub:binding:" ++ id, type := .binding, id := id, version := "1.0",
    compatible := compatible }

/-- Two compatible bindings. -/
def sampleCatalog : List Addon := [sampleBinding "a" true, sampleBinding "b" true]

/-- A world with no handlers and no records, whose remote catalog lists `remote`. -/
def remoteOnlyWorld (remote : List Addon) : World :=
  { service := { serviceId := "hub", store := .memory [], remote := .scripted remote none false,
                 cache := { ttl := .whole 900 } } }

theorem published_entries_follow_sources_remote :
    ((refreshSource 1).runOn (remoteOnlyWorld (sampleBinding "c" false :: sampleCatalog))).1 =
      .ok { status := .published, addons := sampleCatalog.map (·.withInstalled false) } ∧
    FollowsSources (remoteOnlyWorld (sampleBinding "c" false :: sampleCatalog))
      (sampleCatalog.map (·.withInstalled false)) :=
  have h :
      ((refreshSource 1).runOn (remoteOnlyWorld (sampleBinding "c" false :: sampleCatalog))).1 =
      .ok { status := .published, addons := sampleCatalog.map (·.withInstalled false) } := rfl
  ⟨h, published_entries_follow_sources h rfl⟩

/-- Two published reconciliations whose records and remote catalog differ only in order, with
the same handlers' answers and policy, publish lists that agree up to order. -/
theorem published_lists_agree_up_to_order {f₁ f₂ : Nat} {w₁ w₂ : World} {r₁ r₂ : Reconciled}
    (hrec : ∃ R₁ R₂, w₁.service.store.getAll = .ok R₁ ∧ w₂.service.store.getAll = .ok R₂ ∧ R₁ ~ R₂)
    (hans : w₁.answer = w₂.answer) (hpol : w₁.policy = w₂.policy)
    (hremote : w₁.remoteAnswer ~ w₂.remoteAnswer)
    (h₁ : ((refreshSource f₁).runOn w₁).1 = .ok r₁) (hp₁ : r₁.status = .published)
    (h₂ : ((refreshSource f₂).runOn w₂).1 = .ok r₂) (hp₂ : r₂.status = .published) :
    AgreeUpToOrder w₁.survivors r₁.addons r₂.addons := by
  obtain ⟨R₁, R₂, hg₁, hg₂, hR⟩ := hrec
  have hs := World.survivors_perm (World.recordAddons_perm hg₁ hg₂ hR) hans hpol hremote
  exact (refreshSource_published h₁ hp₁).agreeUpToOrder (refreshSource_published h₂ hp₂) hs

theorem published_lists_agree_up_to_order_reversed :
    ((refreshSource 1).runOn (remoteOnlyWorld sampleCatalog)).1 =
      .ok { status := .published, addons := sampleCatalog.map (·.withInstalled false) } ∧
    ((refreshSource 1).runOn (remoteOnlyWorld sampleCatalog.reverse)).1 =
      .ok { status := .published, addons := sampleCatalog.reverse.map (·.withInstalled false) } ∧
    AgreeUpToOrder (remoteOnlyWorld sampleCatalog).survivors
      (sampleCatalog.map (·.withInstalled false))
      (sampleCatalog.reverse.map (·.withInstalled false)) :=
  have h₁ : ((refreshSource 1).runOn (remoteOnlyWorld sampleCatalog)).1 =
      .ok { status := .published, addons := sampleCatalog.map (·.withInstalled false) } := rfl
  have h₂ : ((refreshSource 1).runOn (remoteOnlyWorld sampleCatalog.reverse)).1 =
      .ok { status := .published, addons := sampleCatalog.reverse.map (·.withInstalled false) } :=
    rfl
  have hremote : (remoteOnlyWorld sampleCatalog).remoteAnswer ~
      (remoteOnlyWorld sampleCatalog.reverse).remoteAnswer := (List.reverse_perm sampleCatalog).symm
  ⟨h₁, h₂, published_lists_agree_up_to_order ⟨[], [], by rfl, by rfl, .refl _⟩ (by rfl) (by rfl)
    hremote h₁ rfl h₂ rfl⟩

end Service

end AddonCatalog
