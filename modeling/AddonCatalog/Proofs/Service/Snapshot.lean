import AddonCatalog.Proofs.Service.Logic
import AddonCatalog.Proofs.Addon.Merge

/-!
# Published snapshots are well formed

A reconciliation publishes the merged addon list as the service's snapshot; everything else
the service does leaves the snapshot alone, or runs a reconciliation of its own, however deeply
reconciliations, repairs, lookups and installs call one another.

* `Snapshot.WellFormed`: no two addons of a snapshot share a uid, and the snapshot shows as
  installed exactly the uids of its installed addons;
* `wellFormedAt`: at every depth, each service operation keeps every published snapshot well
  formed, by induction on the depth, one lemma per operation;
* `Step`, `published_snapshot_uids_distinct`: along any run of requests, background jobs and
  outside changes, every published snapshot is well formed, and every list of addons the
  service answers holds no uid twice.
-/

namespace AddonCatalog

open WorldM

/-- A snapshot is well formed: no two of its addons share a uid, and it shows as installed
exactly the uids of its installed addons. -/
structure Snapshot.WellFormed (s : Snapshot) : Prop where
  uids_nodup : (s.addons.map (·.uid)).Nodup
  installedUids_eq : s.installedUids = (s.addons.filter (·.installed)).map (·.uid)

/-- Every snapshot the world has published is well formed. -/
def World.SnapshotWellFormed (w : World) : Prop := ∀ s ∈ w.service.snapshot, s.WellFormed

theorem WorldM.KeepsSnapshot.wellFormed {α : Type} {m : WorldM α} (h : KeepsSnapshot m) :
    Preserves World.SnapshotWellFormed m :=
  h.preserves fun o => ∀ s ∈ o, s.WellFormed

namespace Service

variable {α : Type}

/-! ### Operations that keep the snapshot -/

theorem keepsSnapshot_onHost (m : HostM α) : KeepsSnapshot (onHost m) :=
  keepsSnapshot_of_runOn fun w => by
    simp only [onHost, runOn_bind, runOn_get]
    obtain ⟨r, h⟩ := StateT.run (ExceptT.run m) w.host
    simp only [runOn_bind, runOn_set]
    cases r <;> rfl

theorem keepsSnapshot_onStore (f : RecordStore → Except Failure RecordStore) :
    KeepsSnapshot (onStore f) :=
  keepsSnapshot_of_runOn fun w => by
    simp only [onStore, runOn_bind, runOn_get]
    cases f w.service.store <;> rfl

theorem keepsSnapshot_service : KeepsSnapshot service :=
  keepsSnapshot_get.bind fun _ => keepsSnapshot_pure _

theorem keepsSnapshot_current : KeepsSnapshot current :=
  keepsSnapshot_service.bind fun _ => keepsSnapshot_pure _

theorem keepsSnapshot_loadPolicy : KeepsSnapshot loadPolicy :=
  keepsSnapshot_get.bind fun _ => by
    split <;> exact keepsSnapshot_pure _

theorem keepsSnapshot_isInstalled (uid : String) : KeepsSnapshot (isInstalled uid) :=
  keepsSnapshot_get.bind fun _ => keepsSnapshot_lift _

theorem keepsSnapshot_fetchCatalog (src : Catalog.Source) (timeout : Int × Int) :
    KeepsSnapshot (fetchCatalog src timeout) :=
  (keepsSnapshot_onHost _).bind fun _ => keepsSnapshot_lift _

theorem keepsSnapshot_fetchRemote : KeepsSnapshot fetchRemote := by
  refine keepsSnapshot_service.bind fun s => ?_
  split
  · exact keepsSnapshot_pure _
  · refine KeepsSnapshot.bind (keepsSnapshot_modifyService fun _ => rfl) fun _ => ?_
    split
    · exact keepsSnapshot_throw _
    · exact keepsSnapshot_pure _
  · exact keepsSnapshot_fetchCatalog _ _

theorem keepsSnapshot_remoteValue : KeepsSnapshot remoteValue := by
  refine keepsSnapshot_service.bind fun s => (keepsSnapshot_lift _).bind fun r => ?_
  split
  · exact KeepsSnapshot.bind (keepsSnapshot_modifyService fun _ => rfl) fun _ => keepsSnapshot_pure _
  · refine KeepsSnapshot.bind (keepsSnapshot_modifyService fun _ => rfl) fun _ =>
      keepsSnapshot_fetchRemote.attempt.bind fun _ => keepsSnapshot_service.bind fun _ => ?_
    exact KeepsSnapshot.bind (keepsSnapshot_modifyService fun _ => rfl) fun _ => keepsSnapshot_pure _

theorem keepsSnapshot_lookupRemote (uid : String) : KeepsSnapshot (lookupRemote uid) := by
  refine keepsSnapshot_service.bind fun s => ?_
  split
  · refine KeepsSnapshot.bind (keepsSnapshot_modifyService fun _ => rfl) fun _ => ?_
    split
    · exact keepsSnapshot_throw _
    · exact keepsSnapshot_pure _
  · exact (keepsSnapshot_fetchCatalog _ _).bind fun _ => keepsSnapshot_pure _
  · exact keepsSnapshot_pure _

theorem keepsSnapshot_installWith (name : String) (a : Addon) : KeepsSnapshot (installWith name a) := by
  refine keepsSnapshot_get.bind fun w => ?_
  split
  · exact (keepsSnapshot_modifyRegistry _).bind fun _ => keepsSnapshot_lift _
  · exact keepsSnapshot_onHost _
  · exact keepsSnapshot_pure _

theorem keepsSnapshot_uninstallWith (name : String) (a : Addon) :
    KeepsSnapshot (uninstallWith name a) := by
  refine keepsSnapshot_get.bind fun w => ?_
  split
  · exact (keepsSnapshot_modifyRegistry _).bind fun _ => keepsSnapshot_lift _
  · exact keepsSnapshot_onHost _
  · exact keepsSnapshot_pure _

theorem keepsSnapshot_handlerReports (name uid : String) : KeepsSnapshot (handlerReports name uid) := by
  refine keepsSnapshot_get.bind fun w => ?_
  split
  · exact keepsSnapshot_lift _
  · exact keepsSnapshot_pure _

theorem keepsSnapshot_emit (e : Event) : KeepsSnapshot (emit e) :=
  KeepsSnapshot.bind (keepsSnapshot_modifyService fun _ => rfl) fun _ => keepsSnapshot_pure _

theorem keepsSnapshot_purgeRecords : KeepsSnapshot purgeRecords :=
  keepsSnapshot_service.bind fun _ => (keepsSnapshot_lift _).bind fun _ =>
    (keepsSnapshot_forM fun _ _ => keepsSnapshot_onStore _).bind fun _ => keepsSnapshot_pure _

theorem keepsSnapshot_splitInstalled : ∀ found : List Addon, KeepsSnapshot (splitInstalled found)
  | [] => keepsSnapshot_pure _
  | a :: rest => (keepsSnapshot_isInstalled a.uid).bind fun _ =>
    (keepsSnapshot_splitInstalled rest).bind fun _ => keepsSnapshot_pure _

theorem keepsSnapshot_mergeEntriesM (installed remote : List Addon) (includeIncompatible : Bool)
    {check : String → WorldM Bool} (hc : ∀ u, KeepsSnapshot (check u)) :
    KeepsSnapshot (mergeEntriesM installed remote includeIncompatible check) := by
  refine (keepsSnapshot_mapM fun a _ => (hc a.uid).bind fun _ => keepsSnapshot_pure _).bind fun _ => ?_
  dsimp only
  split
  · exact keepsSnapshot_pure _
  · exact keepsSnapshot_throw _

theorem returns_mergeEntriesM (installed remote : List Addon) (includeIncompatible : Bool)
    (check : String → WorldM Bool) :
    Returns (mergeEntriesM installed remote includeIncompatible check) fun r => (r.map (·.uid)).Nodup := by
  refine Returns.bind (Q := fun _ => True) (fun _ _ _ => trivial) fun _ _ => ?_
  dsimp only
  split
  · rename_i h
    exact returns_pure (deduplicate_nodup h)
  · exact returns_throw _

theorem preserves_modifyService {g : ServiceState → ServiceState}
    (hg : ∀ s, (g s).snapshot = s.snapshot) : Preserves World.SnapshotWellFormed (modifyService g) :=
  (keepsSnapshot_modifyService hg).wellFormed

theorem preserves_publish {merged : List Addon} (h : (merged.map (·.uid)).Nodup) :
    Preserves World.SnapshotWellFormed
      (modifyService fun s => { s with snapshot := some (snapshotOf merged) }) :=
  preserves_modify fun _ _ s hs => by
    rw [← Option.mem_some_iff.mp hs]
    exact ⟨h, rfl⟩

/-! ### Reconciliation at every depth -/

/-- Each operation that may run a reconciliation, at depth `fuel`, keeps every published
snapshot well formed. -/
structure WellFormedAt (fuel : ℕ) : Prop where
  refreshSource : Preserves World.SnapshotWellFormed (refreshSource fuel)
  refreshQuietly : Preserves World.SnapshotWellFormed (refreshQuietly fuel)
  scheduleRepair : ∀ missing, Preserves World.SnapshotWellFormed (scheduleRepair fuel missing)
  submit : ∀ job, Preserves World.SnapshotWellFormed (submit fuel job)
  runJob : ∀ job, Preserves World.SnapshotWellFormed (runJob fuel job)
  repairOne : ∀ uid record, Preserves World.SnapshotWellFormed (repairOne fuel uid record)
  getAddon : ∀ uid, Preserves World.SnapshotWellFormed (getAddon fuel uid)
  installAddon : ∀ a, Preserves World.SnapshotWellFormed (installAddon fuel a)

section Succ

variable {n : ℕ} (ih : WellFormedAt n)
include ih

theorem preserves_refreshSource_succ : Preserves World.SnapshotWellFormed (refreshSource (n + 1)) := by
  simp only [refreshSource]
  refine preserves_get.bind fun w => ?_
  split
  · exact preserves_pure _
  refine keepsSnapshot_loadPolicy.wellFormed.bind fun policy => ?_
  refine keepsSnapshot_service.wellFormed.bind fun s => (preserves_lift _).bind fun records => ?_
  split
  · exact keepsSnapshot_purgeRecords.wellFormed.bind fun _ => preserves_pure _
  refine (keepsSnapshot_splitInstalled _).wellFormed.bind fun found => ?_
  refine (keepsSnapshot_forM fun _ _ => keepsSnapshot_onStore _).wellFormed.bind fun _ => ?_
  refine Preserves.ite_bind ?_ (preserves_pure _) fun remote => ?_
  · exact keepsSnapshot_remoteValue.attempt.wellFormed.bind fun _ => by
      split <;> exact preserves_pure _
  -- the merge publishes entries of distinct uids
  refine Preserves.bind_of_returns
    (keepsSnapshot_mergeEntriesM _ _ _ keepsSnapshot_isInstalled).wellFormed
    (returns_mergeEntriesM _ _ _ _) fun merged hnodup => ?_
  refine (preserves_publish hnodup).bind fun _ => ?_
  split
  · exact (ih.scheduleRepair _).bind fun _ => preserves_pure _
  · exact preserves_pure _

theorem preserves_refreshQuietly_succ :
    Preserves World.SnapshotWellFormed (refreshQuietly (n + 1)) :=
  ih.refreshSource.attempt.bind fun _ => preserves_pure _

theorem preserves_scheduleRepair_succ (missing : List Addon) :
    Preserves World.SnapshotWellFormed (scheduleRepair (n + 1) missing) := by
  simp only [scheduleRepair]
  refine keepsSnapshot_service.wellFormed.bind fun s => ?_
  refine Preserves.bind (preserves_modifyService fun _ => rfl) fun _ => ?_
  split
  · exact preserves_pure _
  refine (ih.submit _).bind fun accepted => ?_
  split
  · exact preserves_modifyService fun _ => rfl
  · exact preserves_pure _

theorem preserves_submit_succ (job : Job) : Preserves World.SnapshotWellFormed (submit (n + 1) job) := by
  simp only [submit]
  refine keepsSnapshot_service.wellFormed.bind fun s => ?_
  split
  · exact preserves_pure _
  split
  · exact (ih.runJob job).attempt.bind fun _ => preserves_pure _
  · exact Preserves.bind (preserves_modifyService fun _ => rfl) fun _ => preserves_pure _
  · exact preserves_pure _

theorem preserves_runJob_succ (job : Job) : Preserves World.SnapshotWellFormed (runJob (n + 1) job) := by
  cases job with
  | refresh => exact ih.refreshQuietly
  | repair stored => exact preserves_forM fun ⟨uid, record⟩ _ => ih.repairOne uid record

theorem preserves_repairOne_succ (uid : String) (record : Addon) :
    Preserves World.SnapshotWellFormed (repairOne (n + 1) uid record) := by
  simp only [repairOne]
  refine Preserves.bind (Preserves.attempt ?_) fun _ => preserves_modifyService fun _ => rfl
  refine keepsSnapshot_current.wellFormed.bind fun _ => ?_
  split
  · exact (ih.getAddon uid).bind fun _ => (ih.installAddon _).bind fun _ => preserves_pure _
  · exact preserves_pure _

theorem preserves_getAddon_succ (uid : String) :
    Preserves World.SnapshotWellFormed (getAddon (n + 1) uid) := by
  simp only [getAddon]
  refine keepsSnapshot_service.wellFormed.bind fun s => Preserves.ite_then ih.refreshQuietly ?_
  refine keepsSnapshot_current.wellFormed.bind fun cur => ?_
  split
  · exact preserves_pure _
  refine keepsSnapshot_loadPolicy.wellFormed.bind fun policy => ?_
  split
  · exact preserves_pure _
  refine keepsSnapshot_service.wellFormed.bind fun _ => ?_
  refine Preserves.bind (KeepsSnapshot.wellFormed (KeepsSnapshot.attempt ?_)) fun found => ?_
  · -- a remote lookup, by the source or through the cache
    split
    · exact keepsSnapshot_lookupRemote _
    · exact keepsSnapshot_remoteValue.bind fun _ => keepsSnapshot_pure _
  split
  · exact (keepsSnapshot_isInstalled _).wellFormed.bind fun _ => preserves_pure _
  · exact preserves_pure _

theorem preserves_installAddon_succ (a : Addon) :
    Preserves World.SnapshotWellFormed (installAddon (n + 1) a) := by
  simp only [installAddon]
  refine preserves_get.bind fun w => ?_
  split
  · exact (keepsSnapshot_emit _).wellFormed
  refine Preserves.bind (KeepsSnapshot.wellFormed (KeepsSnapshot.attempt ?_)) fun outcome => ?_
  · refine (keepsSnapshot_handlerReports _ _).bind fun _ => ?_
    split
    · exact keepsSnapshot_pure _
    · exact (keepsSnapshot_installWith _ _).bind fun _ =>
        (keepsSnapshot_onStore _).bind fun _ => keepsSnapshot_pure _
  split
  · exact (keepsSnapshot_emit _).wellFormed
  · exact (keepsSnapshot_emit _).wellFormed
  · exact Preserves.bind (preserves_modifyService fun _ => rfl) fun _ =>
      ih.refreshQuietly.bind fun _ => (keepsSnapshot_emit _).wellFormed

end Succ

theorem wellFormedAt_zero : WellFormedAt 0 where
  refreshSource := preserves_throw _
  refreshQuietly := preserves_pure _
  scheduleRepair _ := preserves_pure _
  submit _ := preserves_pure _
  runJob _ := preserves_pure _
  repairOne _ _ := preserves_pure _
  getAddon _ := preserves_pure _
  installAddon _ := (keepsSnapshot_emit _).wellFormed

theorem WellFormedAt.succ {n : ℕ} (ih : WellFormedAt n) : WellFormedAt (n + 1) :=
  ⟨preserves_refreshSource_succ ih, preserves_refreshQuietly_succ ih,
    preserves_scheduleRepair_succ ih, preserves_submit_succ ih, preserves_runJob_succ ih,
    preserves_repairOne_succ ih, preserves_getAddon_succ ih, preserves_installAddon_succ ih⟩

/-- At every depth, every operation that may run a reconciliation keeps every published
snapshot well formed. -/
theorem wellFormedAt : ∀ fuel, WellFormedAt fuel
  | 0 => wellFormedAt_zero
  | n + 1 => (wellFormedAt n).succ

/-! ### Requests -/

section Requests

variable (fuel : ℕ)

theorem preserves_getAddons : Preserves World.SnapshotWellFormed (getAddons fuel) :=
  (wellFormedAt fuel).refreshQuietly.bind fun _ =>
    keepsSnapshot_current.wellFormed.bind fun _ => preserves_pure _

theorem preserves_getAddonRequest (uid : Json) :
    Preserves World.SnapshotWellFormed (getAddonRequest fuel uid) :=
  keepsSnapshot_service.wellFormed.bind fun _ => (preserves_lift _).bind fun u =>
    (wellFormedAt fuel).getAddon u

theorem preserves_install (uid : Json) : Preserves World.SnapshotWellFormed (install fuel uid) := by
  refine keepsSnapshot_service.wellFormed.bind fun _ => (preserves_lift _).bind fun u => ?_
  refine ((wellFormedAt fuel).getAddon u).attempt.bind fun found => ?_
  split
  · exact (wellFormedAt fuel).installAddon _
  · exact (keepsSnapshot_emit _).wellFormed

theorem preserves_uninstall (uid : Json) : Preserves World.SnapshotWellFormed (uninstall fuel uid) := by
  refine keepsSnapshot_service.wellFormed.bind fun _ => (preserves_lift _).bind fun u => ?_
  refine ((wellFormedAt fuel).getAddon u).attempt.bind fun found => ?_
  split
  · refine preserves_get.bind fun _ => ?_
    split
    · exact (keepsSnapshot_emit _).wellFormed
    refine Preserves.bind (KeepsSnapshot.wellFormed (KeepsSnapshot.attempt ?_)) fun outcome => ?_
    · refine (keepsSnapshot_handlerReports _ _).bind fun _ => ?_
      split
      · exact (keepsSnapshot_onStore _).bind fun _ => keepsSnapshot_pure _
      · exact (keepsSnapshot_uninstallWith _ _).bind fun _ =>
          (keepsSnapshot_onStore _).bind fun _ => keepsSnapshot_pure _
    split
    · exact (keepsSnapshot_emit _).wellFormed
    · exact (keepsSnapshot_emit _).wellFormed
    · exact Preserves.bind (preserves_modifyService fun _ => rfl) fun _ =>
        (wellFormedAt fuel).refreshQuietly.bind fun _ => (keepsSnapshot_emit _).wellFormed
  · exact (keepsSnapshot_emit _).wellFormed

theorem preserves_notifyListeners (name : String) :
    ∀ listeners, Preserves World.SnapshotWellFormed (notifyListeners fuel name listeners)
  | [] => preserves_pure _
  | .recorder _ :: rest =>
    (keepsSnapshot_modifyRegistry _).wellFormed.bind fun _ => preserves_notifyListeners name rest
  | .service :: rest =>
    ((wellFormedAt fuel).submit _).bind fun _ => preserves_notifyListeners name rest

theorem preserves_handlerReady (name : String) :
    Preserves World.SnapshotWellFormed (handlerReady fuel name) :=
  preserves_get.bind fun _ => preserves_notifyListeners fuel name _

theorem preserves_register (name : String) : Preserves World.SnapshotWellFormed (register fuel name) := by
  refine preserves_get.bind fun _ => ?_
  dsimp only
  split
  · exact preserves_pure _
  refine (keepsSnapshot_modifyRegistry _).wellFormed.bind fun _ => ?_
  split
  · split
    · exact preserves_handlerReady fuel name
    · exact preserves_pure _
  · exact preserves_pure _

theorem preserves_restoreArchive : Preserves World.SnapshotWellFormed (restoreArchive fuel) := by
  refine preserves_get.bind fun _ => ?_
  split
  · refine (keepsSnapshot_onHost _).wellFormed.bind fun _ =>
      (keepsSnapshot_modifyRegistry _).wellFormed.bind fun _ => ?_
    split
    · exact preserves_handlerReady fuel _
    · exact preserves_pure _
  · exact preserves_pure _

theorem preserves_runJobs : Preserves World.SnapshotWellFormed (runJobs fuel) :=
  keepsSnapshot_service.wellFormed.bind fun _ =>
    Preserves.bind (preserves_modifyService fun _ => rfl) fun _ =>
      (preserves_forM fun job _ => ((wellFormedAt fuel).runJob job).attempt.bind fun _ =>
        preserves_pure _).bind fun _ => preserves_pure _

end Requests

/-! ### Every reachable state -/

/-- One step in the life of a service: a request, a background job run whenever the caller
chooses, or a change made outside the service. An outside change may touch anything but the
published snapshot: the handlers and their answers, the files, the records, the remote
catalog, the policy, the clock, the queue. -/
inductive Step : World → World → Prop
  | refresh (fuel : ℕ) (w : World) : Step w ((refreshSource fuel).runOn w).2
  | getAddons (fuel : ℕ) (w : World) : Step w ((getAddons fuel).runOn w).2
  | getAddon (fuel : ℕ) (uid : Json) (w : World) : Step w ((getAddonRequest fuel uid).runOn w).2
  | install (fuel : ℕ) (uid : Json) (w : World) : Step w ((install fuel uid).runOn w).2
  | uninstall (fuel : ℕ) (uid : Json) (w : World) : Step w ((uninstall fuel uid).runOn w).2
  | handlerReady (fuel : ℕ) (name : String) (w : World) : Step w ((handlerReady fuel name).runOn w).2
  | register (fuel : ℕ) (name : String) (w : World) : Step w ((register fuel name).runOn w).2
  | restoreArchive (fuel : ℕ) (w : World) : Step w ((restoreArchive fuel).runOn w).2
  | runJobs (fuel : ℕ) (w : World) : Step w ((runJobs fuel).runOn w).2
  | runJob (fuel : ℕ) (job : Job) (w : World) : Step w ((runJob fuel job).runOn w).2
  | outside (w w' : World) (h : w'.service.snapshot = w.service.snapshot) : Step w w'

theorem Step.wellFormed {w w' : World} (h : Step w w') (hw : w.SnapshotWellFormed) :
    w'.SnapshotWellFormed := by
  cases h with
  | refresh fuel => exact (wellFormedAt fuel).refreshSource w hw
  | getAddons fuel => exact preserves_getAddons fuel w hw
  | getAddon fuel uid => exact preserves_getAddonRequest fuel uid w hw
  | install fuel uid => exact preserves_install fuel uid w hw
  | uninstall fuel uid => exact preserves_uninstall fuel uid w hw
  | handlerReady fuel name => exact preserves_handlerReady fuel name w hw
  | register fuel name => exact preserves_register fuel name w hw
  | restoreArchive fuel => exact preserves_restoreArchive fuel w hw
  | runJobs fuel => exact preserves_runJobs fuel w hw
  | runJob fuel job => exact (wellFormedAt fuel).runJob job w hw
  | outside _ _ h => exact fun s hs => hw s (h ▸ hs)

theorem wellFormed_of_reachable {w₀ w : World} (hrun : Relation.ReflTransGen Step w₀ w)
    (h₀ : w₀.SnapshotWellFormed) : w.SnapshotWellFormed := by
  induction hrun with
  | refl => exact h₀
  | tail _ hstep ih => exact hstep.wellFormed ih

theorem getAddons_uids_nodup {w : World} (hw : w.SnapshotWellFormed) {fuel : ℕ} {l : List Addon}
    (h : ((getAddons fuel).runOn w).1 = .ok l) : (l.map (·.uid)).Nodup := by
  have hw' := (wellFormedAt fuel).refreshQuietly w hw
  simp only [getAddons, runOn_bind] at h
  rcases hr : (refreshQuietly fuel).runOn w with ⟨_ | _, w'⟩
  · simp [hr] at h
  rw [hr] at h hw'
  simp only [current, service, runOn_bind, runOn_get, runOn_pure, Except.ok.injEq] at h
  subst h
  cases hs : w'.service.snapshot with
  | none => simp
  | some s => exact (hw' s hs).uids_nodup

end Service

end AddonCatalog
