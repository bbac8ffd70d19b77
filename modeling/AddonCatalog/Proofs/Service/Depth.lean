import AddonCatalog.Proofs.Service.Frame
import AddonCatalog.Proofs.Service.Snapshot

/-!
# Invariants at every depth

Reconciliations, repairs, lookups and installs call one another, each one level of fuel
deeper. A property of worlds that each kind of step keeps is kept by all of them at every
depth:

* `StepInvariant f P`: `P` is read off a view `f` that the collaborators leave alone and
  that ignores the pending jobs, and publishing a snapshot of distinct uids and emitting an
  event keep `P`;
* `holdsAt`: then every operation that may reconcile keeps `P`, at every depth, by
  induction on the depth with one lemma per operation;
* `events_prefix_*`: the event log only grows.
-/

namespace AddonCatalog

open WorldM

namespace Service

variable {γ : Type} {f : World → γ} {P : World → Prop}

/-- A property of worlds that every kind of step of the service keeps. -/
structure StepInvariant (f : World → γ) (P : World → Prop) : Prop where
  untouched : Untouched f
  jobs : ∀ w r q, f (w.withJobs r q) = f w
  determined : ∀ w w', f w' = f w → P w → P w'
  publish : ∀ merged : List Addon, (merged.map (·.uid)).Nodup →
    Preserves P (modifyService fun s => { s with snapshot := some (snapshotOf merged) })
  emit : ∀ e, Preserves P (emit e)

theorem StepInvariant.keeps {α : Type} {m : WorldM α} (hI : StepInvariant f P) (h : Keeps f m) :
    Preserves P m :=
  h.preserves hI.determined

/-- Each operation that may run a reconciliation, at depth `fuel`, keeps `P`. -/
structure HoldsAt (P : World → Prop) (fuel : ℕ) : Prop where
  refreshSource : Preserves P (refreshSource fuel)
  refreshQuietly : Preserves P (refreshQuietly fuel)
  scheduleRepair : ∀ missing, Preserves P (scheduleRepair fuel missing)
  submit : ∀ job, Preserves P (submit fuel job)
  runJob : ∀ job, Preserves P (runJob fuel job)
  repairOne : ∀ uid record, Preserves P (repairOne fuel uid record)
  getAddon : ∀ uid, Preserves P (getAddon fuel uid)
  installAddon : ∀ a, Preserves P (installAddon fuel a)

section Succ

variable {n : ℕ} (hI : StepInvariant f P) (ih : HoldsAt P n)
include hI ih

theorem StepInvariant.refreshSource_succ : Preserves P (refreshSource (n + 1)) := by
  simp only [refreshSource]
  refine preserves_get.bind fun w => ?_
  split
  · exact preserves_pure _
  refine (hI.keeps keeps_loadPolicy).bind fun policy => ?_
  refine (hI.keeps keeps_service).bind fun s => (preserves_lift _).bind fun records => ?_
  split
  · exact (hI.keeps (keeps_purgeRecords hI.untouched)).bind fun _ => preserves_pure _
  refine (hI.keeps (keeps_splitInstalled _)).bind fun found => ?_
  refine (hI.keeps (keeps_forM fun _ _ => keeps_onStore hI.untouched _)).bind fun _ => ?_
  refine Preserves.ite_bind ?_ (preserves_pure _) fun remote => ?_
  · exact (hI.keeps (keeps_remoteValue hI.untouched)).attempt.bind fun _ => by
      split <;> exact preserves_pure _
  -- the merge publishes entries of distinct uids
  refine Preserves.bind_of_returns (hI.keeps (keeps_mergeEntriesM _ _ _))
    (returns_mergeEntriesM _ _ _ _) fun merged hnodup => ?_
  refine (hI.publish merged hnodup).bind fun _ => ?_
  split
  · exact (ih.scheduleRepair _).bind fun _ => preserves_pure _
  · exact preserves_pure _

omit hI in
theorem HoldsAt.refreshQuietly_succ : Preserves P (Service.refreshQuietly (n + 1)) :=
  ih.refreshSource.attempt.bind fun _ => preserves_pure _

theorem StepInvariant.scheduleRepair_succ (missing : List Addon) :
    Preserves P (scheduleRepair (n + 1) missing) := by
  simp only [scheduleRepair]
  refine (hI.keeps keeps_service).bind fun s => ?_
  refine (hI.keeps (keeps_modify fun w => hI.jobs w _ w.service.queue)).bind fun _ => ?_
  split
  · exact preserves_pure _
  refine (ih.submit _).bind fun accepted => ?_
  split
  · exact hI.keeps (keeps_modify fun w => hI.jobs w _ w.service.queue)
  · exact preserves_pure _

theorem StepInvariant.submit_succ (job : Job) : Preserves P (submit (n + 1) job) := by
  simp only [submit]
  refine (hI.keeps keeps_service).bind fun s => ?_
  split
  · exact preserves_pure _
  split
  · exact (ih.runJob job).attempt.bind fun _ => preserves_pure _
  · exact (hI.keeps (keeps_modify fun w => hI.jobs w w.service.repairing _)).bind fun _ =>
      preserves_pure _
  · exact preserves_pure _

omit hI in
theorem HoldsAt.runJob_succ (job : Job) : Preserves P (Service.runJob (n + 1) job) := by
  cases job with
  | refresh => exact ih.refreshQuietly
  | repair stored => exact preserves_forM fun ⟨uid, record⟩ _ => ih.repairOne uid record

theorem StepInvariant.repairOne_succ (uid : String) (record : Addon) :
    Preserves P (repairOne (n + 1) uid record) := by
  simp only [repairOne]
  refine Preserves.bind (Preserves.attempt ?_) fun _ =>
    hI.keeps (keeps_modify fun w => hI.jobs w _ w.service.queue)
  refine (hI.keeps keeps_current).bind fun _ => ?_
  split
  · exact (ih.getAddon uid).bind fun _ => (ih.installAddon _).bind fun _ => preserves_pure _
  · exact preserves_pure _

theorem StepInvariant.getAddon_succ (uid : String) : Preserves P (getAddon (n + 1) uid) := by
  simp only [getAddon]
  refine (hI.keeps keeps_service).bind fun s => Preserves.ite_then ih.refreshQuietly ?_
  refine (hI.keeps keeps_current).bind fun cur => ?_
  split
  · exact preserves_pure _
  refine (hI.keeps keeps_loadPolicy).bind fun policy => ?_
  split
  · exact preserves_pure _
  refine (hI.keeps keeps_service).bind fun _ => ?_
  refine Preserves.bind (hI.keeps (Keeps.attempt ?_)) fun found => ?_
  · -- a remote lookup, by the source or through the cache
    split
    · exact keeps_lookupRemote hI.untouched _
    · exact (keeps_remoteValue hI.untouched).bind fun _ => keeps_pure _
  split
  · exact (hI.keeps (keeps_isInstalled _)).bind fun _ => preserves_pure _
  · exact preserves_pure _

theorem StepInvariant.installAddon_succ (a : Addon) : Preserves P (installAddon (n + 1) a) := by
  simp only [installAddon]
  refine preserves_get.bind fun w => ?_
  split
  · exact hI.emit _
  refine Preserves.bind (hI.keeps (Keeps.attempt ?_)) fun outcome => ?_
  · refine (keeps_handlerReports _ _).bind fun _ => ?_
    split
    · exact keeps_pure _
    · exact (keeps_installWith hI.untouched _ _).bind fun _ =>
        (keeps_onStore hI.untouched _).bind fun _ => keeps_pure _
  split
  · exact hI.emit _
  · exact hI.emit _
  · exact (hI.keeps (keeps_modify fun w => hI.untouched.cache w _)).bind fun _ =>
      ih.refreshQuietly.bind fun _ => hI.emit _

end Succ

theorem StepInvariant.holdsAt_zero (hI : StepInvariant f P) : HoldsAt P 0 where
  refreshSource := preserves_throw _
  refreshQuietly := preserves_pure _
  scheduleRepair _ := preserves_pure _
  submit _ := preserves_pure _
  runJob _ := preserves_pure _
  repairOne _ _ := preserves_pure _
  getAddon _ := preserves_pure _
  installAddon _ := hI.emit _

theorem StepInvariant.holdsAt_succ {n : ℕ} (hI : StepInvariant f P) (ih : HoldsAt P n) :
    HoldsAt P (n + 1) :=
  ⟨hI.refreshSource_succ ih, ih.refreshQuietly_succ, hI.scheduleRepair_succ ih,
    hI.submit_succ ih, ih.runJob_succ, hI.repairOne_succ ih, hI.getAddon_succ ih,
    hI.installAddon_succ ih⟩

/-- **A step invariant holds at every depth**: every operation that may run a reconciliation
keeps it, however deeply the operations call one another. -/
theorem StepInvariant.holdsAt (hI : StepInvariant f P) : ∀ fuel, HoldsAt P fuel
  | 0 => hI.holdsAt_zero
  | n + 1 => hI.holdsAt_succ (hI.holdsAt n)

/-! ### The event log only grows -/

/-- Every event log that was a prefix of the log stays one. -/
theorem stepInvariant_events (L : List Event) :
    StepInvariant (·.service.events) fun w => L <+: w.service.events where
  untouched := ⟨fun _ _ => rfl, fun _ _ => rfl, fun _ _ => rfl, fun _ _ => rfl, fun _ _ => rfl,
    fun _ _ => rfl⟩
  jobs _ _ _ := rfl
  determined _ _ h hw := h ▸ hw
  publish _ _ := preserves_modify fun _ hw => hw
  emit _ := (preserves_modify fun _ hw => hw.trans (List.prefix_append _ _)).bind fun _ =>
    preserves_pure _

theorem events_prefix {α : Type} {m : WorldM α} (h : ∀ L, Preserves (fun w => L <+: w.service.events) m)
    (w : World) : w.service.events <+: (m.runOn w).2.service.events :=
  h w.service.events w (List.prefix_refl _)

theorem events_prefix_refreshQuietly (fuel : ℕ) (w : World) :
    w.service.events <+: ((refreshQuietly fuel).runOn w).2.service.events :=
  events_prefix (fun L => ((stepInvariant_events L).holdsAt fuel).refreshQuietly) w

theorem events_prefix_getAddon (fuel : ℕ) (uid : String) (w : World) :
    w.service.events <+: ((getAddon fuel uid).runOn w).2.service.events :=
  events_prefix (fun L => ((stepInvariant_events L).holdsAt fuel).getAddon uid) w

end Service

end AddonCatalog
