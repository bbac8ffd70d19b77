import AddonCatalog.Proofs.Service.Logic

/-!
# What the service's steps leave alone

`Keeps f m` says that `m` leaves the view `f` of the world as it is, whatever its outcome;
it is built up from the leaves of a computation with `Keeps.bind`, `keeps_forM` and
`keeps_mapM`.

* An `Untouched` view ignores the host, the registry, the record store, the cache and the
  request counters. The service's reads and its calls to collaborators (the policy, the
  handlers, the remote catalog, the record store) keep every such view: the snapshot, the
  event log, the pending repairs and queue, and whether the service is closed.
* When the service `Defers` its background jobs (it is closed, or its executor queues or
  rejects them), submitting a job or scheduling a repair runs nothing: it changes only the
  pending repairs and the queue (`submit_deferred`, `scheduleRepair_deferred`).
-/

namespace AddonCatalog

namespace WorldM

variable {α β γ : Type} {f : World → γ}

/-- A computation leaves the view `f` of the world as it is, whatever its outcome. -/
def Keeps (f : World → γ) (m : WorldM α) : Prop := ∀ w, f (m.runOn w).2 = f w

section Keeps

variable {m : WorldM α} {g : α → WorldM β}

theorem keeps_pure (a : α) : Keeps f (pure a : WorldM α) := fun _ => rfl

theorem keeps_get : Keeps f get := fun _ => rfl

theorem keeps_throw (e : Failure) : Keeps f (throw e : WorldM α) := fun _ => rfl

theorem keeps_lift (x : Except Failure α) : Keeps f (lift x) := fun w => by simp

theorem keeps_modify {h : World → World} (hh : ∀ w, f (h w) = f w) :
    Keeps f (modify h : WorldM PUnit) :=
  fun w => by simpa using hh w

theorem Keeps.bind (hm : Keeps f m) (hg : ∀ a, Keeps f (g a)) : Keeps f (m >>= g) := by
  intro w
  rw [runOn_bind]
  rcases h : m.runOn w with ⟨_ | a, w'⟩
  · simpa [h] using hm w
  · have hw' : f w' = f w := by simpa [h] using hm w
    exact (hg a w').trans hw'

theorem Keeps.attempt (hm : Keeps f m) : Keeps f (attempt m) := fun w => by simpa using hm w

theorem keeps_forM {l : List β} {g : β → WorldM PUnit} (hg : ∀ b ∈ l, Keeps f (g b)) :
    Keeps f (l.forM g) := by
  induction l with
  | nil => exact keeps_pure _
  | cons b l ih =>
    show Keeps f (g b >>= fun _ => l.forM g)
    exact (hg b (by simp)).bind fun _ => ih fun c hc => hg c (by simp [hc])

theorem keeps_mapM {l : List β} {g : β → WorldM α} (hg : ∀ b ∈ l, Keeps f (g b)) :
    Keeps f (l.mapM g) := by
  induction l with
  | nil => exact keeps_pure _
  | cons b l ih =>
    rw [List.mapM_cons]
    exact (hg b (by simp)).bind fun _ =>
      (ih fun c hc => hg c (by simp [hc])).bind fun _ => keeps_pure _

/-- A computation that keeps a view preserves every property read off that view. -/
theorem Keeps.preserves {P : World → Prop} (h : Keeps f m)
    (hP : ∀ w w', f w' = f w → P w → P w') : Preserves P m :=
  fun w hw => hP w _ (h w) hw

theorem Keeps.of_runOn {w w' : World} {o : Except Failure α} (h : Keeps f m)
    (hr : m.runOn w = (o, w')) : f w' = f w := by
  simpa [hr] using h w

/-- A computation that does not look at the record store leaves it as it is. -/
theorem StoreFrame.keeps_store (h : StoreFrame m) : Keeps (·.service.store) m := fun w => by
  have hrun := h w w.service.store
  rw [show w.withStore w.service.store = w from rfl] at hrun
  rw [hrun]
  rfl

end Keeps

end WorldM

namespace Service

open WorldM

variable {α γ : Type} {f : World → γ}

/-! ### Views the collaborators leave alone -/

/-- A view of the world that the service's reads and its calls to collaborators leave alone:
it ignores the host, the registry, the record store, the cache and the two counters of remote
requests. -/
structure Untouched (f : World → γ) : Prop where
  host : ∀ w h, f { w with host := h } = f w
  registry : ∀ w r, f { w with registry := r } = f w
  store : ∀ w st, f (w.withStore st) = f w
  cache : ∀ w c, f { w with service := { w.service with cache := c } } = f w
  fetchCount : ∀ w n, f { w with service := { w.service with fetchCount := n } } = f w
  lookupCount : ∀ w n, f { w with service := { w.service with lookupCount := n } } = f w

theorem keeps_service : Keeps f service := keeps_get.bind fun _ => keeps_pure _

theorem keeps_current : Keeps f current := keeps_service.bind fun _ => keeps_pure _

theorem keeps_loadPolicy : Keeps f loadPolicy :=
  keeps_get.bind fun _ => by split <;> exact keeps_pure _

theorem keeps_isInstalled (uid : String) : Keeps f (isInstalled uid) :=
  keeps_get.bind fun _ => keeps_lift _

theorem keeps_handlerReports (name uid : String) : Keeps f (handlerReports name uid) := by
  refine keeps_get.bind fun w => ?_
  split
  · exact keeps_lift _
  · exact keeps_pure _

theorem keeps_splitInstalled : ∀ found : List Addon, Keeps f (splitInstalled found)
  | [] => keeps_pure _
  | a :: rest => (keeps_isInstalled a.uid).bind fun _ =>
    (keeps_splitInstalled rest).bind fun _ => keeps_pure _

theorem keeps_mergeEntriesM (installed remote : List Addon) (includeIncompatible : Bool) :
    Keeps f (mergeEntriesM installed remote includeIncompatible isInstalled) := by
  refine (keeps_mapM fun a _ => (keeps_isInstalled a.uid).bind fun _ => keeps_pure _).bind
    fun _ => ?_
  dsimp only
  split
  · exact keeps_pure _
  · exact keeps_throw _

section Untouched

variable (hf : Untouched f)
include hf

theorem keeps_onHost (m : HostM α) : Keeps f (onHost m) := fun w => by
  simp only [onHost, runOn_bind, runOn_get]
  obtain ⟨r, h⟩ := StateT.run (ExceptT.run m) w.host
  cases r <;> exact hf.host w h

theorem keeps_onStore (g : RecordStore → Except Failure RecordStore) : Keeps f (onStore g) :=
  fun w => by
    simp only [onStore, runOn_bind, runOn_get]
    cases g w.service.store
    · rfl
    · exact hf.store w _

theorem keeps_modifyRegistry (g : Registry → Registry) : Keeps f (modifyRegistry g) :=
  keeps_modify fun w => hf.registry w _

theorem keeps_fetchCatalog (src : Catalog.Source) (timeout : Int × Int) :
    Keeps f (fetchCatalog src timeout) :=
  (keeps_onHost hf _).bind fun _ => keeps_lift _

theorem keeps_fetchRemote : Keeps f fetchRemote := by
  refine keeps_service.bind fun s => ?_
  split
  · exact keeps_pure _
  · refine (keeps_modify fun w => hf.fetchCount w _).bind fun _ => ?_
    split
    · exact keeps_throw _
    · exact keeps_pure _
  · exact keeps_fetchCatalog hf _ _

theorem keeps_remoteValue : Keeps f remoteValue := by
  refine keeps_service.bind fun s => (keeps_lift _).bind fun r => ?_
  split
  · exact (keeps_modify fun w => hf.cache w _).bind fun _ => keeps_pure _
  · refine (keeps_modify fun w => hf.cache w _).bind fun _ =>
      (keeps_fetchRemote hf).attempt.bind fun _ => keeps_service.bind fun _ => ?_
    exact (keeps_modify fun w => hf.cache w _).bind fun _ => keeps_pure _

theorem keeps_lookupRemote (uid : String) : Keeps f (lookupRemote uid) := by
  refine keeps_service.bind fun s => ?_
  split
  · refine (keeps_modify fun w => hf.lookupCount w _).bind fun _ => ?_
    split
    · exact keeps_throw _
    · exact keeps_pure _
  · exact (keeps_fetchCatalog hf _ _).bind fun _ => keeps_pure _
  · exact keeps_pure _

theorem keeps_installWith (name : String) (a : Addon) : Keeps f (installWith name a) := by
  refine keeps_get.bind fun w => ?_
  split
  · exact (keeps_modifyRegistry hf _).bind fun _ => keeps_lift _
  · exact keeps_onHost hf _
  · exact keeps_pure _

theorem keeps_uninstallWith (name : String) (a : Addon) : Keeps f (uninstallWith name a) := by
  refine keeps_get.bind fun w => ?_
  split
  · exact (keeps_modifyRegistry hf _).bind fun _ => keeps_lift _
  · exact keeps_onHost hf _
  · exact keeps_pure _

theorem keeps_purgeRecords : Keeps f purgeRecords :=
  keeps_service.bind fun _ => (keeps_lift _).bind fun _ =>
    (keeps_forM fun _ _ => keeps_onStore hf _).bind fun _ => keeps_pure _

end Untouched

end Service

/-! ### Deferred jobs -/

namespace World

/-- Background jobs are not run when they are submitted: the service is closed, or its
executor queues or rejects them. -/
def Defers (w : World) : Prop := w.service.closed = true ∨ w.service.executor ≠ .immediate

/-- The world with other pending repairs and another job queue. -/
def withJobs (w : World) (repairing : List String) (queue : List Job) : World :=
  { w with service := { w.service with repairing := repairing, queue := queue } }

@[simp] theorem withJobs_withJobs (w : World) (r r' : List String) (q q' : List Job) :
    (w.withJobs r q).withJobs r' q' = w.withJobs r' q' := rfl

theorem withJobs_self (w : World) : w.withJobs w.service.repairing w.service.queue = w := rfl

theorem defers_withJobs {w : World} (r : List String) (q : List Job) (hd : w.Defers) :
    (w.withJobs r q).Defers := hd

/-- Whether jobs are deferred is read off the service's closed flag and executor. -/
theorem defers_of_jobs {w w' : World}
    (h : (w'.service.closed, w'.service.executor) = (w.service.closed, w.service.executor))
    (hd : w.Defers) : w'.Defers := by
  obtain ⟨hc, he⟩ := Prod.mk.inj h
  unfold Defers
  rw [hc, he]
  exact hd

end World

namespace Service

open WorldM

variable {w : World}

theorem untouched_jobs : Untouched fun w : World => (w.service.closed, w.service.executor) :=
  ⟨fun _ _ => rfl, fun _ _ => rfl, fun _ _ => rfl, fun _ _ => rfl, fun _ _ => rfl, fun _ _ => rfl⟩

theorem runOn_modifyService_repairing (g : ServiceState → List String) :
    (modifyService fun s => { s with repairing := g s }).runOn w =
      (.ok (), w.withJobs (g w.service) w.service.queue) := rfl

/-- Submitting a job while jobs are deferred runs nothing: at most the job joins the
queue. -/
theorem submit_deferred (fuel : Nat) (job : Job) (hd : w.Defers) :
    ∃ accepted queue, (submit fuel job).runOn w = (.ok accepted, w.withJobs w.service.repairing queue) := by
  cases fuel with
  | zero => exact ⟨false, w.service.queue, rfl⟩
  | succ n =>
    simp only [submit, service, runOn_bind, runOn_get, runOn_pure]
    by_cases hc : w.service.closed = true
    · exact ⟨false, w.service.queue, by simp [hc]; rfl⟩
    · have hx : w.service.executor ≠ .immediate := hd.resolve_left hc
      simp only [hc, Bool.false_eq_true, if_false]
      cases he : w.service.executor with
      | immediate => exact absurd he hx
      | queue => exact ⟨true, w.service.queue ++ [job], by simp [modifyService]; rfl⟩
      | rejecting => exact ⟨false, w.service.queue, rfl⟩

/-- A submission while jobs are deferred, followed by a step that changes only the jobs,
changes only the jobs. -/
theorem submit_bind_deferred (fuel : Nat) (job : Job) {k : Bool → WorldM Unit}
    (hk : ∀ b v, ∃ repairing queue, (k b).runOn v = (.ok (), v.withJobs repairing queue))
    (hd : w.Defers) :
    ∃ repairing queue, (submit fuel job >>= k).runOn w = (.ok (), w.withJobs repairing queue) := by
  obtain ⟨accepted, queue, hs⟩ := submit_deferred fuel job hd
  obtain ⟨repairing', queue', hk'⟩ := hk accepted (w.withJobs w.service.repairing queue)
  exact ⟨repairing', queue', by rw [runOn_bind, hs]; exact hk'⟩

/-- Scheduling a repair while jobs are deferred runs nothing: it changes only the pending
repairs and the queue. -/
theorem scheduleRepair_deferred (fuel : Nat) (missing : List Addon) (hd : w.Defers) :
    ∃ repairing queue, (scheduleRepair fuel missing).runOn w = (.ok (), w.withJobs repairing queue) := by
  cases fuel with
  | zero => exact ⟨w.service.repairing, w.service.queue, rfl⟩
  | succ n =>
    simp only [scheduleRepair, service, runOn_bind, runOn_get, runOn_pure, runOn_modifyService_repairing]
    split
    · exact ⟨_, _, rfl⟩
    exact submit_bind_deferred n _ (fun _ _ => by split <;> exact ⟨_, _, rfl⟩)
      (World.defers_withJobs _ _ hd)

/-! ### Cycles with jobs deferred -/

section Deferred

variable {α β γ : Type} {f : World → γ} {m : WorldM α} {g : α → WorldM β}

/-- With jobs deferred, a computation leaves the view `f` as it is, and jobs stay
deferred. -/
def KeepsDeferred (f : World → γ) (m : WorldM α) : Prop :=
  ∀ w, w.Defers → f (m.runOn w).2 = f w ∧ (m.runOn w).2.Defers

theorem keepsDeferred_pure (a : α) : KeepsDeferred f (pure a : WorldM α) := fun _ hd => ⟨rfl, hd⟩

theorem keepsDeferred_throw (e : Failure) : KeepsDeferred f (throw e : WorldM α) :=
  fun _ hd => ⟨rfl, hd⟩

theorem keepsDeferred_modify {h : World → World} (hh : ∀ w, f (h w) = f w)
    (hd : ∀ w, w.Defers → (h w).Defers) : KeepsDeferred f (modify h : WorldM PUnit) :=
  fun w hw => ⟨by simpa using hh w, by simpa using hd w hw⟩

/-- A computation that keeps every view the collaborators leave alone keeps them with jobs
deferred. -/
theorem keepsDeferred_of_untouched (hf : Untouched f)
    (h : ∀ {δ : Type} (v : World → δ), Untouched v → Keeps v m) : KeepsDeferred f m :=
  fun w hd => ⟨h f hf w, World.defers_of_jobs (h _ untouched_jobs w) hd⟩

theorem KeepsDeferred.bind (hm : KeepsDeferred f m) (hg : ∀ a, KeepsDeferred f (g a)) :
    KeepsDeferred f (m >>= g) := by
  intro w hd
  rw [runOn_bind]
  obtain ⟨hf, hd'⟩ := hm w hd
  rcases h : m.runOn w with ⟨_ | a, w'⟩ <;> rw [h] at hf hd'
  · exact ⟨hf, hd'⟩
  · obtain ⟨hf', hd''⟩ := hg a w' hd'
    exact ⟨hf'.trans hf, hd''⟩

theorem KeepsDeferred.attempt (hm : KeepsDeferred f m) : KeepsDeferred f (attempt m) :=
  fun w hd => by simpa using hm w hd

theorem KeepsDeferred.ite_bind {c : Prop} [Decidable c] {y : WorldM α}
    (hm : KeepsDeferred f m) (hy : KeepsDeferred f y) (hg : ∀ a, KeepsDeferred f (g a)) :
    KeepsDeferred f (if c then m >>= g else y >>= g) := by
  split
  · exact hm.bind hg
  · exact hy.bind hg

theorem KeepsDeferred.ite_then {c : Prop} [Decidable c] {x : WorldM PUnit} {y : WorldM α}
    (hx : KeepsDeferred f x) (hy : KeepsDeferred f y) :
    KeepsDeferred f (if c then x >>= fun _ => y else y) := by
  split
  · exact hx.bind fun _ => hy
  · exact hy

theorem keepsDeferred_scheduleRepair (hj : ∀ w r q, f (w.withJobs r q) = f w) (fuel : Nat)
    (missing : List Addon) : KeepsDeferred f (scheduleRepair fuel missing) := fun w hd => by
  obtain ⟨r, q, h⟩ := scheduleRepair_deferred fuel missing hd
  rw [h]
  exact ⟨hj w r q, World.defers_withJobs r q hd⟩

/-- A view that ignores the pending jobs and the published snapshot, and that the
collaborators leave alone. -/
structure Offstage (f : World → γ) : Prop extends Untouched f where
  jobs : ∀ w r q, f (w.withJobs r q) = f w
  snapshot : ∀ w s, f { w with service := { w.service with snapshot := s } } = f w

variable (hf : Offstage f)
include hf

/-- **A cycle with jobs deferred** leaves alone every view that ignores the jobs and the
snapshot: it only reads, calls the collaborators, publishes and queues. -/
theorem keepsDeferred_refreshSource : ∀ fuel, KeepsDeferred f (refreshSource fuel)
  | 0 => keepsDeferred_throw _
  | n + 1 => by
    have leaf {β : Type} {m : WorldM β} (h : ∀ {δ : Type} (v : World → δ), Untouched v → Keeps v m) :
        KeepsDeferred f m :=
      keepsDeferred_of_untouched hf.toUntouched h
    simp only [refreshSource]
    refine (leaf fun _ _ => keeps_get).bind fun w => ?_
    split
    · exact keepsDeferred_pure _
    refine (leaf fun _ _ => keeps_loadPolicy).bind fun policy => ?_
    refine (leaf fun _ _ => keeps_service).bind fun s => (leaf fun _ _ => keeps_lift _).bind
      fun records => ?_
    split
    · exact (leaf fun _ hv => keeps_purgeRecords hv).bind fun _ => keepsDeferred_pure _
    refine (leaf fun _ _ => keeps_splitInstalled _).bind fun found => ?_
    refine (leaf fun _ hv => keeps_forM fun _ _ => keeps_onStore hv _).bind fun _ => ?_
    refine KeepsDeferred.ite_bind ?_ (keepsDeferred_pure _) fun remote => ?_
    · exact (leaf fun _ hv => (keeps_remoteValue hv).attempt).bind fun _ => by
        split <;> exact keepsDeferred_pure _
    refine (leaf fun _ _ => keeps_mergeEntriesM _ _ _).bind fun merged => ?_
    refine KeepsDeferred.bind ?_ fun _ => ?_
    · exact keepsDeferred_modify (fun w => hf.snapshot w _) fun _ hd => hd
    split
    · exact (keepsDeferred_scheduleRepair hf.jobs _ _).bind fun _ => keepsDeferred_pure _
    · exact keepsDeferred_pure _

theorem keepsDeferred_refreshQuietly : ∀ fuel, KeepsDeferred f (refreshQuietly fuel)
  | 0 => keepsDeferred_pure _
  | n + 1 => (keepsDeferred_refreshSource hf n).attempt.bind fun _ => keepsDeferred_pure _

/-- Finding an addon with jobs deferred leaves alone every view that ignores the jobs and the
snapshot. -/
theorem keepsDeferred_getAddon : ∀ fuel uid, KeepsDeferred f (getAddon fuel uid)
  | 0, _ => keepsDeferred_pure _
  | n + 1, uid => by
    have leaf {β : Type} {m : WorldM β} (h : ∀ {δ : Type} (v : World → δ), Untouched v → Keeps v m) :
        KeepsDeferred f m :=
      keepsDeferred_of_untouched hf.toUntouched h
    simp only [getAddon]
    refine (leaf fun _ _ => keeps_service).bind fun s =>
      KeepsDeferred.ite_then (keepsDeferred_refreshQuietly hf n) ?_
    refine (leaf fun _ _ => keeps_current).bind fun cur => ?_
    split
    · exact keepsDeferred_pure _
    refine (leaf fun _ _ => keeps_loadPolicy).bind fun policy => ?_
    split
    · exact keepsDeferred_pure _
    refine (leaf fun _ _ => keeps_service).bind fun _ => ?_
    refine (leaf fun _ hv => Keeps.attempt ?_).bind fun found => ?_
    · -- a remote lookup, by the source or through the cache
      split
      · exact keeps_lookupRemote hv _
      · exact (keeps_remoteValue hv).bind fun _ => keeps_pure _
    split
    · exact (leaf fun _ _ => keeps_isInstalled _).bind fun _ => keepsDeferred_pure _
    · exact keepsDeferred_pure _

end Deferred

end Service

end AddonCatalog
