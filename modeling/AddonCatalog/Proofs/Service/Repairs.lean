import AddonCatalog.Proofs.Service.Frame
import AddonCatalog.Proofs.Service.RemoteOff

/-!
# Repair bookkeeping while jobs run later

A reconciliation that finds addons missing schedules one repair job for the uids not already
under repair, and records them in the service's `repairing` list; a repair removes each uid
once it has handled it. While jobs are deferred (the service is closed, or its executor queues
or rejects them) this bookkeeping stays exact:

* `RepairsTracked`: no uid is awaited by two queued repair jobs, or twice by one, and the uids
  under repair are, up to order, those the queued jobs await (with those of a job taken off the
  queue and not yet handled);
* `scheduleRepair_refused`: a submission the executor refuses leaves the world as it was;
* `repairsTracked_of_run`: every run of requests, and of queued jobs taken in any order, keeps
  the bookkeeping.
-/

namespace AddonCatalog

open WorldM

/-- The uids a job is to repair. -/
def Job.uids : Job → List String
  | .refresh => []
  | .repair stored => stored.map (·.1)

namespace World

/-- The executor refuses every submission: the service is closed, or its executor rejects. -/
def Refuses (w : World) : Prop := w.service.closed = true ∨ w.service.executor = .rejecting

/-- The uids the queued jobs are to repair, in queue order. -/
def queuedUids (w : World) : List String := w.service.queue.flatMap Job.uids

/-- The repair bookkeeping, with `inFlight` the uids of a job taken off the queue and not yet
handled: no uid is awaited twice, and the uids under repair are, up to order, those awaited. -/
structure RepairsTracked (inFlight : List String) (w : World) : Prop where
  nodup : (inFlight ++ w.queuedUids).Nodup
  perm : w.service.repairing.Perm (inFlight ++ w.queuedUids)

/-- Jobs are deferred and the repair bookkeeping is exact. -/
def Bookkept (inFlight : List String) (w : World) : Prop := w.Defers ∧ w.RepairsTracked inFlight

/-- What the bookkeeping reads: the pending repairs, the queue, and whether jobs are deferred. -/
def jobsView (w : World) : List String × List Job × Bool × ExecutorKind :=
  (w.service.repairing, w.service.queue, w.service.closed, w.service.executor)

theorem Bookkept.of_jobsView {inFlight : List String} {w w' : World} (h : w'.jobsView = w.jobsView)
    (hb : w.Bookkept inFlight) : w'.Bookkept inFlight := by
  simp only [jobsView, Prod.mk.injEq] at h
  obtain ⟨hr, hq, hc, he⟩ := h
  refine ⟨defers_of_jobs (by rw [hc, he]) hb.1, ?_, ?_⟩
  · unfold queuedUids
    rw [hq]
    exact hb.2.nodup
  · unfold queuedUids
    rw [hr, hq]
    exact hb.2.perm

end World

namespace WorldM

variable {α β : Type} {m : WorldM α} {P : World → Prop}

theorem Preserves.map (hm : Preserves P m) (g : α → β) : Preserves P (g <$> m) := by
  rw [map_eq_pure_bind]
  exact hm.bind fun _ => preserves_pure _

/-- A computation that cannot fail, followed by one that takes the world from `P` to `Q`. -/
theorem leads_attempt_bind {Q : World → Prop} {k : Except Failure α → WorldM β}
    (hm : Preserves P m) (hk : ∀ o v, P v → Q ((k o).runOn v).2) :
    ∀ w, P w → Q ((attempt m >>= k).runOn w).2 := by
  intro w hw
  rw [runOn_bind, runOn_attempt]
  exact hk _ _ (hm w hw)

end WorldM

namespace Service

/-! ### The uids a repair is scheduled for -/

/-- Adding the uids not yet in a list, in order, keeps it free of repeats. -/
theorem nodup_foldl_addNew (l : List String) {acc : List String} (h : acc.Nodup) :
    (l.foldl (fun acc u => if acc.contains u then acc else acc ++ [u]) acc).Nodup := by
  induction l generalizing acc with
  | nil => exact h
  | cons u l ih =>
    apply ih
    dsimp only
    by_cases hu : acc.contains u
    · rw [if_pos hu]
      exact h
    · rw [if_neg hu]
      have hu' : u ∉ acc := by simpa using hu
      refine List.nodup_append.mpr ⟨h, by simp, fun a ha b hb hab => ?_⟩
      rw [List.mem_singleton] at hb
      exact hu' (hb ▸ hab ▸ ha)

theorem mem_foldl_addNew (l : List String) {acc : List String} {x : String} :
    x ∈ l.foldl (fun acc u => if acc.contains u then acc else acc ++ [u]) acc ↔ x ∈ acc ∨ x ∈ l := by
  induction l generalizing acc with
  | nil => simp
  | cons u l ih =>
    rw [List.foldl_cons, ih]
    by_cases hu : acc.contains u
    · have hu' : u ∈ acc := by simpa using hu
      rw [if_pos hu, List.mem_cons]
      constructor
      · rintro (h | h)
        · exact .inl h
        · exact .inr (.inr h)
      · rintro (h | rfl | h)
        · exact .inl h
        · exact .inl hu'
        · exact .inr h
    · rw [if_neg hu, List.mem_append, List.mem_singleton, List.mem_cons]
      exact or_assoc

/-- The keys of the stored repair are the uids added to the pending repairs. -/
theorem storedByUid_keys (pending : List Addon) :
    (storedByUid pending).map (·.1) =
      (pending.map (·.uid)).foldl (fun acc u => if acc.contains u then acc else acc ++ [u]) [] := by
  unfold storedByUid
  -- the two folds run in step, the keys of the stored pairs being the accumulated uids
  suffices h : ∀ (acc : List (String × Addon)) (l : List Addon),
      (l.foldl (fun acc a =>
        if acc.any (·.1 == a.uid) then acc.map fun p => if p.1 == a.uid then (p.1, a) else p
        else acc ++ [(a.uid, a)]) acc).map (·.1) =
      (l.map (·.uid)).foldl (fun acc u => if acc.contains u then acc else acc ++ [u])
        (acc.map (·.1)) from h [] pending
  intro acc l
  induction l generalizing acc with
  | nil => rfl
  | cons a l ih =>
    rw [List.foldl_cons, ih, List.map_cons, List.foldl_cons]
    congr 1
    have hany : acc.any (·.1 == a.uid) = (acc.map (·.1)).contains a.uid := by
      rw [List.contains_eq_any_beq, List.any_map]
      congr 1
      funext p
      exact BEq.comm
    by_cases h : acc.any (·.1 == a.uid)
    · rw [if_pos h, if_pos (hany ▸ h), List.map_map]
      congr 1
      funext p
      simp only [Function.comp_apply]
      split <;> rfl
    · rw [if_neg h, if_neg (hany ▸ h), List.map_append]
      rfl

/-- The uids of a repair's pending addons are not under repair already. -/
theorem storedByUid_keys_not_mem {R : List String} {pending : List Addon}
    (hp : ∀ a ∈ pending, a.uid ∉ R) : ∀ u ∈ (storedByUid pending).map (·.1), u ∉ R := by
  intro u hu
  rw [storedByUid_keys, mem_foldl_addNew] at hu
  obtain hnil | hmem := hu
  · cases hnil
  · obtain ⟨a, ha, rfl⟩ := List.mem_map.mp hmem
    exact hp a ha

theorem storedByUid_keys_nodup (pending : List Addon) : ((storedByUid pending).map (·.1)).Nodup := by
  rw [storedByUid_keys]
  exact nodup_foldl_addNew _ List.nodup_nil

theorem not_mem_of_mem_filter_repairing (R : List String) (missing : List Addon) :
    ∀ a ∈ missing.filter (fun a => !R.contains a.uid), a.uid ∉ R := by
  intro a ha
  simpa using (List.mem_filter.mp ha).2

/-- Taking back the uids a refused repair added leaves the pending repairs as they were. -/
theorem filter_append_keys {R : List String} {pending : List Addon}
    (hp : ∀ a ∈ pending, a.uid ∉ R) :
    (R ++ (storedByUid pending).map (·.1)).filter
      (fun u => !((storedByUid pending).map (·.1)).contains u) = R := by
  have hR : R.filter (fun u => !((storedByUid pending).map (·.1)).contains u) = R := by
    apply List.filter_eq_self.mpr
    intro u hu
    have hnot : u ∉ (storedByUid pending).map (·.1) := fun hk => storedByUid_keys_not_mem hp u hk hu
    simpa using hnot
  have hK : ((storedByUid pending).map (·.1)).filter
      (fun u => !((storedByUid pending).map (·.1)).contains u) = [] :=
    List.filter_eq_nil_iff.mpr fun u hu => by simpa using hu
  rw [List.filter_append, hR, hK, List.append_nil]

/-! ### Submissions and schedules while jobs are deferred -/

variable {w : World}

/-- Submitting while jobs are deferred either queues the job or is refused, changing nothing. -/
theorem submit_deferred_cases (fuel : ℕ) (job : Job) (hd : w.Defers) :
    (submit fuel job).runOn w = (.ok true, w.withJobs w.service.repairing (w.service.queue ++ [job])) ∨
      (submit fuel job).runOn w = (.ok false, w) := by
  cases fuel with
  | zero => exact .inr rfl
  | succ n =>
    simp only [submit, service, runOn_bind, runOn_get, runOn_pure]
    by_cases hc : w.service.closed = true
    · exact .inr (by simp [hc])
    · have hx : w.service.executor ≠ .immediate := hd.resolve_left hc
      simp only [hc, Bool.false_eq_true, if_false]
      cases he : w.service.executor with
      | immediate => exact absurd he hx
      | queue => exact .inl (by simp [modifyService]; rfl)
      | rejecting => exact .inr rfl

theorem submit_refused (fuel : ℕ) (job : Job) (h : w.Refuses) :
    (submit fuel job).runOn w = (.ok false, w) := by
  cases fuel with
  | zero => rfl
  | succ n =>
    simp only [submit, service, runOn_bind, runOn_get, runOn_pure]
    by_cases hc : w.service.closed = true
    · simp [hc]
    · have he : w.service.executor = .rejecting := h.resolve_left hc
      simp only [hc, Bool.false_eq_true, if_false, he]
      rfl

/-- Scheduling a repair while jobs are deferred: nothing changes (nothing is pending, or the
executor refuses the job and the uids are taken back), or the job is queued and the uids of the
addons it repairs, none under repair before, join the pending repairs. -/
theorem scheduleRepair_deferred_cases (n : ℕ) (missing : List Addon) (hd : w.Defers) :
    (scheduleRepair (n + 1) missing).runOn w = (.ok (), w) ∨
      ∃ pending : List Addon, (∀ a ∈ pending, a.uid ∉ w.service.repairing) ∧
        (submit n (.repair (storedByUid pending))).runOn
            (w.withJobs (w.service.repairing ++ (storedByUid pending).map (·.1)) w.service.queue) =
          (.ok true, w.withJobs (w.service.repairing ++ (storedByUid pending).map (·.1))
            (w.service.queue ++ [.repair (storedByUid pending)])) ∧
        (scheduleRepair (n + 1) missing).runOn w = (.ok (), w.withJobs
          (w.service.repairing ++ (storedByUid pending).map (·.1))
          (w.service.queue ++ [.repair (storedByUid pending)])) := by
  simp only [scheduleRepair, service, runOn_bind, runOn_get, runOn_pure, runOn_modifyService_repairing]
  have hp := not_mem_of_mem_filter_repairing w.service.repairing missing
  generalize (missing.filter fun a => !w.service.repairing.contains a.uid) = pending at hp ⊢
  rw [← storedByUid_keys]
  split
  · -- nothing is pending, so nothing is added
    rename_i hempty
    rw [List.isEmpty_iff.mp hempty]
    left
    rw [show (storedByUid ([] : List Addon)).map (·.1) = [] from rfl, List.append_nil]
    rfl
  · rcases submit_deferred_cases n (.repair (storedByUid pending)) (World.defers_withJobs _ _ hd)
      with hs | hs
    · right
      refine ⟨pending, hp, hs, ?_⟩
      rw [runOn_bind, hs]
      rfl
    · left
      rw [runOn_bind, hs]
      simp only [Bool.not_false, if_true, runOn_modifyService_repairing]
      rw [show (w.withJobs (w.service.repairing ++ (storedByUid pending).map (·.1))
          w.service.queue).service.repairing =
        w.service.repairing ++ (storedByUid pending).map (·.1) from rfl, filter_append_keys hp]
      rfl

/-- **A refused repair changes nothing.** When the executor refuses every submission,
scheduling a repair leaves the world as it was: the uids it added to the pending repairs are
taken back. -/
theorem scheduleRepair_refused (fuel : ℕ) (missing : List Addon) (h : w.Refuses) :
    (scheduleRepair fuel missing).runOn w = (.ok (), w) := by
  cases fuel with
  | zero => rfl
  | succ n =>
    have hd : w.Defers := h.elim .inl fun he => .inr (by rw [he]; exact nofun)
    rcases scheduleRepair_deferred_cases n missing hd with hs | ⟨pending, _, hsubmit, _⟩
    · exact hs
    · -- the submission at the world with the uids added is refused too
      have hr : (w.withJobs (w.service.repairing ++ (storedByUid pending).map (·.1))
          w.service.queue).Refuses := h
      rw [submit_refused n _ hr] at hsubmit
      cases hsubmit

/-! ### The bookkeeping while jobs are deferred -/

theorem untouched_jobsView : Untouched World.jobsView :=
  ⟨fun _ _ => rfl, fun _ _ => rfl, fun _ _ => rfl, fun _ _ => rfl, fun _ _ => rfl, fun _ _ => rfl⟩

variable {inFlight : List String} {α : Type} {m : WorldM α}

theorem Keeps.bookkept (h : Keeps World.jobsView m) : Preserves (World.Bookkept inFlight) m :=
  h.preserves fun _ _ hv hb => hb.of_jobsView hv

/-- Queueing the repair of addons none of which is under repair keeps the bookkeeping, the
repair's uids joining the pending repairs. -/
theorem repairsTracked_queueRepair (ht : w.RepairsTracked inFlight) {pending : List Addon}
    (hp : ∀ a ∈ pending, a.uid ∉ w.service.repairing) :
    (w.withJobs (w.service.repairing ++ (storedByUid pending).map (·.1))
      (w.service.queue ++ [.repair (storedByUid pending)])).RepairsTracked inFlight := by
  have hq : (w.withJobs (w.service.repairing ++ (storedByUid pending).map (·.1))
      (w.service.queue ++ [.repair (storedByUid pending)])).queuedUids =
      w.queuedUids ++ (storedByUid pending).map (·.1) := by
    simp [World.queuedUids, World.withJobs, Job.uids]
  refine ⟨?_, ?_⟩ <;> rw [hq, ← List.append_assoc]
  swap
  · exact ht.perm.append_right _
  refine List.nodup_append.mpr ⟨ht.nodup, storedByUid_keys_nodup pending, ?_⟩
  -- an awaited uid is under repair, and the new keys are not
  intro a ha b hb hab
  exact storedByUid_keys_not_mem hp b hb (hab ▸ ht.perm.symm.subset ha)

theorem preserves_scheduleRepair (fuel : ℕ) (missing : List Addon) :
    Preserves (World.Bookkept inFlight) (scheduleRepair fuel missing) := by
  intro w hb
  cases fuel with
  | zero => exact hb
  | succ n =>
    rcases scheduleRepair_deferred_cases n missing hb.1 with hs | ⟨pending, hp, _, hs⟩
    · rw [hs]
      exact hb
    · rw [hs]
      exact ⟨World.defers_withJobs _ _ hb.1, repairsTracked_queueRepair hb.2 hp⟩

/-- A change of the service state that leaves the jobs alone. -/
theorem keeps_modifyService_jobs {g : ServiceState → ServiceState}
    (hg : ∀ w : World, World.jobsView { w with service := g w.service } = w.jobsView := by intros; rfl) :
    Keeps World.jobsView (modifyService g) :=
  keeps_modify hg

theorem keeps_emit_jobs (e : Event) : Keeps World.jobsView (emit e) := by
  unfold emit
  exact (keeps_modifyService_jobs).bind fun _ => keeps_pure _

/-- A cycle with jobs deferred keeps the bookkeeping: at most it queues one repair of addons
none of which is under repair. -/
theorem preserves_refreshSource : ∀ fuel, Preserves (World.Bookkept inFlight) (refreshSource fuel)
  | 0 => preserves_throw _
  | n + 1 => by
    simp only [refreshSource]
    refine preserves_get.bind fun w => ?_
    split
    · exact preserves_pure _
    refine (Keeps.bookkept keeps_loadPolicy).bind fun policy => ?_
    refine (Keeps.bookkept keeps_service).bind fun s => (preserves_lift _).bind fun records => ?_
    split
    · exact (Keeps.bookkept (keeps_purgeRecords untouched_jobsView)).bind fun _ => preserves_pure _
    refine (Keeps.bookkept (keeps_splitInstalled _)).bind fun found => ?_
    refine (Keeps.bookkept (keeps_forM fun _ _ => keeps_onStore untouched_jobsView _)).bind
      fun _ => ?_
    refine Preserves.ite_bind ?_ (preserves_pure _) fun remote => ?_
    · exact (Keeps.bookkept (keeps_remoteValue untouched_jobsView)).attempt.bind fun _ => by
        split <;> exact preserves_pure _
    refine (Keeps.bookkept (keeps_mergeEntriesM _ _ _)).bind fun merged => ?_
    refine (Keeps.bookkept keeps_modifyService_jobs).bind fun _ => ?_
    split
    · exact (preserves_scheduleRepair _ _).bind fun _ => preserves_pure _
    · exact preserves_pure _

theorem preserves_refreshQuietly : ∀ fuel, Preserves (World.Bookkept inFlight) (refreshQuietly fuel)
  | 0 => preserves_pure _
  | n + 1 => (preserves_refreshSource n).attempt.bind fun _ => preserves_pure _

theorem preserves_getAddon : ∀ fuel uid, Preserves (World.Bookkept inFlight) (getAddon fuel uid)
  | 0, _ => preserves_pure _
  | n + 1, uid => by
    simp only [getAddon]
    refine (Keeps.bookkept keeps_service).bind fun s =>
      Preserves.ite_then (preserves_refreshQuietly n) ?_
    refine (Keeps.bookkept keeps_current).bind fun cur => ?_
    split
    · exact preserves_pure _
    refine (Keeps.bookkept keeps_loadPolicy).bind fun policy => ?_
    split
    · exact preserves_pure _
    refine (Keeps.bookkept keeps_service).bind fun _ => ?_
    refine Preserves.bind (Keeps.bookkept (Keeps.attempt ?_)) fun found => ?_
    · split
      · exact keeps_lookupRemote untouched_jobsView _
      · exact (keeps_remoteValue untouched_jobsView).bind fun _ => keeps_pure _
    split
    · exact (Keeps.bookkept (keeps_isInstalled _)).bind fun _ => preserves_pure _
    · exact preserves_pure _

theorem preserves_installAddon : ∀ fuel a, Preserves (World.Bookkept inFlight) (installAddon fuel a)
  | 0, _ => Keeps.bookkept (keeps_emit_jobs _)
  | n + 1, a => by
    simp only [installAddon]
    refine preserves_get.bind fun w => ?_
    split
    · exact Keeps.bookkept (keeps_emit_jobs _)
    refine Preserves.bind (Keeps.bookkept (Keeps.attempt ?_)) fun outcome => ?_
    · refine (keeps_handlerReports _ _).bind fun _ => ?_
      split
      · exact keeps_pure _
      · exact (keeps_installWith untouched_jobsView _ _).bind fun _ =>
          (keeps_onStore untouched_jobsView _).bind fun _ => keeps_pure _
    split
    · exact Keeps.bookkept (keeps_emit_jobs _)
    · exact Keeps.bookkept (keeps_emit_jobs _)
    · exact (Keeps.bookkept keeps_modifyService_jobs).bind fun _ =>
        (preserves_refreshQuietly n).bind fun _ => Keeps.bookkept (keeps_emit_jobs _)

/-! ### Running queued jobs -/

/-- Handling one uid of a job taken off the queue removes it from the pending repairs, which
then await the job's remaining uids. -/
theorem repairsTracked_handled {uid : String} {rest : List String} (ht : w.RepairsTracked (uid :: rest)) :
    (w.withJobs (w.service.repairing.filter (· != uid)) w.service.queue).RepairsTracked rest := by
  have hnd := ht.nodup
  rw [List.cons_append, List.nodup_cons] at hnd
  refine ⟨hnd.2, ?_⟩
  show (w.service.repairing.filter (· != uid)).Perm (rest ++ w.queuedUids)
  have hperm := ht.perm.filter (· != uid)
  have hrest : (rest ++ w.queuedUids).filter (· != uid) = rest ++ w.queuedUids :=
    List.filter_eq_self.mpr fun v hv => by simpa using fun h : v = uid => hnd.1 (h ▸ hv)
  rw [List.cons_append, List.filter_cons_of_neg (by simp), hrest] at hperm
  exact hperm

/-- Repairing one uid of a job taken off the queue handles it: afterwards the pending repairs
await the job's remaining uids. -/
theorem bookkept_repairOne (n : ℕ) (uid : String) (record : Addon) {rest : List String} :
    ∀ w, w.Bookkept (uid :: rest) → ((repairOne (n + 1) uid record).runOn w).2.Bookkept rest := by
  simp only [repairOne]
  refine leads_attempt_bind ?_ fun _ v hv => ⟨World.defers_withJobs _ _ hv.1, repairsTracked_handled hv.2⟩
  refine (Keeps.bookkept keeps_current).bind fun _ => ?_
  split
  · exact (preserves_getAddon n uid).bind fun _ => (preserves_installAddon n _).bind fun _ =>
      preserves_pure _
  · exact preserves_pure _

theorem repairOne_ok (n : ℕ) (uid : String) (record : Addon) (w : World) :
    ((repairOne (n + 1) uid record).runOn w).1 = .ok () := by
  simp only [repairOne, runOn_bind, runOn_attempt, runOn_modifyService_repairing]

/-- Running a job taken off the queue, deep enough, handles all its uids. -/
theorem bookkept_runJob (n : ℕ) (job : Job) {rest : List String} :
    ∀ w, w.Bookkept (job.uids ++ rest) → ((runJob (n + 2) job).runOn w).2.Bookkept rest := by
  cases job with
  | refresh => exact preserves_refreshQuietly (n + 1)
  | repair stored =>
    simp only [runJob, Job.uids]
    -- one uid after the other, each repair leaving the later ones awaited
    induction stored with
    | nil => exact fun w hb => hb
    | cons p ps ih =>
      intro w hb
      obtain ⟨uid, record⟩ := p
      rw [show (((uid, record) :: ps).forM fun x => repairOne (n + 1) x.1 x.2) =
        (repairOne (n + 1) uid record >>= fun _ => ps.forM fun x => repairOne (n + 1) x.1 x.2) from rfl,
        runOn_bind]
      have hone := bookkept_repairOne n uid record w hb
      rcases h : (repairOne (n + 1) uid record).runOn w with ⟨_ | _, v⟩
      · have hok := repairOne_ok n uid record w
        rw [h] at hok
        cases hok
      · rw [h] at hone
        exact ih v hone

/-- Running every queued job, first in first out, deep enough, keeps the bookkeeping. -/
theorem bookkept_runJobs (n : ℕ) : Preserves (World.Bookkept []) (runJobs (n + 2)) := by
  intro w hb
  simp only [runJobs, service, runOn_bind, runOn_get, runOn_pure]
  -- the jobs taken off the queue are in flight while they run
  suffices h : ∀ (jobs : List Job) (v : World), v.Bookkept (jobs.flatMap Job.uids) →
      ((jobs.forM fun j => attempt (runJob (n + 2) j) >>= fun _ => pure ()).runOn v).2.Bookkept [] by
    have hstart : (w.withJobs w.service.repairing []).Bookkept (w.service.queue.flatMap Job.uids) :=
      ⟨World.defers_withJobs _ _ hb.1, by simpa [World.queuedUids, World.withJobs] using hb.2.nodup,
        by simpa [World.queuedUids, World.withJobs] using hb.2.perm⟩
    have hrun := h w.service.queue _ hstart
    simp only [modifyService, runOn_modify]
    rcases hj : (w.service.queue.forM fun j => attempt (runJob (n + 2) j) >>= fun _ => pure ()).runOn
      (w.withJobs w.service.repairing []) with ⟨_ | _, v⟩
    all_goals
      rw [show ({ w with service := { w.service with queue := [] } } : World) =
        w.withJobs w.service.repairing [] from rfl, hj]
      rw [hj] at hrun
      exact hrun
  intro jobs
  induction jobs with
  | nil => exact fun v hv => hv
  | cons j js ih =>
    intro v hv
    rw [show ((j :: js).forM fun j => attempt (runJob (n + 2) j) >>= fun _ => pure ()) =
      ((attempt (runJob (n + 2) j) >>= fun _ => pure ()) >>= fun _ =>
        js.forM fun j => attempt (runJob (n + 2) j) >>= fun _ => pure ()) from rfl,
      runOn_bind, runOn_bind, runOn_attempt]
    have hj := bookkept_runJob n j v (by simpa using hv)
    exact ih _ hj

/-- The executor takes the queued job at position `i`, if there is one, off the queue and runs
it, ignoring its errors: jobs run later in any order. -/
def runQueued (fuel : ℕ) (i : ℕ) : WorldM Unit := do
  match (← service).queue[i]? with
  | some job =>
    modifyService fun s => { s with queue := s.queue.eraseIdx i }
    let _ ← attempt (runJob fuel job)
  | none => pure ()

/-- Taking a job off the queue puts its uids in flight. -/
theorem queuedUids_eraseIdx {q : List Job} {i : ℕ} {job : Job} (h : q[i]? = some job) :
    (q.flatMap Job.uids).Perm (job.uids ++ (q.eraseIdx i).flatMap Job.uids) := by
  obtain ⟨hi, rfl⟩ := List.getElem?_eq_some_iff.mp h
  have hsplit : q = q.take i ++ q[i] :: q.drop (i + 1) := by
    rw [← List.drop_eq_getElem_cons hi, List.take_append_drop]
  rw [List.eraseIdx_eq_take_drop_succ]
  conv => lhs; rw [hsplit]
  simp only [List.flatMap_append, List.flatMap_cons]
  rw [← List.append_assoc]
  exact (List.perm_append_comm.append_right _).trans (by rw [List.append_assoc])

theorem preserves_runQueued (n i : ℕ) : Preserves (World.Bookkept []) (runQueued (n + 2) i) := by
  intro w hb
  simp only [runQueued, service, runOn_bind, runOn_get, runOn_pure]
  split
  · rename_i job hjob
    simp only [modifyService, runOn_modify, runOn_bind, runOn_attempt]
    apply bookkept_runJob n job
    have hperm := queuedUids_eraseIdx hjob
    refine ⟨World.defers_withJobs _ _ hb.1, ?_, ?_⟩
    · simpa [World.queuedUids] using hperm.nodup_iff.mp (by simpa [World.queuedUids] using hb.2.nodup)
    · simpa [World.queuedUids] using hb.2.perm.trans (by simpa [World.queuedUids] using hperm)
  · exact hb

/-! ### Requests while jobs are deferred -/

/-- A refresh job submitted while jobs are deferred is queued or refused; it awaits no uid. -/
theorem preserves_submit_refresh (fuel : ℕ) : Preserves (World.Bookkept inFlight) (submit fuel .refresh) :=
  fun w hb => by
    rcases submit_deferred_cases fuel .refresh hb.1 with h | h <;> rw [h]
    · have hq : (w.withJobs w.service.repairing (w.service.queue ++ [.refresh])).queuedUids =
          w.queuedUids := by
        simp [World.queuedUids, World.withJobs, Job.uids]
      exact ⟨World.defers_withJobs _ _ hb.1, hq ▸ hb.2.nodup, hq ▸ hb.2.perm⟩
    · exact hb

theorem bookkept_notifyListeners (fuel : ℕ) (handler : String) :
    ∀ listeners, Preserves (World.Bookkept inFlight) (notifyListeners fuel handler listeners)
  | [] => preserves_pure _
  | .recorder _ :: rest =>
    (Keeps.bookkept (keeps_modifyRegistry untouched_jobsView _)).bind fun _ =>
      bookkept_notifyListeners fuel handler rest
  | .service :: rest =>
    (preserves_submit_refresh fuel).bind fun _ => bookkept_notifyListeners fuel handler rest

theorem bookkept_handlerReady (fuel : ℕ) (name : String) :
    Preserves (World.Bookkept inFlight) (handlerReady fuel name) :=
  preserves_get.bind fun _ => bookkept_notifyListeners fuel name _

theorem bookkept_uninstall (fuel : ℕ) (uid : Json) :
    Preserves (World.Bookkept inFlight) (uninstall fuel uid) := by
  unfold uninstall
  refine (Keeps.bookkept keeps_service).bind fun _ => (preserves_lift _).bind fun u => ?_
  refine (preserves_getAddon fuel u).attempt.bind fun found => ?_
  split
  · refine preserves_get.bind fun w => ?_
    split
    · exact Keeps.bookkept (keeps_emit_jobs _)
    refine Preserves.bind (Keeps.bookkept (Keeps.attempt ?_)) fun outcome => ?_
    · refine (keeps_handlerReports _ _).bind fun reported => ?_
      split
      · exact (keeps_onStore untouched_jobsView _).bind fun _ => keeps_pure _
      · exact (keeps_uninstallWith untouched_jobsView _ _).bind fun _ =>
          (keeps_onStore untouched_jobsView _).bind fun _ => keeps_pure _
    split
    · exact Keeps.bookkept (keeps_emit_jobs _)
    · exact Keeps.bookkept (keeps_emit_jobs _)
    · exact (Keeps.bookkept keeps_modifyService_jobs).bind fun _ =>
        (preserves_refreshQuietly fuel).bind fun _ => Keeps.bookkept (keeps_emit_jobs _)
  · exact Keeps.bookkept (keeps_emit_jobs _)

/-- A request to the service, as opposed to running a job of one's own choosing. -/
def Call.IsRequest : Call → Prop
  | .runJob _ => False
  | _ => True

/-- Every request, deep enough, keeps the bookkeeping while jobs are deferred. -/
theorem preserves_request (n : ℕ) : ∀ c : Call, c.IsRequest → Preserves (World.Bookkept []) (c.run (n + 2))
  | .refresh, _ => (preserves_refreshSource _).map _
  | .getAddons, _ => ((preserves_refreshQuietly _).bind fun _ =>
      (Keeps.bookkept keeps_current).bind fun _ => preserves_pure _).map _
  | .getAddon _, _ => ((Keeps.bookkept keeps_service).bind fun _ => (preserves_lift _).bind fun u =>
      preserves_getAddon _ u).map _
  | .install _, _ => by
    refine Preserves.map ?_ _
    unfold install
    refine (Keeps.bookkept keeps_service).bind fun _ => (preserves_lift _).bind fun u => ?_
    refine (preserves_getAddon _ u).attempt.bind fun found => ?_
    split
    · exact preserves_installAddon _ _
    · exact Keeps.bookkept (keeps_emit_jobs _)
  | .uninstall uid, _ => (bookkept_uninstall _ uid).map _
  | .handlerReady name, _ => (bookkept_handlerReady _ name).map _
  | .register name, _ => by
    refine Preserves.map ?_ _
    unfold register
    refine preserves_get.bind fun w => ?_
    dsimp only
    split
    · exact preserves_pure _
    refine (Keeps.bookkept (keeps_modifyRegistry untouched_jobsView _)).bind fun _ => ?_
    split
    · split
      · exact bookkept_handlerReady _ name
      · exact preserves_pure _
    · exact preserves_pure _
  | .unregister _, _ => (Keeps.bookkept (keeps_modifyRegistry untouched_jobsView _)).map _
  | .restoreArchive, _ => by
    refine Preserves.map ?_ _
    unfold restoreArchive
    refine preserves_get.bind fun w => ?_
    split
    · refine (Keeps.bookkept (keeps_onHost untouched_jobsView _)).bind fun _ =>
        (Keeps.bookkept (keeps_modifyRegistry untouched_jobsView _)).bind fun _ => ?_
      split
      · exact bookkept_handlerReady _ _
      · exact preserves_pure _
    · exact preserves_pure _
  | .runJobs, _ => (bookkept_runJobs n).map _
  | .advance _, _ => by
    refine Preserves.map ?_ _
    unfold advance
    exact (Keeps.bookkept keeps_service).bind fun _ => (preserves_lift _).bind fun _ =>
      Keeps.bookkept keeps_modifyService_jobs
  | .close, _ => by
    refine Preserves.map ?_ _
    -- closing makes every later submission refused, and touches no job
    refine Preserves.bind (fun w hb => ⟨.inl rfl, hb.2.nodup, hb.2.perm⟩) fun _ =>
      Keeps.bookkept (keeps_modifyRegistry untouched_jobsView _)

/-- One step of a service whose jobs run later: a request, or its executor taking the queued
job at any position off the queue and running it. -/
inductive LaterStep (fuel : ℕ) : World → World → Prop
  | request (c : Call) (hc : c.IsRequest) (w : World) : LaterStep fuel w ((c.run fuel).runOn w).2
  | runQueued (i : ℕ) (w : World) : LaterStep fuel w ((runQueued fuel i).runOn w).2

/-- **The repair bookkeeping stays exact while jobs run later.** From a service whose jobs are
deferred and whose bookkeeping is exact, after any run of requests and of queued jobs taken in
any order, no uid is awaited by two queued repair jobs and the uids under repair are those the
queued repair jobs await. -/
theorem repairsTracked_of_run {fuel : ℕ} (hfuel : 2 ≤ fuel) {w₀ w : World}
    (h₀ : w₀.Bookkept []) (hrun : Relation.ReflTransGen (LaterStep fuel) w₀ w) : w.Bookkept [] := by
  obtain ⟨n, rfl⟩ : ∃ n, fuel = n + 2 := ⟨fuel - 2, by omega⟩
  induction hrun with
  | refl => exact h₀
  | tail _ hstep ih =>
    cases hstep with
    | request c hc => exact preserves_request n c hc _ ih
    | runQueued i => exact preserves_runQueued n i _ ih

end Service

end AddonCatalog
