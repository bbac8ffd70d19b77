import AddonCatalog.Proofs.Service.Cycle

/-!
# With the remote off, the remote source is never consulted

A policy source `DisablesRemote` when every read of it, whatever the files hold, answers a
policy with the remote disabled, without failing. On a service with such a policy source no
operation consults the remote source: neither the fetch of the remote catalog (through the
cache) nor the lookup of one uid ever runs.

This is stated as a frame property, `RemoteBlind m`: run on the world with any other remote
source in place, `m` answers the same and leaves the same world, with that other source in
place. Had the fetch or the lookup run, a scripted source would have counted the call and a
failing one would have changed the answer, so a computation blind to the source calls
neither.

* `RemoteBlind.bind_of_returns`, `remoteBlind_get_bind`, `remoteBlind_service_bind`: the
  judgement is closed under the monad's operations, reads of the world included as long as
  what follows does not look at the remote source;
* `loadPolicy_remote_off`: the policy read answers the remote disabled, which keeps the two
  guarded reads of the remote (in a cycle and in a lookup of one addon) from running;
* `blindAt`: every operation that may reconcile is blind at every depth;
* `session_ignores_remote`: every session of requests and background work is.
-/

namespace AddonCatalog

open WorldM

/-- A policy source that disables the remote whatever the files hold: every read of it
answers a policy with the remote off, and no read fails. -/
def PolicySource.DisablesRemote (src : PolicySource) : Prop :=
  ∀ v, ∃ p, Service.policyOf v src = .ok p ∧ p.remoteEnabled = false

namespace World

/-- The world with another remote source. -/
def withRemote (w : World) (r : RemoteSource) : World :=
  { w with service := { w.service with remote := r } }

/-- The service's policy source disables the remote. -/
def RemoteOff (w : World) : Prop := w.service.policy.DisablesRemote

/-- The policy source, and what counts the calls to the remote side: the fetches and the
lookups of a scripted remote source, and the reads of the cache. -/
def remoteSide (w : World) : PolicySource × Nat × Nat × CacheCounts :=
  (w.service.policy, w.service.fetchCount, w.service.lookupCount, w.service.cache.counts)

theorem RemoteOff.of_remoteSide {w w' : World} (h : w'.remoteSide = w.remoteSide) (hw : w.RemoteOff) :
    w'.RemoteOff := by
  have hpolicy : w'.service.policy = w.service.policy := congrArg Prod.fst h
  unfold RemoteOff
  rw [hpolicy]
  exact hw

end World

namespace WorldM

variable {α β : Type}

/-- From a world whose policy source disables the remote, `m` calls nothing on the remote side:
it keeps the policy source and every count of remote calls and cache reads, and, run on the
world with any other remote source, it answers the same and leaves the same world, with that
source in place. -/
def RemoteBlind (m : WorldM α) : Prop :=
  ∀ w, w.RemoteOff → (m.runOn w).2.remoteSide = w.remoteSide ∧
    ∀ r, m.runOn (w.withRemote r) = ((m.runOn w).1, (m.runOn w).2.withRemote r)

section RemoteBlind

variable {m : WorldM α} {f : α → WorldM β}

theorem remoteBlind_pure (a : α) : RemoteBlind (pure a : WorldM α) := fun _ _ => ⟨rfl, fun _ => rfl⟩

theorem remoteBlind_throw (e : Failure) : RemoteBlind (throw e : WorldM α) :=
  fun _ _ => ⟨rfl, fun _ => rfl⟩

theorem remoteBlind_lift (x : Except Failure α) : RemoteBlind (lift x) :=
  fun _ _ => ⟨by simp, fun _ => by simp⟩

/-- A blind computation followed by computations that are blind for the values it may
answer, from worlds whose policy source disables the remote. -/
theorem RemoteBlind.bind_of_returns {R : α → Prop} (hm : RemoteBlind m)
    (hr : ∀ w, w.RemoteOff → ∀ a, (m.runOn w).1 = .ok a → R a)
    (hf : ∀ a, R a → RemoteBlind (f a)) : RemoteBlind (m >>= f) := by
  intro w hw
  obtain ⟨hside, hframe⟩ := hm w hw
  rcases h : m.runOn w with ⟨_ | a, w₁⟩
  · rw [h] at hside
    refine ⟨by rw [runOn_bind, h]; exact hside, fun r => ?_⟩
    rw [runOn_bind, runOn_bind, hframe r, h]
  · rw [h] at hside
    obtain ⟨hside₁, hframe₁⟩ := hf a (hr w hw a (by rw [h])) w₁ (hw.of_remoteSide hside)
    refine ⟨by rw [runOn_bind, h]; exact hside₁.trans hside, fun r => ?_⟩
    rw [runOn_bind, runOn_bind, hframe r, h]
    exact hframe₁ r

theorem RemoteBlind.bind (hm : RemoteBlind m) (hf : ∀ a, RemoteBlind (f a)) :
    RemoteBlind (m >>= f) :=
  hm.bind_of_returns (R := fun _ => True) (fun _ _ _ _ => trivial) fun a _ => hf a

theorem RemoteBlind.map (hm : RemoteBlind m) (g : α → β) : RemoteBlind (g <$> m) := by
  rw [map_eq_pure_bind]
  exact hm.bind fun _ => remoteBlind_pure _

theorem RemoteBlind.attempt (hm : RemoteBlind m) : RemoteBlind (attempt m) := fun w hw => by
  obtain ⟨hside, hframe⟩ := hm w hw
  exact ⟨by simpa using hside, fun r => by simp [hframe r]⟩

theorem RemoteBlind.ite_then {c : Prop} [Decidable c] {x : WorldM PUnit} {y : WorldM α}
    (hx : RemoteBlind x) (hy : RemoteBlind y) : RemoteBlind (if c then x >>= fun _ => y else y) := by
  split
  · exact hx.bind fun _ => hy
  · exact hy

/-- Reading the world keeps the judgement when what follows does not look at the remote
source it read. -/
theorem remoteBlind_get_bind {k : World → WorldM β} (hk : ∀ w r, k (w.withRemote r) = k w)
    (hf : ∀ w, RemoteBlind (k w)) : RemoteBlind (get >>= k) := fun w hw => by
  obtain ⟨hside, hframe⟩ := hf w w hw
  refine ⟨by simpa only [runOn_bind, runOn_get] using hside, fun r => ?_⟩
  simp only [runOn_bind, runOn_get]
  rw [hk]
  exact hframe r

/-- Reading the service state keeps the judgement when what follows does not look at the
remote source it read. -/
theorem remoteBlind_service_bind {k : ServiceState → WorldM β}
    (hk : ∀ s r, k { s with remote := r } = k s) (hf : ∀ s, RemoteBlind (k s)) :
    RemoteBlind (service >>= k) := fun w hw => by
  obtain ⟨hside, hframe⟩ := hf w.service w hw
  refine ⟨by simpa only [runOn_bind, Service.service_runOn] using hside, fun r => ?_⟩
  simp only [runOn_bind, Service.service_runOn]
  rw [show (w.withRemote r).service = { w.service with remote := r } from rfl, hk]
  exact hframe r

/-- A change of the service state that keeps the policy source and the counts of remote
calls, and does not look at the remote source. -/
theorem remoteBlind_modifyService {g : ServiceState → ServiceState}
    (hs : ∀ w : World, { w with service := g w.service }.remoteSide = w.remoteSide := by intros; rfl)
    (hg : ∀ s r, g { s with remote := r } = { g s with remote := r } := by intros; rfl) :
    RemoteBlind (modifyService g) := fun w _ => by
  refine ⟨hs w, fun r => ?_⟩
  simp only [modifyService, runOn_modify]
  rw [show (w.withRemote r).service = { w.service with remote := r } from rfl, hg]
  rfl

theorem remoteBlind_modifyRegistry (g : Registry → Registry) : RemoteBlind (modifyRegistry g) :=
  fun _ _ => ⟨rfl, fun _ => rfl⟩

theorem remoteBlind_onHost (m : HostM α) : RemoteBlind (onHost m) := fun w _ => by
  have hhost : ∀ r, (w.withRemote r).host = w.host := fun _ => rfl
  simp only [onHost, runOn_bind, runOn_get, hhost]
  rcases StateT.run (ExceptT.run m) w.host with ⟨_ | a, h⟩ <;> exact ⟨rfl, fun _ => rfl⟩

theorem remoteBlind_onStore (g : RecordStore → Except Failure RecordStore) :
    RemoteBlind (onStore g) := fun w _ => by
  have hstore : ∀ r, (w.withRemote r).service.store = w.service.store := fun _ => rfl
  simp only [onStore, runOn_bind, runOn_get, hstore]
  cases g w.service.store <;> exact ⟨rfl, fun _ => rfl⟩

theorem remoteBlind_forM {l : List β} {g : β → WorldM PUnit} (hg : ∀ b ∈ l, RemoteBlind (g b)) :
    RemoteBlind (l.forM g) := by
  induction l with
  | nil => exact remoteBlind_pure _
  | cons b l ih =>
    show RemoteBlind (g b >>= fun _ => l.forM g)
    exact (hg b (by simp)).bind fun _ => ih fun c hc => hg c (by simp [hc])

theorem remoteBlind_mapM {l : List β} {g : β → WorldM α} (hg : ∀ b ∈ l, RemoteBlind (g b)) :
    RemoteBlind (l.mapM g) := by
  induction l with
  | nil => exact remoteBlind_pure _
  | cons b l ih =>
    rw [List.mapM_cons]
    exact (hg b (by simp)).bind fun _ =>
      (ih fun c hc => hg c (by simp [hc])).bind fun _ => remoteBlind_pure _

end RemoteBlind

end WorldM

namespace Service

variable {n : ℕ}

/-! ### The service's reads and calls -/

/-- From a world whose policy source disables the remote, the policy read answers the remote
disabled. -/
theorem loadPolicy_remote_off {w : World} (hw : w.RemoteOff) {p : Policy}
    (h : (loadPolicy.runOn w).1 = .ok p) : p.remoteEnabled = false := by
  obtain ⟨q, hq, hoff⟩ := hw w.host.files
  rw [loadPolicy_runOn] at h
  cases h
  simp only [World.policy, hq]
  exact hoff

theorem remoteBlind_loadPolicy : RemoteBlind loadPolicy := by
  unfold loadPolicy
  exact remoteBlind_get_bind (fun _ _ => rfl) fun _ => by split <;> exact remoteBlind_pure _

theorem remoteBlind_current : RemoteBlind current :=
  remoteBlind_service_bind (fun _ _ => rfl) fun _ => remoteBlind_pure _

theorem remoteBlind_isInstalled (uid : String) : RemoteBlind (isInstalled uid) :=
  remoteBlind_get_bind (fun _ _ => rfl) fun _ => remoteBlind_lift _

theorem remoteBlind_handlerReports (name uid : String) : RemoteBlind (handlerReports name uid) := by
  unfold handlerReports
  refine remoteBlind_get_bind (fun _ _ => rfl) fun w => ?_
  split
  · exact remoteBlind_lift _
  · exact remoteBlind_pure _

theorem remoteBlind_splitInstalled : ∀ found : List Addon, RemoteBlind (splitInstalled found)
  | [] => remoteBlind_pure _
  | a :: rest => (remoteBlind_isInstalled a.uid).bind fun _ =>
    (remoteBlind_splitInstalled rest).bind fun _ => remoteBlind_pure _

theorem remoteBlind_mergeEntriesM (installed remote : List Addon) (includeIncompatible : Bool) :
    RemoteBlind (mergeEntriesM installed remote includeIncompatible isInstalled) := by
  refine (remoteBlind_mapM fun a _ => (remoteBlind_isInstalled a.uid).bind fun _ =>
    remoteBlind_pure _).bind fun _ => ?_
  dsimp only
  split
  · exact remoteBlind_pure _
  · exact remoteBlind_throw _

theorem remoteBlind_purgeRecords : RemoteBlind purgeRecords :=
  remoteBlind_service_bind (fun _ _ => rfl) fun _ => (remoteBlind_lift _).bind fun _ =>
    (remoteBlind_forM fun _ _ => remoteBlind_onStore _).bind fun _ => remoteBlind_pure _

theorem remoteBlind_installWith (name : String) (a : Addon) : RemoteBlind (installWith name a) := by
  unfold installWith
  refine remoteBlind_get_bind (fun _ _ => rfl) fun w => ?_
  split
  · exact (remoteBlind_modifyRegistry _).bind fun _ => remoteBlind_lift _
  · exact remoteBlind_onHost _
  · exact remoteBlind_pure _

theorem remoteBlind_uninstallWith (name : String) (a : Addon) :
    RemoteBlind (uninstallWith name a) := by
  unfold uninstallWith
  refine remoteBlind_get_bind (fun _ _ => rfl) fun w => ?_
  split
  · exact (remoteBlind_modifyRegistry _).bind fun _ => remoteBlind_lift _
  · exact remoteBlind_onHost _
  · exact remoteBlind_pure _

theorem remoteBlind_emit (e : Event) : RemoteBlind (emit e) := by
  unfold emit
  exact (remoteBlind_modifyService).bind fun _ => remoteBlind_pure _

/-! ### Every depth -/

/-- Each operation that may run a reconciliation, at depth `fuel`, is blind to the remote
source. -/
structure BlindAt (fuel : ℕ) : Prop where
  refreshSource : RemoteBlind (refreshSource fuel)
  refreshQuietly : RemoteBlind (refreshQuietly fuel)
  scheduleRepair : ∀ missing, RemoteBlind (scheduleRepair fuel missing)
  submit : ∀ job, RemoteBlind (submit fuel job)
  runJob : ∀ job, RemoteBlind (runJob fuel job)
  repairOne : ∀ uid record, RemoteBlind (repairOne fuel uid record)
  getAddon : ∀ uid, RemoteBlind (getAddon fuel uid)
  installAddon : ∀ a, RemoteBlind (installAddon fuel a)

section Succ

variable (ih : BlindAt n)
include ih

/-- A cycle reads the remote only when the policy it read enables it. -/
theorem BlindAt.refreshSource_succ : RemoteBlind (Service.refreshSource (n + 1)) := by
  simp only [Service.refreshSource]
  refine remoteBlind_get_bind (fun _ _ => rfl) fun w => ?_
  split
  · exact remoteBlind_pure _
  refine remoteBlind_loadPolicy.bind_of_returns (fun _ hw _ h => loadPolicy_remote_off hw h)
    fun policy hoff => ?_
  refine remoteBlind_service_bind (fun _ _ => rfl) fun s => (remoteBlind_lift _).bind
    fun records => ?_
  split
  · exact remoteBlind_purgeRecords.bind fun _ => remoteBlind_pure _
  refine (remoteBlind_splitInstalled _).bind fun found => ?_
  refine (remoteBlind_forM fun _ _ => remoteBlind_onStore _).bind fun _ => ?_
  simp only [hoff, Bool.false_eq_true, if_false]
  refine (remoteBlind_pure _).bind fun remote => ?_
  refine (remoteBlind_mergeEntriesM _ _ _).bind fun merged => ?_
  refine (remoteBlind_modifyService).bind fun _ => ?_
  split
  · exact (ih.scheduleRepair _).bind fun _ => remoteBlind_pure _
  · exact remoteBlind_pure _

omit ih in
theorem BlindAt.refreshQuietly_succ (ih : BlindAt n) : RemoteBlind (Service.refreshQuietly (n + 1)) :=
  ih.refreshSource.attempt.bind fun _ => remoteBlind_pure _

theorem BlindAt.scheduleRepair_succ (missing : List Addon) :
    RemoteBlind (Service.scheduleRepair (n + 1) missing) := by
  simp only [Service.scheduleRepair]
  refine remoteBlind_service_bind (fun _ _ => rfl) fun s => ?_
  refine (remoteBlind_modifyService).bind fun _ => ?_
  split
  · exact remoteBlind_pure _
  refine (ih.submit _).bind fun accepted => ?_
  split
  · exact remoteBlind_modifyService
  · exact remoteBlind_pure _

theorem BlindAt.submit_succ (job : Job) : RemoteBlind (Service.submit (n + 1) job) := by
  simp only [Service.submit]
  refine remoteBlind_service_bind (fun _ _ => rfl) fun s => ?_
  split
  · exact remoteBlind_pure _
  split
  · exact (ih.runJob job).attempt.bind fun _ => remoteBlind_pure _
  · exact (remoteBlind_modifyService).bind fun _ => remoteBlind_pure _
  · exact remoteBlind_pure _

theorem BlindAt.runJob_succ (job : Job) : RemoteBlind (Service.runJob (n + 1) job) := by
  cases job with
  | refresh => exact ih.refreshQuietly
  | repair stored => exact remoteBlind_forM fun ⟨uid, record⟩ _ => ih.repairOne uid record

theorem BlindAt.repairOne_succ (uid : String) (record : Addon) :
    RemoteBlind (Service.repairOne (n + 1) uid record) := by
  simp only [Service.repairOne]
  refine RemoteBlind.bind (RemoteBlind.attempt ?_) fun _ =>
    remoteBlind_modifyService
  refine remoteBlind_current.bind fun _ => ?_
  split
  · exact (ih.getAddon uid).bind fun _ => (ih.installAddon _).bind fun _ => remoteBlind_pure _
  · exact remoteBlind_pure _

/-- A lookup of one addon asks the remote only when the policy it read enables it. -/
theorem BlindAt.getAddon_succ (uid : String) : RemoteBlind (Service.getAddon (n + 1) uid) := by
  simp only [Service.getAddon]
  refine remoteBlind_service_bind (fun _ _ => rfl) fun s => RemoteBlind.ite_then ih.refreshQuietly ?_
  refine remoteBlind_current.bind fun cur => ?_
  split
  · exact remoteBlind_pure _
  refine remoteBlind_loadPolicy.bind_of_returns (fun _ hw _ h => loadPolicy_remote_off hw h)
    fun policy hoff => ?_
  simp only [hoff, Bool.not_false, if_true]
  exact remoteBlind_pure _

theorem BlindAt.installAddon_succ (a : Addon) : RemoteBlind (Service.installAddon (n + 1) a) := by
  simp only [Service.installAddon]
  refine remoteBlind_get_bind (fun _ _ => rfl) fun w => ?_
  split
  · exact remoteBlind_emit _
  refine RemoteBlind.bind (RemoteBlind.attempt ?_) fun outcome => ?_
  · refine (remoteBlind_handlerReports _ _).bind fun _ => ?_
    split
    · exact remoteBlind_pure _
    · exact (remoteBlind_installWith _ _).bind fun _ =>
        (remoteBlind_onStore _).bind fun _ => remoteBlind_pure _
  split
  · exact remoteBlind_emit _
  · exact remoteBlind_emit _
  · exact (remoteBlind_modifyService).bind fun _ =>
      ih.refreshQuietly.bind fun _ => remoteBlind_emit _

end Succ

theorem blindAt_zero : BlindAt 0 where
  refreshSource := remoteBlind_throw _
  refreshQuietly := remoteBlind_pure _
  scheduleRepair _ := remoteBlind_pure _
  submit _ := remoteBlind_pure _
  runJob _ := remoteBlind_pure _
  repairOne _ _ := remoteBlind_pure _
  getAddon _ := remoteBlind_pure _
  installAddon _ := remoteBlind_emit _

theorem BlindAt.succ (ih : BlindAt n) : BlindAt (n + 1) :=
  ⟨ih.refreshSource_succ, ih.refreshQuietly_succ, ih.scheduleRepair_succ, ih.submit_succ,
    ih.runJob_succ, ih.repairOne_succ, ih.getAddon_succ, ih.installAddon_succ⟩

/-- **Blind at every depth**: on a service whose policy source disables the remote, no
operation that may run a reconciliation consults the remote source, however deeply the
operations call one another. -/
theorem blindAt : ∀ fuel, BlindAt fuel
  | 0 => blindAt_zero
  | n + 1 => (blindAt n).succ

/-! ### Requests -/

theorem remoteBlind_getAddons (fuel : ℕ) : RemoteBlind (getAddons fuel) :=
  (blindAt fuel).refreshQuietly.bind fun _ => remoteBlind_current.bind fun _ => remoteBlind_pure _

theorem remoteBlind_getAddonRequest (fuel : ℕ) (uid : Json) : RemoteBlind (getAddonRequest fuel uid) :=
  remoteBlind_service_bind (fun _ _ => rfl) fun _ => (remoteBlind_lift _).bind fun u =>
    (blindAt fuel).getAddon u

theorem remoteBlind_install (fuel : ℕ) (uid : Json) : RemoteBlind (install fuel uid) := by
  unfold install
  refine remoteBlind_service_bind (fun _ _ => rfl) fun _ => (remoteBlind_lift _).bind fun u => ?_
  refine ((blindAt fuel).getAddon u).attempt.bind fun found => ?_
  split
  · exact (blindAt fuel).installAddon _
  · exact remoteBlind_emit _

theorem remoteBlind_uninstall (fuel : ℕ) (uid : Json) : RemoteBlind (uninstall fuel uid) := by
  unfold uninstall
  refine remoteBlind_service_bind (fun _ _ => rfl) fun _ => (remoteBlind_lift _).bind fun u => ?_
  refine ((blindAt fuel).getAddon u).attempt.bind fun found => ?_
  split
  · refine remoteBlind_get_bind (fun _ _ => rfl) fun w => ?_
    split
    · exact remoteBlind_emit _
    refine RemoteBlind.bind (RemoteBlind.attempt ?_) fun outcome => ?_
    · refine (remoteBlind_handlerReports _ _).bind fun reported => ?_
      split
      · exact (remoteBlind_onStore _).bind fun _ => remoteBlind_pure _
      · exact (remoteBlind_uninstallWith _ _).bind fun _ =>
          (remoteBlind_onStore _).bind fun _ => remoteBlind_pure _
    split
    · exact remoteBlind_emit _
    · exact remoteBlind_emit _
    · exact (remoteBlind_modifyService).bind fun _ =>
        (blindAt fuel).refreshQuietly.bind fun _ => remoteBlind_emit _
  · exact remoteBlind_emit _

theorem remoteBlind_notifyListeners (fuel : ℕ) (handler : String) :
    ∀ listeners, RemoteBlind (notifyListeners fuel handler listeners)
  | [] => remoteBlind_pure _
  | .recorder _ :: rest =>
    (remoteBlind_modifyRegistry _).bind fun _ => remoteBlind_notifyListeners fuel handler rest
  | .service :: rest =>
    ((blindAt fuel).submit _).bind fun _ => remoteBlind_notifyListeners fuel handler rest

theorem remoteBlind_handlerReady (fuel : ℕ) (name : String) : RemoteBlind (handlerReady fuel name) :=
  remoteBlind_get_bind (fun _ _ => rfl) fun _ => remoteBlind_notifyListeners fuel name _

theorem remoteBlind_register (fuel : ℕ) (name : String) : RemoteBlind (register fuel name) := by
  unfold register
  refine remoteBlind_get_bind (fun _ _ => rfl) fun w => ?_
  dsimp only
  split
  · exact remoteBlind_pure _
  refine (remoteBlind_modifyRegistry _).bind fun _ => ?_
  split
  · split
    · exact remoteBlind_handlerReady fuel name
    · exact remoteBlind_pure _
  · exact remoteBlind_pure _

theorem remoteBlind_restoreArchive (fuel : ℕ) : RemoteBlind (restoreArchive fuel) := by
  unfold restoreArchive
  refine remoteBlind_get_bind (fun _ _ => rfl) fun w => ?_
  split
  · refine (remoteBlind_onHost _).bind fun _ => (remoteBlind_modifyRegistry _).bind fun _ => ?_
    split
    · exact remoteBlind_handlerReady fuel _
    · exact remoteBlind_pure _
  · exact remoteBlind_pure _

theorem remoteBlind_runJobs (fuel : ℕ) : RemoteBlind (runJobs fuel) :=
  remoteBlind_service_bind (fun _ _ => rfl) fun _ => (remoteBlind_modifyService).bind fun _ =>
    (remoteBlind_forM fun job _ => ((blindAt fuel).runJob job).attempt.bind fun _ =>
      remoteBlind_pure _).bind fun _ => remoteBlind_pure _

theorem remoteBlind_close : RemoteBlind close :=
  (remoteBlind_modifyService).bind fun _ => remoteBlind_modifyRegistry _

theorem remoteBlind_advance (seconds : Seconds) : RemoteBlind (advance seconds) :=
  remoteBlind_service_bind (fun _ _ => rfl) fun _ => (remoteBlind_lift _).bind fun _ =>
    remoteBlind_modifyService

/-! ### Sessions -/

/-- A request to the service, or background work it runs. -/
inductive Call where
  | refresh
  | getAddons
  | getAddon (uid : Json)
  | install (uid : Json)
  | uninstall (uid : Json)
  | handlerReady (name : String)
  | register (name : String)
  | unregister (name : String)
  | restoreArchive
  | runJobs
  | runJob (job : Job)
  | advance (seconds : Seconds)
  | close

/-- What a call answers. -/
inductive Answer where
  | reconciled (r : Reconciled)
  | addons (l : List Addon)
  | addon (a : Option Addon)
  | event (e : Event)
  | ran (count : Nat)
  | done

/-- Runs a call, its nested calls at most `fuel` deep. -/
def Call.run (fuel : ℕ) : Call → WorldM Answer
  | .refresh => .reconciled <$> Service.refreshSource fuel
  | .getAddons => .addons <$> Service.getAddons fuel
  | .getAddon uid => .addon <$> getAddonRequest fuel uid
  | .install uid => .event <$> Service.install fuel uid
  | .uninstall uid => .event <$> Service.uninstall fuel uid
  | .handlerReady name => (fun _ => .done) <$> Service.handlerReady fuel name
  | .register name => (fun _ => .done) <$> Service.register fuel name
  | .unregister name => (fun _ => .done) <$> Service.unregister name
  | .restoreArchive => (fun _ => .done) <$> Service.restoreArchive fuel
  | .runJobs => .ran <$> Service.runJobs fuel
  | .runJob job => (fun _ => .done) <$> Service.runJob fuel job
  | .advance seconds => (fun _ => .done) <$> Service.advance seconds
  | .close => (fun _ => .done) <$> Service.close

/-- Runs calls in order; a call that fails answers its failure and the session goes on. -/
def session (fuel : ℕ) : List Call → WorldM (List (Except Failure Answer))
  | [] => pure []
  | c :: rest => do
    let o ← attempt (c.run fuel)
    let os ← session fuel rest
    return o :: os

theorem remoteBlind_call (fuel : ℕ) : ∀ c : Call, RemoteBlind (c.run fuel)
  | .refresh => (blindAt fuel).refreshSource.map _
  | .getAddons => (remoteBlind_getAddons fuel).map _
  | .getAddon uid => (remoteBlind_getAddonRequest fuel uid).map _
  | .install uid => (remoteBlind_install fuel uid).map _
  | .uninstall uid => (remoteBlind_uninstall fuel uid).map _
  | .handlerReady name => (remoteBlind_handlerReady fuel name).map _
  | .register name => (remoteBlind_register fuel name).map _
  | .unregister _ => (remoteBlind_modifyRegistry _).map _
  | .restoreArchive => (remoteBlind_restoreArchive fuel).map _
  | .runJobs => (remoteBlind_runJobs fuel).map _
  | .runJob job => ((blindAt fuel).runJob job).map _
  | .advance seconds => (remoteBlind_advance seconds).map _
  | .close => remoteBlind_close.map _

theorem remoteBlind_session (fuel : ℕ) : ∀ calls, RemoteBlind (session fuel calls)
  | [] => remoteBlind_pure _
  | c :: rest => (remoteBlind_call fuel c).attempt.bind fun _ =>
    (remoteBlind_session fuel rest).bind fun _ => remoteBlind_pure _

/-- **With the remote off, the remote source is never consulted.** On a service whose policy
source disables the remote whatever the files hold, a session of requests and background
work (cycles, lookups, installs, uninstalls, ready handlers, repairs and other jobs) fetches
nothing and looks nothing up: it leaves the counts of fetches and lookups of the remote
source and of reads of the cache as they were, and, run with any other remote source in
place, it answers every call the same and leaves the same world. -/
theorem session_ignores_remote (fuel : ℕ) (calls : List Call) {w : World}
    (hw : w.service.policy.DisablesRemote) :
    ((session fuel calls).runOn w).2.service.fetchCount = w.service.fetchCount ∧
      ((session fuel calls).runOn w).2.service.lookupCount = w.service.lookupCount ∧
      ((session fuel calls).runOn w).2.service.cache.counts = w.service.cache.counts ∧
      ∀ r, (session fuel calls).runOn (w.withRemote r) =
        (((session fuel calls).runOn w).1, ((session fuel calls).runOn w).2.withRemote r) := by
  obtain ⟨hside, hframe⟩ := remoteBlind_session fuel calls w hw
  simp only [World.remoteSide, Prod.mk.injEq] at hside
  exact ⟨hside.2.1, hside.2.2.1, hside.2.2.2, hframe⟩

/-- A service that reads a fixed policy with the remote off, in front of a scripted remote
source that answers lookups. -/
def offlineWorld : World :=
  { service := { (default : World).service with
      policy := .fixed { remoteEnabled := false }, remote := .scripted [] none true } }

/-- A cycle, a lookup and an install on that service fetch nothing from the remote source. -/
theorem offline_session_fetches_nothing :
    offlineWorld.service.policy.DisablesRemote ∧
      ((session depth [.refresh, .getAddon (.str "binding:a"), .install (.str "binding:a")]).runOn
        offlineWorld).2.service.fetchCount = 0 :=
  ⟨fun _ => ⟨_, rfl, rfl⟩, (session_ignores_remote depth _ fun _ => ⟨_, rfl, rfl⟩).1⟩

end Service

end AddonCatalog
