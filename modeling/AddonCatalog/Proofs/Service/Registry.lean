import AddonCatalog.Proofs.Service.Writes

/-!
# The handler registry under any sequence of calls

The registry keeps its handlers as an ordered set of names, and its ready listeners as an
ordered set too. Telling the listeners that a handler is ready asks each of them once, in
order: a recorder notes the handler's name (a broken one notes that it raised, and the round
goes on), and the service submits a refresh. A refresh reconciles, repairs and installs, but it
never registers, unregisters or renames a handler, and never adds, removes or notifies a
listener.

* `World.registryView`, `registryKeptAt`: what registry calls show of a world (the registered
  names, the names of the known handlers, the listeners, the recorders' notes) is left alone by
  every operation that may reconcile, at every depth;
* `notifyListeners_runOn`: a round of notifications always succeeds and adds each listener's
  notes, in order, to the log;
* `RegistryCall.Spec`, `RegistryCall.run_spec`: what each call does to the registered names,
  the listeners and the notes, on a registry whose names and listeners are distinct
  (`Registry.Tidy`);
* `registry_calls_follow_registration`: after any sequence of calls, the registry is tidy, the
  handler found for an addon is the first registered one that supports it, and the next call
  does what its specification says.
-/

namespace AddonCatalog

open WorldM

instance : LawfulBEq Listener where
  eq_of_beq {a b} h := by
    cases a <;> cases b <;> simp_all [BEq.beq, instBEqListener.beq]
  rfl {a} := by cases a <;> simp [BEq.beq, instBEqListener.beq]

/-- What a listener notes when told that a handler is ready: a recorder its own name and the
handler's, or that it raised; the service notes nothing. -/
def Listener.notes (handler : String) : Listener → List (String × String)
  | .recorder n => [(n, if n.startsWith "broken" then "raised" else handler)]
  | .service => []

namespace Registry

variable {r : Registry} {n : String}

/-- The names of the registered handlers, in registration order. -/
def names (r : Registry) : List String := r.handlers.map (·.name)

/-- The registry's names and listeners are each distinct. -/
structure Tidy (r : Registry) : Prop where
  order_nodup : r.order.Nodup
  listeners_nodup : r.listeners.Nodup

theorem name_handler? (r : Registry) (n : String) :
    (r.handler? n).map (·.name) = if (r.pool.map (·.name)).contains n then some n else none := by
  unfold handler?
  cases h : r.pool.find? (·.name == n) with
  | none =>
    have hn : ∀ g ∈ r.pool, g.name ≠ n := fun g hg => by simpa using List.find?_eq_none.mp h g hg
    simpa using hn
  | some g =>
    have hg : g.name = n := by simpa using List.find?_some h
    have hmem : n ∈ r.pool.map (·.name) := List.mem_map.mpr ⟨g, List.mem_of_find?_eq_some h, hg⟩
    simp [hg, hmem]

/-- The registered names are the registered names that a known handler has. -/
theorem names_eq (r : Registry) :
    r.names = r.order.filter fun n => (r.pool.map (·.name)).contains n := by
  unfold names handlers
  rw [List.map_filterMap]
  induction r.order with
  | nil => rfl
  | cons n o ih =>
    rw [List.filterMap_cons, name_handler?, List.filter_cons]
    by_cases hc : (r.pool.map (·.name)).contains n = true
    · simp only [if_pos hc, ih]
    · simp only [if_neg hc, ih]

theorem names_nodup (h : r.order.Nodup) : r.names.Nodup := by
  rw [names_eq]
  exact h.filter _

/-- Replacing known handlers by handlers of the same name keeps the names the registry knows. -/
theorem poolNames_update {f : Handler → Handler} (hf : ∀ g, g.name = n → (f g).name = n) :
    (r.update n f).pool.map (·.name) = r.pool.map (·.name) := by
  simp only [update, List.map_map]
  refine List.map_congr_left fun g _ => ?_
  by_cases hg : g.name = n
  · simp [hg, hf g hg]
  · simp [hg]

@[simp] theorem isRegistered_iff : r.isRegistered n = true ↔ n ∈ r.order := by
  simp [isRegistered]

/-- The name of the known handler of a name, as a list: the name, when a handler has it. -/
theorem handlerName_toList (r : Registry) (n : String) :
    ((r.handler? n).map (·.name)).toList = [n].filter fun m => (r.pool.map (·.name)).contains m := by
  rw [name_handler?, List.filter_singleton]
  cases (r.pool.map (·.name)).contains n <;> rfl

/-- The handler found for an addon is the first registered handler that supports it. -/
theorem find?_eq_some_iff {t : AddonType} {ct : String} {h : Handler} :
    r.find? t ct = some h ↔ ∃ pre post, r.handlers = pre ++ h :: post ∧ h.supports t ct = true ∧
      ∀ g ∈ pre, g.supports t ct = false := by
  unfold find?
  rw [List.find?_eq_some_iff_append]
  constructor
  · rintro ⟨hh, pre, post, heq, hpre⟩
    exact ⟨pre, post, heq, hh, fun g hg => by simpa using hpre g hg⟩
  · rintro ⟨pre, post, heq, hh, hpre⟩
    exact ⟨hh, pre, post, heq, fun g hg => by simpa using hpre g hg⟩

/-- No handler is found for an addon exactly when no registered handler supports it. -/
theorem find?_eq_none_iff {t : AddonType} {ct : String} :
    r.find? t ct = none ↔ ∀ g ∈ r.handlers, g.supports t ct = false := by
  simp [find?, List.find?_eq_none]

end Registry

/-! ### What a reconciliation leaves alone -/

/-- What registry calls show of a world: the registered names, the names of the known
handlers, the listeners and what the recorders noted. -/
def World.registryView (w : World) :
    List String × List String × List Listener × List (String × String) :=
  (w.registry.order, w.registry.pool.map (·.name), w.registry.listeners, w.registry.notified)

namespace Service

variable {α β : Type} {m : WorldM α} {g : α → WorldM β}

theorem Keeps.ite_bind {γ : Type} {f : World → γ} {c : Prop} [Decidable c] {y : WorldM α}
    (hm : Keeps f m) (hy : Keeps f y) (hg : ∀ a, Keeps f (g a)) :
    Keeps f (if c then m >>= g else y >>= g) := by
  split
  · exact hm.bind hg
  · exact hy.bind hg

theorem Keeps.ite_then {γ : Type} {f : World → γ} {c : Prop} [Decidable c] {x : WorldM PUnit}
    {y : WorldM α} (hx : Keeps f x) (hy : Keeps f y) :
    Keeps f (if c then x >>= fun _ => y else y) := by
  split
  · exact hx.bind fun _ => hy
  · exact hy

/-- Every change of the service state leaves the registry alone. -/
theorem keepsRegistry_modifyService {h : ServiceState → ServiceState} :
    Keeps World.registryView (modifyService h) :=
  keeps_modify fun _ => rfl

theorem keepsRegistry_onHost (m : HostM α) : Keeps World.registryView (onHost m) := fun w => by
  simp only [onHost, runOn_bind, runOn_get]
  obtain ⟨r, h⟩ := StateT.run (ExceptT.run m) w.host
  cases r <;> rfl

theorem keepsRegistry_onStore (h : RecordStore → Except Failure RecordStore) :
    Keeps World.registryView (onStore h) := fun w => by
  simp only [onStore, runOn_bind, runOn_get]
  cases h w.service.store <;> rfl

theorem keepsRegistry_emit (e : Event) : Keeps World.registryView (emit e) :=
  keepsRegistry_modifyService.bind fun _ => keeps_pure _

theorem keepsRegistry_fetchCatalog (src : Catalog.Source) (timeout : Int × Int) :
    Keeps World.registryView (fetchCatalog src timeout) :=
  (keepsRegistry_onHost _).bind fun _ => keeps_lift _

theorem keepsRegistry_fetchRemote : Keeps World.registryView fetchRemote := by
  refine keeps_service.bind fun s => ?_
  split
  · exact keeps_pure _
  · refine keepsRegistry_modifyService.bind fun _ => ?_
    split
    · exact keeps_throw _
    · exact keeps_pure _
  · exact keepsRegistry_fetchCatalog _ _

theorem keepsRegistry_remoteValue : Keeps World.registryView remoteValue := by
  refine keeps_service.bind fun s => (keeps_lift _).bind fun r => ?_
  split
  · exact keepsRegistry_modifyService.bind fun _ => keeps_pure _
  · exact keepsRegistry_modifyService.bind fun _ => keepsRegistry_fetchRemote.attempt.bind fun _ =>
      keeps_service.bind fun _ => keepsRegistry_modifyService.bind fun _ => keeps_pure _

theorem keepsRegistry_lookupRemote (uid : String) : Keeps World.registryView (lookupRemote uid) := by
  refine keeps_service.bind fun s => ?_
  split
  · refine keepsRegistry_modifyService.bind fun _ => ?_
    split
    · exact keeps_throw _
    · exact keeps_pure _
  · exact (keepsRegistry_fetchCatalog _ _).bind fun _ => keeps_pure _
  · exact keeps_pure _

theorem keepsRegistry_purgeRecords : Keeps World.registryView purgeRecords :=
  keeps_service.bind fun _ => (keeps_lift _).bind fun _ =>
    (keeps_forM fun _ _ => keepsRegistry_onStore _).bind fun _ => keeps_pure _

/-- An install replaces the handler it called by the same handler after the call, which keeps
its name. -/
theorem keepsRegistry_installWith (name : String) (a : Addon) :
    Keeps World.registryView (installWith name a) := by
  refine keeps_get.bind fun w => ?_
  split
  · rename_i h hh
    have hname : h.name = name := Registry.name_of_handler? hh
    refine (keeps_modify fun w' => ?_).bind fun _ => keeps_lift _
    simp only [World.registryView]
    rw [Registry.poolNames_update]
    · rfl
    · intro _ _
      exact (ScriptedHandler.name_install h a).trans hname
  · exact keepsRegistry_onHost _
  · exact keeps_pure _

/-- Each operation that may run a reconciliation, at depth `fuel`, leaves alone what registry
calls show. -/
structure RegistryKeptAt (fuel : ℕ) : Prop where
  refreshSource : Keeps World.registryView (refreshSource fuel)
  refreshQuietly : Keeps World.registryView (refreshQuietly fuel)
  scheduleRepair : ∀ missing, Keeps World.registryView (scheduleRepair fuel missing)
  submit : ∀ job, Keeps World.registryView (submit fuel job)
  runJob : ∀ job, Keeps World.registryView (runJob fuel job)
  repairOne : ∀ uid record, Keeps World.registryView (repairOne fuel uid record)
  getAddon : ∀ uid, Keeps World.registryView (getAddon fuel uid)
  installAddon : ∀ a, Keeps World.registryView (installAddon fuel a)

section Succ

variable {n : ℕ} (ih : RegistryKeptAt n)
include ih

theorem RegistryKeptAt.refreshSource_succ : Keeps World.registryView (Service.refreshSource (n + 1)) := by
  simp only [Service.refreshSource]
  refine keeps_get.bind fun w => ?_
  split
  · exact keeps_pure _
  refine keeps_loadPolicy.bind fun policy => ?_
  refine keeps_service.bind fun s => (keeps_lift _).bind fun records => ?_
  split
  · exact keepsRegistry_purgeRecords.bind fun _ => keeps_pure _
  refine (keeps_splitInstalled _).bind fun found => ?_
  refine (keeps_forM fun _ _ => keepsRegistry_onStore _).bind fun _ => ?_
  refine Keeps.ite_bind ?_ (keeps_pure _) fun remote => ?_
  · exact keepsRegistry_remoteValue.attempt.bind fun _ => by
      split <;> exact keeps_pure _
  refine (keeps_mergeEntriesM _ _ _).bind fun merged => ?_
  refine keepsRegistry_modifyService.bind fun _ => ?_
  split
  · exact (ih.scheduleRepair _).bind fun _ => keeps_pure _
  · exact keeps_pure _

omit ih in
theorem RegistryKeptAt.refreshQuietly_succ (ih : RegistryKeptAt n) :
    Keeps World.registryView (Service.refreshQuietly (n + 1)) :=
  ih.refreshSource.attempt.bind fun _ => keeps_pure _

theorem RegistryKeptAt.scheduleRepair_succ (missing : List Addon) :
    Keeps World.registryView (Service.scheduleRepair (n + 1) missing) := by
  simp only [Service.scheduleRepair]
  refine keeps_service.bind fun s => keepsRegistry_modifyService.bind fun _ => ?_
  split
  · exact keeps_pure _
  refine (ih.submit _).bind fun accepted => ?_
  split
  · exact keepsRegistry_modifyService
  · exact keeps_pure _

theorem RegistryKeptAt.submit_succ (job : Job) : Keeps World.registryView (Service.submit (n + 1) job) := by
  simp only [Service.submit]
  refine keeps_service.bind fun s => ?_
  split
  · exact keeps_pure _
  split
  · exact (ih.runJob job).attempt.bind fun _ => keeps_pure _
  · exact keepsRegistry_modifyService.bind fun _ => keeps_pure _
  · exact keeps_pure _

theorem RegistryKeptAt.runJob_succ (job : Job) : Keeps World.registryView (Service.runJob (n + 1) job) := by
  cases job with
  | refresh => exact ih.refreshQuietly
  | repair stored => exact keeps_forM fun ⟨uid, record⟩ _ => ih.repairOne uid record

theorem RegistryKeptAt.repairOne_succ (uid : String) (record : Addon) :
    Keeps World.registryView (Service.repairOne (n + 1) uid record) := by
  simp only [Service.repairOne]
  refine Keeps.bind (Keeps.attempt ?_) fun _ => keepsRegistry_modifyService
  refine keeps_current.bind fun _ => ?_
  split
  · exact (ih.getAddon uid).bind fun _ => (ih.installAddon _).bind fun _ => keeps_pure _
  · exact keeps_pure _

theorem RegistryKeptAt.getAddon_succ (uid : String) : Keeps World.registryView (Service.getAddon (n + 1) uid) := by
  simp only [Service.getAddon]
  refine keeps_service.bind fun s => Keeps.ite_then ih.refreshQuietly ?_
  refine keeps_current.bind fun cur => ?_
  split
  · exact keeps_pure _
  refine keeps_loadPolicy.bind fun policy => ?_
  split
  · exact keeps_pure _
  refine keeps_service.bind fun _ => ?_
  refine Keeps.bind (Keeps.attempt ?_) fun found => ?_
  · split
    · exact keepsRegistry_lookupRemote _
    · exact keepsRegistry_remoteValue.bind fun _ => keeps_pure _
  split
  · exact (keeps_isInstalled _).bind fun _ => keeps_pure _
  · exact keeps_pure _

theorem RegistryKeptAt.installAddon_succ (a : Addon) :
    Keeps World.registryView (Service.installAddon (n + 1) a) := by
  simp only [Service.installAddon]
  refine keeps_get.bind fun w => ?_
  split
  · exact keepsRegistry_emit _
  refine Keeps.bind (Keeps.attempt ?_) fun outcome => ?_
  · refine (keeps_handlerReports _ _).bind fun _ => ?_
    split
    · exact keeps_pure _
    · exact (keepsRegistry_installWith _ _).bind fun _ =>
        (keepsRegistry_onStore _).bind fun _ => keeps_pure _
  split
  · exact keepsRegistry_emit _
  · exact keepsRegistry_emit _
  · exact keepsRegistry_modifyService.bind fun _ =>
      ih.refreshQuietly.bind fun _ => keepsRegistry_emit _

end Succ

theorem registryKeptAt_zero : RegistryKeptAt 0 where
  refreshSource := keeps_throw _
  refreshQuietly := keeps_pure _
  scheduleRepair _ := keeps_pure _
  submit _ := keeps_pure _
  runJob _ := keeps_pure _
  repairOne _ _ := keeps_pure _
  getAddon _ := keeps_pure _
  installAddon _ := keepsRegistry_emit _

/-- **Reconciliations leave the registry's calls alone**, however deeply they nest. -/
theorem registryKeptAt : ∀ fuel, RegistryKeptAt fuel
  | 0 => registryKeptAt_zero
  | n + 1 =>
    have ih := registryKeptAt n
    ⟨ih.refreshSource_succ, ih.refreshQuietly_succ, ih.scheduleRepair_succ, ih.submit_succ,
      ih.runJob_succ, ih.repairOne_succ, ih.getAddon_succ, ih.installAddon_succ⟩

/-! ### One call at a time -/

/-- Submitting a job never fails: the executor runs it and ignores its errors, queues it, or
refuses it. -/
theorem submit_ok (fuel : ℕ) (job : Job) (w : World) : ∃ b, ((submit fuel job).runOn w).1 = .ok b := by
  cases fuel with
  | zero => exact ⟨false, rfl⟩
  | succ n =>
    simp only [submit, service, runOn_bind, runOn_get, runOn_pure]
    split
    · exact ⟨_, rfl⟩
    · split <;> simp only [runOn_bind, runOn_attempt, modifyService, runOn_modify, runOn_pure] <;>
        exact ⟨_, rfl⟩

/-- **A round of notifications asks every listener once, in order.** It always succeeds, adds
each listener's notes to the log in the order of the listeners, and otherwise leaves what
registry calls show as it was, whatever the refreshes the service submits do. -/
theorem notifyListeners_runOn (fuel : ℕ) (handler : String) :
    ∀ (ls : List Listener) (w : World),
      ((notifyListeners fuel handler ls).runOn w).1 = .ok () ∧
        ((notifyListeners fuel handler ls).runOn w).2.registryView =
          (w.registry.order, w.registry.pool.map (·.name), w.registry.listeners,
            w.registry.notified ++ ls.flatMap (Listener.notes handler))
  | [], w => ⟨rfl, by simp [notifyListeners, World.registryView]⟩
  | .recorder n :: rest, w => by
    simp only [notifyListeners, modifyRegistry, runOn_bind, runOn_modify]
    obtain ⟨hok, hview⟩ := notifyListeners_runOn fuel handler rest _
    refine ⟨hok, hview.trans ?_⟩
    simp only [Registry.record, List.flatMap_cons, Listener.notes, List.append_assoc,
      List.singleton_append]
  | .service :: rest, w => by
    simp only [notifyListeners, runOn_bind]
    obtain ⟨b, hb⟩ := submit_ok fuel .refresh w
    have hkeep := (registryKeptAt fuel).submit .refresh w
    rcases h : (submit fuel .refresh).runOn w with ⟨_ | b', w₁⟩
    · simp [h] at hb
    rw [h] at hkeep
    obtain ⟨hok, hview⟩ := notifyListeners_runOn fuel handler rest w₁
    refine ⟨hok, hview.trans ?_⟩
    simp only [World.registryView, Prod.mk.injEq] at hkeep
    simp [hkeep, Listener.notes]

theorem handlerReady_runOn (fuel : ℕ) (name : String) (w : World) :
    ((handlerReady fuel name).runOn w).1 = .ok () ∧
      ((handlerReady fuel name).runOn w).2.registryView =
        (w.registry.order, w.registry.pool.map (·.name), w.registry.listeners,
          w.registry.notified ++ w.registry.listeners.flatMap (Listener.notes name)) := by
  simpa only [handlerReady, runOn_bind, runOn_get] using notifyListeners_runOn fuel name _ w

/-- Registering a registered name changes nothing; registering another puts it last, and a
handler of that name that is ready then tells every listener. -/
theorem register_runOn (fuel : ℕ) (name : String) (w : World) :
    ((register fuel name).runOn w).1 = .ok () ∧
      ((register fuel name).runOn w).2.registryView =
        if w.registry.isRegistered name then w.registryView
        else (w.registry.order ++ [name], w.registry.pool.map (·.name), w.registry.listeners,
          w.registry.notified ++ if (w.registry.handler? name).any (·.isReady)
            then w.registry.listeners.flatMap (Listener.notes name) else []) := by
  simp only [register, runOn_bind, runOn_get]
  by_cases hreg : w.registry.isRegistered name = true
  · simp [hreg]
  simp only [hreg, Bool.false_eq_true, if_false, modifyRegistry, runOn_bind, runOn_modify]
  cases hh : w.registry.handler? name with
  | none => simp [World.registryView, Registry.register, hreg]
  | some h =>
    by_cases hready : h.isReady = true
    · -- the handler is ready: the round of notifications runs on the registry with the name
      obtain ⟨hok, hview⟩ := handlerReady_runOn fuel name
        { w with registry := w.registry.register name }
      simp only [hready, if_true]
      refine ⟨hok, hview.trans ?_⟩
      simp [Registry.register, hreg, hready]
    · simp [hready, World.registryView, Registry.register, hreg]

end Service

/-- What registry calls show of a world fixes its registered names, its order, its listeners
and its notes. -/
theorem World.registry_of_view {w : World} {o p : List String} {ls : List Listener}
    {nt : List (String × String)} (h : w.registryView = (o, p, ls, nt)) :
    w.registry.names = o.filter (p.contains ·) ∧ w.registry.order = o ∧ w.registry.listeners = ls ∧
      w.registry.notified = nt := by
  simp only [World.registryView, Prod.mk.injEq] at h
  obtain ⟨ho, hp, hl, hn⟩ := h
  exact ⟨by rw [Registry.names_eq, ho, hp], ho, hl, hn⟩

theorem runOn_bind_of_ok {α β : Type} {x : WorldM α} {f : α → WorldM β} {w : World} {a : α}
    (h : (x.runOn w).1 = .ok a) : (x >>= f).runOn w = (f a).runOn (x.runOn w).2 := by
  rw [runOn_bind]
  rcases hx : x.runOn w with ⟨_ | b, w'⟩
  · rw [hx] at h
    cases h
  · rw [hx] at h
    cases h
    rfl

/-! ### Calls on the registry -/

/-- A call on the handler registry. -/
inductive RegistryCall where
  | register (name : String)
  | unregister (name : String)
  | handlerReady (name : String)
  | addListener (l : Listener)
  | removeListener (l : Listener)

namespace RegistryCall

/-- Runs a call on the world, its nested reconciliations at most `fuel` deep. -/
def run (fuel : ℕ) : RegistryCall → WorldM Unit
  | .register name => Service.register fuel name
  | .unregister name => Service.unregister name
  | .handlerReady name => Service.handlerReady fuel name
  | .addListener l => modifyRegistry (·.addListener l)
  | .removeListener l => modifyRegistry (·.removeListener l)

/-- Runs calls in order. -/
def runAll (fuel : ℕ) (calls : List RegistryCall) : WorldM Unit := calls.forM (·.run fuel)

/-- What a call does to a registry, seen through the names of its registered handlers, its
listeners and the recorders' notes:

* registering a registered name changes nothing; registering another puts its handler last
  and, when that handler is ready, tells every listener;
* unregistering removes the name;
* a ready handler tells every listener;
* a listener is added last unless it is there already, and removed by its removal. -/
def Spec : RegistryCall → Registry → Registry → Prop
  | .register n, r, r' =>
    r'.listeners = r.listeners ∧
      if r.isRegistered n then r'.names = r.names ∧ r'.notified = r.notified
      else r'.names = r.names ++ ((r.handler? n).map (·.name)).toList ∧
        r'.notified = r.notified ++
          if (r.handler? n).any (·.isReady) then r.listeners.flatMap (Listener.notes n) else []
  | .unregister n, r, r' =>
    r'.names = r.names.erase n ∧ r'.listeners = r.listeners ∧ r'.notified = r.notified
  | .handlerReady n, r, r' =>
    r'.names = r.names ∧ r'.listeners = r.listeners ∧
      r'.notified = r.notified ++ r.listeners.flatMap (Listener.notes n)
  | .addListener l, r, r' =>
    r'.names = r.names ∧ r'.notified = r.notified ∧
      r'.listeners = if l ∈ r.listeners then r.listeners else r.listeners ++ [l]
  | .removeListener l, r, r' =>
    r'.names = r.names ∧ r'.notified = r.notified ∧ r'.listeners = r.listeners.erase l

variable {w : World}

/-- **One call.** On a registry whose names and listeners are distinct, every call succeeds
and does what `Spec` says. -/
theorem run_spec (fuel : ℕ) (c : RegistryCall) (hw : w.registry.Tidy) :
    ((c.run fuel).runOn w).1 = .ok () ∧ c.Spec w.registry ((c.run fuel).runOn w).2.registry := by
  have hnames := Registry.names_nodup hw.order_nodup
  cases c with
  | register n =>
    simp only [run]
    obtain ⟨hok, hview⟩ := Service.register_runOn fuel n w
    refine ⟨hok, ?_⟩
    by_cases hreg : w.registry.isRegistered n = true
    · rw [if_pos hreg] at hview
      obtain ⟨hn, -, hl, hnt⟩ := World.registry_of_view hview
      simp only [Spec, if_pos hreg]
      exact ⟨hl, by rw [hn, Registry.names_eq], hnt⟩
    · rw [if_neg hreg] at hview
      obtain ⟨hn, -, hl, hnt⟩ := World.registry_of_view hview
      simp only [Spec, if_neg hreg]
      -- a new name goes last, and shows when a handler has it
      refine ⟨hl, ?_, hnt⟩
      rw [hn, List.filter_append, Registry.handlerName_toList, ← Registry.names_eq]
  | unregister n =>
    refine ⟨rfl, ?_, rfl, rfl⟩
    show ({ w.registry with order := w.registry.order.filter (· != n) } : Registry).names = _
    rw [Registry.names_eq, hnames.erase_eq_filter, Registry.names_eq, List.filter_comm]
  | handlerReady n =>
    simp only [run]
    obtain ⟨hok, hview⟩ := Service.handlerReady_runOn fuel n w
    obtain ⟨hn, -, hl, hnt⟩ := World.registry_of_view hview
    exact ⟨hok, by rw [hn, Registry.names_eq], hl, hnt⟩
  | addListener l =>
    refine ⟨rfl, ?_⟩
    show Spec (.addListener l) w.registry (w.registry.addListener l)
    by_cases hl : l ∈ w.registry.listeners
    · have hadd : w.registry.addListener l = w.registry := by simp [Registry.addListener, hl]
      rw [hadd]
      exact ⟨rfl, rfl, by simp [hl]⟩
    · have hadd : w.registry.addListener l =
          { w.registry with listeners := w.registry.listeners ++ [l] } := by
        simp [Registry.addListener, hl]
      rw [hadd]
      exact ⟨rfl, rfl, by simp [hl]⟩
  | removeListener l =>
    exact ⟨rfl, rfl, rfl, (hw.listeners_nodup.erase_eq_filter l).symm⟩

/-- Every call keeps the registry's names and listeners distinct. -/
theorem tidy_run (fuel : ℕ) (c : RegistryCall) (hw : w.registry.Tidy) :
    ((c.run fuel).runOn w).2.registry.Tidy := by
  cases c with
  | register n =>
    simp only [run]
    obtain ⟨-, hview⟩ := Service.register_runOn fuel n w
    by_cases hreg : w.registry.isRegistered n = true
    · rw [if_pos hreg] at hview
      obtain ⟨-, ho, hl, -⟩ := World.registry_of_view hview
      exact ⟨ho ▸ hw.order_nodup, hl ▸ hw.listeners_nodup⟩
    · rw [if_neg hreg] at hview
      obtain ⟨-, ho, hl, -⟩ := World.registry_of_view hview
      refine ⟨?_, hl ▸ hw.listeners_nodup⟩
      rw [ho, ← List.concat_eq_append, List.nodup_concat]
      exact ⟨by simpa using hreg, hw.order_nodup⟩
  | unregister n => exact ⟨hw.order_nodup.filter _, hw.listeners_nodup⟩
  | handlerReady n =>
    simp only [run]
    obtain ⟨-, hview⟩ := Service.handlerReady_runOn fuel n w
    obtain ⟨-, ho, hl, -⟩ := World.registry_of_view hview
    exact ⟨ho ▸ hw.order_nodup, hl ▸ hw.listeners_nodup⟩
  | addListener l =>
    show (w.registry.addListener l).Tidy
    simp only [Registry.addListener, List.contains_iff_mem]
    split
    · exact hw
    · rename_i hl
      refine ⟨hw.order_nodup, ?_⟩
      rw [← List.concat_eq_append, List.nodup_concat]
      exact ⟨hl, hw.listeners_nodup⟩
  | removeListener l => exact ⟨hw.order_nodup, hw.listeners_nodup.filter _⟩

/-- **Any run keeps the registry tidy.** -/
theorem tidy_runAll (fuel : ℕ) : ∀ (calls : List RegistryCall) {w : World}, w.registry.Tidy →
    ((runAll fuel calls).runOn w).2.registry.Tidy
  | [], _, hw => hw
  | c :: cs, w, hw => by
    show ((c.run fuel >>= fun _ => runAll fuel cs).runOn w).2.registry.Tidy
    rw [runOn_bind_of_ok (run_spec fuel c hw).1]
    exact tidy_runAll fuel cs (tidy_run fuel c hw)

end RegistryCall

/-- **The registry under any sequence of calls.** Run any calls on a world whose registry has
distinct names and distinct listeners, as a registry that starts empty has. Afterwards the
registered handlers have distinct names and the listeners are distinct; the handler found for
an addon is the first registered handler that supports it, and none is found exactly when no
registered handler supports it; and the next call succeeds and does what `RegistryCall.Spec`
says: registering again neither duplicates nor moves a handler, a new registration puts its
handler last and tells the listeners exactly when that handler is ready, unregistering removes
only that handler, and a ready handler tells each listener present at that moment once, in
order, a listener that raises included. -/
theorem registry_calls_follow_registration (fuel : ℕ) (calls : List RegistryCall) {w : World}
    (hw : w.registry.Tidy) :
    let w' := ((RegistryCall.runAll fuel calls).runOn w).2
    w'.registry.names.Nodup ∧ w'.registry.listeners.Nodup ∧
      (∀ t ct h, w'.registry.find? t ct = some h ↔ ∃ pre post, w'.registry.handlers = pre ++ h :: post ∧
        h.supports t ct = true ∧ ∀ g ∈ pre, g.supports t ct = false) ∧
      (∀ t ct, w'.registry.find? t ct = none ↔ ∀ g ∈ w'.registry.handlers, g.supports t ct = false) ∧
      ∀ c : RegistryCall, ((c.run fuel).runOn w').1 = .ok () ∧
        c.Spec w'.registry ((c.run fuel).runOn w').2.registry := by
  intro w'
  have ht : w'.registry.Tidy := RegistryCall.tidy_runAll fuel calls hw
  exact ⟨Registry.names_nodup ht.order_nodup, ht.listeners_nodup,
    fun _ _ _ => Registry.find?_eq_some_iff, fun _ _ => Registry.find?_eq_none_iff,
    fun c => RegistryCall.run_spec fuel c ht⟩

/-- A registry that knows a handler that is not ready and one that is, with a recorder that
raises listening before one that does not. -/
def sampleRegistryWorld : World :=
  { (default : World) with
    registry := { pool := [.scripted { name := "slow", ready := false }, .scripted { name := "fast" }],
                  listeners := [.recorder "broken", .recorder "seen"] } }

theorem sampleRegistryWorld_tidy : sampleRegistryWorld.registry.Tidy :=
  ⟨List.nodup_nil, List.nodup_cons.mpr ⟨by simp, List.nodup_singleton _⟩⟩

/-- Registering both handlers, the ready one twice, and then telling the listeners that the slow
one became ready. -/
theorem registry_calls_follow_registration_sample :
    sampleRegistryWorld.registry.Tidy ∧
      let w' := ((RegistryCall.runAll Service.depth [.register "slow", .register "fast",
        .register "fast", .handlerReady "slow"]).runOn sampleRegistryWorld).2
      w'.registry.names.Nodup ∧ w'.registry.listeners.Nodup ∧
        (∀ t ct h, w'.registry.find? t ct = some h ↔ ∃ pre post, w'.registry.handlers = pre ++ h :: post ∧
          h.supports t ct = true ∧ ∀ g ∈ pre, g.supports t ct = false) ∧
        (∀ t ct, w'.registry.find? t ct = none ↔ ∀ g ∈ w'.registry.handlers, g.supports t ct = false) ∧
        ∀ c : RegistryCall, ((c.run Service.depth).runOn w').1 = .ok () ∧
          c.Spec w'.registry ((c.run Service.depth).runOn w').2.registry :=
  ⟨sampleRegistryWorld_tidy, registry_calls_follow_registration Service.depth _ sampleRegistryWorld_tidy⟩

end AddonCatalog
