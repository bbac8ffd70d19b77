import AddonCatalog.Proofs.Service.Cycle
import AddonCatalog.Proofs.Service.Frame

/-!
# What a reconciliation with jobs deferred changes

With its background jobs deferred, a reconciliation reads, asks the handlers, fetches the remote
catalog through the cache, removes records and publishes; the repairs it schedules wait. So it
*trims* the world (`World.Trims`): the handlers, the files, the service's id, the cache's
generation (its count of invalidations) and the way jobs run stay as they are, and the store
only loses records (`RecordStore.DropsTo`).

* `keeps_trimView_remoteValue`, `keeps_trimView_lookupRemote`: reading the remote catalog
  changes only the network, the cache (not its generation) and the request counters;
* `trimming_refreshSource`, `trimming_refreshQuietly`, `trimming_getAddon`: with jobs deferred,
  a reconciliation, and a lookup that may run one, trim the world at every depth.
-/

namespace AddonCatalog

open WorldM

/-! ### Dropping records -/

namespace RecordStore

/-- `st'` is `st` with some of its records dropped: it adds no record and changes no value. -/
def DropsTo : RecordStore → RecordStore → Prop
  | memory rs, memory rs' => rs'.Sublist rs
  | table ns rows, table ns' rows' => ns' = ns ∧ rows'.Sublist rows
  | unopenable path, unopenable path' => path' = path
  | _, _ => False

variable {st st₁ st₂ st₃ : RecordStore}

@[refl] theorem DropsTo.refl : ∀ st : RecordStore, st.DropsTo st
  | memory _ => List.Sublist.refl _
  | table _ _ => ⟨rfl, List.Sublist.refl _⟩
  | unopenable _ => rfl

theorem DropsTo.trans (h₁ : st₁.DropsTo st₂) (h₂ : st₂.DropsTo st₃) : st₁.DropsTo st₃ := by
  match st₁, st₂, st₃, h₁, h₂ with
  | memory _, memory _, memory _, h₁, h₂ => exact List.Sublist.trans h₂ h₁
  | table _ _, table _ _, table _ _, ⟨rfl, h₁⟩, ⟨rfl, h₂⟩ => exact ⟨rfl, h₂.trans h₁⟩
  | unopenable _, unopenable _, unopenable _, h₁, h₂ => exact Eq.trans h₂ h₁

/-- A removal drops the records of its key and keeps the others as they were. -/
theorem dropsTo_of_remove {k : Json} (h : st.remove k = .ok st') : st.DropsTo st' := by
  cases st with
  | memory rs =>
    simp only [remove] at h
    split at h
    · cases h
      exact List.filter_sublist
    · cases h
  | table ns rows =>
    simp only [remove] at h
    rcases hb : RecordStore.bind 2 k with e | (_ | k')
    · simp [hb, Bind.bind, Except.bind] at h
    · simp only [hb, Bind.bind, Except.bind] at h
      cases h
      exact DropsTo.refl _
    · simp only [hb, Bind.bind, Except.bind] at h
      cases h
      exact ⟨rfl, List.filter_sublist⟩
  | unopenable path => cases h

end RecordStore

/-! ### Trimming the world -/

namespace World

/-- `w'` is `w` after work that leaves the handlers, the files, the service's id, the cache's
generation and the way jobs run as they are, and only drops records from the store. -/
structure Trims (w w' : World) : Prop where
  registry : w'.registry = w.registry
  files : w'.host.files = w.host.files
  serviceId : w'.service.serviceId = w.service.serviceId
  generation : w'.service.cache.generation = w.service.cache.generation
  jobs : (w'.service.closed, w'.service.executor) = (w.service.closed, w.service.executor)
  store : w.service.store.DropsTo w'.service.store

variable {w w₁ w₂ w₃ : World}

theorem Trims.refl (w : World) : w.Trims w :=
  ⟨rfl, rfl, rfl, rfl, rfl, RecordStore.DropsTo.refl _⟩

theorem Trims.trans (h₁ : w₁.Trims w₂) (h₂ : w₂.Trims w₃) : w₁.Trims w₃ :=
  ⟨h₂.registry.trans h₁.registry, h₂.files.trans h₁.files, h₂.serviceId.trans h₁.serviceId,
    h₂.generation.trans h₁.generation, h₂.jobs.trans h₁.jobs, h₁.store.trans h₂.store⟩

theorem Trims.defers (h : w₁.Trims w₂) (hd : w₁.Defers) : w₂.Defers := defers_of_jobs h.jobs hd

/-- Changing what `Trims` does not look at trims the world. -/
theorem trims_of_view (h : (w'.registry, w'.host.files, w'.service.serviceId,
    w'.service.cache.generation, w'.service.closed, w'.service.executor, w'.service.store) =
    (w.registry, w.host.files, w.service.serviceId, w.service.cache.generation, w.service.closed,
      w.service.executor, w.service.store)) : w.Trims w' := by
  simp only [Prod.mk.injEq] at h
  obtain ⟨hr, hf, hi, hg, hc, hx, hs⟩ := h
  exact ⟨hr, hf, hi, hg, by rw [hc, hx], hs ▸ RecordStore.DropsTo.refl _⟩

end World

/-! ### Reading the remote catalog -/

namespace Cache

variable {τ α : Type} {c c' : Cache τ α} {now : τ} {l : Lookup α}

theorem generation_of_lookup [ClockTime τ] (h : c.lookup now = .ok (l, c')) : c'.generation = c.generation := by
  simp only [lookup, bind, Except.bind] at h
  cases hf : c.isFresh now with
  | error e => simp [hf] at h
  | ok b =>
    simp only [hf] at h
    cases b <;> simp [pure, Except.pure] at h <;> rw [← h.2]

@[simp] theorem generation_complete (t : Ticket α) (o : Except Failure (List α)) :
    (c.complete t o now).2.generation = c.generation := by
  unfold complete
  split
  · rfl
  · split <;> rfl

end Cache

namespace Service

variable {α β : Type} {m : WorldM α} {f : α → WorldM β} {w : World}

/-- What `World.Trims` looks at. -/
def trimView (w : World) :
    Registry × Volume × String × Nat × Bool × ExecutorKind × RecordStore :=
  (w.registry, w.host.files, w.service.serviceId, w.service.cache.generation, w.service.closed,
    w.service.executor, w.service.store)

/-- Work on the host leaves every view that ignores the host. -/
theorem keeps_onHost_of {γ : Type} {f : World → γ} (hf : ∀ w h, f { w with host := h } = f w)
    (m : HostM α) : Keeps f (onHost m) := fun w => by
  simp only [onHost, runOn_bind, runOn_get]
  obtain ⟨r, h⟩ := StateT.run (ExceptT.run m) w.host
  cases r <;> exact hf w h

/-- Fetching the catalog only talks to the network. -/
theorem keeps_trimView_fetchCatalog (src : Catalog.Source) (timeout : Int × Int) :
    Keeps trimView (fetchCatalog src timeout) :=
  (show Keeps trimView (onHost (HostM.send _)) from fun _ => rfl).bind fun _ => keeps_lift _

theorem keeps_trimView_fetchRemote : Keeps trimView fetchRemote := by
  refine keeps_service.bind fun s => ?_
  split
  · exact keeps_pure _
  · refine (keeps_modify fun _ => by rfl).bind fun _ => ?_
    split
    · exact keeps_throw _
    · exact keeps_pure _
  · exact keeps_trimView_fetchCatalog _ _

/-- Reading the remote catalog through the cache changes neither the handlers, nor the cache's
generation, nor the store. -/
theorem keeps_trimView_remoteValue : Keeps trimView remoteValue := fun w => by
  simp only [remoteValue, runOn_bind, service_runOn, runOn_lift]
  rcases hl : w.service.cache.lookup w.service.clock with e | ⟨_ | t, c⟩
  · rfl
  · -- a hit only stores the cache the lookup answered
    simp only [modifyService, runOn_bind, runOn_modify, runOn_pure, trimView,
      Cache.generation_of_lookup hl]
  · -- a miss stores the lookup's cache, fetches, and completes the fetch in the cache it finds
    simp only [modifyService, runOn_modify, runOn_attempt, runOn_bind, runOn_pure, service_runOn]
    have hf := keeps_trimView_fetchRemote { w with service := { w.service with cache := c } }
    simp only [trimView, Prod.mk.injEq] at hf ⊢
    simp only [Cache.generation_complete, hf, Cache.generation_of_lookup hl, and_self]

theorem keeps_trimView_lookupRemote (uid : String) : Keeps trimView (lookupRemote uid) := by
  refine keeps_service.bind fun s => ?_
  split
  · refine (keeps_modify fun _ => by rfl).bind fun _ => ?_
    split
    · exact keeps_throw _
    · exact keeps_pure _
  · exact (keeps_trimView_fetchCatalog _ _).bind fun _ => keeps_pure _
  · exact keeps_pure _

/-! ### Cycles with jobs deferred trim the world -/

/-- With jobs deferred, `m` trims the world (and jobs stay deferred, by `World.Trims.defers`). -/
def Trimming (m : WorldM α) : Prop := ∀ w : World, w.Defers → w.Trims (m.runOn w).2

end Service

/-- A computation that keeps what `World.Trims` looks at trims the world. -/
theorem WorldM.Keeps.trimming {α : Type} {m : WorldM α} (h : Keeps Service.trimView m) :
    Service.Trimming m :=
  fun w _ => World.trims_of_view (h w)

namespace Service

section Trimming

variable {α β : Type} {m : WorldM α} {g : α → WorldM β}

theorem Trimming.bind (hm : Trimming m) (hg : ∀ a, Trimming (g a)) : Trimming (m >>= g) := by
  intro w hd
  rw [runOn_bind]
  have h₁ := hm w hd
  rcases h : m.runOn w with ⟨_ | a, w'⟩ <;> rw [h] at h₁
  · exact h₁
  · exact h₁.trans (hg a w' (h₁.defers hd))

theorem Trimming.attempt (hm : Trimming m) : Trimming (attempt m) :=
  fun w hd => by simpa using hm w hd

theorem Trimming.ite_bind {c : Prop} [Decidable c] {y : WorldM α} (hm : Trimming m)
    (hy : Trimming y) (hg : ∀ a, Trimming (g a)) :
    Trimming (if c then m >>= g else y >>= g) := by
  split
  · exact hm.bind hg
  · exact hy.bind hg

theorem Trimming.ite_then {c : Prop} [Decidable c] {x : WorldM PUnit} {y : WorldM α}
    (hx : Trimming x) (hy : Trimming y) : Trimming (if c then x >>= fun _ => y else y) := by
  split
  · exact hx.bind fun _ => hy
  · exact hy

theorem trimming_pure (a : α) : Trimming (pure a : WorldM α) := (keeps_pure a).trimming

theorem trimming_forM {l : List β} {g : β → WorldM PUnit} (hg : ∀ b ∈ l, Trimming (g b)) :
    Trimming (l.forM g) := by
  induction l with
  | nil => exact trimming_pure _
  | cons b l ih =>
    show Trimming (g b >>= fun _ => l.forM g)
    exact (hg b (by simp)).bind fun _ => ih fun c hc => hg c (by simp [hc])

/-- Removing records drops them and nothing else. -/
theorem trimming_remove (k : Json) : Trimming (onStore (·.remove k)) := fun w _ => by
  simp only [onStore, runOn_bind, runOn_get]
  rcases h : w.service.store.remove k with e | st
  · exact World.Trims.refl w
  · exact ⟨rfl, rfl, rfl, rfl, rfl, RecordStore.dropsTo_of_remove h⟩

theorem trimming_purgeRecords : Trimming purgeRecords :=
  keeps_service.trimming.bind fun _ => (keeps_lift _).trimming.bind fun _ =>
    (trimming_forM fun k _ => trimming_remove k).bind fun _ => trimming_pure _

/-- A repair scheduled with jobs deferred only waits. -/
theorem trimming_scheduleRepair (fuel : Nat) (missing : List Addon) :
    Trimming (scheduleRepair fuel missing) := fun w hd => by
  obtain ⟨r, q, h⟩ := scheduleRepair_deferred fuel missing hd
  rw [h]
  exact World.trims_of_view rfl

/-- **A cycle with jobs deferred trims the world**: it reads, asks the handlers, fetches
through the cache, removes the records of missing addons (or all of them, when one is
unreadable) and publishes; the repairs it schedules wait. -/
theorem trimming_refreshSource : ∀ fuel, Trimming (refreshSource fuel)
  | 0 => (keeps_throw _).trimming
  | n + 1 => by
    simp only [refreshSource]
    refine keeps_get.trimming.bind fun w => ?_
    split
    · exact trimming_pure _
    refine keeps_loadPolicy.trimming.bind fun policy => ?_
    refine keeps_service.trimming.bind fun s => (keeps_lift _).trimming.bind fun records => ?_
    split
    · exact trimming_purgeRecords.bind fun _ => trimming_pure _
    refine (keeps_splitInstalled _).trimming.bind fun found => ?_
    refine (trimming_forM fun a _ => trimming_remove _).bind fun _ => ?_
    refine Trimming.ite_bind ?_ (trimming_pure _) fun remote => ?_
    · exact keeps_trimView_remoteValue.attempt.trimming.bind fun _ => by
        split <;> exact trimming_pure _
    refine (keeps_mergeEntriesM _ _ _).trimming.bind fun merged => ?_
    refine Trimming.bind (keeps_modify fun _ => by rfl).trimming fun _ => ?_
    split
    · exact (trimming_scheduleRepair _ _).bind fun _ => trimming_pure _
    · exact trimming_pure _

theorem trimming_refreshQuietly : ∀ fuel, Trimming (refreshQuietly fuel)
  | 0 => trimming_pure _
  | n + 1 => (trimming_refreshSource n).attempt.bind fun _ => trimming_pure _

/-- A cycle run quietly always answers. -/
theorem refreshQuietly_ok (n : Nat) (w : World) :
    ∃ w', (refreshQuietly n).runOn w = (.ok (), w') := by
  cases n with
  | zero => exact ⟨w, rfl⟩
  | succ n => exact ⟨_, by simp only [refreshQuietly, runOn_bind, runOn_attempt]; rfl⟩

/-- A lookup with no depth left for a cycle only reads the snapshot and the remote source. -/
theorem keeps_trimView_getAddon_one (uid : String) : Keeps trimView (getAddon 1 uid) := by
  simp only [getAddon]
  refine keeps_service.bind fun s => ?_
  -- the cycle it would run has no depth left
  have hnone : Keeps trimView (refreshQuietly 0) := keeps_pure _
  split
  on_goal 1 => refine hnone.bind fun _ => ?_
  all_goals
    refine keeps_current.bind fun cur => ?_
    split
    · exact keeps_pure _
    refine keeps_loadPolicy.bind fun policy => ?_
    split
    · exact keeps_pure _
    refine keeps_service.bind fun _ => (Keeps.attempt ?_).bind fun found => ?_
    · -- a remote lookup, by the source or through the cache
      split
      · exact keeps_trimView_lookupRemote _
      · exact keeps_trimView_remoteValue.bind fun _ => keeps_pure _
    split
    · exact (keeps_isInstalled _).bind fun _ => keeps_pure _
    · exact keeps_pure _

/-- A lookup is the cycle it runs when no snapshot is published, then a lookup with no depth
left. -/
theorem getAddon_succ_runOn (n : Nat) (uid : String) {w : World} (hd : w.Defers) :
    (getAddon (n + 1) uid).runOn w =
      (getAddon 1 uid).runOn (if w.service.snapshot.isNone then ((refreshQuietly n).runOn w).2 else w) := by
  simp only [getAddon, runOn_bind, service_runOn]
  cases hsn : w.service.snapshot.isNone
  · simp only [Bool.false_eq_true, if_false, hsn]
  · obtain ⟨w₀, hw₀⟩ := refreshQuietly_ok n w
    have hid := (trimming_refreshQuietly n w hd).serviceId
    simp only [if_true, hw₀] at hid ⊢
    -- the cycle keeps the service's id, so the lookup after it is the one with no depth left
    rw [hid, runOn_bind, hw₀]
    by_cases hs₀ : w₀.service.snapshot.isNone = true
    · simp only [hs₀, if_true, refreshQuietly, runOn_bind, runOn_pure]
    · rw [if_neg hs₀]

/-- Finding an addon with jobs deferred trims the world: only the cycle it may run
removes records. -/
theorem trimming_getAddon : ∀ fuel uid, Trimming (getAddon fuel uid)
  | 0, _ => trimming_pure _
  | n + 1, uid => fun w hd => by
    rw [getAddon_succ_runOn n uid hd]
    have hk (v : World) : v.Trims ((getAddon 1 uid).runOn v).2 :=
      World.trims_of_view (keeps_trimView_getAddon_one uid v)
    split
    · exact (trimming_refreshQuietly n w hd).trans (hk _)
    · exact hk w

/-- Once a snapshot is published, a lookup runs no cycle: it keeps what `World.Trims` looks
at. -/
theorem getAddon_published (fuel : Nat) (uid : String) {w : World} (hd : w.Defers)
    (hs : w.service.snapshot.isSome) : trimView ((getAddon fuel uid).runOn w).2 = trimView w := by
  cases fuel with
  | zero => rfl
  | succ n =>
    rw [getAddon_succ_runOn n uid hd, if_neg (by simpa using Option.isSome_iff_ne_none.mp hs)]
    exact keeps_trimView_getAddon_one uid w

end Trimming

end Service

end AddonCatalog
