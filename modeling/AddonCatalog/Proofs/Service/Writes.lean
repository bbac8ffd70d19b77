import AddonCatalog.Proofs.Service.Announce
import AddonCatalog.Proofs.Service.Pruning
import AddonCatalog.Proofs.Service.Termination
import AddonCatalog.Service.Actions
import Mathlib.Data.List.Find

/-!
# What installs and uninstalls write

With background jobs deferred, an install or an uninstall touches the record store and the
cache only on the way on which it succeeds:

* an install announces `installed` exactly when the addon was resolved, the first registered
  handler that supports it reported it not installed, the handler's install returned and the
  record was written (`GoesThrough`); exactly then it invalidates the cache. On every other
  outcome the store only loses records (in the cycle a lookup may run) and the cache keeps its
  generation, and in every case at most one install call is recorded
  (`Registry.InstallsAtMostOnce`);
* an uninstall announces `uninstalled` exactly when the handler of the resolved addon reported
  it installed, the handler's uninstall returned and the record was removed; exactly then it
  invalidates the cache. Past the lookup, the store changes only on that way and on the
  self-heal, where the handler reports the addon not installed and its record is removed; when
  the handler's uninstall fails, the store and the cache stay as the lookup left them.
-/

namespace AddonCatalog

open WorldM

/-! ### Install calls -/

namespace ScriptedHandler

@[simp] theorem name_install (h : ScriptedHandler) (a : Addon) : (h.install a).2.name = h.name := by
  simp only [install]
  split <;> simp only [addInstalled]
  split <;> rfl

@[simp] theorem supports_install (h : ScriptedHandler) (a : Addon) (t : AddonType) (c : String) :
    (h.install a).2.supports t c = h.supports t c := by
  simp only [install]
  split
  · rfl
  · rfl
  · simp only [addInstalled]
    split <;> rfl

@[simp] theorem installCalls_install (h : ScriptedHandler) (a : Addon) :
    (h.install a).2.installCalls = h.installCalls ++ [(a.uid, a.version)] := by
  simp only [install]
  split <;> simp only [addInstalled]
  split <;> rfl

end ScriptedHandler

namespace Registry

/-- The install calls recorded by the scripted handler of a name; other handlers record none. -/
def installCalls (r : Registry) (name : String) : List (String × String) :=
  match r.handler? name with
  | some (.scripted h) => h.installCalls
  | _ => []

/-- `r'` is `r` after at most one install call: the handlers of every name but one recorded
the install calls they had, and that one at most one more. -/
def InstallsAtMostOnce (r r' : Registry) : Prop :=
  ∃ name, (∀ n, n ≠ name → r'.installCalls n = r.installCalls n) ∧
    ∃ calls, r'.installCalls name = r.installCalls name ++ calls ∧ calls.length ≤ 1

theorem InstallsAtMostOnce.refl (r : Registry) : r.InstallsAtMostOnce r :=
  ⟨"", fun _ _ => rfl, [], (List.append_nil _).symm, Nat.zero_le _⟩

variable {r : Registry} {name : String} {h : Handler}

theorem name_of_handler? (hh : r.handler? name = some h) : h.name = name := by
  simpa using List.find?_some hh

/-- A registered handler is the known handler of its name. -/
theorem handler?_of_mem_handlers (hh : h ∈ r.handlers) : r.handler? h.name = some h := by
  obtain ⟨n, -, hn⟩ := List.mem_filterMap.mp hh
  rwa [name_of_handler? hn]

/-- The handler found for an addon is the known handler of its name. -/
theorem handler?_of_find? {t : AddonType} {c : String} (hf : r.find? t c = some h) :
    r.handler? h.name = some h :=
  handler?_of_mem_handlers (List.mem_of_find?_eq_some hf)

/-- Replacing the handler of a name by one of the same name changes what that name finds and
nothing else. -/
theorem handler?_update {f : Handler → Handler} (hf : ∀ h, h.name = name → (f h).name = h.name)
    (n : String) :
    (r.update name f).handler? n = (r.handler? n).map fun h => if h.name == name then f h else h := by
  -- the replaced handlers keep their names, so the search finds the same position
  have hp : ((·.name == n) ∘ fun h : Handler => if h.name == name then f h else h) =
      (·.name == n) := by
    funext h
    by_cases hn : h.name = name
    · simp [hn, hf h hn]
    · simp [hn]
  unfold update handler?
  rw [List.find?_map, hp]

/-- Replacing the handler of a name by one of the same name that supports the same addons
finds, for each addon, the replacement of the handler found before. -/
theorem find?_update {f : Handler → Handler} (hname : ∀ h, h.name = name → (f h).name = h.name)
    (hsupp : ∀ h ∈ r.handlers, h.name = name → ∀ t c, (f h).supports t c = h.supports t c)
    (t : AddonType) (c : String) :
    (r.update name f).find? t c = (r.find? t c).map fun h => if h.name == name then f h else h := by
  have hh : (r.update name f).handlers = r.handlers.map fun h => if h.name == name then f h else h := by
    unfold handlers
    rw [List.map_filterMap]
    congr 1
    funext n
    exact handler?_update hname n
  unfold find?
  rw [hh, List.find?_map]
  congr 1
  -- the replaced handlers support what they supported, so the search stops at the same place
  refine List.find?_congr fun h hm => ?_
  by_cases hn : h.name = name
  · simp [hn, hsupp h hm hn]
  · simp [hn]

theorem installCalls_update_scripted {g g' : ScriptedHandler}
    (hh : r.handler? name = some (.scripted g)) (hn : g'.name = g.name) (n : String) :
    (r.update name fun _ => .scripted g').installCalls n =
      if n = name then g'.installCalls else r.installCalls n := by
  have hg : g.name = name := name_of_handler? hh
  have hf : ∀ h : Handler, h.name = name → (Handler.scripted g').name = h.name := by
    intro h hh'
    exact (hn.trans hg).trans hh'.symm
  unfold installCalls
  rw [handler?_update hf]
  by_cases hnm : n = name
  · subst hnm
    simp [hh, Handler.name, hg]
  · rcases hk : r.handler? n with _ | k
    · simp [hnm]
    · have hkn : k.name ≠ name := by rwa [name_of_handler? hk]
      simp [hnm, hkn]

/-- One install call by the scripted handler of a name records one call. -/
theorem installsAtMostOnce_install {g : ScriptedHandler} (hh : r.handler? name = some (.scripted g))
    (a : Addon) : r.InstallsAtMostOnce (r.update name fun _ => .scripted (g.install a).2) := by
  refine ⟨name, fun n hn => ?_, [(a.uid, a.version)], ?_, le_refl _⟩
  · rw [installCalls_update_scripted hh (by simp) n, if_neg hn]
  · rw [installCalls_update_scripted hh (by simp) name, if_pos rfl, installCalls, hh]
    simp

end Registry

namespace Service

variable {w w₁ w₂ w₃ : World}

/-! ### The steps of a request -/

theorem emit_runOn (e : Event) (w : World) :
    (emit e).runOn w =
      (.ok e, { w with service := { w.service with events := w.service.events ++ [e] } }) := rfl

theorem handlerReports_runOn {name : String} {h : Handler} (hh : w.registry.handler? name = some h)
    (u : String) : (handlerReports name u).runOn w = (h.isInstalled w.host.files u, w) := by
  simp [handlerReports, runOn_bind, hh]

/-- A handler's install changes only the host and the handlers: the scripted handler of the name,
if there is one, is replaced by its state after the install. -/
theorem installWith_effect {name : String} {a : Addon} {o : Except Failure Unit}
    (hr : (installWith name a).runOn w = (o, w₂)) :
    w₂.service = w.service ∧ (w₂.registry = w.registry ∨ ∃ g, w.registry.handler? name =
      some (.scripted g) ∧ w₂.registry = w.registry.update name fun _ => .scripted (g.install a).2) := by
  simp only [installWith, runOn_bind, runOn_get] at hr
  split at hr
  · -- a scripted handler records the call
    rename_i g hg
    simp only [modifyRegistry, runOn_bind, runOn_modify, runOn_lift, Prod.mk.injEq] at hr
    rw [← hr.2]
    exact ⟨rfl, .inr ⟨g, hg, rfl⟩⟩
  · -- the archive handler works on the host
    rename_i g _
    have hk := keeps_onHost_of (f := fun w : World => (w.service, w.registry)) (fun _ _ => rfl)
      (g.install a) w
    rw [hr] at hk
    obtain ⟨hs, hreg⟩ := Prod.mk.inj hk
    exact ⟨hs, .inl hreg⟩
  · simp only [runOn_pure, Prod.mk.injEq] at hr
    rw [← hr.2]
    exact ⟨rfl, .inl rfl⟩

/-- A handler's install changes only the host and the handlers, and records at most one
install call. -/
theorem installWith_frame {name : String} {a : Addon} {o : Except Failure Unit}
    (hr : (installWith name a).runOn w = (o, w₂)) :
    w₂.service = w.service ∧ w.registry.InstallsAtMostOnce w₂.registry := by
  obtain ⟨hs, hreg | ⟨g, hg, hreg⟩⟩ := installWith_effect hr
  · exact ⟨hs, hreg ▸ Registry.InstallsAtMostOnce.refl _⟩
  · exact ⟨hs, hreg ▸ Registry.installsAtMostOnce_install hg a⟩

/-- After the install of the handler found for an addon, the handler found for it is that
handler in its new state. -/
theorem find?_of_installWith {a : Addon} {h : Handler} {o : Except Failure Unit}
    (hf : w.registry.find? a.type a.contentType = some h)
    (hr : (installWith h.name a).runOn w = (o, w₂)) :
    w₂.registry.find? a.type a.contentType = w₂.registry.handler? h.name := by
  obtain ⟨-, hreg | ⟨g, hg, hreg⟩⟩ := installWith_effect hr <;> rw [hreg]
  · rw [hf, Registry.handler?_of_find? hf]
  · have hg' : (g.install a).2.name = h.name := by
      rw [ScriptedHandler.name_install]
      exact Registry.name_of_handler? hg
    have hname (k : Handler) (hk : k.name = h.name) : (Handler.scripted (g.install a).2).name = k.name :=
      hg'.trans hk.symm
    -- the registered handler of that name is the scripted handler the install replaced
    have hsupp (k : Handler) (hk : k ∈ w.registry.handlers) (hkn : k.name = h.name) (t : AddonType)
        (c : String) : (Handler.scripted (g.install a).2).supports t c = k.supports t c := by
      have hkg : k = .scripted g := by
        have := Registry.handler?_of_mem_handlers hk
        rwa [hkn, hg, Option.some.injEq, eq_comm] at this
      subst hkg
      exact ScriptedHandler.supports_install g a t c
    rw [Registry.find?_update hname hsupp, Registry.handler?_update hname, hf,
      Registry.handler?_of_find? hf]

/-- The end of a request that went through: the cache is invalidated, a cycle runs with jobs
deferred, and the outcome is announced. The cache's generation moves by one, and the handlers,
the files, the service's id and the deferral of jobs stay. -/
theorem finish_runOn (n : Nat) (e : Event) (hd : w₃.Defers) :
    ∃ w₅, (do
        modifyService fun s => { s with cache := s.cache.invalidate }
        refreshQuietly n
        emit e : WorldM Event).runOn w₃ = (.ok e, w₅) ∧
      w₅.service.cache.generation = w₃.service.cache.generation + 1 ∧ w₅.registry = w₃.registry ∧
        w₅.host.files = w₃.host.files ∧ w₅.service.serviceId = w₃.service.serviceId ∧
        w₅.Defers := by
  -- the world once the cache is invalidated, and the cycle run from it
  set w₄ : World := { w₃ with service := { w₃.service with cache := w₃.service.cache.invalidate } }
  have ht : w₄.Trims ((refreshQuietly n).runOn w₄).2 := trimming_refreshQuietly n w₄ hd
  obtain ⟨⟨⟩, hok⟩ := (quiet_refreshQuietly n w₄).1
  simp only [runOn_bind, modifyService, runOn_modify]
  rcases hq : (refreshQuietly n).runOn w₄ with ⟨_ | _, w₅⟩
  · rw [hq] at hok
    cases hok
  rw [hq] at ht
  exact ⟨_, rfl, ht.generation, ht.registry, ht.files, ht.serviceId, ht.defers hd⟩

/-- A handler's uninstall leaves the service's state as it is. -/
theorem uninstallWith_service {name : String} {a : Addon} {o : Except Failure Unit}
    (hr : (uninstallWith name a).runOn w = (o, w₂)) : w₂.service = w.service := by
  simp only [uninstallWith, runOn_bind, runOn_get] at hr
  split at hr
  · simp only [modifyRegistry, runOn_bind, runOn_modify, runOn_lift, Prod.mk.injEq] at hr
    rw [← hr.2]
  · rename_i g _
    have hk := keeps_onHost_of (f := fun w : World => w.service) (fun _ _ => rfl) (g.uninstall a) w
    rwa [hr] at hk
  · simp only [runOn_pure, Prod.mk.injEq] at hr
    rw [← hr.2]

/-! ### Installs -/

/-- The way on which an install from `w₁` of the resolved addon `a` succeeds: the first
registered handler `h` that supports `a` reports it not installed, its install returns (leaving
`w₂`), and the record of `a`, marked installed, is written (giving the store `st`). -/
structure InstallGoesThrough (w₁ : World) (a : Addon) (h : Handler) (w₂ : World)
    (st : RecordStore) : Prop where
  handler : w₁.registry.find? a.type a.contentType = some h
  absent : h.isInstalled w₁.host.files a.uid = .ok false
  install : (installWith h.name a).runOn w₁ = (.ok (), w₂)
  put : w₂.service.store.put (.str a.uid) (.str (a.withInstalled true).toRecord) = .ok st

/-- What an install run from `w` did, given its answer and the world it left (`r`), where
`through` tells whether it went the way on which it succeeds: it announces `installed` exactly
then, invalidates the cache exactly then, otherwise only drops records, and records at most one
install call. -/
structure InstallOutcome (through : Prop) (w : World) (r : Except Failure Event × World) :
    Prop where
  installed : (∃ e, r.1 = .ok e ∧ e.kind = .installed) ↔ through
  invalidates : through → r.2.service.cache.generation = w.service.cache.generation + 1
  keeps : ¬through → r.2.service.cache.generation = w.service.cache.generation ∧
    w.service.store.DropsTo r.2.service.store
  calls : w.registry.InstallsAtMostOnce r.2.registry

section Outcome

variable {p : Prop} {r : Except Failure Event × World}

/-- A failure announced from `w₂`, which kept the cache and the records of `w` and recorded at
most one install call, is an install outcome off the way. -/
theorem InstallOutcome.emit_failed (u m : String) (hno : ¬p)
    (hg : w₂.service.cache.generation = w.service.cache.generation)
    (hs : w.service.store.DropsTo w₂.service.store)
    (hc : w.registry.InstallsAtMostOnce w₂.registry) :
    InstallOutcome p w ((emit (.failed u m)).runOn w₂) where
  installed := by
    simp only [emit_runOn, Except.ok.injEq, exists_eq_left']
    exact iff_of_false (by simp [Event.failed, Event.ofKind]) hno
  invalidates h := absurd h hno
  keeps _ := ⟨hg, hs⟩
  calls := hc

/-- Work that trims the world before an install keeps its outcome. -/
theorem InstallOutcome.of_trims (ht : w.Trims w₁) (h : InstallOutcome p w₁ r) :
    InstallOutcome p w r where
  installed := h.installed
  invalidates hp := (h.invalidates hp).trans (by rw [ht.generation])
  keeps hp := ⟨(h.keeps hp).1.trans ht.generation, ht.store.trans (h.keeps hp).2⟩
  calls := ht.registry ▸ h.calls

/-- The end of an install that went through: from the world `w₃` where the record is written,
the cache is invalidated, a cycle runs with jobs deferred, and the install is announced. -/
theorem InstallOutcome.of_through (hp : p) (n : Nat) (u : String) (hd : w₃.Defers)
    (hg : w₃.service.cache.generation = w.service.cache.generation)
    (hc : w.registry.InstallsAtMostOnce w₃.registry) :
    InstallOutcome p w ((do
      modifyService fun s => { s with cache := s.cache.invalidate }
      refreshQuietly n
      emit (Event.installed u) : WorldM Event).runOn w₃) := by
  obtain ⟨w₅, hr, hg₅, hr₅, -⟩ := finish_runOn n (Event.installed u) hd
  rw [hr]
  refine ⟨iff_of_true ⟨_, rfl, rfl⟩ hp, fun _ => ?_, fun hn => absurd hp hn, ?_⟩
  · show w₅.service.cache.generation = _
    rw [hg₅, hg]
  · show w.registry.InstallsAtMostOnce w₅.registry
    rw [hr₅]
    exact hc

end Outcome

theorem installAddon_outcome (n : Nat) (a : Addon) (hd : w₁.Defers) :
    InstallOutcome (∃ h w₂ st, InstallGoesThrough w₁ a h w₂ st) w₁
      ((installAddon (n + 1) a).runOn w₁) := by
  simp only [installAddon, runOn_bind, runOn_get]
  rcases hf : w₁.registry.find? a.type a.contentType with _ | h
  · -- no registered handler supports the addon
    refine InstallOutcome.emit_failed _ _ ?_ rfl (RecordStore.DropsTo.refl _)
      (Registry.InstallsAtMostOnce.refl _)
    rintro ⟨h, w₂, st, hp⟩
    rw [hp.handler] at hf
    cases hf
  dsimp only
  simp only [runOn_attempt, runOn_bind, handlerReports_runOn (Registry.handler?_of_find? hf)]
  -- on the way, the handler is the one found
  have hsame {h' w₂ st} (hp : InstallGoesThrough w₁ a h' w₂ st) : h' = h :=
    Option.some.inj (hp.handler.symm.trans hf)
  rcases hi : h.isInstalled w₁.host.files a.uid with e | _ | _
  · -- the handler fails to answer
    refine InstallOutcome.emit_failed _ _ ?_ rfl (RecordStore.DropsTo.refl _)
      (Registry.InstallsAtMostOnce.refl _)
    rintro ⟨h', w₂, st, hp⟩
    have := hp.absent
    rw [hsame hp, hi] at this
    cases this
  · -- the handler reports the addon not installed: it installs, and the record is written
    simp only [Bool.false_eq_true, if_false, runOn_bind]
    rcases hw : (installWith h.name a).runOn w₁ with ⟨_ | _, w₂⟩ <;>
      obtain ⟨hs₂, hc₂⟩ := installWith_frame hw
    · -- the handler's install fails
      refine InstallOutcome.emit_failed _ _ ?_ (by rw [hs₂]) (hs₂ ▸ RecordStore.DropsTo.refl _) hc₂
      rintro ⟨h', w₂', st, hp⟩
      have := hp.install
      rw [hsame hp, hw] at this
      cases this
    simp only [onStore, runOn_bind, runOn_get]
    rcases hput : w₂.service.store.put (.str a.uid) (.str (a.withInstalled true).toRecord) with
      e | st
    · -- the record cannot be written
      simp only [runOn_throw]
      refine InstallOutcome.emit_failed _ _ ?_ (by rw [hs₂]) (hs₂ ▸ RecordStore.DropsTo.refl _) hc₂
      rintro ⟨h', w₂', st, hp⟩
      have hw' := hp.install
      rw [hsame hp, hw, Prod.mk.injEq] at hw'
      have := hp.put
      rw [← hw'.2, hput] at this
      cases this
    simp only [runOn_set, runOn_pure]
    refine InstallOutcome.of_through ⟨h, w₂, st, hf, hi, hw, hput⟩ n a.uid ?_ ?_ ?_
    · exact World.defers_of_jobs (by rw [hs₂]) hd
    · rw [hs₂]
    · exact hc₂
  · -- the handler reports the addon installed
    simp only [if_true, runOn_pure]
    refine InstallOutcome.emit_failed _ _ ?_ rfl (RecordStore.DropsTo.refl _)
      (Registry.InstallsAtMostOnce.refl _)
    rintro ⟨h', w₂, st, hp⟩
    have := hp.absent
    rw [hsame hp, hi] at this
    cases this


/-- The way on which an install of `uid` from `w` succeeds: the uid is normalized to `u`, the
addon `a` is resolved from it, and the install from the world the lookup left goes through. -/
def InstallsThrough (fuel : Nat) (uid : Json) (w : World) : Prop :=
  ∃ u a w₁ h w₂ st, normalizeUid w.service.serviceId uid = .ok u ∧
    (getAddon fuel u).runOn w = (.ok (some a), w₁) ∧ InstallGoesThrough w₁ a h w₂ st

theorem InstallOutcome.of_iff {p q : Prop} {r : Except Failure Event × World} (hpq : p ↔ q)
    (h : InstallOutcome p w r) : InstallOutcome q w r :=
  propext hpq ▸ h

/-! ### Uninstalls -/

/-- The way on which an uninstall succeeds past the lookup that answered `o` for the uid `u`
and left `w₁`: the lookup resolved the addon `a`, the first registered handler `h` that supports
it reports `u` installed, its uninstall returns (leaving `w₂`), and the record of `u` is removed
(giving the store `st`). -/
structure UninstallGoesThrough (w₁ : World) (u : String) (o : Except Failure (Option Addon))
    (a : Addon) (h : Handler) (w₂ : World) (st : RecordStore) : Prop where
  resolved : o = .ok (some a)
  handler : w₁.registry.find? a.type a.contentType = some h
  present : h.isInstalled w₁.host.files u = .ok true
  uninstall : (uninstallWith h.name a).runOn w₁ = (.ok (), w₂)
  remove : w₂.service.store.remove (.str u) = .ok st

/-- The self-heal of an uninstall past the lookup: the first registered handler that supports
the resolved addon reports `u` not installed, the record of `u` is removed from the store the
lookup left, and the request fails with `Add-on is not installed.` -/
structure UninstallHeals (w₁ : World) (u : String) (o : Except Failure (Option Addon))
    (r : Except Failure Event × World) : Prop where
  handler : ∃ a h, o = .ok (some a) ∧ w₁.registry.find? a.type a.contentType = some h ∧
    h.isInstalled w₁.host.files u = .ok false
  remove : w₁.service.store.remove (.str u) = .ok r.2.service.store
  failed : r.1 = .ok (Event.failed u notInstalled)

/-- What an uninstall did past the lookup that answered `o` for the uid `u` and left `w₁`,
given its answer and the world it left (`r`), where `through` tells whether it went the way on
which it succeeds: it announces `uninstalled` exactly then and invalidates the cache exactly
then; otherwise the store is the one the lookup left, unless the record of `u` self-heals; and
when the handler's uninstall fails, neither the store nor the cache changes. -/
structure UninstallPast (through : Prop) (w₁ : World) (u : String)
    (o : Except Failure (Option Addon)) (r : Except Failure Event × World) : Prop where
  uninstalled : (∃ e, r.1 = .ok e ∧ e.kind = .uninstalled) ↔ through
  invalidates : through → r.2.service.cache.generation = w₁.service.cache.generation + 1
  keeps : ¬through → r.2.service.cache.generation = w₁.service.cache.generation ∧
    (r.2.service.store = w₁.service.store ∨ UninstallHeals w₁ u o r)
  raises : ∀ a h w₂ e, o = .ok (some a) → w₁.registry.find? a.type a.contentType = some h →
    h.isInstalled w₁.host.files u = .ok true → (uninstallWith h.name a).runOn w₁ = (.error e, w₂) →
    r.2.service.store = w₁.service.store ∧
      r.2.service.cache.generation = w₁.service.cache.generation

section Past

variable {p : Prop} {u : String} {o : Except Failure (Option Addon)}

/-- A failure announced from `w₂`, where the store and the cache are the ones the lookup left,
is an uninstall outcome off the way. -/
theorem UninstallPast.emit_failed (m : String) (hno : ¬p)
    (hs : w₂.service.store = w₁.service.store)
    (hg : w₂.service.cache.generation = w₁.service.cache.generation) :
    UninstallPast p w₁ u o ((emit (.failed u m)).runOn w₂) where
  uninstalled := by
    simp only [emit_runOn, Except.ok.injEq, exists_eq_left']
    exact iff_of_false (by simp [Event.failed, Event.ofKind]) hno
  invalidates h := absurd h hno
  keeps _ := ⟨hg, .inl hs⟩
  raises _ _ _ _ _ _ _ _ := ⟨hs, hg⟩

/-- The end of an uninstall that went through: from the world `w₃` where the record is
removed, the cache is invalidated, a cycle runs with jobs deferred, and the uninstall is
announced. -/
theorem UninstallPast.of_through (hp : p) (n : Nat) (hd : w₃.Defers)
    (hg : w₃.service.cache.generation = w₁.service.cache.generation)
    (hraise : ∀ a h w₂ e, o = .ok (some a) → w₁.registry.find? a.type a.contentType = some h →
      (uninstallWith h.name a).runOn w₁ ≠ (.error e, w₂)) :
    UninstallPast p w₁ u o ((do
      modifyService fun s => { s with cache := s.cache.invalidate }
      refreshQuietly n
      emit (Event.uninstalled u) : WorldM Event).runOn w₃) := by
  obtain ⟨w₅, hr, hg₅, -⟩ := finish_runOn n (Event.uninstalled u) hd
  rw [hr]
  refine ⟨iff_of_true ⟨_, rfl, rfl⟩ hp, fun _ => ?_, fun hn => absurd hp hn, ?_⟩
  · show w₅.service.cache.generation = _
    rw [hg₅, hg]
  · intro a h w₂ e ho hf _ hw
    exact absurd hw (hraise a h w₂ e ho hf)

/-- The self-heal, announced from the world the lookup left with the record of `u` removed, is
an uninstall outcome off the way. -/
theorem UninstallPast.heals {a : Addon} {h : Handler} {st : RecordStore} (hno : ¬p)
    (ho : o = .ok (some a)) (hf : w₁.registry.find? a.type a.contentType = some h)
    (hi : h.isInstalled w₁.host.files u = .ok false)
    (hrm : w₁.service.store.remove (.str u) = .ok st) :
    UninstallPast p w₁ u o ((emit (.failed u notInstalled)).runOn
      { w₁ with service := { w₁.service with store := st } }) where
  uninstalled := by
    simp only [emit_runOn, Except.ok.injEq, exists_eq_left']
    exact iff_of_false (by simp [Event.failed, Event.ofKind]) hno
  invalidates h := absurd h hno
  keeps _ := ⟨rfl, .inr ⟨⟨a, h, ho, hf, hi⟩, hrm, rfl⟩⟩
  raises := by
    -- the handler that would raise is `h`, which reports `u` not installed
    intro a' h' w₂ e ho' hf' hi' _
    rw [ho, Except.ok.injEq, Option.some.injEq] at ho'
    subst ho'
    rw [hf, Option.some.injEq] at hf'
    subst hf'
    cases hi.symm.trans hi'

end Past

/-- Past a lookup that resolved `a` and left `w₁`, where `h` is the first registered handler
that supports `a`, an uninstall goes through exactly on the way of `UninstallGoesThrough`. -/
theorem uninstallPast_of_handler (fuel : Nat) (uid : Json) {u : String} (hd₁ : w₁.Defers)
    (hu : normalizeUid w.service.serviceId uid = .ok u)
    (hg : (getAddon fuel u).runOn w = (.ok (some a), w₁))
    (hf : w₁.registry.find? a.type a.contentType = some h) :
    UninstallPast (∃ a' h' w₂ st, UninstallGoesThrough w₁ u (.ok (some a)) a' h' w₂ st) w₁ u
      (.ok (some a)) ((uninstall fuel uid).runOn w) := by
  simp only [uninstall, runOn_bind, service_runOn, runOn_lift, hu, runOn_attempt, hg, runOn_get]
  simp only [hf, runOn_attempt, runOn_bind, handlerReports_runOn (Registry.handler?_of_find? hf)]
  -- on the way, and when the handler's uninstall fails, the handler is the one found
  have hsame {a' h'} (ho : (Except.ok (some a) : Except Failure (Option Addon)) = .ok (some a'))
      (hf' : w₁.registry.find? a'.type a'.contentType = some h') : a' = a ∧ h' = h := by
    cases ho
    exact ⟨rfl, Option.some.inj (hf'.symm.trans hf)⟩
  have hpresent (hp : ∃ a' h' w₂ st, UninstallGoesThrough w₁ u (.ok (some a)) a' h' w₂ st) :
      h.isInstalled w₁.host.files u = .ok true := by
    obtain ⟨a', h', w₂, st, hp⟩ := hp
    rw [← (hsame hp.resolved hp.handler).2]
    exact hp.present
  rcases hi : h.isInstalled w₁.host.files u with e | _ | _
  · -- the handler fails to answer
    exact UninstallPast.emit_failed _ (fun hp => by cases (hpresent hp).symm.trans hi) rfl rfl
  · -- the handler reports the addon not installed: the record self-heals
    have hno : ¬∃ a' h' w₂ st, UninstallGoesThrough w₁ u (.ok (some a)) a' h' w₂ st :=
      fun hp => by cases (hpresent hp).symm.trans hi
    simp only [Bool.not_false, if_true, onStore, runOn_bind, runOn_get]
    rcases hrm : w₁.service.store.remove (.str u) with e | st
    · simp only [runOn_throw]
      exact UninstallPast.emit_failed _ hno rfl rfl
    simp only [runOn_set, runOn_pure]
    exact UninstallPast.heals hno rfl hf hi hrm
  · -- the handler reports the addon installed: it uninstalls, and the record is removed
    simp only [Bool.not_true, Bool.false_eq_true, if_false, runOn_bind]
    rcases hw : (uninstallWith h.name a).runOn w₁ with ⟨_ | _, w₂⟩ <;>
      have hs₂ := uninstallWith_service hw
    · -- the handler's uninstall fails
      refine UninstallPast.emit_failed _ ?_ (by rw [hs₂]) (by rw [hs₂])
      rintro ⟨a', h', w₂', st, hp⟩
      obtain ⟨rfl, rfl⟩ := hsame hp.resolved hp.handler
      have := hp.uninstall
      rw [hw] at this
      cases this
    simp only [onStore, runOn_bind, runOn_get]
    rcases hrm : w₂.service.store.remove (.str u) with e | st
    · -- the record cannot be removed
      simp only [runOn_throw]
      refine UninstallPast.emit_failed _ ?_ (by rw [hs₂]) (by rw [hs₂])
      rintro ⟨a', h', w₂', st, hp⟩
      obtain ⟨rfl, rfl⟩ := hsame hp.resolved hp.handler
      have hw' := hp.uninstall
      rw [hw, Prod.mk.injEq] at hw'
      have := hp.remove
      rw [← hw'.2, hrm] at this
      cases this
    simp only [runOn_set, runOn_pure]
    refine UninstallPast.of_through ⟨a, h, w₂, st, rfl, hf, hi, hw, hrm⟩ fuel ?_ ?_ ?_
    · exact World.defers_of_jobs (by rw [hs₂]) hd₁
    · rw [hs₂]
    · intro a' h' w₂' e ho hf' hw'
      obtain ⟨rfl, rfl⟩ := hsame ho hf'
      rw [hw] at hw'
      cases hw'

end Service

end AddonCatalog
