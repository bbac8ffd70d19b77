import AddonCatalog.Proofs.Addon.RecordUid
import AddonCatalog.Proofs.Store.Namespaces
import AddonCatalog.Proofs.Service.Repairs
import AddonCatalog.Proofs.Service.Announce
import Mathlib.Data.Finset.Card

/-!
# The uids a run can meet

Repairs reinstall addons whose records the store holds, and installing writes records again.
Every uid a run meets lies in one finite set `U`, fixed by the world a run starts from:

* `RecordStore.contents`: the records a store holds; a put adds only the record it writes,
  a removal adds none;
* `RecordStore.UidsWithin U`: every record that reads back reads back with a uid of `U`; writing
  the record of an addon of `U` keeps it, since a record names the uid it was written for
  (`Addon.ofRecord_toRecord_uid`);
* `World.Confined U sid S`: the service keeps its id, the records' uids stay in `U`, and the uids
  of `S` still await repair;
* `Service.ConfinedAt`: every operation that may reconcile keeps `Confined` at every depth, and
  takes no uid of `S` off the repairs but those it repairs itself (`confinedAt`).
-/

namespace AddonCatalog

open WorldM

namespace RecordStore

/-- The records a store holds, as its reads list them up to order. -/
def contents : RecordStore → List (Json × Json)
  | memory rs => rs
  | table ns rows => spaceRecords ns rows
  | unopenable _ => []

theorem mem_contents_of_getAll {st : RecordStore} {R : List (Json × Json)} (h : st.getAll = .ok R)
    {p : Json × Json} (hp : p ∈ R) : p ∈ st.contents := by
  cases st with
  | memory rs =>
    cases h
    exact hp
  | table ns rows =>
    obtain ⟨R', hR', hperm⟩ := @getAll_table_perm ns rows
    rw [h] at hR'
    cases hR'
    exact hperm.subset hp
  | unopenable path => cases h

theorem mem_setEntry {key value : Json} :
    ∀ {rs : List (Json × Json)} {p : Json × Json}, p ∈ setEntry key value rs → p ∈ rs ∨ p.2 = value
  | [], p, hp => by
    simp only [setEntry, List.mem_singleton] at hp
    exact .inr (by rw [hp])
  | (k, v) :: rest, p, hp => by
    unfold setEntry at hp
    split at hp
    · rcases List.mem_cons.mp hp with rfl | hp
      · exact .inr rfl
      · exact .inl (List.mem_cons_of_mem _ hp)
    · rcases List.mem_cons.mp hp with rfl | hp
      · exact .inl List.mem_cons_self
      · exact (mem_setEntry hp).imp_left (List.mem_cons_of_mem _)

/-- A put adds only the record it writes. -/
theorem mem_contents_of_put {st st' : RecordStore} {k v : String}
    (h : st.put (.str k) (.str v) = .ok st') {p : Json × Json} (hp : p ∈ st'.contents) :
    p ∈ st.contents ∨ p.2 = .str v := by
  cases st with
  | memory rs =>
    rw [put_memory] at h
    cases h
    exact mem_setEntry hp
  | table ns rows =>
    rw [put_table] at h
    cases h
    simp only [contents] at hp
    rw [spaceRecords_put, if_pos rfl] at hp
    rcases List.mem_append.mp hp with hp | hp
    · exact .inl (List.mem_of_mem_filter hp)
    · rw [List.mem_singleton] at hp
      exact .inr (by rw [hp])
  | unopenable path => cases h

/-- A removal adds no record. -/
theorem mem_contents_of_remove {st st' : RecordStore} {k : Json} (h : st.remove k = .ok st')
    {p : Json × Json} (hp : p ∈ st'.contents) : p ∈ st.contents := by
  cases st with
  | memory rs =>
    simp only [remove] at h
    split at h
    · cases h
      exact List.mem_of_mem_filter hp
    · cases h
  | table ns rows =>
    simp only [remove] at h
    rcases hb : RecordStore.bind 2 k with e | (_ | k')
    · simp [hb, Bind.bind, Except.bind] at h
    · simp only [hb, Bind.bind, Except.bind] at h
      cases h
      exact hp
    · simp only [hb, Bind.bind, Except.bind] at h
      cases h
      simp only [contents] at hp ⊢
      rw [spaceRecords_dropKey, if_pos rfl] at hp
      exact List.mem_of_mem_filter hp
  | unopenable path => cases h

/-- Every record of the store that reads back as an addon reads back with a uid of `U`. -/
def UidsWithin (U : Finset String) (st : RecordStore) : Prop :=
  ∀ p ∈ st.contents, ∀ s b, p.2 = .str s → Addon.ofRecord s = .ok b → b.uid ∈ U

variable {U : Finset String} {st st' : RecordStore}

theorem UidsWithin.of_remove (h : st.UidsWithin U) {k : Json} (hr : st.remove k = .ok st') :
    st'.UidsWithin U :=
  fun p hp => h p (mem_contents_of_remove hr hp)

/-- Writing the record of an addon of a uid of `U` keeps every record's uid in `U`: the record
reads back, if at all, with that uid. -/
theorem UidsWithin.of_put_record (h : st.UidsWithin U) {a : Addon} (ha : a.uid ∈ U) {k : String}
    (hp : st.put (.str k) (.str a.toRecord) = .ok st') : st'.UidsWithin U := by
  intro p hmem s b hs hb
  rcases mem_contents_of_put hp hmem with hmem | hv
  · exact h p hmem s b hs hb
  · rw [hv, Json.str.injEq] at hs
    rw [← hs] at hb
    rw [Addon.ofRecord_toRecord_uid a hb]
    exact ha

/-- The addons read from the records of a store have uids of `U`. -/
theorem UidsWithin.uid_mem (h : st.UidsWithin U) {R : List (Json × Json)} (hg : st.getAll = .ok R)
    {a : Addon} (ha : a ∈ (Service.readRecords R).1) : a.uid ∈ U := by
  rw [Service.readRecords_fst, List.mem_filterMap] at ha
  obtain ⟨p, hpR, hpa⟩ := ha
  unfold Service.recordAddon? at hpa
  obtain ⟨k, v⟩ := p
  cases v with
  | str s =>
    have hb : Addon.ofRecord s = .ok a := by
      simp only [Json.str?, Option.map_some] at hpa
      split at hpa
      · rename_i b hs
        cases hpa
        exact (Option.some.inj hs)
      · cases hpa
    exact h _ (mem_contents_of_getAll hg hpR) s a rfl hb
  | _ => simp [Json.str?] at hpa

end RecordStore

namespace World

/-- The uids a run can meet stay in `U`: the service keeps its id `sid` (under which
normalizing stays in `U`), every record of the store that reads back reads back with a uid of
`U`, and the uids of `S` still await repair. -/
structure Confined (U : Finset String) (sid : String) (S : List String) (w : World) : Prop where
  serviceId : w.service.serviceId = sid
  records : w.service.store.UidsWithin U
  awaiting : ∀ u ∈ S, u ∈ w.service.repairing

/-- What `Confined` reads of a world. -/
def confinedView (w : World) : String × RecordStore × List String :=
  (w.service.serviceId, w.service.store, w.service.repairing)

theorem Confined.mono {U : Finset String} {sid : String} {S T : List String} {w : World}
    (h : w.Confined U sid T) (hST : ∀ u ∈ S, u ∈ T) : w.Confined U sid S :=
  ⟨h.serviceId, h.records, fun u hu => h.awaiting u (hST u hu)⟩

theorem Confined.of_view {U : Finset String} {sid : String} {S : List String} {w w' : World}
    (h : w'.confinedView = w.confinedView) (hc : w.Confined U sid S) : w'.Confined U sid S := by
  simp only [confinedView, Prod.mk.injEq] at h
  obtain ⟨hid, hst, hr⟩ := h
  exact ⟨hid ▸ hc.serviceId, hst ▸ hc.records, hr ▸ hc.awaiting⟩

end World

namespace WorldM

variable {α β γ δ : Type} {m : WorldM α} {f : World → γ} {g : World → δ}

theorem Keeps.pair (hf : Keeps f m) (hg : Keeps g m) : Keeps (fun w => (f w, g w)) m :=
  fun w => by
    show (f _, g _) = (f w, g w)
    rw [hf w, hg w]

end WorldM

namespace Service

open World

variable {α : Type}

/-- The service id and the uids under repair are left alone by the collaborators. -/
theorem untouched_idRepairing :
    Untouched fun w : World => (w.service.serviceId, w.service.repairing) :=
  ⟨fun _ _ => rfl, fun _ _ => rfl, fun _ _ => rfl, fun _ _ => rfl, fun _ _ => rfl, fun _ _ => rfl⟩

theorem keepsStore_modifyRegistry (g : Registry → Registry) :
    Keeps (·.service.store) (modifyRegistry g) :=
  keeps_modify fun _ => rfl

theorem keepsStore_modifyService (g : ServiceState → ServiceState)
    (hg : ∀ s, (g s).store = s.store) : Keeps (·.service.store) (modifyService g) :=
  keeps_modify fun w => hg w.service

theorem keepsStore_installWith (name : String) (a : Addon) :
    Keeps (·.service.store) (installWith name a) := by
  refine keeps_get.bind fun w => ?_
  split
  · exact (keepsStore_modifyRegistry _).bind fun _ => keeps_lift _
  · exact (storeFrame_onHost _).keeps_store
  · exact keeps_pure _

theorem keepsStore_uninstallWith (name : String) (a : Addon) :
    Keeps (·.service.store) (uninstallWith name a) := by
  refine keeps_get.bind fun w => ?_
  split
  · exact (keepsStore_modifyRegistry _).bind fun _ => keeps_lift _
  · exact (storeFrame_onHost _).keeps_store
  · exact keeps_pure _

theorem keepsStore_lookupRemote (uid : String) : Keeps (·.service.store) (lookupRemote uid) := by
  refine keeps_service.bind fun s => ?_
  split
  · refine Keeps.bind (keepsStore_modifyService _ fun _ => rfl) fun _ => ?_
    split
    · exact keeps_throw _
    · exact keeps_pure _
  · exact ((storeFrame_onHost _).keeps_store.bind fun _ => keeps_lift _).bind fun _ => keeps_pure _
  · exact keeps_pure _

/-- A step that leaves the service id, the store and the uids under repair alone. -/
theorem keeps_confinedView {m : WorldM α} (hs : Keeps (·.service.store) m)
    (hj : Keeps (fun w : World => (w.service.serviceId, w.service.repairing)) m) :
    Keeps confinedView m :=
  fun w => by
    have h1 := hs w
    have h2 := hj w
    simp only [Prod.mk.injEq] at h2
    simp only [confinedView, h1, h2]

theorem keepsView_remoteValue : Keeps confinedView remoteValue :=
  keeps_confinedView storeFrame_remoteValue.keeps_store (keeps_remoteValue untouched_idRepairing)

theorem keepsView_lookupRemote (uid : String) : Keeps confinedView (lookupRemote uid) :=
  keeps_confinedView (keepsStore_lookupRemote uid) (keeps_lookupRemote untouched_idRepairing uid)

theorem keepsView_installWith (name : String) (a : Addon) :
    Keeps confinedView (installWith name a) :=
  keeps_confinedView (keepsStore_installWith name a)
    (keeps_installWith untouched_idRepairing name a)

theorem keepsView_uninstallWith (name : String) (a : Addon) :
    Keeps confinedView (uninstallWith name a) :=
  keeps_confinedView (keepsStore_uninstallWith name a)
    (keeps_uninstallWith untouched_idRepairing name a)

/-- A change of the service state that keeps its id, its store and its uids under repair. -/
theorem keepsView_modifyService (g : ServiceState → ServiceState)
    (hg : ∀ s, ((g s).serviceId, (g s).store, (g s).repairing) =
      (s.serviceId, s.store, s.repairing)) :
    Keeps confinedView (modifyService g) :=
  keeps_modify fun w => hg w.service

theorem keepsView_emit (e : Event) : Keeps confinedView (emit e) :=
  Keeps.bind (keepsView_modifyService _ fun _ => rfl) fun _ => keeps_pure _

end Service

/-- The uids a job is to repair, and the uids of the addons it would install, are in `U`. -/
def Job.Within (U : Finset String) : Job → Prop
  | .refresh => True
  | .repair stored => ∀ p ∈ stored, p.1 ∈ U ∧ p.2.uid ∈ U

namespace WorldM

variable {α β : Type} {P : World → Prop} {m : WorldM α} {f : α → WorldM β}

/-- A step whose results, from worlds of `P`, satisfy `R`, followed by steps that keep `P`
given `R`. -/
theorem Preserves.bind_of_leads {R : α → Prop} (hm : Preserves P m)
    (hl : ∀ w, P w → ∀ a w', m.runOn w = (.ok a, w') → R a) (hf : ∀ a, R a → Preserves P (f a)) :
    Preserves P (m >>= f) := by
  intro w hw
  rw [runOn_bind]
  rcases h : m.runOn w with ⟨_ | a, w'⟩
  · simpa [h] using hm w hw
  · exact hf a (hl w hw a w' h) w' (by simpa [h] using hm w hw)

end WorldM

namespace Service

open World

variable {α : Type} {U : Finset String} {sid : String} {S : List String}

theorem Keeps.confined {m : WorldM α} (h : Keeps confinedView m) : Preserves (Confined U sid S) m :=
  h.preserves fun _ _ hv hc => hc.of_view hv

/-- A store operation that keeps every record's uid in `U`. -/
theorem preserves_onStore {g : RecordStore → Except Failure RecordStore}
    (hg : ∀ st st', g st = .ok st' → st.UidsWithin U → st'.UidsWithin U) :
    Preserves (Confined U sid S) (onStore g) := by
  intro w hw
  simp only [onStore, runOn_bind, runOn_get]
  rcases h : g w.service.store with e | st'
  · exact hw
  · exact ⟨hw.serviceId, hg _ _ h hw.records, hw.awaiting⟩

theorem preserves_onStore_remove (k : Json) :
    Preserves (Confined U sid S) (onStore (·.remove k)) :=
  preserves_onStore fun _ _ h hu => hu.of_remove h

theorem preserves_purgeRecords : Preserves (Confined U sid S) purgeRecords :=
  (Keeps.confined keeps_service).bind fun _ => (preserves_lift _).bind fun _ =>
    (preserves_forM fun k _ => preserves_onStore_remove k).bind fun _ => preserves_pure _

/-- The uids under normalization stay in `U`. -/
def NormalClosed (sid : String) (U : Finset String) : Prop :=
  ∀ u ∈ U, ∀ v, normalizeUid sid (.str u) = .ok v → v ∈ U

/-- An addon that a lookup of a uid of `U` finds has a uid of `U`: it is found under the
normalized uid. -/
theorem getAddon_found_mem (hU : NormalClosed sid U) {n : ℕ} {uid : String} (hu : uid ∈ U)
    {w w' : World} (hw : w.Confined U sid S) {found : Option Addon}
    (h : (getAddon n uid).runOn w = (.ok found, w')) : ∀ b ∈ found, b.uid ∈ U := by
  intro b hb
  rw [getAddon_uid (normalizeUid_str _ _) h b hb]
  exact hU uid hu _ (hw.serviceId ▸ normalizeUid_str _ _)

/-- What a repair installs, the addon found or else the record kept, has a uid of `U`. -/
theorem repairTarget_mem {found : Option Addon} {record : Addon} (hf : ∀ b ∈ found, b.uid ∈ U)
    (hr : record.uid ∈ U) : ((found.getD record).withInstalled false).uid ∈ U := by
  cases found with
  | none => simpa using hr
  | some b => simpa using hf b rfl

/-- The service state read from a world of `P` has what `P` says of the service. -/
theorem leads_service {P : World → Prop} {R : ServiceState → Prop} (h : ∀ w, P w → R w.service) :
    ∀ w, P w → ∀ s w', service.runOn w = (.ok s, w') → R s := by
  intro w hw s w' hs
  rw [service_runOn, Prod.mk.injEq, Except.ok.injEq] at hs
  exact hs.1 ▸ h w hw

/-- Lifting an outcome succeeds with its value. -/
theorem leads_lift {P : World → Prop} {γ : Type} (x : Except Failure γ) :
    ∀ w, P w → ∀ a w', (lift x).runOn w = (.ok a, w') → x = .ok a := by
  intro w _ a w' h
  rw [runOn_lift, Prod.mk.injEq] at h
  exact h.1

/-- The addons a cycle finds missing are stored ones, so their uids are in `U`. -/
theorem missing_mem {st : RecordStore} {records : List (Json × Json)} {missing : List Addon}
    (hs : st.UidsWithin U) (hrec : st.getAll = .ok records)
    (hm : ∀ a ∈ missing, ∃ b ∈ (readRecords records).1, a.uid = b.uid) :
    ∀ a ∈ missing, a.uid ∈ U := by
  intro a ha
  obtain ⟨b, hb, hab⟩ := hm a ha
  exact hab ▸ hs.uid_mem hrec hb

/-- The install a handler runs writes only the record of the addon it installs. -/
theorem preserves_handlerInstall (h : Handler) {a : Addon} (ha : a.uid ∈ U) :
    Preserves (Confined U sid S) (do
      if ← handlerReports h.name a.uid then return some alreadyInstalled
      installWith h.name a
      onStore (·.put (.str a.uid) (.str (a.withInstalled true).toRecord))
      return none : WorldM (Option String)) := by
  refine (Keeps.confined (keeps_handlerReports _ _)).bind fun _ => ?_
  split
  · exact preserves_pure _
  refine (Keeps.confined (keepsView_installWith _ _)).bind fun _ => ?_
  exact (preserves_onStore fun _ _ hp hu => hu.of_put_record (by simpa using ha) hp).bind
    fun _ => preserves_pure _

theorem returns_splitInstalled (found : List Addon) :
    Returns (splitInstalled found) fun p => ∀ a ∈ p.2, ∃ b ∈ found, a.uid = b.uid := by
  intro w p hp
  have hrun : (splitInstalled found).runOn w = (.ok p, ((splitInstalled found).runOn w).2) := by
    rw [← hp]
  obtain ⟨-, -, -, h2⟩ := splitInstalled_ok hrun
  intro a ha
  rw [h2, List.mem_map] at ha
  obtain ⟨b, hb, rfl⟩ := ha
  exact ⟨b, List.mem_of_mem_filter hb, rfl⟩

/-- A stored pair is an addon to repair under its own uid. -/
theorem mem_storedByUid {l : List Addon} {p : String × Addon} (hp : p ∈ storedByUid l) :
    p.2 ∈ l ∧ p.1 = p.2.uid := by
  unfold storedByUid at hp
  -- every pair the fold builds is an addon of `l` under its uid
  suffices h : ∀ (l' : List Addon) (acc : List (String × Addon)), (∀ a ∈ l', a ∈ l) →
      (∀ q ∈ acc, q.2 ∈ l ∧ q.1 = q.2.uid) →
      ∀ q ∈ l'.foldl (fun acc a =>
        if acc.any (·.1 == a.uid) then acc.map fun p => if p.1 == a.uid then (p.1, a) else p
        else acc ++ [(a.uid, a)]) acc, q.2 ∈ l ∧ q.1 = q.2.uid from
    h l [] (fun _ h => h) (by simp) p hp
  intro l' acc hl' hacc
  induction l' generalizing acc with
  | nil => exact hacc
  | cons a l' ih =>
    rw [List.foldl_cons]
    have ha := hl' a List.mem_cons_self
    refine ih _ (fun b hb => hl' b (List.mem_cons_of_mem _ hb)) fun q hq => ?_
    split at hq
    · obtain ⟨r, hr, rfl⟩ := List.mem_map.mp hq
      split
      · rename_i heq
        exact ⟨ha, by simpa using heq⟩
      · exact hacc r hr
    · rcases List.mem_append.mp hq with hq | hq
      · exact hacc q hq
      · rw [List.mem_singleton] at hq
        subst hq
        exact ⟨ha, rfl⟩

/-- A change of the service state that keeps its id and its store, and keeps under repair the
uids of `S` it finds there. -/
theorem preserves_confined_modifyService {g : ServiceState → ServiceState}
    (hid : ∀ s, (g s).serviceId = s.serviceId) (hst : ∀ s, (g s).store = s.store)
    (hr : ∀ s, (∀ u ∈ S, u ∈ s.repairing) → ∀ u ∈ S, u ∈ (g s).repairing) :
    Preserves (Confined U sid S) (modifyService g) :=
  preserves_modify fun w hw =>
    ⟨(hid w.service).trans hw.serviceId, (hst w.service).symm ▸ hw.records,
      hr w.service hw.awaiting⟩

/-! ### Every depth keeps the uids in `U` -/

/-- Each operation that may run a reconciliation, at depth `fuel`, keeps the uids in `U` and
keeps awaiting every uid of `S` it does not repair itself. -/
structure ConfinedAt (U : Finset String) (sid : String) (fuel : ℕ) : Prop where
  refreshSource : ∀ S, Preserves (Confined U sid S) (refreshSource fuel)
  refreshQuietly : ∀ S, Preserves (Confined U sid S) (refreshQuietly fuel)
  scheduleRepair : ∀ S (missing : List Addon), (∀ a ∈ missing, a.uid ∈ U) →
    Preserves (Confined U sid S) (scheduleRepair fuel missing)
  submit : ∀ S (job : Job), job.Within U → (∀ u ∈ job.uids, u ∉ S) →
    Preserves (Confined U sid S) (submit fuel job)
  runJob : ∀ S (job : Job), job.Within U → (∀ u ∈ job.uids, u ∉ S) →
    Preserves (Confined U sid S) (runJob fuel job)
  repairOne : ∀ S uid (record : Addon), uid ∈ U → record.uid ∈ U → uid ∉ S →
    Preserves (Confined U sid S) (repairOne fuel uid record)
  getAddon : ∀ S uid, Preserves (Confined U sid S) (getAddon fuel uid)
  installAddon : ∀ S (a : Addon), a.uid ∈ U → Preserves (Confined U sid S) (installAddon fuel a)

section Succ

variable {n : ℕ} (ih : ConfinedAt U sid n)
include ih

theorem ConfinedAt.refreshSource_succ (S : List String) :
    Preserves (Confined U sid S) (Service.refreshSource (n + 1)) := by
  simp only [Service.refreshSource]
  refine preserves_get.bind fun w => ?_
  split
  · exact preserves_pure _
  refine (Keeps.confined keeps_loadPolicy).bind fun policy => ?_
  -- the records are read from the store of a confined world
  refine Preserves.bind_of_leads (Keeps.confined keeps_service)
    (leads_service (R := fun s => s.store.UidsWithin U) fun _ hw => hw.records) fun s hs => ?_
  refine Preserves.bind_of_leads (preserves_lift _) (leads_lift _) fun records hrec => ?_
  split
  · exact preserves_purgeRecords.bind fun _ => preserves_pure _
  refine Preserves.bind_of_returns (Keeps.confined (keeps_splitInstalled _))
    (returns_splitInstalled _) fun found hfound => ?_
  refine (preserves_forM fun a _ => preserves_onStore_remove _).bind fun _ => ?_
  refine Preserves.ite_bind ?_ (preserves_pure _) fun remote => ?_
  · exact (Keeps.confined keepsView_remoteValue).attempt.bind fun _ => by
      split <;> exact preserves_pure _
  refine (Keeps.confined (keeps_mergeEntriesM _ _ _)).bind fun merged => ?_
  refine Preserves.bind (Keeps.confined (keepsView_modifyService _ fun _ => rfl)) fun _ => ?_
  split
  · exact (ih.scheduleRepair S _ (missing_mem hs hrec hfound)).bind fun _ => preserves_pure _
  · exact preserves_pure _

theorem ConfinedAt.refreshQuietly_succ (S : List String) :
    Preserves (Confined U sid S) (Service.refreshQuietly (n + 1)) :=
  (ih.refreshSource S).attempt.bind fun _ => preserves_pure _

theorem ConfinedAt.scheduleRepair_succ (S : List String) (missing : List Addon)
    (hmiss : ∀ a ∈ missing, a.uid ∈ U) :
    Preserves (Confined U sid S) (Service.scheduleRepair (n + 1) missing) := by
  simp only [Service.scheduleRepair]
  -- the uids of `S` are under repair in the world the scheduling starts from
  refine Preserves.bind_of_leads (Keeps.confined keeps_service)
    (leads_service (R := fun s => ∀ u ∈ S, u ∈ s.repairing) fun _ hw => hw.awaiting)
    fun s hS => ?_
  refine Preserves.bind (preserves_confined_modifyService (fun _ => rfl) (fun _ => rfl)
    fun _ hR u hu => List.mem_append_left _ (hR u hu)) fun _ => ?_
  split
  · exact preserves_pure _
  -- the stored uids are not under repair, so none of them is in `S`
  have hkeys := storedByUid_keys_not_mem (not_mem_of_mem_filter_repairing s.repairing missing)
  have hwithin :
      (Job.repair (storedByUid (missing.filter fun a => !s.repairing.contains a.uid))).Within U :=
    fun p hp => by
      obtain ⟨hp2, hp1⟩ := mem_storedByUid hp
      have ha := hmiss _ (List.mem_of_mem_filter hp2)
      exact ⟨hp1 ▸ ha, ha⟩
  refine (ih.submit S _ hwithin fun u hu huS => hkeys u hu (hS u huS)).bind fun accepted => ?_
  split
  · refine preserves_confined_modifyService (fun _ => rfl) (fun _ => rfl) fun _ hR u hu => ?_
    refine List.mem_filter.mpr ⟨hR u hu, ?_⟩
    simpa using fun hk => hkeys u hk (hS u hu)
  · exact preserves_pure _

theorem ConfinedAt.submit_succ (S : List String) (job : Job) (hj : job.Within U)
    (hS : ∀ u ∈ job.uids, u ∉ S) : Preserves (Confined U sid S) (Service.submit (n + 1) job) := by
  simp only [Service.submit]
  refine (Keeps.confined keeps_service).bind fun s => ?_
  split
  · exact preserves_pure _
  split
  · exact (ih.runJob S job hj hS).attempt.bind fun _ => preserves_pure _
  · exact Preserves.bind (Keeps.confined (keepsView_modifyService _ fun _ => rfl)) fun _ =>
      preserves_pure _
  · exact preserves_pure _

theorem ConfinedAt.runJob_succ (S : List String) (job : Job) (hj : job.Within U)
    (hS : ∀ u ∈ job.uids, u ∉ S) : Preserves (Confined U sid S) (Service.runJob (n + 1) job) := by
  cases job with
  | refresh => exact ih.refreshQuietly S
  | repair stored =>
    exact preserves_forM fun p hp =>
      ih.repairOne S p.1 p.2 (hj p hp).1 (hj p hp).2 (hS p.1 (List.mem_map_of_mem hp))

theorem ConfinedAt.getAddon_succ (S : List String) (uid : String) :
    Preserves (Confined U sid S) (Service.getAddon (n + 1) uid) := by
  simp only [Service.getAddon]
  refine (Keeps.confined keeps_service).bind fun s => Preserves.ite_then (ih.refreshQuietly S) ?_
  refine (Keeps.confined keeps_current).bind fun cur => ?_
  split
  · exact preserves_pure _
  refine (Keeps.confined keeps_loadPolicy).bind fun policy => ?_
  split
  · exact preserves_pure _
  refine (Keeps.confined keeps_service).bind fun _ => ?_
  refine Preserves.bind (Keeps.confined (Keeps.attempt ?_)) fun found => ?_
  · split
    · exact keepsView_lookupRemote _
    · exact keepsView_remoteValue.bind fun _ => keeps_pure _
  split
  · exact (Keeps.confined (keeps_isInstalled _)).bind fun _ => preserves_pure _
  · exact preserves_pure _

theorem ConfinedAt.installAddon_succ (S : List String) (a : Addon) (ha : a.uid ∈ U) :
    Preserves (Confined U sid S) (Service.installAddon (n + 1) a) := by
  simp only [Service.installAddon]
  refine preserves_get.bind fun w => ?_
  split
  · exact Keeps.confined (keepsView_emit _)
  refine (preserves_handlerInstall _ ha).attempt.bind fun outcome => ?_
  split
  · exact Keeps.confined (keepsView_emit _)
  · exact Keeps.confined (keepsView_emit _)
  · exact Preserves.bind (Keeps.confined (keepsView_modifyService _ fun _ => rfl)) fun _ =>
      (ih.refreshQuietly S).bind fun _ => Keeps.confined (keepsView_emit _)

variable (hU : NormalClosed sid U)
include hU

theorem ConfinedAt.repairOne_succ (S : List String) (uid : String) (record : Addon)
    (hu : uid ∈ U) (hr : record.uid ∈ U) (hS : uid ∉ S) :
    Preserves (Confined U sid S) (Service.repairOne (n + 1) uid record) := by
  simp only [Service.repairOne]
  refine Preserves.bind (Preserves.attempt ?_) fun _ =>
    preserves_confined_modifyService (fun _ => rfl) (fun _ => rfl) fun _ hR v hv =>
      List.mem_filter.mpr ⟨hR v hv, bne_iff_ne.mpr fun h => hS (h ▸ hv)⟩
  refine (Keeps.confined keeps_current).bind fun _ => ?_
  split
  · -- the addon found is the one asked for, under its normalized uid, which is in `U`
    refine Preserves.bind_of_leads (ih.getAddon S uid)
      (fun w hw found w' h => getAddon_found_mem hU hu hw h) fun found hfound => ?_
    exact (ih.installAddon S _ (repairTarget_mem hfound hr)).bind fun _ => preserves_pure _
  · exact preserves_pure _

omit ih hU in
theorem confinedAt_zero : ConfinedAt U sid 0 where
  refreshSource _ := preserves_throw _
  refreshQuietly _ := preserves_pure _
  scheduleRepair _ _ _ := preserves_pure _
  submit _ _ _ _ := preserves_pure _
  runJob _ _ _ _ := preserves_pure _
  repairOne _ _ _ _ _ _ := preserves_pure _
  getAddon _ _ := preserves_pure _
  installAddon _ _ _ := Keeps.confined (keepsView_emit _)

theorem ConfinedAt.succ : ConfinedAt U sid (n + 1) :=
  ⟨ih.refreshSource_succ, ih.refreshQuietly_succ, ih.scheduleRepair_succ, ih.submit_succ,
    ih.runJob_succ, ih.repairOne_succ hU, ih.getAddon_succ, ih.installAddon_succ⟩

end Succ

/-- **The uids stay in `U` at every depth**: when normalizing keeps uids in `U`, every
operation that may run a reconciliation keeps the records' uids in `U`, and keeps awaiting
repair every uid of `S` it is not itself repairing. -/
theorem confinedAt (hU : NormalClosed sid U) : ∀ fuel, ConfinedAt U sid fuel
  | 0 => confinedAt_zero
  | n + 1 => (confinedAt hU n).succ hU

end Service

end AddonCatalog
