import AddonCatalog.Proofs.Service.Confined

/-!
# Every request comes to an end

A repair reinstalls, an install runs a cycle, and a cycle may schedule further repairs inside
the running one. The only brake is the list of uids under repair: a nested repair is scheduled
only for uids no enclosing repair is handling. So the nesting is bounded by the number of uids a
run can meet, and past that depth the fuel no longer matters.

* `SameOn P m₁ m₂`: two computations run alike from every world of `P`; `Settled P op r`: the
  runs of `op` agree at every depth from `r` on;
* `unclaimed U S`: the uids of `U` outside `S`. A repair job claims uids of `U` outside the
  uids `S` kept awaited around it (`FreshRepair`), so each of its repairs runs with fewer uids
  unclaimed than the scheduling did;
* `StableAt U sid k`: from worlds with at most `k` uids unclaimed, every operation has settled
  by depth `7 * k` plus its place in the chain of calls (`stableAt`, by induction on `k`);
* `requests_settle`: every cycle, listing, lookup, install and uninstall has settled by depth
  `7 * |U| + 3`, with `U` the uids of the stored records and of the request, with their normal
  forms.
-/

namespace AddonCatalog

open WorldM

namespace WorldM

variable {α β : Type} {P Q : World → Prop} {m₁ m₂ : WorldM α} {f₁ f₂ : α → WorldM β}

/-- Two computations that run alike, to the same outcome and the same world, from every world
of `P`. -/
def SameOn (P : World → Prop) (m₁ m₂ : WorldM α) : Prop := ∀ w, P w → m₁.runOn w = m₂.runOn w

theorem sameOn_refl (m : WorldM α) : SameOn P m m := fun _ _ => rfl

theorem SameOn.mono (h : SameOn Q m₁ m₂) (hPQ : ∀ w, P w → Q w) : SameOn P m₁ m₂ :=
  fun w hw => h w (hPQ w hw)

/-- Runs that agree so far go on alike when their continuations agree on the worlds the first
step leads to. -/
theorem SameOn.bind_to {Q : α → World → Prop} (hm : SameOn P m₁ m₂)
    (hl : ∀ w, P w → ∀ a w', m₂.runOn w = (.ok a, w') → Q a w')
    (hf : ∀ a, SameOn (Q a) (f₁ a) (f₂ a)) : SameOn P (m₁ >>= f₁) (m₂ >>= f₂) := by
  intro w hw
  rw [runOn_bind, runOn_bind, hm w hw]
  rcases h : m₂.runOn w with ⟨_ | a, w'⟩
  · rfl
  · exact hf a w' (hl w hw a w' h)

theorem SameOn.bind_of_leads {R : α → Prop} (hm : SameOn P m₁ m₂) (hp : Preserves P m₂)
    (hl : ∀ w, P w → ∀ a w', m₂.runOn w = (.ok a, w') → R a)
    (hf : ∀ a, R a → SameOn P (f₁ a) (f₂ a)) : SameOn P (m₁ >>= f₁) (m₂ >>= f₂) :=
  hm.bind_to (Q := fun a w => P w ∧ R a)
    (fun w hw a w' h => ⟨by simpa [h] using hp w hw, hl w hw a w' h⟩)
    fun a w hw => hf a hw.2 w hw.1

theorem SameOn.bind (hm : SameOn P m₁ m₂) (hp : Preserves P m₂)
    (hf : ∀ a, SameOn P (f₁ a) (f₂ a)) : SameOn P (m₁ >>= f₁) (m₂ >>= f₂) :=
  hm.bind_of_leads (R := fun _ => True) hp (fun _ _ _ _ _ => trivial) fun a _ => hf a

/-- Runs that agree go on alike through one continuation. -/
theorem SameOn.bind_right (hm : SameOn P m₁ m₂) (f : α → WorldM β) :
    SameOn P (m₁ >>= f) (m₂ >>= f) :=
  fun w hw => by rw [runOn_bind, runOn_bind, hm w hw]

theorem SameOn.attempt (hm : SameOn P m₁ m₂) : SameOn P (attempt m₁) (attempt m₂) :=
  fun w hw => by rw [runOn_attempt, runOn_attempt, hm w hw]

theorem SameOn.ite_bind {c : Prop} [Decidable c] {m y : WorldM α} (hm : Preserves P m)
    (hy : Preserves P y) (hf : ∀ a, SameOn P (f₁ a) (f₂ a)) :
    SameOn P (if c then m >>= f₁ else y >>= f₁) (if c then m >>= f₂ else y >>= f₂) := by
  split
  · exact (sameOn_refl m).bind hm hf
  · exact (sameOn_refl y).bind hy hf

/-- A loop whose steps run alike from the worlds of an invariant `I` of the steps still to
run, each leading to the invariant of the rest. -/
theorem sameOn_forM {l : List β} {g₁ g₂ : β → WorldM PUnit} (I : List β → World → Prop)
    (hg : ∀ b l, SameOn (I (b :: l)) (g₁ b) (g₂ b))
    (hI : ∀ b l w, I (b :: l) w → ∀ a w', (g₂ b).runOn w = (.ok a, w') → I l w') :
    SameOn (I l) (l.forM g₁) (l.forM g₂) := by
  induction l with
  | nil => exact sameOn_refl _
  | cons b l ih =>
    show SameOn _ (g₁ b >>= fun _ => l.forM g₁) (g₂ b >>= fun _ => l.forM g₂)
    exact (hg b l).bind_to (hI b l) fun _ => ih

/-- The runs of `op` from the worlds of `P` agree at every depth from `r` on. -/
def Settled (P : World → Prop) (op : ℕ → WorldM α) (r : ℕ) : Prop :=
  ∀ n₁ n₂, r ≤ n₁ → r ≤ n₂ → SameOn P (op n₁) (op n₂)

/-- An operation whose runs one level deeper agree when those of its callee do. -/
theorem settled_of_succ {op : ℕ → WorldM α} {r : ℕ}
    (h : ∀ m₁ m₂, r ≤ m₁ → r ≤ m₂ → SameOn P (op (m₁ + 1)) (op (m₂ + 1))) :
    Settled P op (r + 1) := by
  intro n₁ n₂ h₁ h₂
  obtain ⟨m₁, rfl⟩ : ∃ m, n₁ = m + 1 := ⟨n₁ - 1, by omega⟩
  obtain ⟨m₂, rfl⟩ : ∃ m, n₂ = m + 1 := ⟨n₂ - 1, by omega⟩
  exact h m₁ m₂ (by omega) (by omega)

theorem Settled.mono {op : ℕ → WorldM α} {r r' : ℕ} (h : Settled P op r) (hr : r ≤ r') :
    Settled P op r' :=
  fun n₁ n₂ h₁ h₂ => h n₁ n₂ (hr.trans h₁) (hr.trans h₂)

end WorldM

namespace Service

open World

/-! ### Unclaimed uids -/

/-- The uids of `U` outside `S`: how many uids repairs nested around `S` can still claim. -/
def unclaimed (U : Finset String) (S : List String) : ℕ := (U.filter (· ∉ S)).card

variable {U : Finset String} {sid : String} {S T : List String}

theorem filter_not_mem_subset (h : ∀ u ∈ S, u ∈ T) : U.filter (· ∉ T) ⊆ U.filter (· ∉ S) :=
  fun u hu => by
    rw [Finset.mem_filter] at hu ⊢
    exact ⟨hu.1, fun huS => hu.2 (h u huS)⟩

theorem unclaimed_le (h : ∀ u ∈ S, u ∈ T) : unclaimed U T ≤ unclaimed U S :=
  Finset.card_le_card (filter_not_mem_subset h)

/-- Claiming one more uid of `U` leaves fewer unclaimed. -/
theorem unclaimed_lt {u : String} (hu : u ∈ U) (huS : u ∉ S) (huT : u ∈ T) (h : ∀ v ∈ S, v ∈ T) :
    unclaimed U T < unclaimed U S := by
  refine Finset.card_lt_card ((Finset.ssubset_iff_of_subset (filter_not_mem_subset h)).mpr ?_)
  exact ⟨u, Finset.mem_filter.mpr ⟨hu, huS⟩, fun h' => (Finset.mem_filter.mp h').2 huT⟩

/-- With no uid unclaimed, `S` holds every uid of `U`. -/
theorem mem_of_unclaimed_zero (h : unclaimed U S ≤ 0) {u : String} (hu : u ∈ U) : u ∈ S := by
  by_cases huS : u ∈ S
  · exact huS
  · have hempty : U.filter (· ∉ S) = ∅ := Finset.card_eq_zero.mp (Nat.le_zero.mp h)
    have hmem : u ∈ U.filter (· ∉ S) := Finset.mem_filter.mpr ⟨hu, huS⟩
    rw [hempty] at hmem
    exact absurd hmem (Finset.notMem_empty u)

/-- A repair job that claims uids of `U` outside `S`, each once, and installs addons of `U`. -/
structure FreshRepair (U : Finset String) (S : List String) (stored : List (String × Addon)) :
    Prop where
  within : (Job.repair stored).Within U
  nodup : (stored.map (·.1)).Nodup
  fresh : ∀ u ∈ stored.map (·.1), u ∉ S

theorem FreshRepair.tail {p : String × Addon} {stored : List (String × Addon)}
    (h : FreshRepair U S (p :: stored)) : FreshRepair U S stored :=
  ⟨fun q hq => h.within q (List.mem_cons_of_mem _ hq), (List.nodup_cons.mp h.nodup).2,
    fun u hu => h.fresh u (List.mem_cons_of_mem _ hu)⟩

/-! ### One level deeper -/

section Steps

variable {n₁ n₂ : ℕ}

/-- A lookup of a uid of `U` finds, if anything, an addon of `U`, whatever the lookup's
outcome. -/
theorem leads_attempt_getAddon (hU : NormalClosed sid U) {n : ℕ} {u : String} (hu : u ∈ U) :
    ∀ w : World, w.Confined U sid S → ∀ r w', (attempt (getAddon n u)).runOn w = (.ok r, w') →
      ∀ found, r = .ok found → ∀ b ∈ found, b.uid ∈ U := by
  intro w hw r w' h found hr
  rw [runOn_attempt, Prod.mk.injEq, Except.ok.injEq] at h
  have hrun : (getAddon n u).runOn w = (.ok found, w') := by rw [← hr, ← h.1, ← h.2]
  exact getAddon_found_mem hU hu hw hrun

/-- A request names its addon by a uid that, normalized under the confined id, is in `U`. -/
theorem sameOn_resolve {α : Type} {uid : Json} (hu : ∀ u, normalizeUid sid uid = .ok u → u ∈ U)
    {f₁ f₂ : String → WorldM α} (hf : ∀ u, u ∈ U → SameOn (Confined U sid S) (f₁ u) (f₂ u)) :
    SameOn (Confined U sid S)
      (do let u ← lift (normalizeUid (← service).serviceId uid); f₁ u)
      (do let u ← lift (normalizeUid (← service).serviceId uid); f₂ u) := by
  refine (sameOn_refl _).bind_of_leads (Keeps.confined keeps_service)
    (leads_service (R := fun s => s.serviceId = sid) fun _ hw => hw.serviceId) fun s hsid => ?_
  exact (sameOn_refl _).bind_of_leads (preserves_lift _)
    (fun w hw u w' h => hu u (hsid ▸ leads_lift _ w hw u w' h)) hf

theorem sameOn_refreshSource_succ
    (hs : ∀ missing : List Addon, (∀ a ∈ missing, a.uid ∈ U) →
      SameOn (Confined U sid S) (scheduleRepair n₁ missing) (scheduleRepair n₂ missing)) :
    SameOn (Confined U sid S) (refreshSource (n₁ + 1)) (refreshSource (n₂ + 1)) := by
  simp only [refreshSource]
  refine (sameOn_refl _).bind preserves_get fun w => ?_
  split
  · exact sameOn_refl _
  refine (sameOn_refl _).bind (Keeps.confined keeps_loadPolicy) fun policy => ?_
  refine (sameOn_refl _).bind_of_leads (Keeps.confined keeps_service)
    (leads_service (R := fun s => s.store.UidsWithin U) fun _ hw => hw.records) fun s hs' => ?_
  refine (sameOn_refl _).bind_of_leads (preserves_lift _) (leads_lift _) fun records hrec => ?_
  split
  · exact sameOn_refl _
  refine (sameOn_refl _).bind_of_leads (Keeps.confined (keeps_splitInstalled _))
    (fun w _ p w' h => returns_splitInstalled _ w p (by rw [h])) fun found hfound => ?_
  refine (sameOn_refl _).bind (preserves_forM fun a _ => preserves_onStore_remove _) fun _ => ?_
  refine SameOn.ite_bind ?_ (preserves_pure _) fun remote => ?_
  · exact (Keeps.confined keepsView_remoteValue).attempt.bind fun _ => by
      split <;> exact preserves_pure _
  refine (sameOn_refl _).bind (Keeps.confined (keeps_mergeEntriesM _ _ _)) fun merged => ?_
  refine (sameOn_refl _).bind (Keeps.confined (keepsView_modifyService _ fun _ => rfl))
    fun _ => ?_
  split
  · exact (hs _ (missing_mem hs' hrec hfound)).bind_right _
  · exact sameOn_refl _

theorem sameOn_refreshQuietly_succ {P : World → Prop}
    (h : SameOn P (refreshSource n₁) (refreshSource n₂)) :
    SameOn P (refreshQuietly (n₁ + 1)) (refreshQuietly (n₂ + 1)) :=
  h.attempt.bind_right _

theorem sameOn_getAddon_succ {P : World → Prop}
    (h : SameOn P (refreshQuietly n₁) (refreshQuietly n₂)) (uid : String) :
    SameOn P (getAddon (n₁ + 1) uid) (getAddon (n₂ + 1) uid) := by
  simp only [getAddon]
  refine (sameOn_refl _).bind (fun _ hw => hw) fun s => ?_
  split
  · exact h.bind_right _
  · exact sameOn_refl _

theorem sameOn_installAddon_succ
    (h : SameOn (Confined U sid S) (refreshQuietly n₁) (refreshQuietly n₂)) {a : Addon}
    (ha : a.uid ∈ U) :
    SameOn (Confined U sid S) (installAddon (n₁ + 1) a) (installAddon (n₂ + 1) a) := by
  simp only [installAddon]
  refine (sameOn_refl _).bind preserves_get fun w => ?_
  split
  · exact sameOn_refl _
  refine (sameOn_refl _).bind (preserves_handlerInstall _ ha).attempt fun outcome => ?_
  split
  · exact sameOn_refl _
  · exact sameOn_refl _
  · refine (sameOn_refl _).bind (Keeps.confined (keepsView_modifyService _ fun _ => rfl))
      fun _ => ?_
    exact h.bind_right _

theorem sameOn_repairOne_succ (hU : NormalClosed sid U) (hc : ConfinedAt U sid n₂)
    (hg : ∀ uid, SameOn (Confined U sid S) (getAddon n₁ uid) (getAddon n₂ uid))
    (hi : ∀ a : Addon, a.uid ∈ U →
      SameOn (Confined U sid S) (installAddon n₁ a) (installAddon n₂ a))
    {uid : String} {record : Addon} (hu : uid ∈ U) (hr : record.uid ∈ U) :
    SameOn (Confined U sid S) (repairOne (n₁ + 1) uid record) (repairOne (n₂ + 1) uid record) := by
  simp only [repairOne]
  refine SameOn.bind_right (SameOn.attempt ?_) _
  refine (sameOn_refl _).bind (Keeps.confined keeps_current) fun _ => ?_
  split
  · refine (hg uid).bind_of_leads (hc.getAddon S uid)
      (fun w hw found w' h => getAddon_found_mem hU hu hw h) fun found hfound => ?_
    exact (hi _ (repairTarget_mem hfound hr)).bind_right _
  · exact sameOn_refl _

/-- A repair job runs its repairs one by one: the repair of each uid starts with that uid and
the later ones claimed around `S`, so with fewer uids unclaimed than around `S`, and leaves the
later ones claimed. -/
theorem sameOn_runJob_succ {b : ℕ} (hc : ConfinedAt U sid n₂)
    (hr : ∀ T, unclaimed U T < b → ∀ uid (record : Addon), uid ∈ U → record.uid ∈ U →
      SameOn (Confined U sid T) (repairOne n₁ uid record) (repairOne n₂ uid record))
    {stored : List (String × Addon)} (hb : unclaimed U S ≤ b) (hf : FreshRepair U S stored) :
    SameOn (Confined U sid (S ++ stored.map (·.1)))
      (runJob (n₁ + 1) (.repair stored)) (runJob (n₂ + 1) (.repair stored)) := by
  simp only [runJob]
  refine (sameOn_forM (fun L w => FreshRepair U S L ∧ w.Confined U sid (S ++ L.map (·.1)))
    (fun p L => ?_) (fun p L w hw a w' h => ?_)).mono fun w hw => ⟨hf, hw⟩
  · obtain ⟨uid, record⟩ := p
    rintro w ⟨hfL, hw⟩
    have hp := hfL.within (uid, record) List.mem_cons_self
    have hfresh := hfL.fresh uid List.mem_cons_self
    refine hr _ (lt_of_lt_of_le (unclaimed_lt hp.1 hfresh ?_ ?_) hb) uid record hp.1 hp.2 w hw
    · simp
    · exact fun v hv => List.mem_append_left _ hv
  · obtain ⟨uid, record⟩ := p
    obtain ⟨hfL, hw⟩ := hw
    have hrun : (repairOne n₂ uid record).runOn w = (.ok a, w') := h
    -- the uid repaired is neither in `S` nor among the later ones
    have hnot : uid ∉ S ++ L.map (·.1) := by
      rw [List.mem_append, not_or]
      exact ⟨hfL.fresh uid List.mem_cons_self, (List.nodup_cons.mp hfL.nodup).1⟩
    have hpre : w.Confined U sid (S ++ L.map (·.1)) := hw.mono fun v hv => by
      simp only [List.map_cons, List.mem_append, List.mem_cons] at hv ⊢
      tauto
    have hp := hfL.within (uid, record) List.mem_cons_self
    refine ⟨hfL.tail, ?_⟩
    simpa [hrun] using hc.repairOne _ uid record hp.1 hp.2 hnot w hpre

theorem sameOn_submit_succ {P : World → Prop} {job : Job}
    (h : SameOn P (runJob n₁ job) (runJob n₂ job)) :
    SameOn P (submit (n₁ + 1) job) (submit (n₂ + 1) job) := by
  simp only [submit]
  refine (sameOn_refl _).bind (fun _ hw => hw) fun s => ?_
  split
  · exact sameOn_refl _
  split
  · exact h.attempt.bind_right _
  · exact sameOn_refl _
  · exact sameOn_refl _

/-- A scheduling that finds every missing uid under repair changes nothing. -/
theorem scheduleRepair_of_claimed {w : World} {missing : List Addon}
    (h : ∀ a ∈ missing, a.uid ∈ w.service.repairing) :
    ∀ n, (scheduleRepair n missing).runOn w = (.ok (), w)
  | 0 => rfl
  | n + 1 => by
    have hnil : missing.filter (fun a => !w.service.repairing.contains a.uid) = [] :=
      List.filter_eq_nil_iff.mpr fun a ha => by simpa using h a ha
    simp only [scheduleRepair, runOn_bind, service_runOn, modifyService, runOn_modify, hnil,
      List.map_nil, List.foldl_nil, List.append_nil, List.isEmpty_nil, if_true, runOn_pure]

/-- A scheduling submits a job that claims the uids it adds, none of which was under repair. -/
theorem sameOn_scheduleRepair_succ {missing : List Addon} (hmiss : ∀ a ∈ missing, a.uid ∈ U)
    (hsub : ∀ stored, FreshRepair U S stored →
      SameOn (Confined U sid (S ++ stored.map (·.1))) (submit n₁ (.repair stored))
        (submit n₂ (.repair stored))) :
    SameOn (Confined U sid S) (scheduleRepair (n₁ + 1) missing)
      (scheduleRepair (n₂ + 1) missing) := by
  intro w hw
  simp only [scheduleRepair, runOn_bind, service_runOn, modifyService, runOn_modify]
  split
  · rfl
  set pending := missing.filter fun a => !w.service.repairing.contains a.uid
  have hpend : ∀ a ∈ pending, a.uid ∉ w.service.repairing :=
    not_mem_of_mem_filter_repairing w.service.repairing missing
  have hfresh : FreshRepair U S (storedByUid pending) := by
    refine ⟨fun p hp => ?_, storedByUid_keys_nodup _, fun u hu huS =>
      storedByUid_keys_not_mem hpend u hu (hw.awaiting u huS)⟩
    obtain ⟨hp2, hp1⟩ := mem_storedByUid hp
    have ha := hmiss _ (List.mem_of_mem_filter hp2)
    exact ⟨hp1 ▸ ha, ha⟩
  refine (hsub _ hfresh).bind_right _ _ ⟨hw.serviceId, hw.records, fun u hu => ?_⟩
  -- the world the job is submitted from has the uids of `S` and the claimed ones under repair
  rw [storedByUid_keys] at hu
  rcases List.mem_append.mp hu with hu | hu
  · exact List.mem_append_left _ (hw.awaiting u hu)
  · exact List.mem_append_right _ hu

end Steps

/-! ### Every level settles -/

/-- From worlds with at most `k` uids of `U` unclaimed around `S`, every operation that may
reconcile has settled by depth `7 * k` plus its place in the chain of calls: a scheduling calls
a submission of the level below, and within a level each operation calls the one before it. -/
structure StableAt (U : Finset String) (sid : String) (k : ℕ) : Prop where
  scheduleRepair : ∀ S, unclaimed U S ≤ k → ∀ missing : List Addon, (∀ a ∈ missing, a.uid ∈ U) →
    Settled (Confined U sid S) (scheduleRepair · missing) (7 * k)
  refreshSource : ∀ S, unclaimed U S ≤ k → Settled (Confined U sid S) refreshSource (7 * k + 1)
  refreshQuietly : ∀ S, unclaimed U S ≤ k → Settled (Confined U sid S) refreshQuietly (7 * k + 2)
  getAddon : ∀ S, unclaimed U S ≤ k → ∀ uid,
    Settled (Confined U sid S) (getAddon · uid) (7 * k + 3)
  installAddon : ∀ S, unclaimed U S ≤ k → ∀ a : Addon, a.uid ∈ U →
    Settled (Confined U sid S) (installAddon · a) (7 * k + 3)
  repairOne : ∀ S, unclaimed U S ≤ k → ∀ uid (record : Addon), uid ∈ U → record.uid ∈ U →
    Settled (Confined U sid S) (repairOne · uid record) (7 * k + 4)
  runJob : ∀ S, unclaimed U S ≤ k + 1 → ∀ stored, FreshRepair U S stored →
    Settled (Confined U sid (S ++ stored.map (·.1))) (runJob · (.repair stored)) (7 * k + 5)
  submit : ∀ S, unclaimed U S ≤ k + 1 → ∀ stored, FreshRepair U S stored →
    Settled (Confined U sid (S ++ stored.map (·.1))) (submit · (.repair stored)) (7 * k + 6)

/-- A level whose schedulings have settled has settled for every operation. -/
theorem stableAt_of_scheduleRepair (hU : NormalClosed sid U) {k : ℕ}
    (hs : ∀ S, unclaimed U S ≤ k → ∀ missing : List Addon, (∀ a ∈ missing, a.uid ∈ U) →
      Settled (Confined U sid S) (scheduleRepair · missing) (7 * k)) :
    StableAt U sid k := by
  have hsrc : ∀ S, unclaimed U S ≤ k → Settled (Confined U sid S) refreshSource (7 * k + 1) :=
    fun S hS => settled_of_succ fun m₁ m₂ h₁ h₂ =>
      sameOn_refreshSource_succ fun missing hm => hs S hS missing hm m₁ m₂ h₁ h₂
  have hq : ∀ S, unclaimed U S ≤ k → Settled (Confined U sid S) refreshQuietly (7 * k + 2) :=
    fun S hS => settled_of_succ fun m₁ m₂ h₁ h₂ =>
      sameOn_refreshQuietly_succ (hsrc S hS m₁ m₂ h₁ h₂)
  have hg : ∀ S, unclaimed U S ≤ k → ∀ uid,
      Settled (Confined U sid S) (getAddon · uid) (7 * k + 3) :=
    fun S hS uid => settled_of_succ fun m₁ m₂ h₁ h₂ =>
      sameOn_getAddon_succ (hq S hS m₁ m₂ h₁ h₂) uid
  have hi : ∀ S, unclaimed U S ≤ k → ∀ a : Addon, a.uid ∈ U →
      Settled (Confined U sid S) (installAddon · a) (7 * k + 3) :=
    fun S hS a ha => settled_of_succ fun m₁ m₂ h₁ h₂ =>
      sameOn_installAddon_succ (hq S hS m₁ m₂ h₁ h₂) ha
  have hr : ∀ S, unclaimed U S ≤ k → ∀ uid (record : Addon), uid ∈ U → record.uid ∈ U →
      Settled (Confined U sid S) (repairOne · uid record) (7 * k + 4) :=
    fun S hS uid record hu hrec => settled_of_succ fun m₁ m₂ h₁ h₂ =>
      sameOn_repairOne_succ hU (confinedAt hU m₂) (fun uid => hg S hS uid m₁ m₂ h₁ h₂)
        (fun a ha => (hi S hS a ha).mono (by omega) m₁ m₂ h₁ h₂) hu hrec
  have hj : ∀ S, unclaimed U S ≤ k + 1 → ∀ stored, FreshRepair U S stored →
      Settled (Confined U sid (S ++ stored.map (·.1))) (runJob · (.repair stored)) (7 * k + 5) :=
    fun S hS stored hf => settled_of_succ fun m₁ m₂ h₁ h₂ =>
      sameOn_runJob_succ (confinedAt hU m₂)
        (fun T hT uid record hu hrec => hr T (by omega) uid record hu hrec m₁ m₂ h₁ h₂) hS hf
  exact ⟨hs, hsrc, hq, hg, hi, hr, hj, fun S hS stored hf => settled_of_succ fun m₁ m₂ h₁ h₂ =>
    sameOn_submit_succ (hj S hS stored hf m₁ m₂ h₁ h₂)⟩

/-- With no uid unclaimed, a scheduling finds every missing uid under repair. -/
theorem scheduleRepair_settled_zero :
    ∀ S, unclaimed U S ≤ 0 → ∀ missing : List Addon, (∀ a ∈ missing, a.uid ∈ U) →
      Settled (Confined U sid S) (scheduleRepair · missing) (7 * 0) := by
  intro S hS missing hm n₁ n₂ _ _ w hw
  have hclaimed : ∀ a ∈ missing, a.uid ∈ w.service.repairing :=
    fun a ha => hw.awaiting _ (mem_of_unclaimed_zero hS (hm a ha))
  simp only [scheduleRepair_of_claimed hclaimed]

theorem StableAt.scheduleRepair_succ {k : ℕ} (ih : StableAt U sid k) :
    ∀ S, unclaimed U S ≤ k + 1 → ∀ missing : List Addon, (∀ a ∈ missing, a.uid ∈ U) →
      Settled (Confined U sid S) (Service.scheduleRepair · missing) (7 * (k + 1)) :=
  fun S hS missing hm => (settled_of_succ fun m₁ m₂ h₁ h₂ =>
    sameOn_scheduleRepair_succ hm fun stored hf => ih.submit S hS stored hf m₁ m₂ h₁ h₂).mono
      (by omega)

/-- **Every level settles**, by induction on the number of unclaimed uids: the schedulings of
level `k + 1` submit jobs of level `k`. -/
theorem stableAt (hU : NormalClosed sid U) : ∀ k, StableAt U sid k
  | 0 => stableAt_of_scheduleRepair hU scheduleRepair_settled_zero
  | k + 1 => stableAt_of_scheduleRepair hU (stableAt hU k).scheduleRepair_succ

/-! ### The requests settle -/

section Requests

variable {k : ℕ} (hs : StableAt U sid k) (hk : unclaimed U S ≤ k)
include hs hk

theorem settled_getAddons : Settled (Confined U sid S) getAddons (7 * k + 2) := by
  intro n₁ n₂ h₁ h₂
  simp only [getAddons]
  exact (hs.refreshQuietly S hk n₁ n₂ h₁ h₂).bind_right _

theorem settled_getAddonRequest (uid : Json) :
    Settled (Confined U sid S) (getAddonRequest · uid) (7 * k + 3) := by
  intro n₁ n₂ h₁ h₂
  simp only [getAddonRequest]
  refine (sameOn_refl _).bind (Keeps.confined keeps_service) fun s => ?_
  exact (sameOn_refl _).bind (preserves_lift _) fun u => hs.getAddon S hk u n₁ n₂ h₁ h₂

theorem settled_install (hU : NormalClosed sid U) {uid : Json}
    (hu : ∀ u, normalizeUid sid uid = .ok u → u ∈ U) :
    Settled (Confined U sid S) (install · uid) (7 * k + 3) := by
  intro n₁ n₂ h₁ h₂
  simp only [install]
  refine sameOn_resolve hu fun u huU => ?_
  refine (hs.getAddon S hk u n₁ n₂ h₁ h₂).attempt.bind_of_leads
    ((confinedAt hU n₂).getAddon S u).attempt (leads_attempt_getAddon hU huU)
    fun r hr => ?_
  -- an addon found is installed, anything else is reported unknown
  rcases r with _ | _ | a
  · exact sameOn_refl _
  · exact sameOn_refl _
  · exact hs.installAddon S hk a (hr _ rfl a rfl) n₁ n₂ h₁ h₂

theorem settled_uninstall (hU : NormalClosed sid U) {uid : Json}
    (hu : ∀ u, normalizeUid sid uid = .ok u → u ∈ U) :
    Settled (Confined U sid S) (uninstall · uid) (7 * k + 3) := by
  intro n₁ n₂ h₁ h₂
  simp only [uninstall]
  refine sameOn_resolve hu fun u huU => ?_
  refine (hs.getAddon S hk u n₁ n₂ h₁ h₂).attempt.bind ((confinedAt hU n₂).getAddon S u).attempt
    fun r => ?_
  rcases r with _ | _ | a
  · exact sameOn_refl _
  · exact sameOn_refl _
  refine (sameOn_refl _).bind preserves_get fun w => ?_
  split
  · exact sameOn_refl _
  -- the handler's uninstall only removes the record and leaves the uids under repair alone
  refine (sameOn_refl _).bind (Preserves.attempt ?_) fun outcome => ?_
  · refine (Keeps.confined (keeps_handlerReports _ _)).bind fun _ => ?_
    split
    · exact (preserves_onStore_remove _).bind fun _ => preserves_pure _
    · exact (Keeps.confined (keepsView_uninstallWith _ _)).bind fun _ =>
        (preserves_onStore_remove _).bind fun _ => preserves_pure _
  split
  · exact sameOn_refl _
  · exact sameOn_refl _
  · refine (sameOn_refl _).bind (Keeps.confined (keepsView_modifyService _ fun _ => rfl))
      fun _ => ?_
    exact ((hs.refreshQuietly S hk).mono (by omega) n₁ n₂ h₁ h₂).bind_right _

end Requests

end Service

/-! ### The uids a run can meet -/

namespace RecordStore

/-- The uids of the records of a store that read back as addons. -/
def recordUids (st : RecordStore) : List String :=
  st.contents.filterMap fun p => match p.2 with
    | .str s => (Addon.ofRecord s).toOption.map (·.uid)
    | _ => none

theorem uidsWithin_of_recordUids {U : Finset String} {st : RecordStore}
    (h : ∀ u ∈ st.recordUids, u ∈ U) : st.UidsWithin U := by
  intro p hp s b hs hb
  refine h _ (List.mem_filterMap.mpr ⟨p, hp, ?_⟩)
  simp [hs, hb, Except.toOption]

end RecordStore

namespace Service

/-- The normal form of a uid under a service id, as a lookup normalizes it. -/
def normalForm (sid u : String) : String :=
  match normalizeUid sid (.str u) with
  | .ok v => v
  | .error _ => u

theorem normalizeUid_normalForm (sid u : String) :
    normalizeUid sid (.str u) = .ok (normalForm sid u) := rfl

/-- The uids a request names. -/
def requestUids : Json → List String
  | .str u => [u]
  | _ => []

end Service

/-- The uids a run from `w` can meet, around the uids `extra`: those of the records of its store
and `extra`, with their normal forms. -/
def World.reachableUids (w : World) (extra : List String) : Finset String :=
  let base := w.service.store.recordUids ++ extra
  (base ++ base.map (Service.normalForm w.service.serviceId)).toFinset

namespace Service

theorem normalClosed_reachableUids (w : World) (extra : List String) :
    NormalClosed w.service.serviceId (w.reachableUids extra) := by
  intro u hu v hv
  simp only [World.reachableUids, List.mem_toFinset, List.mem_append, List.mem_map] at hu ⊢
  rcases hu with hu | ⟨b, hb, rfl⟩
  · -- a uid of the records or of the request normalizes to its normal form
    rw [normalizeUid_normalForm, Except.ok.injEq] at hv
    exact .inr ⟨u, hu, hv⟩
  · -- a normal form is its own normal form
    rw [normalizeUid_normalized (normalizeUid_normalForm _ b), Except.ok.injEq] at hv
    exact .inr ⟨b, hb, hv⟩

theorem confined_reachableUids (w : World) (extra : List String) :
    w.Confined (w.reachableUids extra) w.service.serviceId [] :=
  ⟨rfl, RecordStore.uidsWithin_of_recordUids fun u hu => by
    simp [World.reachableUids, hu], fun _ h => absurd h List.not_mem_nil⟩

theorem request_mem_reachableUids (w : World) {uid : Json} {u : String}
    (h : normalizeUid w.service.serviceId uid = .ok u) : u ∈ w.reachableUids (requestUids uid) := by
  cases uid with
  | str s =>
    rw [normalizeUid_normalForm, Except.ok.injEq] at h
    simp [World.reachableUids, requestUids, ← h]
  | _ => cases h

/-- **Every request comes to an end.** From any world, a cycle, a listing, a lookup, an install
and an uninstall run alike at every depth from `7 * |U| + 3` on, where `U` holds the uids of the
stored records and of the request with their normal forms: however the handlers answer, the
repairs nested in them stop on their own, since each is scheduled only for uids that no enclosing
repair is handling. -/
theorem requests_settle (w : World) (uid : Json) {n₁ n₂ : ℕ}
    (h₁ : 7 * (w.reachableUids (requestUids uid)).card + 3 ≤ n₁)
    (h₂ : 7 * (w.reachableUids (requestUids uid)).card + 3 ≤ n₂) :
    (refreshSource n₁).runOn w = (refreshSource n₂).runOn w ∧
      (getAddons n₁).runOn w = (getAddons n₂).runOn w ∧
      (getAddonRequest n₁ uid).runOn w = (getAddonRequest n₂ uid).runOn w ∧
      (install n₁ uid).runOn w = (install n₂ uid).runOn w ∧
      (uninstall n₁ uid).runOn w = (uninstall n₂ uid).runOn w := by
  set U := w.reachableUids (requestUids uid)
  have hU : NormalClosed w.service.serviceId U := normalClosed_reachableUids w _
  have hs := stableAt hU U.card
  -- at the start no uid is claimed, so the level is the number of uids
  have hk : unclaimed U [] ≤ U.card := Finset.card_filter_le _ _
  have hw : w.Confined U w.service.serviceId [] := confined_reachableUids w _
  have hu : ∀ u, normalizeUid w.service.serviceId uid = .ok u → u ∈ U :=
    fun u h => request_mem_reachableUids w h
  exact ⟨hs.refreshSource [] hk n₁ n₂ (by omega) (by omega) w hw,
    settled_getAddons hs hk n₁ n₂ (by omega) (by omega) w hw,
    settled_getAddonRequest hs hk uid n₁ n₂ h₁ h₂ w hw,
    settled_install hs hk hU hu n₁ n₂ h₁ h₂ w hw,
    settled_uninstall hs hk hU hu n₁ n₂ h₁ h₂ w hw⟩

/-- A closed service over an empty store. -/
def closedService : World :=
  { (default : World) with service := { (default : World).service with closed := true } }

end Service

end AddonCatalog
