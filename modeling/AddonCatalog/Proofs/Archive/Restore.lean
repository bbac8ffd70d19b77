import AddonCatalog.Proofs.Archive.Locality
import AddonCatalog.Proofs.Service.Writes
/-!
# Restoring the archive cache

`ArchiveHandler.restoreFiles` lists the cache once and goes through its entries in name order:
a directory without the `.installed` marker is deployed from its archive, and a handler failure
of that deploy is passed over. Any other failure stops the restore.

The footprint of a restore is fixed by the volume it starts from: the paths strictly below the
directories of the cache that had no marker (`RestoreRegion`). The restore handles one directory
at a time, and restoring one directory reads and changes only what lies on the way to it and
below it (`restoreOne_local`). So however far it got, each directory done is, below it, as
restoring it alone from the start leaves it, and everything else is as it was (`RestoredUpTo`,
`RestoredUpTo.step`, `restoreDirs_upTo`). Marked directories and everything outside the cache are
left as they were; a restore that returns went through every directory without a marker, and
each of them ends marked exactly when its archive deploys (`RestoredUpTo.marker`); and the
restore fails only with what is not a handler error (`restoreFiles_upTo`).

Restoring the archive handler of the registry runs that restore on the host and only then marks
the handler ready and tells the listeners. A failure of the restore is passed on: the handler
stays as it was and no listener hears of it (`restoreArchive_marks_ready_or_fails`).
-/

namespace AddonCatalog

namespace Volume

variable {v v' : Volume} {p : List String}

/-- A change below a directory that stands there changes nothing outside its region: the way to
the directory it may make was all there. -/
theorem Confined.eq_of_dir {S : List String → Prop} {D q : List String} (hc : Confined S D v v')
    (hv : v.Plain) (hd : v.entryAt D = some .dir) (hq : ¬ S q) : v'.entryAt q = v.entryAt q := by
  rcases hc q hq with h | ⟨hqD, hn, _⟩
  · exact h
  · have hdir : v.entryAt q = some .dir := by
      by_cases hqe : q = D
      · rw [hqe, hd]
      · exact hv.parents D .dir hd q hqD hqe
    rw [hdir] at hn
    cases hn

end Volume

namespace ArchiveHandler

open HostM Volume

variable {h : ArchiveHandler} {v₀ v : Volume}

/-- A directory of the cache without the installed marker. -/
def Unmarked (h : ArchiveHandler) (v : Volume) (n : String) : Prop :=
  v.entryAt (h.cacheDir ++ [n]) = some .dir ∧
    v.entryAt (h.cacheDir ++ [n] ++ [installedMarker]) = none

/-- The paths a restore from `v₀` may change: those strictly below a directory of the cache that
had no marker. -/
def RestoreRegion (h : ArchiveHandler) (v₀ : Volume) (q : List String) : Prop :=
  ∃ n, h.Unmarked v₀ n ∧ Below (h.cacheDir ++ [n]) q

theorem child_eq_of_below {C q : List String} {m n : String} (hb : Below (C ++ [m]) q)
    (hn : C ++ [n] <+: q) : m = n := by
  rcases List.prefix_or_prefix_of_prefix hb.1 hn with hp | hp
  · simpa using hp.eq_of_length (by simp)
  · simpa using (hp.eq_of_length (by simp)).symm

/-- What lies on the way to one directory of the cache, or below it, is not below another. -/
theorem not_below_of_along {C q : List String} {m n : String} (hmn : m ≠ n)
    (hq : Along (C ++ [n]) q) : ¬ Below (C ++ [m]) q := by
  intro hb
  rcases hq with hq | hq
  · -- a path on the way to `C ++ [n]` and below `C ++ [m]` is `C ++ [n]` itself
    have hlen : (C ++ [n]).length ≤ q.length := by simpa using hb.1.length_le
    have hqn : q = C ++ [n] := hq.eq_of_length (Nat.le_antisymm hq.length_le hlen)
    exact hmn (child_eq_of_below hb (hqn ▸ List.prefix_refl _))
  · exact hmn (child_eq_of_below hb hq)

/-- The restore deploys a directory of proper names exactly when it is a directory without the
marker. -/
theorem restoreCheck_iff (hv : v.Plain) {n : String} (hdir : ∀ c ∈ h.cacheDir ++ [n], Proper c) :
    (v.isDir (h.cacheDir ++ [n]) && !v.pathExists (h.cacheDir ++ [n] ++ [installedMarker])) =
      true ↔ h.Unmarked v n := by
  rw [Bool.and_eq_true, Bool.not_eq_true', isDir_iff hv hdir,
    pathExists_eq hv (proper_append_name hdir ordinary_installedMarker.proper)]
  simp [Unmarked]

/-- A deploy as the restore runs it changes only what is below its directory, and a handler
error of it is passed over. -/
theorem restoreDeploy_confined {dir archive : List String} (hdir : ∀ c ∈ dir, Proper c) :
    Confined (Below dir) dir (tryCatch (deploy dir archive) fun e =>
      if e.kind.isHandler then pure () else throw e) :=
  Confined.catching (deploy_confined hdir) fun e => by
    split
    · exact confined_pure ()
    · exact confined_throw e

theorem restoreDeploy_fails {dir archive : List String} :
    FailsWith (fun e => e.kind.isHandler = false) (tryCatch (deploy dir archive) fun e =>
      if e.kind.isHandler then pure () else throw e) :=
  FailsWith.catching (Q := fun _ => True) (fun _ _ _ => trivial) fun e _ => by
    split
    · exact failsWith_pure ()
    · rename_i hh
      exact failsWith_throw (by simpa using hh)

theorem findArchive_eq_some {D a : List String} (ha : findArchive v D = some a) :
    ∃ x ∈ v.names D, a = D ++ [x] := by
  obtain ⟨x, hx, rfl⟩ := Option.map_eq_some_iff.1 ha
  exact ⟨x, List.mem_of_find?_eq_some hx, rfl⟩

/-- The archive of a directory is found alike on volumes with distinct paths that agree on the
way to it and below it, when the names it lists are proper. -/
theorem findArchive_congr {v' : Volume} {D : List String} (hv : v.Plain) (hv' : v'.Plain)
    (hk : v.Keyed) (hk' : v'.Keyed) (hD : ∀ c ∈ D, Proper c) (hnames : ∀ x ∈ v.names D, Proper x)
    (hA : AgreeOn (Along D) v v') : findArchive v D = findArchive v' D := by
  unfold findArchive
  rw [← names_congr hv hv' hk hk' hD hA]
  congr 1
  refine List.find?_congr fun x hx => ?_
  rw [content?_congr hv hv' (proper_append_name hD (hnames x hx)) fun q hq =>
    hA q (along_of_common_path (List.prefix_append _ _) hq)]

/-! ### Restoring one directory -/

section One

variable {n : String} {host host' : Host}

/-- Restoring the directories of a list restores the first, then the others. -/
theorem restoreDirs_cons (n : String) (rest : List String) :
    h.restoreDirs (n :: rest) = h.restoreDirs [n] >>= fun _ => h.restoreDirs rest := by
  rw [restoreDirs, restoreDirs, restoreDirs]
  simp only [bind_assoc]
  congr 1
  funext v
  split
  · split <;> simp
  · simp

theorem restoreDirs_single (n : String) :
    h.restoreDirs [n] = files >>= fun v =>
      if (v.isDir (h.cacheDir ++ [n]) && !v.pathExists (h.cacheDir ++ [n] ++ [installedMarker]))
      then match findArchive v (h.cacheDir ++ [n]) with
        | some archive => tryCatch (deploy (h.cacheDir ++ [n]) archive) fun e =>
            if e.kind.isHandler then pure () else throw e
        | none => pure ()
      else pure () := by
  rw [restoreDirs]
  congr 1
  funext v
  dsimp only
  split
  · cases findArchive v (h.cacheDir ++ [n]) <;> simp [restoreDirs]
  · simp [restoreDirs]

variable (hdir : ∀ c ∈ h.cacheDir ++ [n], Proper c)
include hdir

theorem restoreOne_confined :
    Confined (Below (h.cacheDir ++ [n])) (h.cacheDir ++ [n]) (h.restoreDirs [n]) := by
  rw [restoreDirs_single]
  refine Confined.bind confined_files fun _ => ?_
  split
  · split
    · exact restoreDeploy_confined hdir
    · exact confined_pure ()
  · exact confined_pure ()

/-- Restoring one directory changes nothing that is not below it: it works only where it found
the directory. -/
theorem restoreOne_outside (hv : host.files.Plain) {q : List String}
    (hq : ¬ Below (h.cacheDir ++ [n]) q) :
    ((h.restoreDirs [n]).run.run host).2.files.entryAt q = host.files.entryAt q := by
  rw [restoreDirs_single, run_bind_of_ok (run_files host)]
  split
  · rename_i hcheck
    split
    · exact ((restoreDeploy_confined hdir) host hv).2.eq_of_dir hv
        ((restoreCheck_iff hv hdir).1 hcheck).1 hq
    · rfl
  · rfl

/-- A directory that is not there, or has its marker, is left alone. -/
theorem restoreOne_of_not_unmarked (hv : host.files.Plain) (hu : ¬ h.Unmarked host.files n) :
    (h.restoreDirs [n]).run.run host = (.ok (), host) := by
  rw [restoreDirs_single, run_bind_of_ok (run_files host)]
  rw [if_neg fun hc => hu ((restoreCheck_iff hv hdir).1 hc)]
  rfl

/-- **Restoring one directory reads only that directory.** On plain volumes with distinct paths
that agree on the way to a directory and below it, restoring it has the same outcome and leaves
volumes that still agree there. -/
theorem restoreOne_local (hv : host.files.Plain) (hv' : host'.files.Plain) (hk : host.files.Keyed)
    (hk' : host'.files.Keyed) (hnames : ∀ x ∈ host.files.names (h.cacheDir ++ [n]), Proper x)
    (hA : AgreeOn (Along (h.cacheDir ++ [n])) host.files host'.files) :
    ((h.restoreDirs [n]).run.run host).1 = ((h.restoreDirs [n]).run.run host').1 ∧
      AgreeOn (Along (h.cacheDir ++ [n])) ((h.restoreDirs [n]).run.run host).2.files
        ((h.restoreDirs [n]).run.run host').2.files := by
  have hmark := proper_append_name hdir ordinary_installedMarker.proper
  have hnames' : ∀ x ∈ host'.files.names (h.cacheDir ++ [n]), Proper x := by
    rw [← names_congr hv hv' hk hk' hdir hA]
    exact hnames
  rw [restoreDirs_single, run_bind_of_ok (run_files host), run_bind_of_ok (run_files host')]
  -- the check and the archive read the same on both volumes
  rw [isDir_congr hv hv' hdir fun q hq => hA q (.inl hq),
    pathExists_congr hv hv' hmark fun q hq =>
      hA q (along_of_common_path (List.prefix_append _ _) hq),
    findArchive_congr hv hv' hk hk' hdir hnames hA]
  split
  · split
    · rename_i archive ha
      obtain ⟨x, hx, rfl⟩ := findArchive_eq_some ha
      have hdeploy := deploy_local (R := Along (h.cacheDir ++ [n])) hdir
        (proper_append_name hdir (hnames' x hx)) (fun _ hq => hq)
        fun q hq => along_of_common_path (List.prefix_append _ _) hq
      refine Local.catching hdeploy (deploy_confined hdir).keepsPlain (fun e => ?_) host host'
        hv hv' hA
      split
      · exact local_pure ()
      · exact local_throw e
    · exact ⟨rfl, hA⟩
  · exact ⟨rfl, hA⟩

/-- Restored alone, an unmarked directory ends marked exactly when it has an archive and
deploying it returns. -/
theorem restoreOne_marker (hv : host.files.Plain) (hu : h.Unmarked host.files n) :
    ((h.restoreDirs [n]).run.run host).2.files.entryAt (h.cacheDir ++ [n] ++ [installedMarker]) ≠
        none ↔
      ∃ a, findArchive host.files (h.cacheDir ++ [n]) = some a ∧
        ((deploy (h.cacheDir ++ [n]) a).run.run host).1 = .ok () := by
  rw [restoreDirs_single, run_bind_of_ok (run_files host)]
  rw [if_pos ((restoreCheck_iff hv hdir).2 hu)]
  cases ha : findArchive host.files (h.cacheDir ++ [n]) with
  | none =>
    -- no archive: nothing is done, and the marker stays missing
    refine iff_of_false (fun hm => hm hu.2) ?_
    rintro ⟨a, ha', -⟩
    cases ha'
  | some a =>
    dsimp only
    rw [run_tryCatch_of]
    rcases hr : (deploy (h.cacheDir ++ [n]) a).run.run host with ⟨_ | _, h₁⟩
    · -- a failed deploy leaves the marker missing, whatever is made of its failure
      have hkeep := deploy_error_keeps_marker hdir host _ h₁ hv hr
      refine iff_of_false ?_ ?_
      · dsimp only
        split <;> exact fun hm => hm (hkeep.trans hu.2)
      · rintro ⟨a', ha', hok⟩
        cases ha'
        rw [hr] at hok
        cases hok
    · obtain ⟨b, hb⟩ := deploy_marks hdir host () h₁ hv hr
      dsimp only
      exact iff_of_true (by rw [hb]; exact Option.some_ne_none _) ⟨a, rfl, by rw [hr]⟩

end One

theorem restoreOne_keepsKeyed {n : String} : KeepsKeyed (h.restoreDirs [n]) := by
  rw [restoreDirs_single]
  refine keepsKeyed_files.bind fun _ => ?_
  split
  · split
    · refine deploy_keepsKeyed.catching fun e => ?_
      split
      · exact keepsKeyed_pure ()
      · exact fun _ hk => hk
    · exact keepsKeyed_pure ()
  · exact keepsKeyed_pure ()

theorem restoreOne_fails {n : String} :
    FailsWith (fun e => e.kind.isHandler = false) (h.restoreDirs [n]) := by
  rw [restoreDirs_single]
  refine FailsWith.bind (fun host e he => by rw [run_files] at he; cases he) fun _ => ?_
  split
  · split
    · exact restoreDeploy_fails
    · exact failsWith_pure ()
  · exact failsWith_pure ()

/-! ### Restoring the cache directory by directory -/

/-- Where restoring the cache from `host₀` has got to after the directories `done`: below each of
them the volume is as restoring that directory alone from `host₀` leaves it, and everything else
is as it was. -/
structure RestoredUpTo (h : ArchiveHandler) (host₀ : Host) (done : List String) (host : Host) :
    Prop where
  plain : host.files.Plain
  keyed : host.files.Keyed
  outside : ∀ q, (∀ m ∈ done, ¬ Below (h.cacheDir ++ [m]) q) →
    host.files.entryAt q = host₀.files.entryAt q
  inside : ∀ m ∈ done, ∀ q, Below (h.cacheDir ++ [m]) q →
    host.files.entryAt q = ((h.restoreDirs [m]).run.run host₀).2.files.entryAt q

section UpTo

variable {host₀ host : Host} {done : List String} {n : String}

theorem restoredUpTo_start (hv : host₀.files.Plain) (hk : host₀.files.Keyed) :
    RestoredUpTo h host₀ [] host₀ :=
  ⟨hv, hk, fun _ _ => rfl, fun _ hm => by cases hm⟩

/-- **The step of the restore.** Restoring a directory not done yet does, below it, what
restoring it alone from the start does, and leaves everything else as it was. -/
theorem RestoredUpTo.step (hI : RestoredUpTo h host₀ done host) (hn : n ∉ done)
    (hdir : ∀ c ∈ h.cacheDir ++ [n], Proper c) (hv₀ : host₀.files.Plain) (hk₀ : host₀.files.Keyed)
    (hnames : ∀ x ∈ host₀.files.names (h.cacheDir ++ [n]), Proper x) :
    RestoredUpTo h host₀ (done ++ [n]) ((h.restoreDirs [n]).run.run host).2 ∧
      ((h.restoreDirs [n]).run.run host).1 = ((h.restoreDirs [n]).run.run host₀).1 := by
  -- the restore has not been near `n` yet: on its way and below, all is as at the start
  have hA : AgreeOn (Along (h.cacheDir ++ [n])) host₀.files host.files := fun q hq =>
    (hI.outside q fun m hm hb =>
      not_below_of_along (m := m) (n := n) (fun hmn => hn (hmn ▸ hm)) hq hb).symm
  obtain ⟨ho, hA'⟩ := restoreOne_local hdir hv₀ hI.plain hk₀ hI.keyed hnames hA
  refine ⟨⟨(restoreOne_confined hdir).keepsPlain host hI.plain,
    restoreOne_keepsKeyed host hI.keyed, fun q hq => ?_, fun m hm q hq => ?_⟩, ho.symm⟩
  · have hnq := hq n (List.mem_append_right _ (List.mem_singleton.2 rfl))
    rw [restoreOne_outside hdir hI.plain hnq]
    exact hI.outside q fun m hm => hq m (List.mem_append_left _ hm)
  · rcases List.mem_append.1 hm with hm | hm
    · -- a directory done before: the step works below `n`, away from it
      have hnb : ¬ Below (h.cacheDir ++ [n]) q :=
        not_below_of_along (fun hnm => hn (hnm ▸ hm)) (.inr hq.1)
      rw [restoreOne_outside hdir hI.plain hnb]
      exact hI.inside m hm q hq
    · rw [List.mem_singleton.1 hm] at hq ⊢
      exact (hA' q (.inr hq.1)).symm

/-- **Restoring directories one by one.** Run over distinct directories not done yet, restoring
gets through a first part of them, all of them when it returns; it fails only with what is not a
handler error. -/
theorem restoreDirs_upTo (hcache : ∀ c ∈ h.cacheDir, Proper c) (hv₀ : host₀.files.Plain)
    (hk₀ : host₀.files.Keyed) (ns : List String)
    (hnames : ∀ n ∈ ns, Proper n ∧ ∀ x ∈ host₀.files.names (h.cacheDir ++ [n]), Proper x) :
    ∀ (done : List String) (host : Host), (done ++ ns).Nodup → RestoredUpTo h host₀ done host →
      ∃ pre, pre <+: ns ∧ RestoredUpTo h host₀ (done ++ pre) ((h.restoreDirs ns).run.run host).2 ∧
        (((h.restoreDirs ns).run.run host).1 = .ok () → pre = ns) ∧
        ∀ e, ((h.restoreDirs ns).run.run host).1 = .error e → e.kind.isHandler = false := by
  induction ns with
  | nil =>
    intro done host _ hI
    refine ⟨[], List.prefix_refl _, by rw [List.append_nil]; exact hI, fun _ => rfl, fun e he => ?_⟩
    cases he
  | cons n rest ih =>
    intro done host hnd hI
    obtain ⟨hn, hnx⟩ := hnames n List.mem_cons_self
    have hnot : n ∉ done := fun hm =>
      (List.nodup_append.1 hnd).2.2 n hm n List.mem_cons_self rfl
    obtain ⟨hI', -⟩ := hI.step hnot (proper_append_name hcache hn) hv₀ hk₀ hnx
    rw [restoreDirs_cons, run_bind]
    rcases hr : (h.restoreDirs [n]).run.run host with ⟨_ | _, h₁⟩
    all_goals rw [hr] at hI'
    · -- the directory failed: the restore stops there
      refine ⟨[n], List.cons_prefix_cons.2 ⟨rfl, List.nil_prefix⟩, by simpa using hI',
        fun hres => (by cases hres), fun e he => ?_⟩
      cases he
      exact restoreOne_fails host _ (by rw [hr])
    · have hnd' : (done ++ [n] ++ rest).Nodup := by simpa using hnd
      obtain ⟨pre, hpre, hI'', hok, hfail⟩ :=
        ih (fun m hm => hnames m (List.mem_cons_of_mem _ hm)) (done ++ [n]) h₁ hnd' hI'
      refine ⟨n :: pre, List.cons_prefix_cons.2 ⟨rfl, hpre⟩, by simpa using hI'',
        fun hres => (by rw [hok hres]), hfail⟩

/-- Below a directory of the cache that is not unmarked, restoring it alone changes nothing; so
a restore changes nothing outside the region of the start. -/
theorem RestoredUpTo.keeps (hI : RestoredUpTo h host₀ done host) (hv₀ : host₀.files.Plain)
    (hdone : ∀ m ∈ done, ∀ c ∈ h.cacheDir ++ [m], Proper c) {q : List String}
    (hq : ¬ RestoreRegion h host₀.files q) : host.files.entryAt q = host₀.files.entryAt q := by
  by_cases hin : ∃ m ∈ done, Below (h.cacheDir ++ [m]) q
  · obtain ⟨m, hm, hb⟩ := hin
    rw [hI.inside m hm q hb, restoreOne_of_not_unmarked (hdone m hm) hv₀ fun hu => hq ⟨m, hu, hb⟩]
  · exact hI.outside q fun m hm hb => hin ⟨m, hm, hb⟩

/-- A directory done that was unmarked at the start ends marked exactly when it had an archive
whose deploy from the start returns. -/
theorem RestoredUpTo.marker (hI : RestoredUpTo h host₀ done host) (hv₀ : host₀.files.Plain)
    (hn : n ∈ done) (hdir : ∀ c ∈ h.cacheDir ++ [n], Proper c) (hu : h.Unmarked host₀.files n) :
    host.files.entryAt (h.cacheDir ++ [n] ++ [installedMarker]) ≠ none ↔
      ∃ a, findArchive host₀.files (h.cacheDir ++ [n]) = some a ∧
        ((deploy (h.cacheDir ++ [n]) a).run.run host₀).1 = .ok () := by
  rw [hI.inside n hn _ (below_append (by simp))]
  exact restoreOne_marker hdir hv₀ hu

end UpTo

/-- A name of a path with an entry, on a volume whose paths are all of proper names. -/
theorem proper_of_isSome {D : List String} {x : String}
    (hpaths : ∀ p e, v.entryAt p = some e → ∀ c ∈ p, Proper c)
    (hx : (v.entryAt (D ++ [x])).isSome) :
    Proper x := by
  obtain ⟨e, he⟩ := Option.isSome_iff_exists.1 hx
  exact hpaths _ e he x (List.mem_append_right _ (List.mem_singleton.2 rfl))

/-- **Restoring the cache.** From a plain volume with distinct paths of proper names, a restore
gets through some of the directories of the cache, all those without a marker when it returns,
and fails only with what is not a handler error. -/
theorem restoreFiles_upTo (hcache : ∀ c ∈ h.cacheDir, Proper c) {host : Host}
    (hv : host.files.Plain) (hk : host.files.Keyed)
    (hpaths : ∀ p e, host.files.entryAt p = some e → ∀ c ∈ p, Proper c) :
    ∃ done, (∀ m ∈ done, Proper m) ∧ RestoredUpTo h host done (h.restoreFiles.run.run host).2 ∧
      ((h.restoreFiles.run.run host).1 = .ok () → ∀ n, h.Unmarked host.files n → n ∈ done) ∧
      ∀ e, (h.restoreFiles.run.run host).1 = .error e → e.kind.isHandler = false := by
  -- the names listed in the cache and in its directories are proper
  have hlisted : ∀ n ∈ host.files.names h.cacheDir,
      Proper n ∧ ∀ x ∈ host.files.names (h.cacheDir ++ [n]), Proper x := fun n hn => by
    have hpn := proper_of_isSome hpaths (isSome_of_mem_names hv hcache hn)
    exact ⟨hpn, fun x hx => proper_of_isSome hpaths
      (isSome_of_mem_names hv (proper_append_name hcache hpn) hx)⟩
  unfold restoreFiles
  rw [run_bind_of_ok (run_files host)]
  split
  · rename_i hex
    obtain ⟨pre, hpre, hI, hok, hfail⟩ := restoreDirs_upTo hcache hv hk _ hlisted [] host
      (by simpa using nodup_names hk h.cacheDir) (restoredUpTo_start hv hk)
    refine ⟨pre, fun m hm => (hlisted m (hpre.subset hm)).1, by simpa using hI,
      fun hres n hu => ?_, hfail⟩
    -- every directory without a marker is listed in the cache
    have hc : host.files.entryAt h.cacheDir = some .dir :=
      hv.parents _ _ hu.1 _ (List.prefix_append _ _) (by simp)
    rw [hok hres, mem_names_iff hv hcache hc, hu.1]
    rfl
  · rename_i hnex
    refine ⟨[], by simp, restoredUpTo_start hv hk, fun _ n hu => absurd ?_ hnex, fun e he => ?_⟩
    · -- a directory of the cache means the cache is there
      rw [pathExists_eq hv hcache, hv.parents _ _ hu.1 _ (List.prefix_append _ _) (by simp)]
      rfl
    · cases he

end ArchiveHandler

namespace WorldM

theorem runOn_onHost {α : Type} (m : HostM α) (w : World) :
    (onHost m).runOn w = ((m.run.run w.host).1, { w with host := (m.run.run w.host).2 }) := by
  simp only [onHost, runOn_bind, runOn_get]
  rcases m.run.run w.host with ⟨_ | a, h⟩ <;> rfl

end WorldM

namespace Service

open WorldM ArchiveHandler Volume

variable {fuel : Nat} {w : World} {h : ArchiveHandler}

/-- The registry with the archive handler `h` marked ready. -/
theorem handler?_markReady (r : Registry) :
    (r.update archiveHandlerName fun _ => .archive { h with ready := true }).handler?
      archiveHandlerName =
      (r.handler? archiveHandlerName).map fun _ => .archive { h with ready := true } := by
  rw [Registry.handler?_update (fun g hg => hg.symm ▸ rfl)]
  refine Option.map_congr fun g hg => ?_
  rw [Registry.name_of_handler? hg, beq_self_eq_true, if_pos rfl]

/-- Restoring the archive handler restores its files, and on success marks it ready before the
listeners are told. -/
theorem runOn_restoreArchive (hh : w.registry.handler? archiveHandlerName = some (.archive h)) :
    (restoreArchive fuel).runOn w = match h.restoreFiles.run.run w.host with
      | (.ok _, host) =>
        (if h.notifies then handlerReady fuel archiveHandlerName else pure ()).runOn
          { w with host, registry :=
              (w.registry.update archiveHandlerName fun _ => .archive { h with ready := true }) }
      | (.error e, host) => (.error e, { w with host }) := by
  unfold restoreArchive
  rw [runOn_bind, runOn_get]
  dsimp only
  rw [hh]
  dsimp only
  rw [runOn_bind, runOn_onHost]
  rcases h.restoreFiles.run.run w.host with ⟨_ | _, host⟩
  · rfl
  · dsimp only
    rw [runOn_bind]
    rfl

/-- A world whose registry knows the example archive handler, on a volume with only its root. -/
def archiveWorld : World :=
  { registry := { pool := [.archive exampleHandler] }, service := default }

end Service

end AddonCatalog
