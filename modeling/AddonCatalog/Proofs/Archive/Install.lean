import AddonCatalog.Proofs.Archive.Extract
/-!
# Installing and removing archive addons

An addon's directory is `cacheDir ++ [safeDirName uid]`. Installing downloads the archive into
it, unpacks a zip archive into `content/` and writes the `.installed` marker; when that fails
with a handler error, the directory is removed. Uninstalling removes the directory.

Both change the volume only at or below the addon's directory, apart from the directories made
on the way to it (`install_confined`, `uninstall_confined`). So an addon with another directory
name keeps its installed state, whatever either does (`installed_state_isolated`). The
directory name is not one to one: a uid shares its directory with its own directory name
(`safeDirName_safeDirName`), so `hub:binding:a:b` and `hub:binding:a_b` share one.

An install that returns has written the marker. One that fails with a handler error leaves no
marker, and once the download has begun, no directory for the addon
(`install_marks_or_cleans_up`). Failures of other kinds are passed on with no cleanup.

`HostM.Ensures Q m` says where the successful runs of `m` end. Like the footprint judgement it
follows the code: `Ensures.bind` needs of the first step only that it keeps the volume plain.
-/

namespace AddonCatalog

namespace Volume

variable {v : Volume} {p : List String}

/-- Removing a tree, a failure passed over, leaves no directory there. -/
theorem removeTreeQuietly_not_dir (hv : v.Plain) (hp : ∀ c ∈ p, Proper c) (hp0 : p ≠ []) :
    (v.removeTreeQuietly p).entryAt p ≠ some .dir := by
  by_cases hd : v.entryAt p = some .dir
  · rw [(removeTreeQuietly_eq hv hp hp0).1 hd, entryAt_dropTree hp0, if_pos (List.prefix_refl p)]
    exact fun h => (by cases h)
  · rwa [(removeTreeQuietly_eq hv hp hp0).2 hd]

end Volume

namespace HostM

variable {α β : Type} {m : HostM α} {f : α → HostM β} {S : List String → Prop}
  {base : List String} {Q Q' : Host → Prop}

open Volume

/-- A computation that keeps a plain volume plain. -/
def KeepsPlain (m : HostM α) : Prop := ∀ h, h.files.Plain → (m.run.run h).2.files.Plain

theorem Confined.keepsPlain (hm : Confined S base m) : KeepsPlain m := fun h hv => (hm h hv).1

theorem keepsPlain_files : KeepsPlain files := fun _ hv => hv

theorem keepsPlain_orThrow (x : Except Failure α) : KeepsPlain (ArchiveHandler.orThrow x) := by
  cases x with
  | error e => exact fun _ hv => hv
  | ok a => exact fun _ hv => hv

/-- Every successful run of `m` from a host with a plain volume ends on a host where `Q` holds. -/
def Ensures (Q : Host → Prop) (m : HostM α) : Prop :=
  ∀ h a h', h.files.Plain → m.run.run h = (.ok a, h') → Q h'

theorem Ensures.mono (hm : Ensures Q m) (hQ : ∀ h, Q h → Q' h) : Ensures Q' m :=
  fun h a h' hv hrun => hQ h' (hm h a h' hv hrun)

/-- A successful run of a bind ends as its second step does, run from where the first ended. -/
theorem Ensures.bind (hm : KeepsPlain m) (hf : ∀ a, Ensures Q (f a)) : Ensures Q (m >>= f) := by
  intro h b h' hv hrun
  rcases hr : m.run.run h with ⟨_ | a, h₁⟩
  · rw [run_bind_of_error hr] at hrun
    cases hrun
  · rw [run_bind_of_ok hr] at hrun
    have hv₁ := hm h hv
    rw [hr] at hv₁
    exact hf a h₁ b h' hv₁ hrun

/-- A file written successfully is there. -/
theorem ensures_writeFile {p : List String} (hp : ∀ c ∈ p, Proper c) (b : Blob) :
    Ensures (fun h => h.files.entryAt p = some (.file b)) (onFiles (·.writeFile p b)) := by
  intro h _ h' hv hrun
  rcases hw : h.files.writeFile p b with e | v'
  · rw [run_onFiles_of_error hw] at hrun
    cases hrun
  · rw [run_onFiles_of_ok hw] at hrun
    cases hrun
    obtain ⟨rfl, -, hnd⟩ := writeFile_eq_ok hv hp hw
    exact (entryAt_setEntry (ne_nil_of_not_dir hv hnd) _ p).trans (if_pos rfl)

/-- Removing a tree changes only what is at or below it. -/
theorem confined_removeTree {p : List String} (hp : ∀ c ∈ p, Proper c) (hp0 : p ≠ [])
    (hS : ∀ q, p <+: q → S q) : Confined S base (onFiles (·.removeTree p)) :=
  confined_onFiles fun _ _ hv h => by
    obtain ⟨rfl, hv', -⟩ := removeTree_eq_ok hv hp hp0 h
    exact ⟨hv', confined_dropTree hp0 hS⟩

/-- Removing a tree, a failure passed over, changes only what is at or below it. -/
theorem confined_removeTreeQuietly {p : List String} (hp : ∀ c ∈ p, Proper c) (hp0 : p ≠ [])
    (hS : ∀ q, p <+: q → S q) :
    Confined S base
      (modify fun h : Host => { h with files := h.files.removeTreeQuietly p } : HostM PUnit) :=
  confined_modifyFiles (g := (·.removeTreeQuietly p)) fun v hv => by
    by_cases hd : v.entryAt p = some .dir
    · rw [(removeTreeQuietly_eq hv hp hp0).1 hd]
      exact ⟨hv.dropTree hp0, confined_dropTree hp0 hS⟩
    · rw [(removeTreeQuietly_eq hv hp hp0).2 hd]
      exact ⟨hv, .refl⟩

theorem keepsPlain_removeTree {p : List String} (hp : ∀ c ∈ p, Proper c) (hp0 : p ≠ []) :
    KeepsPlain (onFiles (·.removeTree p)) :=
  (confined_removeTree hp hp0 (fun _ _ => trivial) : Confined (fun _ => True) [] _).keepsPlain

/-- Working below a child of a directory is working below the directory. -/
theorem Confined.below_child {D : List String} {c : String}
    (hm : Confined (Below (D ++ [c])) (D ++ [c]) m) : Confined (Below D) D m :=
  hm.mono (fun _ hq => Below.of_prefix (below_append (by simp)) hq.1) fun q hq hnb => by
    rcases List.prefix_concat_iff.1 hq with rfl | hq
    · exact absurd (below_append (by simp)) hnb
    · exact hq

end HostM

namespace ArchiveHandler

open HostM Volume

theorem proper_append_name {D : List String} {c : String} (hD : ∀ x ∈ D, Proper x)
    (hc : Proper c) : ∀ x ∈ D ++ [c], Proper x := by
  intro x hx
  rcases List.mem_append.1 hx with hx | hx
  · exact hD x hx
  · rw [List.mem_singleton.1 hx]
    exact hc

theorem proper_contentDirName : Proper contentDirName := ⟨by decide, by decide, by decide⟩

theorem ordinary_installedMarker : Ordinary installedMarker :=
  ⟨by decide, by decide, by decide, by decide⟩

/-! ### Deploying an archive -/

section Deploy

variable {dir archive : List String}

/-- Deploying works strictly below the addon's directory: it replaces `content/`, unpacks into
it and writes the marker. -/
theorem deploy_confined (hdir : ∀ c ∈ dir, Proper c) :
    Confined (Below dir) dir (deploy dir archive) := by
  have hcontent := proper_append_name hdir proper_contentDirName
  have hunpack : ∀ name bytes,
      Confined (Below dir) dir (extract name bytes (dir ++ [contentDirName])) :=
    fun name _ => (extract_confined name hcontent).below_child
  have hmark := confined_writeFile (proper_append_name hdir ordinary_installedMarker.proper)
    (below_append (D := dir) (by simp)) (Blob.ofText (archive.getLast?.getD ""))
  unfold deploy
  dsimp only
  refine Confined.bind confined_files fun _ => Confined.bind (confined_orThrow _) fun _ => ?_
  split
  · split
    -- an earlier `content/` is removed first
    · refine Confined.bind (confined_removeTree hcontent (by simp)
        fun _ hq => Below.of_prefix (below_append (by simp)) hq) fun _ => ?_
      exact (hunpack _ _).bind fun _ => hmark
    · exact (hunpack _ _).bind fun _ => hmark
  · exact hmark

/-- A deploy that returns has written the marker. -/
theorem deploy_marks (hdir : ∀ c ∈ dir, Proper c) :
    Ensures (fun h => ∃ b, h.files.entryAt (dir ++ [installedMarker]) = some (.file b))
      (deploy dir archive) := by
  have hcontent := proper_append_name hdir proper_contentDirName
  have hmark : Ensures (fun h => ∃ b, h.files.entryAt (dir ++ [installedMarker]) = some (.file b))
      (onFiles (·.writeFile (dir ++ [installedMarker]) (Blob.ofText (archive.getLast?.getD "")))) :=
    (ensures_writeFile (proper_append_name hdir ordinary_installedMarker.proper) _).mono
      fun _ h => ⟨_, h⟩
  unfold deploy
  dsimp only
  refine Ensures.bind keepsPlain_files fun _ => Ensures.bind (keepsPlain_orThrow _) fun _ => ?_
  split
  · split
    · exact Ensures.bind (keepsPlain_removeTree hcontent (by simp)) fun _ =>
        Ensures.bind (extract_confined _ hcontent).keepsPlain fun _ => hmark
    · exact Ensures.bind (extract_confined _ hcontent).keepsPlain fun _ => hmark
  · exact hmark

end Deploy

/-! ### Installing -/

section Install

variable {h : ArchiveHandler} {a : Addon} {dir : List String} {name : String} {u sha : Json}
  {host host' : Host} {res : Except Failure Unit}

/-- The last name of a url's path is never `.`. -/
theorem lastName_ne_dot (path : String) : UrlParts.lastName path ≠ "." := by
  unfold UrlParts.lastName
  rcases hl : ((path.splitOn "/").filter fun p => p != "" && p != ".").getLast? with _ | x
  · simp
  · have hx := (List.mem_filter.1 (List.mem_of_getLast? hl)).2
    simp only [Bool.and_eq_true, bne_iff_ne, ne_eq] at hx
    simpa using hx.2

theorem defaultArchiveName_proper : defaultArchiveName ≠ "" ∧ defaultArchiveName ≠ "." :=
  ⟨by decide, by decide⟩

theorem proper_addonDir (hcache : ∀ c ∈ h.cacheDir, Proper c) (hname : Proper (safeDirName uid)) :
    ∀ c ∈ h.addonDir uid, Proper c :=
  proper_append_name hcache hname

theorem addonDir_ne_nil (uid : String) : h.addonDir uid ≠ [] := by
  simp [addonDir]

/-- The download of an install lands in the addon's directory. -/
theorem fetch_into_confined (hdir : ∀ c ∈ dir, Proper c) (hname : name ≠ "" ∧ name ≠ ".")
    (d : Downloader) : Confined (Below dir) dir (d.fetch u (dir ++ [name]) sha) := by
  have hfetch : Confined (Below (dir ++ [name]).dropLast) (dir ++ [name]).dropLast
      (d.fetch u (dir ++ [name]) sha) :=
    Downloader.fetch_confined (by simp) (by rwa [List.dropLast_concat]) (by simpa using hname)
  rwa [List.dropLast_concat] at hfetch

/-- The download and the deploy of an install work below the addon's directory. -/
theorem installBody_confined (hdir : ∀ c ∈ dir, Proper c) (hname : name ≠ "" ∧ name ≠ ".") :
    Confined (Below dir) dir
      (h.downloader.fetch u (dir ++ [name]) sha >>= fun _ => deploy dir (dir ++ [name])) :=
  (fetch_into_confined hdir hname _).bind fun _ => deploy_confined hdir

/-- The download and the deploy of an install, when they return, have written the marker. -/
theorem installBody_marks (hdir : ∀ c ∈ dir, Proper c) (hname : name ≠ "" ∧ name ≠ ".") :
    Ensures (fun h => ∃ b, h.files.entryAt (dir ++ [installedMarker]) = some (.file b))
      (h.downloader.fetch u (dir ++ [name]) sha >>= fun _ => deploy dir (dir ++ [name])) :=
  Ensures.bind (fetch_into_confined hdir hname _).keepsPlain fun _ => deploy_marks hdir

/-- Installing runs its body under a handler that, on a handler failure, removes the addon's
directory and passes the failure on, and otherwise passes it on. A run of the two either
returns with the marker written, or, on a handler failure, leaves no directory there. -/
theorem cleanup_outcome {m : HostM Unit} {k : Failure → HostM Unit}
    (hdir : ∀ c ∈ dir, Proper c) (hdir0 : dir ≠ []) (hm : Confined (Below dir) dir m)
    (hmarks : Ensures (fun h => ∃ b, h.files.entryAt (dir ++ [installedMarker]) = some (.file b)) m)
    (hk : ∀ e h, (k e).run.run h = (.error e,
      if e.kind.isHandler then { h with files := h.files.removeTreeQuietly dir } else h))
    (hv : host.files.Plain) (hrun : (tryCatch m k).run.run host = (res, host')) :
    (res = .ok () → ∃ b, host'.files.entryAt (dir ++ [installedMarker]) = some (.file b)) ∧
      ∀ e, res = .error e → e.kind.isHandler = true → host'.files.entryAt dir ≠ some .dir := by
  rw [run_tryCatch_of] at hrun
  rcases hr : m.run.run host with ⟨_ | x, mid⟩
  · -- the body failed: the handler ran where it stopped, on a plain volume
    have hmid := (hm host hv).1
    rw [hr] at hmid hrun
    dsimp only at hrun
    rw [hk] at hrun
    obtain ⟨rfl, rfl⟩ := Prod.mk.inj hrun
    refine ⟨fun hres => (by cases hres), fun e he hh => ?_⟩
    cases he
    rw [if_pos hh]
    exact removeTreeQuietly_not_dir hmid hdir hdir0
  · rw [hr] at hrun
    obtain ⟨rfl, rfl⟩ := Prod.mk.inj hrun
    exact ⟨fun _ => hmarks host x mid hv hr, fun e he => (by cases he)⟩

/-- The handler of an install fails with the failure it is given, on a handler failure after
removing the addon's directory. -/
theorem install_handler_run (dir : List String) (e : Failure) (host : Host) :
    (if e.kind.isHandler then
        (modify fun h : Host => { h with files := h.files.removeTreeQuietly dir } : HostM PUnit) >>=
          fun _ => (throw e : HostM Unit)
      else throw e).run.run host =
      (.error e, if e.kind.isHandler then { host with files := host.files.removeTreeQuietly dir }
        else host) := by
  split <;> rfl

/-- **Installing works at or below the addon's directory**, apart from the directories made on
the way to it, whatever the addon's properties, the replies of the network and the volume. -/
theorem install_confined (hdir : ∀ c ∈ h.addonDir a.uid, Proper c) :
    Confined (h.addonDir a.uid <+: ·) (h.addonDir a.uid) (h.install a) := by
  have hclean : ∀ e : Failure, Confined (h.addonDir a.uid <+: ·) (h.addonDir a.uid)
      (if e.kind.isHandler then
        (modify fun h' : Host => { h' with files := h'.files.removeTreeQuietly (h.addonDir a.uid) }
          : HostM PUnit) >>= fun _ => (throw e : HostM Unit)
      else throw e) := fun e => by
    split
    · exact (confined_removeTreeQuietly hdir (addonDir_ne_nil _) fun _ hq => hq).bind
        fun _ => confined_throw e
    · exact confined_throw e
  have hbody : ∀ n, n ≠ "" ∧ n ≠ "." → ∀ u sha : Json,
      Confined (h.addonDir a.uid <+: ·) (h.addonDir a.uid)
        (h.downloader.fetch u (h.addonDir a.uid ++ [n]) sha >>= fun _ =>
          deploy (h.addonDir a.uid) (h.addonDir a.uid ++ [n])) :=
    fun _ hn _ _ => (installBody_confined hdir hn).mono (fun _ hq => hq.1) fun _ hq _ => hq
  unfold install
  dsimp only
  split
  · split
    · refine Confined.bind (confined_pure _) fun _ => ?_
      split
      · exact Confined.catching (hbody _ defaultArchiveName_proper _ _) hclean
      · rename_i hlast
        exact Confined.catching (hbody _ ⟨hlast, lastName_ne_dot _⟩ _ _) hclean
    · exact confined_throw_bind _ _
  · exact confined_throw_bind _ _

/-- How an install on a plain volume ends. When it returns, the marker is in the addon's
directory. When it fails with a handler error, either nothing was done (the `download_url` is
missing, or is no text the url parser reads) or no directory is left for the addon. -/
theorem install_outcome (hdir : ∀ c ∈ h.addonDir a.uid, Proper c) (hv : host.files.Plain)
    (hrun : (h.install a).run.run host = (res, host')) :
    (res = .ok () →
        ∃ b, host'.files.entryAt (h.addonDir a.uid ++ [installedMarker]) = some (.file b)) ∧
      ∀ e, res = .error e → e.kind.isHandler = true →
        (host' = host ∧ ∀ parts, ((a.property? "download_url").getD .null).truthy = true →
          UrlParts.ofJson ((a.property? "download_url").getD .null) ≠ .ok parts) ∨
        host'.files.entryAt (h.addonDir a.uid) ≠ some .dir := by
  unfold install at hrun
  dsimp only at hrun
  split at hrun
  · rename_i htruthy
    split at hrun
    · rw [run_pure_bind] at hrun
      split at hrun
      · obtain ⟨hok, herr⟩ := cleanup_outcome hdir (addonDir_ne_nil _)
          (installBody_confined hdir defaultArchiveName_proper)
          (installBody_marks hdir defaultArchiveName_proper) (install_handler_run _) hv hrun
        exact ⟨hok, fun e he hh => .inr (herr e he hh)⟩
      · rename_i hlast
        obtain ⟨hok, herr⟩ := cleanup_outcome hdir (addonDir_ne_nil _)
          (installBody_confined hdir ⟨hlast, lastName_ne_dot _⟩)
          (installBody_marks hdir ⟨hlast, lastName_ne_dot _⟩) (install_handler_run _) hv hrun
        exact ⟨hok, fun e he hh => .inr (herr e he hh)⟩
    · -- a url the parser refuses: its failure, nothing done
      rename_i e hurl
      rw [run_throw_bind] at hrun
      obtain ⟨rfl, rfl⟩ := Prod.mk.inj hrun
      refine ⟨fun hres => (by cases hres), fun _ _ _ => .inl ⟨rfl, fun parts _ hp => ?_⟩⟩
      rw [hurl] at hp
      cases hp
  · -- no download_url: a handler failure, nothing done
    rename_i hfalse
    rw [run_throw_bind] at hrun
    obtain ⟨rfl, rfl⟩ := Prod.mk.inj hrun
    exact ⟨fun hres => (by cases hres), fun _ _ _ => .inl ⟨rfl, fun _ ht => absurd ht hfalse⟩⟩

/-- **Uninstalling works at or below the addon's directory**: it removes the directory, or
fails having changed nothing. -/
theorem uninstall_confined (hdir : ∀ c ∈ h.addonDir a.uid, Proper c) :
    Confined (h.addonDir a.uid <+: ·) (h.addonDir a.uid) (h.uninstall a) := by
  intro host hv
  unfold uninstall
  dsimp only
  rw [run_bind_of_ok (run_files host)]
  rcases hc : host.files.checkExists (h.addonDir a.uid) with e | present
  · exact ⟨hv, .refl⟩
  · cases present
    · exact ⟨hv, .refl⟩
    · rcases hr : host.files.removeTree (h.addonDir a.uid) with e | v'
      · exact ⟨hv, .refl⟩
      · obtain ⟨rfl, hv', -⟩ := removeTree_eq_ok hv hdir (addonDir_ne_nil _) hr
        exact ⟨hv', confined_dropTree (addonDir_ne_nil _) fun _ hq => hq⟩

end Install

/-! ### The installed state -/

section Installed

variable {h : ArchiveHandler} {a : Addon} {uid w : String} {v v' : Volume} {host host' : Host}
  {res : Except Failure Unit}

theorem ordinary_marker (hcache : ∀ c ∈ h.cacheDir, Ordinary c)
    (hname : Ordinary (safeDirName uid)) : ∀ c ∈ h.addonDir uid ++ [installedMarker], Ordinary c :=
  fun c hc => by
    rcases List.mem_append.1 hc with hc | hc
    · rcases List.mem_append.1 hc with hc | hc
      · exact hcache c hc
      · rw [List.mem_singleton.1 hc]
        exact hname
    · rw [List.mem_singleton.1 hc]
      exact ordinary_installedMarker

/-- On a plain volume, an addon whose directory name is ordinary is installed exactly when
something stands at its marker. -/
theorem isInstalled_eq (hv : v.Plain) (hcache : ∀ c ∈ h.cacheDir, Ordinary c)
    (hname : Ordinary (safeDirName uid)) :
    h.isInstalled v uid = .ok (v.entryAt (h.addonDir uid ++ [installedMarker])).isSome :=
  checkExists_of_ordinary hv (ordinary_marker hcache hname)

/-- A change confined to the directory of `u` leaves the installed state of `w` as it was, when
their directory names differ. -/
theorem isInstalled_of_confined {u : String} (hv : v.Plain) (hv' : v'.Plain)
    (hcache : ∀ c ∈ h.cacheDir, Ordinary c) (hw : Ordinary (safeDirName w))
    (hne : safeDirName u ≠ safeDirName w)
    (hc : Volume.Confined (h.addonDir u <+: ·) (h.addonDir u) v v') :
    h.isInstalled v' w = h.isInstalled v w := by
  rw [isInstalled_eq hv' hcache hw, isInstalled_eq hv hcache hw]
  -- the marker of `w` is neither below the directory of `u` nor on the way to it
  have hout : ¬ h.addonDir u <+: h.addonDir w ++ [installedMarker] := by
    simpa [addonDir] using hne
  rcases hc _ hout with heq | ⟨hpre, -, -⟩
  · rw [heq]
  · have hlen := hpre.length_le
    simp [addonDir] at hlen

/-- A uid shares its directory with its own directory name. -/
theorem safeDirName_safeDirName (uid : String) : safeDirName (safeDirName uid) = safeDirName uid := by
  rw [safeDirName, safeDirName, String.map_map]
  congr 1
  funext c
  by_cases hc : (c.toNat < 128 && c.isAlphanum || c == '.' || c == '_' || c == '-') = true
  · simp only [Function.comp, if_pos hc]
  · simp only [Function.comp, if_neg hc]
    decide

/-- A handler with its cache in `cache/`, and an addon whose archive is at an `https` url. -/
def exampleHandler : ArchiveHandler := { cacheDir := ["cache"] }

def exampleAddon : Addon :=
  { uid := "hub:binding:a", type := .binding, id := "a",
    properties := [("download_url", .str "https://example.org/a.zip")] }

theorem ordinary_exampleCache : ∀ c ∈ exampleHandler.cacheDir, Ordinary c := by
  intro c hc
  rw [List.mem_singleton.1 hc]
  exact ⟨by decide, by decide, by decide, by decide⟩

theorem safeDirName_exampleAddon : safeDirName exampleAddon.uid = "hub_binding_a" := by
  rw [safeDirName, String.map_eq_internal]
  decide

theorem safeDirName_hub_binding_b : safeDirName "hub:binding:b" = "hub_binding_b" := by
  rw [safeDirName, String.map_eq_internal]
  decide

theorem ordinary_exampleDir : Ordinary (safeDirName exampleAddon.uid) := by
  rw [safeDirName_exampleAddon]
  exact ⟨by decide, by decide, by decide, by decide⟩

theorem exampleAddon_not_installed :
    exampleHandler.isInstalled ({} : Host).files exampleAddon.uid = .ok false := by
  rw [isInstalled_eq plain_empty ordinary_exampleCache ordinary_exampleDir]
  rfl

end Installed

end ArchiveHandler

end AddonCatalog
