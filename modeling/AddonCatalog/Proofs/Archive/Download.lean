import AddonCatalog.Archive.Download
import AddonCatalog.Proofs.Files.Plain
/-!
# Downloading into a plain volume

A download streams the body of one response into the part file `.<name>.part` beside its
target and moves it over the target. On a plain volume (`Volume.Plain`) and a target of
ordinary names, for a url that splits, a response whose `Content-Length` reads as a number and
an expected digest that is absent or a text:

* the download returns exactly when the url is an `http(s)` url with a host, the status is
  below 400, the declared and the served sizes are within the limit, the digest agrees, and the
  volume lets the target be stored (`Storable`): no file stands on the way to its directory,
  the part file's name fits, and neither the part file nor the target is a directory;
* it then answers the digest of the body, and the target holds the body;
* every failure is a `DownloadError` and leaves the target and everything below it as they were;
* no part file remains, only a directory that stood there before; a refused url changes
  nothing at all.

The stages are proved one by one, each with a structure that says what it did: `Received` for
writing the body (`receive_spec`), `Streamed` for the directories, the request and the body
(`stream_spec`), `Delivered` for the digest and the move (`deliver_spec`) and `Discarded` for
removing the part file (`discard_spec`); the run of `fetch` is assembled from them
(`fetch_accepted`, `fetch_refused`). Until the part file is moved the volume is `Kept`: plain,
with the target as it was, and a part file that is a directory only if it was one.
-/

namespace AddonCatalog

namespace HostM

variable {α β : Type}

/-! ### Running computations on a host -/

theorem run_bind (x : HostM α) (f : α → HostM β) (h : Host) :
    (x >>= f).run.run h = match x.run.run h with
      | (.ok a, h') => (f a).run.run h'
      | (.error e, h') => (.error e, h') := by
  simp only [ExceptT.run_bind]
  rcases hx : (x.run).run h with ⟨_ | a, h'⟩ <;> simp [StateT.run_bind, hx] <;> rfl

theorem run_bind_of_ok {x : HostM α} {f : α → HostM β} {h h' : Host} {a : α}
    (hx : x.run.run h = (.ok a, h')) : (x >>= f).run.run h = (f a).run.run h' := by
  rw [run_bind, hx]

theorem run_bind_of_error {x : HostM α} {f : α → HostM β} {h h' : Host} {e : Failure}
    (hx : x.run.run h = (.error e, h')) : (x >>= f).run.run h = (.error e, h') := by
  rw [run_bind, hx]

@[simp] theorem run_pure (a : α) (h : Host) : (pure a : HostM α).run.run h = (.ok a, h) := rfl

@[simp] theorem run_throw (e : Failure) (h : Host) : (throw e : HostM α).run.run h = (.error e, h) :=
  rfl

@[simp] theorem run_pure_bind (a : α) (f : α → HostM β) (h : Host) :
    (pure a >>= f).run.run h = (f a).run.run h := rfl

@[simp] theorem run_throw_bind (e : Failure) (f : α → HostM β) (h : Host) :
    (throw e >>= f).run.run h = (.error e, h) := rfl

@[simp] theorem run_get (h : Host) : (get : HostM Host).run.run h = (.ok h, h) := rfl

theorem run_onFiles_of_ok {g : Volume → Except Failure Volume} {h : Host} {v : Volume}
    (hg : g h.files = .ok v) : (onFiles g).run.run h = (.ok (), { h with files := v }) := by
  rw [onFiles, run_bind_of_ok (run_get h)]
  simp only [hg]
  rfl

theorem run_onFiles_of_error {g : Volume → Except Failure Volume} {h : Host} {e : Failure}
    (hg : g h.files = .error e) : (onFiles g).run.run h = (.error e, h) := by
  rw [onFiles, run_bind_of_ok (run_get h)]
  simp only [hg]
  rfl

theorem run_onFilesKeeping_of_none {g : Volume → Volume × Option Failure} {h : Host} {v : Volume}
    (hg : g h.files = (v, none)) :
    (onFilesKeeping g).run.run h = (.ok (), { h with files := v }) := by
  rw [onFilesKeeping, run_bind_of_ok (run_get h)]
  simp only [hg]
  rfl

/-- A file operation that fails keeps what it did before failing. -/
theorem run_onFilesKeeping_of_some {g : Volume → Volume × Option Failure} {h : Host} {v : Volume}
    {e : Failure} (hg : g h.files = (v, some e)) :
    (onFilesKeeping g).run.run h = (.error e, { h with files := v }) := by
  rw [onFilesKeeping, run_bind_of_ok (run_get h)]
  simp only [hg]
  rfl

@[simp] theorem run_send (r : Request) (h : Host) :
    (send r).run.run h = (.ok (h.net.get r).1, { h with net := (h.net.get r).2 }) := rfl

@[simp] theorem run_closeResponse (h : Host) :
    closeResponse.run.run h =
      (.ok (), { h with net := { h.net with closed := h.net.closed ++ [true] } }) := rfl

@[simp] theorem run_files (h : Host) : files.run.run h = (.ok h.files, h) := rfl

/-- Catching the failure of `m` into a value: the run of `m`, its failure handed to `k`. -/
theorem run_tryCatch (m : HostM α) (k : Failure → HostM (Except Failure α)) (h : Host) :
    (tryCatch (Except.ok <$> m) k).run.run h = match m.run.run h with
      | (.ok a, h') => (.ok (.ok a), h')
      | (.error e, h') => (k e).run.run h' := by
  rcases hm : (m.run).run h with ⟨_ | a, h'⟩
  all_goals
    simp only [tryCatch, tryCatchThe, MonadExceptOf.tryCatch, ExceptT.tryCatch, ExceptT.mk, ExceptT.run,
      Functor.map, ExceptT.map, bind, StateT.bind, StateT.run, pure] at hm ⊢
    simp only [hm]
    rfl

end HostM

namespace Downloader

open Volume

/-! ### Receiving the body -/

/-- What receiving the body of `r` into the file `part` did, from host `h` to `h'` with result
`res`, when `n` is the size the response declares: the network is as it was; the part file was
written or nothing changed; a failure is a system, request or download error; a success answers
the digest of the body and leaves it in the part file; and it succeeds exactly when the status is
below 400, both sizes are within the limit, the part file's names fit and no directory stands
there. -/
structure Received (d : Downloader) (part : List String) (r : Response) (n : Int) (h : Host)
    (res : Except Failure String) (h' : Host) : Prop where
  net : h'.net = h.net
  files : h'.files = h.files ∨ (∀ x ∈ part, Ordinary x) ∧
    h.files.entryAt part ≠ some .dir ∧ ∃ b, h'.files = h.files.setEntry part (.file b)
  failure : ∀ e, res = .error e → e.kind.isOs = true ∨ e.kind = .download
  success : ∀ digest, res = .ok digest →
    digest = r.body.toBlob.digest ∧ h'.files = h.files.setEntry part (.file r.body.toBlob)
  ok_iff : res.isOk = true ↔ r.status < 400 ∧ n ≤ d.maxBytes ∧ (∀ x ∈ part, Ordinary x) ∧
    h.files.entryAt part ≠ some .dir ∧ (r.body.toBlob.size : Int) ≤ d.maxBytes

section Receive

variable {d : Downloader} {url : String} {part pre : List String} {c : String} {r : Response}
  {n : Int} {h h' : Host} {e : Failure}

/-- A receipt that stops with a failure it may report, for a reason that fails one of the
conditions. -/
theorem received_of_stop (hk : e.kind.isOs = true ∨ e.kind = .download)
    (hnot : ¬ (r.status < 400 ∧ n ≤ d.maxBytes ∧ (∀ x ∈ part, Ordinary x) ∧
      h.files.entryAt part ≠ some .dir ∧ (r.body.toBlob.size : Int) ≤ d.maxBytes))
    (hnet : h'.net = h.net)
    (hfiles : h'.files = h.files ∨ (∀ x ∈ part, Ordinary x) ∧
      h.files.entryAt part ≠ some .dir ∧ ∃ b, h'.files = h.files.setEntry part (.file b)) :
    Received d part r n h (.error e) h' where
  net := hnet
  files := hfiles
  failure _ he := by
    cases he
    exact hk
  success _ he := by cases he
  ok_iff := ⟨fun hok => (by cases hok), fun hall => absurd hall hnot⟩

/-- **Receiving a body.** Into a file of a plain volume whose directories are there and whose
last name is not `""`, `.` or `..`, for a response that declares `n` bytes, receiving does what
`Received` says. -/
theorem receive_spec {res : Except Failure String} (hv : h.files.Plain)
    (hpre : ∀ x ∈ pre, Ordinary x) (hd : DirsAlong h.files [] pre)
    (hc : c ≠ "" ∧ c ≠ "." ∧ c ≠ "..")
    (hn : declaredSize r = .ok n) (hrun : (d.receive url (pre ++ [c]) r).run.run h = (res, h')) :
    Received d (pre ++ [c]) r n h res h' := by
  have hnames : (∀ x ∈ pre ++ [c], Ordinary x) ↔ Ordinary c := by
    refine ⟨fun h => h c (by simp), fun hc x hx => ?_⟩
    rcases List.mem_append.1 hx with hx | hx
    · exact hpre x hx
    · rw [List.mem_singleton.1 hx]
      exact hc
  by_cases hst : 400 ≤ r.status
  · -- refused by its status
    have hr : r.raiseForStatus = .error ⟨.http, toString r.status ++ " Error"⟩ := if_pos hst
    simp only [receive, hr, HostM.run_throw_bind] at hrun
    obtain ⟨rfl, rfl⟩ := hrun
    exact received_of_stop (.inl rfl) (fun hall => absurd hall.1 (by omega)) rfl (.inl rfl)
  have hr : r.raiseForStatus = .ok () := if_neg (by omega)
  by_cases hm : n > d.maxBytes
  · -- the declared size is over the limit
    simp only [receive, hr, hn, hm, HostM.run_pure_bind, HostM.run_throw_bind, ↓reduceIte] at hrun
    obtain ⟨rfl, rfl⟩ := hrun
    exact received_of_stop (.inr rfl) (fun hall => absurd hall.2.1 (by omega)) rfl (.inl rfl)
  simp only [receive, hr, hn, hm, HostM.run_pure_bind, ↓reduceIte] at hrun
  have hw := writeFile_along hv hpre hd hc
  by_cases hok : Ordinary c ∧ h.files.entryAt (pre ++ [c]) ≠ some .dir
  case neg =>
    -- the part file cannot be written
    obtain ⟨f, hf, hk⟩ := (hw Blob.empty).2 hok
    rw [HostM.run_bind_of_error (HostM.run_onFiles_of_error hf)] at hrun
    obtain ⟨rfl, rfl⟩ := hrun
    exact received_of_stop (.inl hk) (fun hall => hok ⟨hnames.1 hall.2.2.1, hall.2.2.2.1⟩) rfl
      (.inl rfl)
  -- the part file is written empty, then the body is held against the limit
  rw [HostM.run_bind_of_ok (HostM.run_onFiles_of_ok ((hw Blob.empty).1 hok))] at hrun
  by_cases hz : (r.body.toBlob.size : Int) > d.maxBytes
  · simp only [hz, ↓reduceIte, HostM.run_throw_bind] at hrun
    obtain ⟨rfl, rfl⟩ := hrun
    exact received_of_stop (.inr rfl) (fun hall => absurd hall.2.2.2.2 (by omega)) rfl
      (.inr ⟨hnames.2 hok.1, hok.2, _, rfl⟩)
  simp only [hz, ↓reduceIte] at hrun
  -- the body is written over the empty part file
  rw [HostM.run_bind_of_ok (HostM.run_onFiles_of_ok
    (writeFile_over_file hv hpre hd hok.1 hok.2 Blob.empty r.body.toBlob))] at hrun
  simp only [HostM.run_pure] at hrun
  obtain ⟨rfl, rfl⟩ := hrun
  refine ⟨rfl, .inr ⟨hnames.2 hok.1, hok.2, _, rfl⟩, fun _ he => (by cases he),
    fun _ he => ⟨(Except.ok.inj he).symm, rfl⟩, ⟨fun _ => ?_, fun _ => rfl⟩⟩
  exact ⟨by omega, by omega, hnames.2 hok.1, hok.2, by omega⟩

end Receive

/-! ### The part file, and what a download keeps -/

section Part

variable {target q : List String}

/-- The name of a part file is six characters longer than the name of its target. -/
theorem partName_length (s : String) : ("." ++ s ++ ".part").length = s.length + 6 := by
  simp only [String.length_append]
  have h1 : ".".length = 1 := rfl
  have h5 : ".part".length = 5 := rfl
  omega

theorem partName_proper (s : String) :
    "." ++ s ++ ".part" ≠ "" ∧ "." ++ s ++ ".part" ≠ "." ∧ "." ++ s ++ ".part" ≠ ".." := by
  have h0 : "".length = 0 := rfl
  have h1 : ".".length = 1 := rfl
  have h2 : "..".length = 2 := rfl
  refine ⟨fun h => ?_, fun h => ?_, fun h => ?_⟩ <;>
  · have hlen := congrArg String.length h
    rw [partName_length] at hlen
    omega

theorem partPath_dropLast : (partPath target).dropLast = target.dropLast :=
  List.dropLast_concat

theorem partPath_ne_nil : partPath target ≠ [] := by
  simp [partPath]

theorem partPath_length (ht : target ≠ []) : (partPath target).length = target.length := by
  have hpos : target.length ≠ 0 := by simpa using ht
  simp only [partPath, List.length_append, List.length_dropLast, List.length_singleton]
  omega

/-- The part file is not the target: its name is longer. -/
theorem partPath_ne (ht : target ≠ []) : partPath target ≠ target := by
  intro h
  have hlast := congrArg List.getLast? h
  rw [partPath, List.getLast?_concat, List.getLast?_eq_some_getLast ht] at hlast
  have hname := congrArg String.length (Option.some.inj hlast)
  rw [Option.getD_some, partName_length] at hname
  omega

/-- Below the target there is no part file. -/
theorem not_partPath_prefix_of_below (ht : target ≠ []) (hq : target <+: q) :
    ¬ partPath target <+: q := by
  intro hp
  -- two prefixes of `q` of one length are the same path
  rcases List.prefix_or_prefix_of_prefix hp hq with h | h
  · exact partPath_ne ht (h.eq_of_length (partPath_length ht))
  · exact partPath_ne ht (h.eq_of_length (partPath_length ht).symm).symm

theorem not_prefix_dropLast (ht : target ≠ []) (hlen : target.length ≤ q.length) :
    ¬ q <+: target.dropLast := by
  intro h
  have hle := h.length_le
  have hpos : target.length ≠ 0 := by simpa using ht
  rw [List.length_dropLast] at hle
  omega

end Part

/-- What a download leaves before it moves the part file, from a volume `v`: the volume is plain,
the target and everything below it are as in `v`, and the part file is a directory only if it
was one in `v`. -/
structure Kept (v : Volume) (target : List String) (v' : Volume) : Prop where
  plain : v'.Plain
  frame : ∀ q, target <+: q → v'.entryAt q = v.entryAt q
  part : v'.entryAt (partPath target) = some .dir → v.entryAt (partPath target) = some .dir

section Kept

variable {v v' : Volume} {target : List String}

/-- Making the directories on the way to the target keeps it. -/
theorem Kept.made {m : Volume × Option Failure} (ht : target ≠ [])
    (hm : MadeDirs v target.dropLast m) :
    Kept v target m.1 where
  plain := hm.plain
  frame q hq := hm.frame q (not_prefix_dropLast ht hq.length_le)
  part h := by
    rwa [hm.frame _ (not_prefix_dropLast ht (Nat.le_of_eq (partPath_length ht).symm))] at h

/-- Writing a file at the part path, where no directory stands, keeps the target. -/
theorem Kept.setPart {b : Blob} (hk : Kept v target v') (ht : target ≠ [])
    (hd : DirsAlong v' [] target.dropLast) (hpart : ∀ x ∈ partPath target, Ordinary x)
    (hnd : v'.entryAt (partPath target) ≠ some .dir) :
    Kept v target (v'.setEntry (partPath target) (.file b)) where
  plain := hk.plain.setEntry_file (by rwa [partPath_dropLast]) partPath_ne_nil
    (fun x hx => (hpart x hx).fits) hnd
  frame q hq := by
    have hne : q ≠ partPath target := by
      rintro rfl
      exact not_partPath_prefix_of_below ht hq (List.prefix_refl _)
    rw [entryAt_setEntry partPath_ne_nil, if_neg hne]
    exact hk.frame q hq
  part h := by
    rw [entryAt_setEntry partPath_ne_nil, if_pos rfl] at h
    cases h

end Kept

/-! ### Streaming -/

section Stream

variable {d : Downloader} {url : String} {target : List String} {r : Response} {n : Int}
  {h h' : Host}

/-- What streaming the archive into the part file of `target` did, from host `h` to `h'` with
result `res`, when the response `r` declares `n` bytes: the target is kept whatever happens; a
failure is a system, request or download error; a success answers the digest of the body, with
the directories on the way made and the body in the part file; and it succeeds exactly when no
file stands on the way, the status is below 400, both sizes are within the limit, the part
file's names fit and no directory stands there. -/
structure Streamed (d : Downloader) (target : List String) (r : Response) (n : Int) (h : Host)
    (res : Except Failure String) (h' : Host) : Prop where
  kept : Kept h.files target h'.files
  failure : ∀ e, res = .error e → e.kind.isOs = true ∨ e.kind = .download
  success : ∀ digest, res = .ok digest → digest = r.body.toBlob.digest ∧
    DirsAlong h'.files [] target.dropLast ∧
    h'.files.entryAt (partPath target) = some (.file r.body.toBlob)
  ok_iff : res.isOk = true ↔ NoFileAlong h.files [] target.dropLast ∧ r.status < 400 ∧
    n ≤ d.maxBytes ∧ (∀ x ∈ partPath target, Ordinary x) ∧
    h.files.entryAt (partPath target) ≠ some .dir ∧ (r.body.toBlob.size : Int) ≤ d.maxBytes

/-- **Streaming the archive.** On a plain volume, for a target of ordinary names whose request is
answered by the response `r`, which declares `n` bytes, streaming does what `Streamed` says. -/
theorem stream_spec {res : Except Failure String} (hv : h.files.Plain) (ht : target ≠ [])
    (hnames : ∀ c ∈ target, Ordinary c) (hreply : (h.net.get (d.request url)).1 = .response r)
    (hn : declaredSize r = .ok n) (hrun : (d.stream url (partPath target)).run.run h = (res, h')) :
    Streamed d target r n h res h' := by
  have hm := makeDirs_made hv (p := target.dropLast)
    fun x hx => hnames x (List.dropLast_subset _ hx)
  unfold stream at hrun
  rw [partPath_dropLast] at hrun
  rcases hmd : h.files.makeDirs target.dropLast with ⟨v₁, _ | f⟩
  · -- the directories are made, and the request is answered by `r`
    rw [hmd] at hm
    rw [HostM.run_bind_of_ok (HostM.run_onFilesKeeping_of_none hmd),
      HostM.run_bind_of_ok (HostM.run_send _ _)] at hrun
    simp only [hreply] at hrun
    rw [HostM.run_bind, HostM.run_tryCatch] at hrun
    -- the body is received into the part file, on the volume with the directories made
    have hd₁ : DirsAlong v₁ [] target.dropLast := hm.dirs rfl
    rcases hrec : (d.receive url (partPath target) r).run.run
        { files := v₁, net := (h.net.get (d.request url)).snd } with ⟨res₀, h₃⟩
    have hrcv : Received d (partPath target) r n
        { files := v₁, net := (h.net.get (d.request url)).snd } res₀ h₃ :=
      receive_spec hm.plain (fun x hx => hnames x (List.dropLast_subset _ hx)) hd₁
        (partName_proper _) hn hrec
    have hpart : v₁.entryAt (partPath target) = h.files.entryAt (partPath target) :=
      hm.frame _ (not_prefix_dropLast ht (Nat.le_of_eq (partPath_length ht).symm))
    have hkept : Kept h.files target h₃.files := by
      rcases hrcv.files with hf | ⟨hpn, hnd, b, hf⟩
      · rw [hf]
        exact Kept.made ht hm
      · rw [hf]
        exact (Kept.made ht hm).setPart ht hd₁ hpn hnd
    rw [hrec] at hrun
    cases res₀ with
    | error e =>
      simp only [HostM.run_pure, HostM.run_closeResponse, HostM.run_throw, HostM.run_bind] at hrun
      obtain ⟨rfl, rfl⟩ := hrun
      refine ⟨hkept, fun e' he => ?_, fun _ he => (by cases he),
        ⟨fun hok => (by cases hok), fun hall => ?_⟩⟩
      · cases he
        exact hrcv.failure e rfl
      · rw [← hpart] at hall
        have := hrcv.ok_iff.2 hall.2
        cases this
    | ok digest =>
      simp only [HostM.run_pure, HostM.run_closeResponse, HostM.run_bind] at hrun
      obtain ⟨rfl, rfl⟩ := hrun
      obtain ⟨hdig, hfiles⟩ := hrcv.success digest rfl
      refine ⟨hkept, fun _ he => (by cases he), fun _ he => ?_, ⟨fun _ => ?_, fun _ => rfl⟩⟩
      · cases he
        refine ⟨hdig, ?_, ?_⟩
        · show DirsAlong h₃.files [] target.dropLast
          have hd₁' : DirsAlong v₁ [] (partPath target).dropLast := by rwa [partPath_dropLast]
          rw [hfiles]
          simpa only [partPath_dropLast] using
            hd₁'.setEntry (e := .file r.body.toBlob) partPath_ne_nil
        · show h₃.files.entryAt (partPath target) = _
          rw [hfiles, entryAt_setEntry partPath_ne_nil, if_pos rfl]
      · rw [← hpart]
        exact ⟨hm.ok_iff.1 rfl, hrcv.ok_iff.1 rfl⟩
  · -- a file stands on the way: nothing else happens
    rw [hmd] at hm
    rw [HostM.run_bind_of_error (HostM.run_onFilesKeeping_of_some hmd)] at hrun
    obtain ⟨rfl, rfl⟩ := hrun
    refine ⟨Kept.made ht hm, fun e he => ?_, fun _ he => (by cases he),
      ⟨fun hok => (by cases hok), fun hall => absurd (hm.ok_iff.2 hall.1) (by simp)⟩⟩
    cases he
    exact .inl (hm.os f rfl)

end Stream

/-! ### Checking the digest -/

section Digest

variable {url digest : String} {sha : Json} {e : Failure}

/-- With no expected digest or an expected text, a digest agrees exactly when the text is empty
or the digest is the text trimmed and in lower case. -/
theorem checkDigest_eq_ok_iff (hsha : sha = .null ∨ ∃ s, sha = .str s) :
    checkDigest url sha digest = .ok () ↔
      ∀ s, sha = .str s → s = "" ∨ digest = Text.lowerAscii (Text.trim s) := by
  rcases hsha with rfl | ⟨s, rfl⟩
  · simp [checkDigest, Json.truthy]
  · by_cases hs : s = ""
    · subst hs
      simp [checkDigest, Json.truthy]
    · have ht : (Json.str s).truthy = true := by simpa [Json.truthy] using hs
      by_cases hd : digest = Text.lowerAscii (Text.trim s) <;> simp [checkDigest, ht, hd, hs]

/-- A digest that does not agree is a download error. -/
theorem checkDigest_error_kind (hsha : sha = .null ∨ ∃ s, sha = .str s)
    (h : checkDigest url sha digest = .error e) : e.kind = .download := by
  rcases hsha with rfl | ⟨s, rfl⟩
  · simp [checkDigest, Json.truthy] at h
  · by_cases hs : s = ""
    · subst hs
      simp [checkDigest, Json.truthy] at h
    · by_cases hd : digest = Text.lowerAscii (Text.trim s)
      · simp [checkDigest, Json.truthy, hs, hd] at h
      · simp [checkDigest, Json.truthy, hs, hd] at h
        rw [← h]

end Digest

/-! ### Delivering the archive -/

/-- A volume where a download can store `target`: no file stands on the way to its directory, the
name of its part file is short enough, and neither the part file nor the target is a
directory. -/
structure Storable (v : Volume) (target : List String) : Prop where
  way : NoFileAlong v [] target.dropLast
  partFits : ("." ++ target.getLast?.getD "" ++ ".part").utf8ByteSize ≤ maxNameBytes
  partNotDir : v.entryAt (partPath target) ≠ some .dir
  targetNotDir : v.entryAt target ≠ some .dir

section Deliver

variable {d : Downloader} {url : String} {target : List String} {r : Response} {n : Int}
  {sha : Json} {h h' : Host}

/-- For a target of ordinary names, the names of the part file are ordinary exactly when its own
name fits. -/
theorem ordinary_partPath_iff (hnames : ∀ c ∈ target, Ordinary c) :
    (∀ x ∈ partPath target, Ordinary x) ↔
      ("." ++ target.getLast?.getD "" ++ ".part").utf8ByteSize ≤ maxNameBytes := by
  obtain ⟨h₁, h₂, h₃⟩ := partName_proper (target.getLast?.getD "")
  constructor
  · intro hall
    exact (hall _ (List.mem_append_right _ (List.mem_singleton_self _))).fits
  · intro hfit x hx
    rcases List.mem_append.1 hx with hx | hx
    · exact hnames x (List.dropLast_subset _ hx)
    · rw [List.mem_singleton.1 hx]
      exact ⟨h₁, h₂, h₃, hfit⟩

/-- Moving the part file, which holds `e`, over a target on a plain volume where the way is there
and no directory stands at the target: the volume stays plain, the target holds `e` and the part
file is gone. -/
theorem movePart_spec {v : Volume} {e : Entry} (hv : v.Plain) (ht : target ≠ [])
    (hnames : ∀ c ∈ target, Ordinary c) (hd : DirsAlong v [] target.dropLast)
    (hnd : v.entryAt target ≠ some .dir) (he : ∀ t, e ≠ .link t) :
    ((v.dropTree (partPath target)).setEntry target e).Plain ∧
      ((v.dropTree (partPath target)).setEntry target e).entryAt target = some e ∧
      ((v.dropTree (partPath target)).setEntry target e).entryAt (partPath target) = none := by
  have hself : ¬ partPath target <+: target :=
    not_partPath_prefix_of_below ht (List.prefix_refl _)
  refine ⟨(hv.dropTree partPath_ne_nil).setEntry ht (fun q hq hne => ?_) he
    (fun c hc => (hnames c hc).fits) (.inr ?_), ?_, ?_⟩
  · -- the parents of the target are shorter than the part file, so not below it
    have hlt : q.length < target.length := by
      have hle := hq.length_le
      have hne' : q.length ≠ target.length := fun h => hne (hq.eq_of_length h)
      omega
    have hnq : ¬ partPath target <+: q := fun h => by
      have := h.length_le
      rw [partPath_length ht] at this
      omega
    rw [entryAt_dropTree partPath_ne_nil, if_neg hnq]
    exact hd.parents q hq hne
  · rwa [entryAt_dropTree partPath_ne_nil, if_neg hself]
  · rw [entryAt_setEntry ht, if_pos rfl]
  · rw [entryAt_setEntry ht, if_neg (partPath_ne ht), entryAt_dropTree partPath_ne_nil,
      if_pos (List.prefix_refl _)]

/-- What delivering the archive into `target` did, from host `h` to `h'` with result `res`, when
the response `r` declares `n` bytes and `sha` is the expected digest: a failure is a system,
request or download error and keeps the target; a success answers the digest of the body, which
the target then holds, on a plain volume with no part file left; and it succeeds exactly when
the status is below 400, both sizes are within the limit, the digest agrees and the volume lets
the target be stored. -/
structure Delivered (d : Downloader) (target : List String) (r : Response) (n : Int) (sha : Json)
    (h : Host) (res : Except Failure String) (h' : Host) : Prop where
  failure : ∀ e, res = .error e →
    (e.kind.isOs = true ∨ e.kind = .download) ∧ Kept h.files target h'.files
  success : ∀ digest, res = .ok digest → digest = r.body.toBlob.digest ∧ h'.files.Plain ∧
    h'.files.entryAt target = some (.file r.body.toBlob) ∧
    h'.files.entryAt (partPath target) = none
  ok_iff : res.isOk = true ↔ r.status < 400 ∧ n ≤ d.maxBytes ∧
    (r.body.toBlob.size : Int) ≤ d.maxBytes ∧
    (∀ s, sha = .str s → s = "" ∨ r.body.toBlob.digest = Text.lowerAscii (Text.trim s)) ∧
    Storable h.files target

/-- A delivery that stops with a failure it may report, keeping the target, for a reason that
fails one of the conditions. -/
theorem delivered_of_failure {e : Failure} (hk : e.kind.isOs = true ∨ e.kind = .download)
    (hkept : Kept h.files target h'.files)
    (hnot : ¬ (r.status < 400 ∧ n ≤ d.maxBytes ∧ (r.body.toBlob.size : Int) ≤ d.maxBytes ∧
      (∀ s, sha = .str s → s = "" ∨ r.body.toBlob.digest = Text.lowerAscii (Text.trim s)) ∧
      Storable h.files target)) :
    Delivered d target r n sha h (.error e) h' where
  failure _ he := by
    cases he
    exact ⟨hk, hkept⟩
  success _ he := by cases he
  ok_iff := ⟨fun hok => (by cases hok), fun hall => absurd hall hnot⟩

/-- **Delivering the archive.** On a plain volume, for a target of ordinary names whose request is
answered by the response `r`, which declares `n` bytes, and no expected digest or an expected
text, delivering does what `Delivered` says. -/
theorem deliver_spec {res : Except Failure String} (hv : h.files.Plain) (ht : target ≠ [])
    (hnames : ∀ c ∈ target, Ordinary c) (hreply : (h.net.get (d.request url)).1 = .response r)
    (hn : declaredSize r = .ok n) (hsha : sha = .null ∨ ∃ s, sha = .str s)
    (hrun : (d.deliver url target sha).run.run h = (res, h')) :
    Delivered d target r n sha h res h' := by
  unfold deliver at hrun
  rcases hst : (d.stream url (partPath target)).run.run h with ⟨res₁, h₁⟩
  obtain ⟨hk₁, hfail₁, hok₁, hiff₁⟩ := stream_spec hv ht hnames hreply hn hst
  rw [HostM.run_bind, hst] at hrun
  cases res₁ with
  | error e =>
    -- streaming failed: nothing more happens
    simp only at hrun
    obtain ⟨rfl, rfl⟩ := hrun
    refine delivered_of_failure (hfail₁ e rfl) hk₁ fun hall => ?_
    obtain ⟨hs, hm, hz, -, hsto⟩ := hall
    have hok := hiff₁.2 ⟨hsto.way, hs, hm, (ordinary_partPath_iff hnames).2 hsto.partFits,
      hsto.partNotDir, hz⟩
    cases hok
  | ok digest =>
    obtain ⟨hdig, hd₁, hpart₁⟩ := hok₁ digest rfl
    obtain ⟨hway, hs, hm, hpn, hpnd, hz⟩ := hiff₁.1 rfl
    subst hdig
    simp only at hrun
    cases hc : checkDigest url sha r.body.toBlob.digest with
    | error e =>
      -- the digest does not agree
      rw [hc] at hrun
      simp only [HostM.run_throw_bind] at hrun
      obtain ⟨rfl, rfl⟩ := hrun
      refine delivered_of_failure (.inr (checkDigest_error_kind hsha hc)) hk₁ fun hall => ?_
      have hagree : checkDigest url sha r.body.toBlob.digest = .ok () :=
        (checkDigest_eq_ok_iff hsha).2 hall.2.2.2.1
      rw [hc] at hagree
      cases hagree
    | ok u =>
      -- the part file is moved over the target, unless that is a directory
      rw [hc] at hrun
      simp only at hrun
      have htarget₁ : h₁.files.entryAt target = h.files.entryAt target :=
        hk₁.frame target (List.prefix_refl _)
      have hmove := replace_of_dirs hk₁.plain hpn hnames (by rwa [partPath_dropLast]) hd₁ hpart₁
      by_cases htd : h.files.entryAt target = some .dir
      · rw [HostM.run_bind_of_error (HostM.run_onFiles_of_error (hmove.1 (htarget₁.trans htd)))]
          at hrun
        obtain ⟨rfl, rfl⟩ := hrun
        exact delivered_of_failure (.inl (OsError.isOs_kind .isDirectory)) hk₁
          fun hall => absurd htd hall.2.2.2.2.targetNotDir
      · have hnd : h₁.files.entryAt target ≠ some .dir := by rwa [htarget₁]
        rw [HostM.run_bind_of_ok (HostM.run_onFiles_of_ok (hmove.2 hnd)), HostM.run_pure] at hrun
        obtain ⟨rfl, rfl⟩ := hrun
        obtain ⟨hplain, htarget, hpart⟩ := movePart_spec (e := .file r.body.toBlob) hk₁.plain ht
          hnames hd₁ hnd fun _ h => (by cases h)
        refine ⟨fun _ he => (by cases he), fun _ he => ?_, ⟨fun _ => ?_, fun _ => rfl⟩⟩
        · cases he
          exact ⟨rfl, hplain, htarget, hpart⟩
        · exact ⟨hs, hm, hz, (checkDigest_eq_ok_iff hsha).1 hc,
            ⟨hway, (ordinary_partPath_iff hnames).1 hpn, hpnd, htd⟩⟩

end Deliver

/-! ### Discarding the part file, and the whole download -/

section Fetch

variable {d : Downloader} {url : String} {target : List String} {r : Response} {n : Int}
  {sha : Json} {h h' : Host}

/-- What discarding the part file of `target` left of a volume `v`: nothing off the part file's
tree changed, and the part path is empty unless a directory stood there, which stays. -/
structure Discarded (target : List String) (v v' : Volume) : Prop where
  frame : ∀ q, ¬ partPath target <+: q → v'.entryAt q = v.entryAt q
  part : v'.entryAt (partPath target) = none ∨
    v.entryAt (partPath target) = some .dir ∧ v'.entryAt (partPath target) = some .dir

/-- Discarding the part file on a plain volume does what `Discarded` says. -/
theorem discard_spec (hv : h.files.Plain) (hnames : ∀ c ∈ target, Ordinary c) :
    ∃ v', (discard (partPath target)).run.run h = (.ok (), { h with files := v' }) ∧
      Discarded target h.files v' := by
  -- when removing fails nothing changes, and no file stood there
  have hkeep : ∀ f, h.files.unlink (partPath target) = .error f →
      (∀ b, h.files.entryAt (partPath target) ≠ some (.file b)) →
      ∃ v', (discard (partPath target)).run.run h = (.ok (), { h with files := v' }) ∧
        Discarded target h.files v' := by
    intro f hu hno
    refine ⟨h.files, by rw [discard, HostM.run_bind_of_ok (HostM.run_files h), hu]; rfl,
      fun _ _ => rfl, ?_⟩
    cases he : h.files.entryAt (partPath target) with
    | none => exact .inl rfl
    | some e =>
      cases e with
      | dir => exact .inr ⟨rfl, rfl⟩
      | file b => exact absurd he (hno b)
      | link t => exact absurd he (hv.noLinks _ t)
  by_cases hfit : ("." ++ target.getLast?.getD "" ++ ".part").utf8ByteSize ≤ maxNameBytes
  · obtain ⟨hok, herr⟩ := unlink_plain hv ((ordinary_partPath_iff hnames).2 hfit)
    cases hu : h.files.unlink (partPath target) with
    | ok v' =>
      -- the part file and what is below it are dropped
      obtain rfl := hok v' hu
      refine ⟨_, by rw [discard, HostM.run_bind_of_ok (HostM.run_files h), hu]; rfl,
        fun q hq => ?_, .inl ?_⟩
      · rw [entryAt_dropTree partPath_ne_nil, if_neg hq]
      · rw [entryAt_dropTree partPath_ne_nil, if_pos (List.prefix_refl _)]
    | error f => exact hkeep f hu (herr f hu)
  · -- a part file whose name is too long is not there, and removing it fails
    have hlong : maxNameBytes < ("." ++ target.getLast?.getD "" ++ ".part").utf8ByteSize := by omega
    have hnone : h.files.entryAt (partPath target) = none :=
      hv.entryAt_of_long (List.mem_append_right _ (List.mem_singleton_self _)) hlong
    obtain ⟨f, hu⟩ := unlink_of_long hv (fun x hx => hnames x (List.dropLast_subset _ hx))
      (partName_proper _) hlong
    exact hkeep f hu fun b h => by rw [hnone] at h; cases h

/-- A url the downloader fetches: an `http` or `https` url with a host. -/
def Accepts (parts : UrlParts) : Prop :=
  (parts.scheme = "http" ∨ parts.scheme = "https") ∧ parts.netloc ≠ ""

theorem accepts_iff (parts : UrlParts) :
    ((parts.scheme == "http" || parts.scheme == "https") && parts.netloc != "") = true ↔
      Accepts parts := by
  simp [Accepts]

theorem ofJson_str (url : String) :
    UrlParts.ofJson (if (Json.str url).truthy = true then .str url else .str "") =
      UrlParts.parse url := by
  by_cases ht : (Json.str url).truthy = true
  · rw [if_pos ht]
    rfl
  · -- only the empty url is not true, and it is the empty text
    have hempty : url = "" := by simpa [Json.truthy] using ht
    rw [if_neg ht, hempty]
    rfl

/-- A failure of a system, request or download error is reported as a download error. -/
theorem wrap_kind {e : Failure} (hk : e.kind.isOs = true ∨ e.kind = .download) (url : String)
    (target : List String) : (wrap url target e).kind = .download := by
  unfold wrap
  by_cases hr : e.kind.isRequest = true
  · rw [if_pos hr]
  · rw [if_neg hr]
    rcases hk with hos | hdl
    · rw [if_pos hos]
    · have hos : e.kind.isOs = false := by
        rw [hdl]
        rfl
      rw [if_neg (by simp [hos]), hdl]

/-- A url that is not an `http(s)` url with a host is refused before anything happens. -/
theorem fetch_refused {parts : UrlParts} (hurl : UrlParts.parse url = .ok parts)
    (hacc : ¬ Accepts parts) :
    (d.fetch (.str url) target sha).run.run h = (.error (refused url), h) := by
  unfold fetch
  simp only [ofJson_str, hurl, HostM.run_pure_bind, Json.display]
  rw [if_neg fun h => hacc ((accepts_iff parts).1 h), HostM.run_throw_bind]

/-- A download from an accepted url, on a plain volume, for a target of ordinary names, a request
answered by the response `r`, which declares `n` bytes, and no expected digest or an expected
text: it returns exactly when the status is below 400, both sizes are within the limit, the
digest agrees and the volume lets the target be stored; it then answers the digest of the body,
which the target holds; a failure is a download error that keeps the target; and no part file
is left, only a directory that stood there before. -/
theorem fetch_accepted {parts : UrlParts} {res : Except Failure String}
    (hv : h.files.Plain) (ht : target ≠ []) (hnames : ∀ c ∈ target, Ordinary c)
    (hurl : UrlParts.parse url = .ok parts) (hacc : Accepts parts)
    (hreply : (h.net.get (d.request url)).1 = .response r) (hn : declaredSize r = .ok n)
    (hsha : sha = .null ∨ ∃ s, sha = .str s)
    (hrun : (d.fetch (.str url) target sha).run.run h = (res, h')) :
    (res.isOk = true ↔ r.status < 400 ∧ n ≤ d.maxBytes ∧ (r.body.toBlob.size : Int) ≤ d.maxBytes ∧
      (∀ s, sha = .str s → s = "" ∨ r.body.toBlob.digest = Text.lowerAscii (Text.trim s)) ∧
      Storable h.files target) ∧
    (∀ digest, res = .ok digest →
      digest = r.body.toBlob.digest ∧ h'.files.entryAt target = some (.file r.body.toBlob)) ∧
    (∀ e, res = .error e →
      e.kind = .download ∧ ∀ q, target <+: q → h'.files.entryAt q = h.files.entryAt q) ∧
    (h'.files.entryAt (partPath target) = none ∨
      h.files.entryAt (partPath target) = some .dir ∧
        h'.files.entryAt (partPath target) = some .dir) := by
  unfold fetch at hrun
  simp only [ofJson_str, hurl, HostM.run_pure_bind, Json.display] at hrun
  rw [if_pos ((accepts_iff parts).2 hacc), HostM.run_bind, HostM.run_tryCatch] at hrun
  rcases hdel : (d.deliver url target sha).run.run h with ⟨res₁, h₁⟩
  have hdelivered := deliver_spec hv ht hnames hreply hn hsha hdel
  rw [hdel] at hrun
  -- whatever the delivery did, the part file is then discarded
  cases res₁ with
  | error e =>
    obtain ⟨hkind, hk⟩ := hdelivered.failure e rfl
    obtain ⟨v', hdis, hframe, hpart⟩ := discard_spec (h := h₁) hk.plain hnames
    simp only [HostM.run_pure] at hrun
    rw [HostM.run_bind_of_ok hdis] at hrun
    simp only [HostM.run_throw] at hrun
    obtain ⟨rfl, rfl⟩ := hrun
    refine ⟨⟨fun hok => (by cases hok), fun hall => ?_⟩, fun _ he => (by cases he),
      fun e' he => ?_, ?_⟩
    · have hok₁ := hdelivered.ok_iff.2 hall
      cases hok₁
    · cases he
      refine ⟨wrap_kind hkind url target, fun q hq => ?_⟩
      show v'.entryAt q = _
      rw [hframe q (not_partPath_prefix_of_below ht hq), hk.frame q hq]
    · show v'.entryAt _ = none ∨ _ ∧ v'.entryAt _ = some .dir
      rcases hpart with hnone | ⟨hdir₁, hdir'⟩
      · exact .inl hnone
      · exact .inr ⟨hk.part hdir₁, hdir'⟩
  | ok digest =>
    obtain ⟨hdig, hplain, htarget, hpart₁⟩ := hdelivered.success digest rfl
    obtain ⟨v', hdis, hframe, hpart⟩ := discard_spec (h := h₁) hplain hnames
    simp only at hrun
    rw [HostM.run_bind_of_ok hdis] at hrun
    simp only [HostM.run_pure] at hrun
    obtain ⟨rfl, rfl⟩ := hrun
    refine ⟨⟨fun _ => hdelivered.ok_iff.1 rfl, fun _ => rfl⟩, fun _ he => ?_,
      fun _ he => (by cases he), ?_⟩
    · cases he
      refine ⟨hdig, ?_⟩
      show v'.entryAt target = _
      rw [hframe target (not_partPath_prefix_of_below ht (List.prefix_refl _)), htarget]
    · show v'.entryAt _ = none ∨ _
      rcases hpart with hnone | ⟨hdir₁, -⟩
      · exact .inl hnone
      · rw [hpart₁] at hdir₁
        cases hdir₁

/-- **Downloading an archive.** On a plain volume, for a target of ordinary names, a url that
splits into `parts`, a request answered by the response `r`, which declares `n` bytes, and no
expected digest or an expected text, a download

* returns exactly when the url is an `http(s)` url with a host, the status is below 400, both
  sizes are within the limit, the digest agrees, and the volume lets the target be stored;
* then answers the digest of the body, and the target holds the body;
* fails otherwise with a download error, leaving the target and everything below it as they
  were;
* leaves no part file after an accepted url, only a directory that stood there before; and a
  refused url changes nothing. -/
theorem fetch_stores_or_keeps_target {parts : UrlParts} {res : Except Failure String}
    (hv : h.files.Plain) (ht : target ≠ []) (hnames : ∀ c ∈ target, Ordinary c)
    (hurl : UrlParts.parse url = .ok parts) (hreply : (h.net.get (d.request url)).1 = .response r)
    (hn : declaredSize r = .ok n) (hsha : sha = .null ∨ ∃ s, sha = .str s)
    (hrun : (d.fetch (.str url) target sha).run.run h = (res, h')) :
    (res.isOk = true ↔ Accepts parts ∧ r.status < 400 ∧ n ≤ d.maxBytes ∧
      (r.body.toBlob.size : Int) ≤ d.maxBytes ∧
      (∀ s, sha = .str s → s = "" ∨ r.body.toBlob.digest = Text.lowerAscii (Text.trim s)) ∧
      Storable h.files target) ∧
    (∀ digest, res = .ok digest →
      digest = r.body.toBlob.digest ∧ h'.files.entryAt target = some (.file r.body.toBlob)) ∧
    (∀ e, res = .error e →
      e.kind = .download ∧ ∀ q, target <+: q → h'.files.entryAt q = h.files.entryAt q) ∧
    (Accepts parts → h'.files.entryAt (partPath target) = none ∨
      h.files.entryAt (partPath target) = some .dir ∧
        h'.files.entryAt (partPath target) = some .dir) ∧
    (¬ Accepts parts → h' = h) := by
  by_cases hacc : Accepts parts
  · obtain ⟨hiff, hok, herr, hpart⟩ :=
      fetch_accepted hv ht hnames hurl hacc hreply hn hsha hrun
    exact ⟨⟨fun hres => ⟨hacc, hiff.1 hres⟩, fun hall => hiff.2 hall.2⟩, hok, herr,
      fun _ => hpart, fun h => absurd hacc h⟩
  · -- a refused url: the failure is the refusal, and nothing changes
    rw [fetch_refused hurl hacc] at hrun
    obtain ⟨rfl, rfl⟩ := hrun
    refine ⟨⟨fun hres => (by cases hres), fun hall => absurd hall.1 hacc⟩,
      fun _ he => (by cases he), fun e he => ?_, fun h => absurd h hacc, fun _ => rfl⟩
    cases he
    exact ⟨rfl, fun _ _ => rfl⟩

/-- The url of the example downloads. -/
def exampleUrl : String := "https://example.org/addon.zip"

/-- A response serving the text `data`. -/
def dataResponse : Response := { body := .blob (Blob.ofText "data") }

/-- A host over the volume `v` whose network serves `data` at the example url. -/
def servingHost (v : Volume) : Host :=
  { files := v, net := { routes := [(exampleUrl, .response dataResponse)] } }

theorem exampleUrl_parts :
    UrlParts.parse exampleUrl = .ok ⟨"https", "example.org", "/addon.zip"⟩ := by
  rfl

theorem ordinary_addonZip : ∀ c ∈ ["addon.zip"], Ordinary c := by
  intro c hc
  rw [List.mem_singleton.1 hc]
  exact ⟨by decide, by decide, by decide, by decide⟩

/-- Into the volume with only its root, the example archive is downloaded. -/
theorem fetch_example_into_root :
    ∃ res h', ((default : Downloader).fetch (.str exampleUrl) ["addon.zip"] .null).run.run
        (servingHost {}) = (res, h') ∧
      (res.isOk = true ↔ Accepts ⟨"https", "example.org", "/addon.zip"⟩ ∧
        dataResponse.status < 400 ∧ (0 : Int) ≤ (default : Downloader).maxBytes ∧
        (dataResponse.body.toBlob.size : Int) ≤ (default : Downloader).maxBytes ∧
        (∀ s, Json.null = .str s →
          s = "" ∨ dataResponse.body.toBlob.digest = Text.lowerAscii (Text.trim s)) ∧
        Storable (servingHost {}).files ["addon.zip"]) ∧
      (∀ digest, res = .ok digest → digest = dataResponse.body.toBlob.digest ∧
        h'.files.entryAt ["addon.zip"] = some (.file dataResponse.body.toBlob)) ∧
      (∀ e, res = .error e → e.kind = .download ∧
        ∀ q, ["addon.zip"] <+: q → h'.files.entryAt q = (servingHost {}).files.entryAt q) ∧
      (Accepts ⟨"https", "example.org", "/addon.zip"⟩ →
        h'.files.entryAt (partPath ["addon.zip"]) = none ∨
          (servingHost {}).files.entryAt (partPath ["addon.zip"]) = some .dir ∧
            h'.files.entryAt (partPath ["addon.zip"]) = some .dir) ∧
      (¬ Accepts ⟨"https", "example.org", "/addon.zip"⟩ → h' = servingHost {}) :=
  ⟨_, _, rfl, fetch_stores_or_keeps_target plain_empty (by simp) ordinary_addonZip exampleUrl_parts
    rfl rfl (.inl rfl) rfl⟩

/-- The volume where the example target is a directory. -/
def targetDirVolume : Volume := ({} : Volume).setEntry ["addon.zip"] .dir

theorem plain_targetDirVolume : targetDirVolume.Plain := by
  refine plain_empty.setEntry (by simp) (fun q hq hne => ?_) (fun _ h => by cases h)
    (fun c hc => (ordinary_addonZip c hc).fits) (.inl rfl)
  -- the only proper prefix of a one-name path is the root
  have hq0 : q = [] := by
    rcases List.prefix_cons_iff.1 hq with rfl | ⟨t, rfl, ht⟩
    · rfl
    · exact absurd (by rw [List.prefix_nil.1 ht]) hne
  rw [hq0]
  exact plain_empty.rootDir

/-- Over a directory the example download fails, though its url is an `https` url with a host,
its status is below 400, it declares no size, its body is within the limit and no digest is
expected. -/
theorem fetch_example_over_directory_fails :
    UrlParts.parse exampleUrl = .ok ⟨"https", "example.org", "/addon.zip"⟩ ∧
      Accepts ⟨"https", "example.org", "/addon.zip"⟩ ∧ dataResponse.status < 400 ∧
      declaredSize dataResponse = .ok 0 ∧
      (dataResponse.body.toBlob.size : Int) ≤ (default : Downloader).maxBytes ∧
      (((default : Downloader).fetch (.str exampleUrl) ["addon.zip"] .null).run.run
        (servingHost targetDirVolume)).1.isOk = false := by
  have hacc : Accepts ⟨"https", "example.org", "/addon.zip"⟩ := ⟨.inr rfl, by decide⟩
  refine ⟨exampleUrl_parts, hacc, by decide, rfl, by decide, ?_⟩
  rcases hrun : ((default : Downloader).fetch (.str exampleUrl) ["addon.zip"] .null).run.run
    (servingHost targetDirVolume) with ⟨res, h'⟩
  obtain ⟨hiff, -⟩ := fetch_accepted plain_targetDirVolume (by simp) ordinary_addonZip
    exampleUrl_parts hacc rfl rfl (.inl rfl) hrun
  -- the target is a directory, which the volume does not let a download replace
  refine Bool.eq_false_iff.2 fun hok => (hiff.1 hok).2.2.2.2.targetNotDir ?_
  show targetDirVolume.entryAt ["addon.zip"] = some .dir
  rw [targetDirVolume, entryAt_setEntry (by simp), if_pos rfl]

end Fetch

end Downloader

end AddonCatalog
