import AddonCatalog.Files.Ops
/-!
# Plain volumes

The volumes the program builds itself have a root, hold no symbolic link, and every parent of
an entry in them is a directory (`Volume.Plain`). In such a volume a path of ordinary names
(`Volume.Ordinary`: not empty, not `.` or `..`, short enough) is looked up part by part with no
detour, so every operation acts at the path it is given.

* `walk_of_dirs`: a lookup reaches the path itself when every directory on its way is there;
  otherwise (`walk_of_gap`) it fails with `noEntry` when the way only lacks a directory, and
  with `notDirectory` when a file stands on it;
* `writeFile_of_dirs`, `replace_of_dirs`, `mkdir_of_dirs`: what the operations do once the way
  is there, and `unlink_plain`: removing drops the path's tree, or fails where no file is;
* `Plain.setEntry`, `Plain.dropTree`: the changes the operations make keep a volume plain;
* `makeDirs_made`: making the directories of a path keeps the volume plain, changes nothing
  off the path's prefixes, succeeds exactly when no file stands on the path, and then has made
  every directory of it (`MadeDirs`).
-/

namespace AddonCatalog

namespace Volume

/-- A name that a lookup takes as it is: not empty, not `.` or `..`, and short enough for a
directory. -/
structure Ordinary (c : String) : Prop where
  ne_empty : c ≠ ""
  ne_dot : c ≠ "."
  ne_dotdot : c ≠ ".."
  fits : c.utf8ByteSize ≤ maxNameBytes

/-- A volume as the program builds it: its root exists, it holds no symbolic link, every
parent of an entry is a directory, and the names of an entry are short enough. -/
structure Plain (v : Volume) : Prop where
  root : v.hasRoot = true
  noLinks : ∀ p t, v.entryAt p ≠ some (.link t)
  parents : ∀ p e, v.entryAt p = some e → ∀ q, q <+: p → q ≠ p → v.entryAt q = some .dir
  fits : ∀ p e, v.entryAt p = some e → ∀ c ∈ p, c.utf8ByteSize ≤ maxNameBytes

/-- Every directory from `acc` along the prefixes of `l` is there, `acc` included. -/
def DirsAlong (v : Volume) (acc l : List String) : Prop :=
  ∀ q, q <+: l → v.entryAt (acc ++ q) = some .dir

/-- No file stands at `acc` or along the prefixes of `l`. -/
def NoFileAlong (v : Volume) (acc l : List String) : Prop :=
  ∀ q, q <+: l → ∀ b, v.entryAt (acc ++ q) ≠ some (.file b)

variable {v : Volume}

/-! ### Entries after a change -/

theorem entryAt_of_ne_nil {p : List String} (hp : p ≠ []) :
    v.entryAt p = (v.entries.find? (·.1 == p)).map (·.2) := by
  simp [entryAt, hp]

theorem entryAt_setEntry {real : List String} (hr : real ≠ []) (e : Entry) (q : List String) :
    (v.setEntry real e).entryAt q = if q = real then some e else v.entryAt q := by
  have hs : v.setEntry real e =
      { v with entries := (v.entries.filter (·.1 != real)) ++ [(real, e)] } := by
    simp [setEntry, hr]
  rw [hs]
  by_cases hq : q = []
  · subst hq
    simp [entryAt, Ne.symm hr]
  · rw [entryAt_of_ne_nil hq, entryAt_of_ne_nil hq]
    by_cases hqr : q = real
    · subst hqr
      have hnone : (v.entries.filter (·.1 != q)).find? (·.1 == q) = none :=
        List.find?_eq_none.2 fun x hx hxq => by
          simp only [List.mem_filter, bne_iff_ne, ne_eq] at hx
          exact hx.2 (by simpa using hxq)
      simp [hnone]
    · -- the entries kept are those off `real`, and `q` is among them
      have hfind :
          (v.entries.filter (·.1 != real)).find? (·.1 == q) = v.entries.find? (·.1 == q) := by
        rw [List.find?_filter]
        congr 1
        funext x
        by_cases hx : x.1 = q
        · simp [hx, hqr]
        · simp [hx]
      simp [hfind, hqr, Ne.symm hqr]

theorem setEntry_setEntry (p : List String) (e e' : Entry) :
    (v.setEntry p e).setEntry p e' = v.setEntry p e' := by
  by_cases hp : p = []
  · subst hp
    rfl
  · simp [setEntry, hp, List.filter_append, List.filter_filter]

theorem entryAt_dropTree {real : List String} (hr : real ≠ []) (q : List String) :
    (v.dropTree real).entryAt q = if real <+: q then none else v.entryAt q := by
  by_cases hq : q = []
  · subst hq
    have : ¬ real <+: [] := fun h => hr (List.prefix_nil.mp h)
    rw [if_neg this]
    rfl
  · rw [entryAt_of_ne_nil hq]
    simp only [dropTree, List.find?_filter]
    by_cases hp : real <+: q
    · rw [if_pos hp, Option.map_eq_none_iff, List.find?_eq_none]
      intro x _ hx
      simp only [decide_eq_true_eq, Bool.not_eq_true', beq_iff_eq] at hx
      obtain ⟨hpre, hxq⟩ := hx
      rw [hxq, List.isPrefixOf_iff_prefix.2 hp] at hpre
      cases hpre
    · rw [if_neg hp, entryAt_of_ne_nil hq]
      have hpf : real.isPrefixOf q = false :=
        Bool.eq_false_iff.2 fun h => hp (List.isPrefixOf_iff_prefix.1 h)
      congr 2
      funext x
      by_cases hx : x.1 = q
      · simp [hx, hpf]
      · simp [hx]

/-! ### Plain volumes stay plain -/

/-- Setting an entry other than a link keeps a volume plain when the parents of its path are
directories, its names fit, and a directory is put there or nothing with children is
replaced. -/
theorem Plain.setEntry {real : List String} {e : Entry} (hv : v.Plain) (hr : real ≠ [])
    (hdirs : ∀ q, q <+: real → q ≠ real → v.entryAt q = some .dir) (he : ∀ t, e ≠ .link t)
    (hfit : ∀ c ∈ real, c.utf8ByteSize ≤ maxNameBytes)
    (hkids : e = .dir ∨ v.entryAt real ≠ some .dir) : (v.setEntry real e).Plain := by
  refine ⟨by simp [Volume.setEntry, hr, hv.root], fun p t => ?_, fun p e' hp q hq hne => ?_,
    fun p e' hp => ?_⟩
  · rw [entryAt_setEntry hr]
    split
    · simpa using he t
    · exact hv.noLinks p t
  · rw [entryAt_setEntry hr] at hp ⊢
    by_cases hpr : p = real
    · subst hpr
      rw [if_neg hne, hdirs q hq hne]
    · rw [if_neg hpr] at hp
      have hq' := hv.parents p e' hp q hq hne
      by_cases hqr : q = real
      · subst hqr
        -- a directory with children is only replaced by a directory
        rcases hkids with rfl | hkids
        · simp
        · exact absurd hq' hkids
      · rw [if_neg hqr, hq']
  · rw [entryAt_setEntry hr] at hp
    by_cases hpr : p = real
    · rw [hpr]
      exact hfit
    · rw [if_neg hpr] at hp
      exact hv.fits p e' hp

theorem Plain.dropTree {real : List String} (hv : v.Plain) (hr : real ≠ []) :
    (v.dropTree real).Plain := by
  refine ⟨hv.root, fun p t => ?_, fun p e hp q hq hne => ?_, fun p e hp => ?_⟩
  · rw [entryAt_dropTree hr]
    split
    · simp
    · exact hv.noLinks p t
  · rw [entryAt_dropTree hr] at hp ⊢
    by_cases hrp : real <+: p
    · rw [if_pos hrp] at hp
      cases hp
    · rw [if_neg hrp] at hp
      -- a parent of an entry that stays is not below `real` either
      have hrq : ¬ real <+: q := fun h => hrp (h.trans hq)
      rw [if_neg hrq]
      exact hv.parents p e hp q hq hne
  · rw [entryAt_dropTree hr] at hp
    split at hp
    · cases hp
    · exact hv.fits p e hp

/-- The volume with only its root is plain. -/
theorem plain_empty : ({} : Volume).Plain := by
  -- only the root has an entry
  have hroot : ∀ p e, ({} : Volume).entryAt p = some e → p = [] := by
    intro p e h
    cases p with
    | nil => rfl
    | cons c p => simp [entryAt] at h
  refine ⟨rfl, fun p t h => ?_, fun p e h q hq hne => ?_, fun p e h c hc => ?_⟩
  · obtain rfl := hroot p _ h
    simp [entryAt] at h
  · obtain rfl := hroot p e h
    exact absurd (List.prefix_nil.1 hq) hne
  · obtain rfl := hroot p e h
    cases hc

/-- In a plain volume the parent of an entry is a directory. -/
theorem Plain.entryAt_eq_none {p : List String} (hv : v.Plain) {q : List String} (hq : q <+: p)
    (hne : q ≠ p) (hd : v.entryAt q ≠ some .dir) : v.entryAt p = none := by
  cases hp : v.entryAt p with
  | none => rfl
  | some e => exact absurd (hv.parents p e hp q hq hne) hd

/-- In a plain volume a path with a name too long holds nothing. -/
theorem Plain.entryAt_of_long {p : List String} {c : String} (hv : v.Plain) (hc : c ∈ p)
    (hlong : maxNameBytes < c.utf8ByteSize) : v.entryAt p = none := by
  cases hp : v.entryAt p with
  | none => rfl
  | some e => exact absurd (hv.fits p e hp c hc) (by omega)

/-! ### Looking up a path -/

theorem dirsAlong_nil {acc : List String} : DirsAlong v acc [] ↔ v.entryAt acc = some .dir := by
  simp [DirsAlong]

/-- What holds of every prefix of `c :: l` holds of the empty path and of `c` before every prefix
of `l`. -/
theorem forall_prefix_cons {P : List String → Prop} {c : String} {l : List String} :
    (∀ q, q <+: c :: l → P q) ↔ P [] ∧ ∀ q, q <+: l → P (c :: q) := by
  simp only [List.prefix_cons_iff]
  constructor
  · intro h
    exact ⟨h [] (.inl rfl), fun q hq => h (c :: q) (.inr ⟨q, rfl, hq⟩)⟩
  · rintro ⟨hnil, hl⟩ q (rfl | ⟨t, rfl, ht⟩)
    · exact hnil
    · exact hl t ht

theorem dirsAlong_cons {acc l : List String} {c : String} :
    DirsAlong v acc (c :: l) ↔ v.entryAt acc = some .dir ∧ DirsAlong v (acc ++ [c]) l := by
  unfold DirsAlong
  rw [forall_prefix_cons]
  simp only [List.append_nil, List.append_assoc, List.singleton_append]

theorem noFileAlong_cons {acc l : List String} {c : String} :
    NoFileAlong v acc (c :: l) ↔
      (∀ b, v.entryAt acc ≠ some (.file b)) ∧ NoFileAlong v (acc ++ [c]) l := by
  unfold NoFileAlong
  rw [forall_prefix_cons]
  simp only [List.append_nil, List.append_assoc, List.singleton_append]

section Walk

variable {fl : Bool} {fuel : Nat}

/-- One step of a lookup at an ordinary name goes to the entry of that name. -/
theorem walk_cons {acc rest : List String} {c : String} (hv : v.Plain) (hc : Ordinary c) :
    v.walk fl fuel acc (c :: rest) =
      match v.entryAt (acc ++ [c]) with
      | some .dir => v.walk fl fuel (acc ++ [c]) rest
      | some e => if rest.isEmpty then .ok ⟨acc ++ [c], some e⟩ else .error .notDirectory
      | none => if rest.isEmpty then .ok ⟨acc ++ [c], none⟩ else .error .noEntry := by
  have h1 : (c == "" || c == ".") = false := by simp [hc.ne_empty, hc.ne_dot]
  have h2 : (c == "..") = false := by simp [hc.ne_dotdot]
  have h3 : (acc.isEmpty && !v.hasRoot) = false := by simp [hv.root]
  have h4 : ¬ c.utf8ByteSize > maxNameBytes := Nat.not_lt.2 hc.fits
  rw [walk]
  simp only [h1, h2, h3, h4, Bool.false_eq_true, if_false]
  cases he : v.entryAt (acc ++ [c]) with
  | none => rfl
  | some e =>
    cases e with
    | dir => rfl
    | file b => rfl
    | link t => exact absurd he (hv.noLinks _ t)

/-- **A lookup along directories reaches the path itself.** -/
theorem walk_of_dirs (hv : v.Plain) {acc rest : List String} (hr : ∀ c ∈ rest, Ordinary c)
    (hd : DirsAlong v acc rest.dropLast) :
    v.walk fl fuel acc rest = .ok ⟨acc ++ rest, v.entryAt (acc ++ rest)⟩ := by
  induction rest generalizing acc with
  | nil => simp [walk]
  | cons c rest ih =>
    rw [walk_cons hv (hr c (by simp))]
    cases rest with
    | nil =>
      cases he : v.entryAt (acc ++ [c]) with
      | none => rfl
      | some e =>
        cases e with
        | dir => simp [walk, he]
        | file b => rfl
        | link t => rfl
    | cons d rest =>
      -- the next name is a directory on the way, and the lookup goes on from it
      rw [List.dropLast_cons_cons, dirsAlong_cons] at hd
      obtain ⟨-, hd⟩ := hd
      have hc : v.entryAt (acc ++ [c]) = some .dir := by
        simpa using hd [] List.nil_prefix
      rw [hc]
      simpa using ih (fun x hx => hr x (by simp [hx])) hd

/-- **A lookup with a gap on its way fails**: with `noEntry` when no file stands on the way,
and with `notDirectory` when one does. -/
theorem walk_of_gap (hv : v.Plain) {acc rest : List String}
    (hr : ∀ c ∈ rest.dropLast, Ordinary c)
    (hacc : v.entryAt acc = some .dir) (hd : ¬ DirsAlong v acc rest.dropLast) :
    (NoFileAlong v acc rest.dropLast → v.walk fl fuel acc rest = .error .noEntry) ∧
      (¬ NoFileAlong v acc rest.dropLast → v.walk fl fuel acc rest = .error .notDirectory) := by
  induction rest generalizing acc with
  | nil => exact absurd (dirsAlong_nil.2 hacc) hd
  | cons c rest ih =>
    cases rest with
    | nil => exact absurd (dirsAlong_nil.2 hacc) hd
    | cons d rest =>
      rw [List.dropLast_cons_cons] at hr
      rw [walk_cons hv (hr c (by simp))]
      rw [List.dropLast_cons_cons] at hd ⊢
      rw [dirsAlong_cons, not_and] at hd
      have hno : (∀ b, v.entryAt acc ≠ some (.file b)) := fun b h => by simp [hacc] at h
      cases he : v.entryAt (acc ++ [c]) with
      | none =>
        -- nothing stands below a missing directory, so no file is on the way
        have hnofile : NoFileAlong v acc (c :: (d :: rest).dropLast) := by
          refine noFileAlong_cons.2 ⟨hno, fun q _ b hq => ?_⟩
          have hnone := hv.entryAt_eq_none (List.prefix_append (acc ++ [c]) q)
          by_cases hq0 : q = []
          · subst hq0
            simp [he] at hq
          · rw [hnone (by simpa using hq0) (by simp [he])] at hq
            cases hq
        exact ⟨fun _ => rfl, fun h => absurd hnofile h⟩
      | some e =>
        cases e with
        | dir =>
          have ih' := ih (fun x hx => hr x (List.mem_cons_of_mem c hx)) he (hd hacc)
          simp only [noFileAlong_cons, not_and]
          exact ⟨fun h => ih'.1 h.2, fun h => ih'.2 (h hno)⟩
        | file b =>
          have hfile : ¬ NoFileAlong v acc (c :: (d :: rest).dropLast) := fun h =>
            (noFileAlong_cons.1 h).2 [] List.nil_prefix b (by simpa using he)
          exact ⟨fun h => absurd h hfile, fun _ => rfl⟩
        | link t => exact absurd he (hv.noLinks _ t)

/-- A lookup along directories whose last name is too long fails. -/
theorem walk_of_long (hv : v.Plain) {acc pre : List String} {c : String}
    (hr : ∀ x ∈ pre, Ordinary x) (hd : DirsAlong v acc pre)
    (hc : c ≠ "" ∧ c ≠ "." ∧ c ≠ "..")
    (hlong : maxNameBytes < c.utf8ByteSize) :
    v.walk fl fuel acc (pre ++ [c]) = .error .nameTooLong := by
  induction pre generalizing acc with
  | nil =>
    have hacc : v.entryAt acc = some .dir := dirsAlong_nil.1 hd
    have h1 : (c == "" || c == ".") = false := by simp [hc.1, hc.2.1]
    have h2 : (c == "..") = false := by simp [hc.2.2]
    have h3 : (acc.isEmpty && !v.hasRoot) = false := by simp [hv.root]
    rw [List.nil_append, walk]
    simp only [h1, h2, h3, Bool.false_eq_true, if_false, if_pos hlong]
  | cons x pre ih =>
    rw [List.cons_append, walk_cons hv (hr x (by simp))]
    obtain ⟨-, hd⟩ := dirsAlong_cons.1 hd
    have hx : v.entryAt (acc ++ [x]) = some .dir := by simpa using hd [] List.nil_prefix
    rw [hx]
    exact ih (fun y hy => hr y (by simp [hy])) hd

end Walk

/-! ### The way to a path -/

theorem prefix_iff_eq_or_dropLast {q p : List String} : q <+: p ↔ q = p ∨ q <+: p.dropLast := by
  constructor
  · intro hq
    by_cases hne : q = p
    · exact .inl hne
    · -- a proper prefix is one name shorter at least
      have hlen : q.length ≠ p.length := fun h => hne (hq.eq_of_length h)
      have hle := hq.length_le
      refine .inr (List.prefix_of_prefix_length_le hq (List.dropLast_prefix p) ?_)
      rw [List.length_dropLast]
      omega
  · rintro (rfl | hq)
    · exact List.prefix_refl q
    · exact hq.trans (List.dropLast_prefix p)

theorem ne_of_prefix_dropLast {q p : List String} (hp : p ≠ []) (hq : q <+: p.dropLast) :
    q ≠ p := by
  rintro rfl
  have hle := hq.length_le
  have hpos : q.length ≠ 0 := by simpa using hp
  rw [List.length_dropLast] at hle
  omega

/-- What holds of every prefix of a path holds of the prefixes of its parent and of the path. -/
theorem forall_prefix_dropLast {P : List String → Prop} {p : List String} :
    (∀ q, q <+: p → P q) ↔ (∀ q, q <+: p.dropLast → P q) ∧ P p := by
  constructor
  · intro h
    exact ⟨fun q hq => h q (hq.trans (List.dropLast_prefix p)), h p (List.prefix_refl p)⟩
  · rintro ⟨hd, hp⟩ q hq
    rcases prefix_iff_eq_or_dropLast.1 hq with rfl | hq
    · exact hp
    · exact hd q hq

theorem dirsAlong_self_iff {p : List String} :
    DirsAlong v [] p ↔ DirsAlong v [] p.dropLast ∧ v.entryAt p = some .dir :=
  forall_prefix_dropLast

theorem noFileAlong_self_iff {p : List String} :
    NoFileAlong v [] p ↔ NoFileAlong v [] p.dropLast ∧ ∀ b, v.entryAt p ≠ some (.file b) :=
  forall_prefix_dropLast

theorem DirsAlong.noFileAlong {acc l : List String} (hd : DirsAlong v acc l) :
    NoFileAlong v acc l :=
  fun q hq b h => by
    rw [hd q hq] at h
    cases h

/-- Along directories, every proper prefix of a path is a directory. -/
theorem DirsAlong.parents {p : List String} (hd : DirsAlong v [] p.dropLast) :
    ∀ q, q <+: p → q ≠ p → v.entryAt q = some .dir :=
  fun q hq hne => hd q ((prefix_iff_eq_or_dropLast.1 hq).resolve_left hne)

/-- Setting the entry of a path keeps the directories on its way. -/
theorem DirsAlong.setEntry {p : List String} {e : Entry} (hd : DirsAlong v [] p.dropLast)
    (hp : p ≠ []) : DirsAlong (v.setEntry p e) [] p.dropLast := by
  intro q hq
  rw [List.nil_append, entryAt_setEntry hp, if_neg (ne_of_prefix_dropLast hp hq)]
  exact hd q hq

/-- Putting a file where no directory stands, along directories, keeps a volume plain. -/
theorem Plain.setEntry_file {p : List String} {b : Blob} (hv : v.Plain)
    (hd : DirsAlong v [] p.dropLast) (hp : p ≠ []) (hfit : ∀ c ∈ p, c.utf8ByteSize ≤ maxNameBytes)
    (hnd : v.entryAt p ≠ some .dir) :
    (v.setEntry p (.file b)).Plain :=
  hv.setEntry hp hd.parents (fun _ h => by cases h) hfit (.inr hnd)

theorem Plain.rootDir (hv : v.Plain) : v.entryAt [] = some .dir := by
  simp [entryAt, hv.root]

/-- A path with a gap on its way holds nothing. -/
theorem Plain.entryAt_of_gap (hv : v.Plain) {p : List String} (hd : ¬ DirsAlong v [] p.dropLast) :
    v.entryAt p = none := by
  simp only [DirsAlong, List.nil_append, Classical.not_forall] at hd
  obtain ⟨q, hq, hne⟩ := hd
  have hqp : q <+: p := hq.trans (List.dropLast_prefix p)
  refine hv.entryAt_eq_none hqp (fun h => ?_) hne
  -- were `q` the path itself, it would be no longer than `p.dropLast`, so the root
  have hlen := hq.length_le
  rw [h, List.length_dropLast] at hlen
  have hp0 : p = [] := List.eq_nil_of_length_eq_zero (by omega)
  exact hne (by rw [h, hp0]; exact hv.rootDir)

/-! ### Operations along directories -/

theorem OsError.isOs_kind (e : OsError) : e.kind.isOs = true := by
  cases e <;> rfl

section Ops

variable {p : List String}

theorem stat_of_dirs (hv : v.Plain) (hp : ∀ c ∈ p, Ordinary c) (hd : DirsAlong v [] p.dropLast) :
    v.stat p = .ok ⟨p, v.entryAt p⟩ := by
  unfold stat
  rw [walk_of_dirs hv hp hd, List.nil_append]

theorem lstat_of_dirs (hv : v.Plain) (hp : ∀ c ∈ p, Ordinary c) (hd : DirsAlong v [] p.dropLast) :
    v.lstat p = .ok ⟨p, v.entryAt p⟩ := by
  unfold lstat
  rw [walk_of_dirs hv hp hd, List.nil_append]

/-- A lookup with a gap on its way fails: with `noEntry` when no file stands on the way, and
with `notDirectory` when one does. -/
theorem lstat_of_gap (hv : v.Plain) (hp : ∀ c ∈ p, Ordinary c) (hd : ¬ DirsAlong v [] p.dropLast) :
    (NoFileAlong v [] p.dropLast → v.lstat p = .error .noEntry) ∧
      (¬ NoFileAlong v [] p.dropLast → v.lstat p = .error .notDirectory) :=
  walk_of_gap hv (fun c hc => hp c (List.dropLast_subset _ hc)) hv.rootDir hd

/-- Writing a file along directories replaces what is there, unless it is a directory. -/
theorem writeFile_of_dirs (hv : v.Plain) (hp : ∀ c ∈ p, Ordinary c) (hd : DirsAlong v [] p.dropLast)
    (b : Blob) :
    (v.entryAt p = some .dir → v.writeFile p b = .error (OsError.isDirectory.about p)) ∧
      (v.entryAt p ≠ some .dir → v.writeFile p b = .ok (v.setEntry p (.file b))) := by
  unfold writeFile
  rw [stat_of_dirs hv hp hd]
  refine ⟨fun he => by rw [he], fun he => ?_⟩
  cases he' : v.entryAt p with
  | none => rfl
  | some e =>
    cases e with
    | dir => exact absurd he' he
    | file b' => rfl
    | link t => rfl

/-- Writing a file at a name other than `""`, `.` and `..`, along directories: it succeeds
when the name fits and no directory stands there, and otherwise fails with a system error. -/
theorem writeFile_along {pre : List String} {c : String} (hv : v.Plain)
    (hpre : ∀ x ∈ pre, Ordinary x) (hd : DirsAlong v [] pre) (hc : c ≠ "" ∧ c ≠ "." ∧ c ≠ "..") (b : Blob) :
    (Ordinary c ∧ v.entryAt (pre ++ [c]) ≠ some .dir →
      v.writeFile (pre ++ [c]) b = .ok (v.setEntry (pre ++ [c]) (.file b))) ∧
    (¬ (Ordinary c ∧ v.entryAt (pre ++ [c]) ≠ some .dir) →
      ∃ f, v.writeFile (pre ++ [c]) b = .error f ∧ f.kind.isOs = true) := by
  by_cases hfit : c.utf8ByteSize ≤ maxNameBytes
  · have hcord : Ordinary c := ⟨hc.1, hc.2.1, hc.2.2, hfit⟩
    have hall : ∀ x ∈ pre ++ [c], Ordinary x := by
      intro x hx
      rcases List.mem_append.1 hx with hx | hx
      · exact hpre x hx
      · rw [List.mem_singleton.1 hx]
        exact hcord
    have hw := writeFile_of_dirs hv hall (by rw [List.dropLast_concat]; exact hd) b
    -- with a name that fits, only a directory there stops the write
    refine ⟨fun h => hw.2 h.2, fun h => ⟨_, hw.1 ?_, OsError.isOs_kind .isDirectory⟩⟩
    exact Classical.not_not.1 fun hne => h ⟨hcord, hne⟩
  · refine ⟨fun h => absurd h.1.fits hfit, fun _ =>
    ⟨OsError.nameTooLong.about (pre ++ [c]), ?_, OsError.isOs_kind .nameTooLong⟩⟩
    unfold writeFile stat
    rw [walk_of_long hv hpre hd hc (by omega)]
    rfl

/-- Writing a file again where one was just written, along directories, replaces it. -/
theorem writeFile_over_file {pre : List String} {c : String} (hv : v.Plain)
    (hpre : ∀ x ∈ pre, Ordinary x) (hd : DirsAlong v [] pre) (hc : Ordinary c)
    (hnd : v.entryAt (pre ++ [c]) ≠ some .dir) (b b' : Blob) :
    (v.setEntry (pre ++ [c]) (.file b)).writeFile (pre ++ [c]) b' =
      .ok (v.setEntry (pre ++ [c]) (.file b')) := by
  have hp0 : pre ++ [c] ≠ [] := by simp
  have hd' : DirsAlong v [] (pre ++ [c]).dropLast := by
    rw [List.dropLast_concat]
    exact hd
  have hfit : ∀ x ∈ pre ++ [c], x.utf8ByteSize ≤ maxNameBytes := by
    intro x hx
    rcases List.mem_append.1 hx with hx | hx
    · exact (hpre x hx).fits
    · rw [List.mem_singleton.1 hx]
      exact hc.fits
  -- the first write keeps the directories on the way and leaves a file, not a directory
  have hd₁ : DirsAlong (v.setEntry (pre ++ [c]) (.file b)) [] pre := by
    simpa using hd'.setEntry hp0
  have hnd₁ : (v.setEntry (pre ++ [c]) (.file b)).entryAt (pre ++ [c]) ≠ some .dir := by
    rw [entryAt_setEntry hp0, if_pos rfl]
    simp
  rw [(writeFile_along (hv.setEntry_file hd' hp0 hfit hnd) hpre hd₁
    ⟨hc.ne_empty, hc.ne_dot, hc.ne_dotdot⟩ b').1 ⟨hc, hnd₁⟩, setEntry_setEntry]

/-- In a plain volume, removing a file drops it and what fails finds no file there. -/
theorem unlink_plain (hv : v.Plain) (hp : ∀ c ∈ p, Ordinary c) :
    (∀ v', v.unlink p = .ok v' → v' = v.dropTree p) ∧
      (∀ f, v.unlink p = .error f → ∀ b, v.entryAt p ≠ some (.file b)) := by
  unfold unlink
  by_cases hd : DirsAlong v [] p.dropLast
  · rw [lstat_of_dirs hv hp hd]
    cases he : v.entryAt p with
    | none => exact ⟨(fun _ h => by cases h), (fun _ _ _ h => by cases h)⟩
    | some e =>
      cases e with
      | dir => exact ⟨(fun _ h => by cases h), (fun _ _ _ h => by cases h)⟩
      | file b => exact ⟨(fun _ h => (Except.ok.inj h).symm), (fun _ h => by cases h)⟩
      | link t => exact absurd he (hv.noLinks p t)
  · -- a lookup through the gap fails, and nothing stands behind it
    have hnone := hv.entryAt_of_gap hd
    refine ⟨fun v' h => ?_, fun _ _ b h => by rw [hnone] at h; cases h⟩
    by_cases hn : NoFileAlong v [] p.dropLast
    · rw [(lstat_of_gap hv hp hd).1 hn] at h
      cases h
    · rw [(lstat_of_gap hv hp hd).2 hn] at h
      cases h

/-- Removing a path whose last name is too long fails: its lookup fails. -/
theorem unlink_of_long {pre : List String} {c : String} (hv : v.Plain)
    (hpre : ∀ x ∈ pre, Ordinary x)
    (hc : c ≠ "" ∧ c ≠ "." ∧ c ≠ "..") (hlong : maxNameBytes < c.utf8ByteSize) :
    ∃ f, v.unlink (pre ++ [c]) = .error f := by
  unfold unlink lstat
  by_cases hd : DirsAlong v [] pre
  · rw [walk_of_long hv hpre hd hc hlong]
    exact ⟨_, rfl⟩
  · -- the lookup stops at the gap, before the long name
    have hpre' : ∀ x ∈ (pre ++ [c]).dropLast, Ordinary x := by rwa [List.dropLast_concat]
    have hd' : ¬ DirsAlong v [] (pre ++ [c]).dropLast := by rwa [List.dropLast_concat]
    by_cases hn : NoFileAlong v [] (pre ++ [c]).dropLast
    · rw [(walk_of_gap hv hpre' hv.rootDir hd').1 hn]
      exact ⟨_, rfl⟩
    · rw [(walk_of_gap hv hpre' hv.rootDir hd').2 hn]
      exact ⟨_, rfl⟩

theorem endsInDots_of_ordinary (hp : ∀ c ∈ p, Ordinary c) : endsInDots p = false := by
  unfold endsInDots
  cases hl : p.getLast? with
  | none => rfl
  | some c =>
    have hc := hp c (List.mem_of_getLast? hl)
    simp [hc.ne_dot, hc.ne_dotdot]

/-- Moving an entry along directories to another path along directories: a directory there
fails, anything else is replaced. -/
theorem replace_of_dirs {src : List String} {e : Entry} (hv : v.Plain) (hs : ∀ c ∈ src, Ordinary c)
    (hp : ∀ c ∈ p, Ordinary c) (hds : DirsAlong v [] src.dropLast) (hd : DirsAlong v [] p.dropLast)
    (he : v.entryAt src = some e) :
    (v.entryAt p = some .dir → v.replace src p = .error (OsError.isDirectory.aboutMove src p)) ∧
      (v.entryAt p ≠ some .dir → v.replace src p = .ok ((v.dropTree src).setEntry p e)) := by
  unfold replace
  simp only [endsInDots_of_ordinary hs, endsInDots_of_ordinary hp, Bool.or_self, Bool.false_eq_true,
    ↓reduceIte, lstat_of_dirs hv hs hds, lstat_of_dirs hv hp hd, he]
  refine ⟨fun hdir => by rw [hdir], fun hdir => ?_⟩
  cases h : v.entryAt p with
  | none => rfl
  | some e' =>
    cases e' with
    | dir => exact absurd h hdir
    | file b => rfl
    | link t => rfl

/-! ### Making directories -/

/-- Along directories, making a directory puts one where nothing is, keeps one that is there,
and fails on a file. -/
theorem mkdir_of_dirs (hv : v.Plain) (hp : ∀ c ∈ p, Ordinary c) (hd : DirsAlong v [] p.dropLast) :
    (v.entryAt p = none → v.mkdir p = .ok (v.setEntry p .dir)) ∧
      (v.entryAt p = some .dir → v.mkdir p = .ok v) ∧
      (∀ b, v.entryAt p = some (.file b) → v.mkdir p = .error .exists) := by
  have hs := stat_of_dirs hv hp hd
  unfold mkdir
  rw [lstat_of_dirs hv hp hd]
  refine ⟨fun he => by rw [he], fun he => ?_, fun b he => ?_⟩
  · simp [he, isDir, target?, hs]
  · simp [he, isDir, target?, hs]

/-- With a gap on its way, making a directory fails: with `noEntry` when no file is on the way. -/
theorem mkdir_of_gap (hv : v.Plain) (hp : ∀ c ∈ p, Ordinary c) (hd : ¬ DirsAlong v [] p.dropLast) :
    (NoFileAlong v [] p.dropLast → v.mkdir p = .error .noEntry) ∧
      (¬ NoFileAlong v [] p.dropLast → v.mkdir p = .error .notDirectory) := by
  unfold mkdir
  exact ⟨fun hn => by rw [(lstat_of_gap hv hp hd).1 hn]; rfl,
    fun hn => by rw [(lstat_of_gap hv hp hd).2 hn]; rfl⟩

end Ops

/-- What making the directories of a path did to a plain volume `v`, ending with `r`: the volume
is plain, nothing off the prefixes of the path changed, it succeeded exactly when no file stood on
the path, and then every directory of the path is there; a failure is a system error. -/
structure MadeDirs (v : Volume) (p : List String) (r : Volume × Option Failure) : Prop where
  plain : r.1.Plain
  frame : ∀ q, ¬ q <+: p → r.1.entryAt q = v.entryAt q
  ok_iff : r.2 = none ↔ NoFileAlong v [] p
  dirs : r.2 = none → DirsAlong r.1 [] p
  os : ∀ f, r.2 = some f → f.kind.isOs = true

section Made

variable {p : List String}

theorem madeDirs_fail (hv : v.Plain) (hn : ¬ NoFileAlong v [] p) (e : OsError) :
    MadeDirs v p (v, some (e.about p)) where
  plain := hv
  frame _ _ := rfl
  ok_iff := ⟨fun h => (by cases h), fun h => absurd h hn⟩
  dirs h := by cases h
  os _ h := by
    cases h
    exact OsError.isOs_kind e

theorem madeDirs_present (hv : v.Plain) (hd : DirsAlong v [] p) : MadeDirs v p (v, none) where
  plain := hv
  frame _ _ := rfl
  ok_iff := ⟨fun _ => hd.noFileAlong, fun _ => rfl⟩
  dirs _ := hd
  os _ h := by cases h

/-- The last directory made: `v'` has the directories on the way, changed nothing off it, and
nothing stands at the path itself. -/
theorem madeDirs_setEntry {v' : Volume} (hv' : v'.Plain) (hp : ∀ c ∈ p, Ordinary c)
    (hd : DirsAlong v' [] p.dropLast) (hnone : v'.entryAt p = none)
    (hframe : ∀ q, ¬ q <+: p.dropLast → v'.entryAt q = v.entryAt q) (hn : NoFileAlong v [] p) :
    MadeDirs v p (v'.setEntry p .dir, none) := by
  have hp0 : p ≠ [] := by
    rintro rfl
    rw [hv'.rootDir] at hnone
    cases hnone
  refine ⟨hv'.setEntry hp0 hd.parents (fun _ h => by cases h) (fun c hc => (hp c hc).fits)
    (.inl rfl), fun q hq => ?_,
    ⟨fun _ => hn, fun _ => rfl⟩, fun _ => ?_, fun _ h => by cases h⟩
  · have hqp : q ≠ p := fun h => hq (h ▸ List.prefix_refl q)
    rw [entryAt_setEntry hp0, if_neg hqp]
    exact hframe q fun h => hq (h.trans (List.dropLast_prefix p))
  · refine dirsAlong_self_iff.2 ⟨hd.setEntry hp0, ?_⟩
    rw [entryAt_setEntry hp0, if_pos rfl]

/-- Along directories, making the directories of a path is one `mkdir`, whatever the fuel. -/
theorem mkdirsFrom_of_dirs (hv : v.Plain) (hp : ∀ c ∈ p, Ordinary c)
    (hd : DirsAlong v [] p.dropLast) (fuel : Nat) : MadeDirs v p (v.mkdirsFrom fuel p) := by
  obtain ⟨hnone, hdir, hfile⟩ := mkdir_of_dirs hv hp hd
  rw [mkdirsFrom.eq_def]
  dsimp only
  cases he : v.entryAt p with
  | none =>
    rw [hnone he]
    refine madeDirs_setEntry hv hp hd he (fun _ _ => rfl)
      (noFileAlong_self_iff.2 ⟨hd.noFileAlong, ?_⟩)
    simp [he]
  | some e =>
    cases e with
    | dir =>
      rw [hdir he]
      exact madeDirs_present hv (dirsAlong_self_iff.2 ⟨hd, he⟩)
    | file b =>
      rw [hfile b he]
      exact madeDirs_fail hv (fun h => (noFileAlong_self_iff.1 h).2 b he) _
    | link t => exact absurd he (hv.noLinks p t)

/-- **Making directories.** In a plain volume, making the directories of a path of ordinary names
with enough fuel for each of its names does what `MadeDirs` says. -/
theorem mkdirsFrom_made (hv : v.Plain) (fuel : Nat) :
    ∀ p : List String, p.length ≤ fuel → (∀ c ∈ p, Ordinary c) →
      MadeDirs v p (v.mkdirsFrom fuel p) := by
  induction fuel with
  | zero =>
    intro p hlen hp
    -- with no fuel the path is the root, which is there
    have hp0 : p = [] := List.eq_nil_of_length_eq_zero (by omega)
    subst hp0
    exact mkdirsFrom_of_dirs hv hp (dirsAlong_nil.2 hv.rootDir) 0
  | succ fuel ih =>
    intro p hlen hp
    by_cases hd : DirsAlong v [] p.dropLast
    · exact mkdirsFrom_of_dirs hv hp hd _
    by_cases hn : NoFileAlong v [] p.dropLast
    · -- only directories are missing: the way is made first, then the path
      have hp0 : p ≠ [] := by
        rintro rfl
        exact hd (dirsAlong_nil.2 hv.rootDir)
      have hm := ih p.dropLast (by rw [List.length_dropLast]; omega)
        fun c hc => hp c (List.dropLast_subset p hc)
      have hnone : v.entryAt p = none := hv.entryAt_of_gap hd
      rw [mkdirsFrom, (mkdir_of_gap hv hp hd).1 hn]
      rcases hr : v.mkdirsFrom fuel p.dropLast with ⟨v', _ | f⟩
      · dsimp only
        rw [hr] at hm
        have hd' : DirsAlong v' [] p.dropLast := hm.dirs rfl
        have hnone' : v'.entryAt p = none := by
          rw [hm.frame p fun h => ne_of_prefix_dropLast hp0 h rfl, hnone]
        rw [(mkdir_of_dirs hm.plain hp hd').1 hnone']
        refine madeDirs_setEntry hm.plain hp hd' hnone' hm.frame (noFileAlong_self_iff.2 ⟨hn, ?_⟩)
        simp [hnone]
      · rw [hr] at hm
        exact absurd (hm.ok_iff.2 hn) (by simp)
    · rw [mkdirsFrom, (mkdir_of_gap hv hp hd).2 hn]
      exact madeDirs_fail hv (fun h => hn (noFileAlong_self_iff.1 h).1) _

theorem makeDirs_made (hv : v.Plain) (hp : ∀ c ∈ p, Ordinary c) : MadeDirs v p (v.makeDirs p) :=
  mkdirsFrom_made hv _ p (Nat.le_refl _) hp

end Made

end Volume

end AddonCatalog
