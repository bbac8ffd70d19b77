import AddonCatalog.Proofs.Files.Footprint
/-!
# Volumes that agree on a region

Two volumes agree on a region `R` when every path of it has the same entry in both
(`Volume.AgreeOn`). On plain volumes a lookup of proper names reads only the entries on its way
(`walk_congr`): where the region holds every prefix of a path, the lookup answers alike on both
volumes, and so does every operation on the path; the volumes it leaves agree on the region
again (`writeFile_congr`, `mkdirsFrom_congr`, `removeTree_congr`).

Listing a directory reads the entries themselves rather than the entry of each path. On volumes
whose entries have distinct paths (`Volume.Keyed`) the listing is fixed by the entries of the
directory's children (`names_congr`), and every operation keeps the paths distinct.
-/

namespace AddonCatalog

namespace Volume

/-- Every path of the region has the same entry in both volumes. -/
def AgreeOn (R : List String → Prop) (v v' : Volume) : Prop :=
  ∀ q, R q → v.entryAt q = v'.entryAt q

/-- The way to `D`, and everything at or below it. -/
def Along (D q : List String) : Prop := q <+: D ∨ D <+: q

variable {R : List String → Prop} {v v' : Volume} {p : List String}

theorem along_of_common_path {D q : List String} (hp : D <+: p) (hq : q <+: p) : Along D q :=
  List.prefix_or_prefix_of_prefix hq hp

/-! ### Lookups -/

theorem stat_of_entryAt (hv : v.Plain) (hp : ∀ c ∈ p, Proper c) {e : Entry}
    (he : v.entryAt p = some e) : v.stat p = .ok ⟨p, some e⟩ := by
  have hord : ∀ c ∈ p, Ordinary c := fun c hc => (hp c hc).ordinary (hv.fits p e he c hc)
  rw [stat_of_dirs hv hord (hv.dirsAlong_of_entryAt he), he]

/-- On a plain volume a path of proper names leads to what stands there, a name too long
leading nowhere. -/
theorem target?_eq (hv : v.Plain) (hp : ∀ c ∈ p, Proper c) : v.target? p = v.entryAt p := by
  unfold target?
  cases he : v.entryAt p with
  | some e => rw [stat_of_entryAt hv hp he]
  | none =>
    rcases hs : v.stat p with w | pl
    · rfl
    · rw [(stat_eq_ok hv hp hs).1]
      exact he

theorem pathExists_eq (hv : v.Plain) (hp : ∀ c ∈ p, Proper c) :
    v.pathExists p = (v.entryAt p).isSome := by
  rw [pathExists, target?_eq hv hp]

theorem isDir_iff (hv : v.Plain) (hp : ∀ c ∈ p, Proper c) :
    v.isDir p = true ↔ v.entryAt p = some .dir := by
  rw [isDir, target?_eq hv hp]
  rcases v.entryAt p with _ | e
  · simp
  · cases e <;> simp

section Lookup

variable {fl : Bool} {fuel : Nat}

/-- **A lookup reads only its way.** On plain volumes, a lookup of proper names from `acc`
answers alike on two volumes whose entries agree at `acc` and below it along the names. -/
theorem walk_congr (hv : v.Plain) (hv' : v'.Plain) {acc rest : List String}
    (hr : ∀ c ∈ rest, Proper c)
    (hag : ∀ q, q <+: rest → v.entryAt (acc ++ q) = v'.entryAt (acc ++ q)) :
    v.walk fl fuel acc rest = v'.walk fl fuel acc rest := by
  induction rest generalizing acc with
  | nil =>
    have h := hag [] List.nil_prefix
    simp only [List.append_nil] at h
    simp [walk, h]
  | cons c rest ih =>
    have hc : Proper c := hr c List.mem_cons_self
    by_cases hfit : c.utf8ByteSize ≤ maxNameBytes
    case neg =>
      rw [walk_of_long_name hv hc (by omega), walk_of_long_name hv' hc (by omega)]
    have hco := hc.ordinary hfit
    have hhere : v.entryAt (acc ++ [c]) = v'.entryAt (acc ++ [c]) :=
      hag [c] (List.prefix_cons_inj c |>.2 List.nil_prefix)
    rw [walk_cons hv hco, walk_cons hv' hco, hhere]
    -- below a directory the lookup goes on, and the rest of the way still agrees
    cases v'.entryAt (acc ++ [c]) with
    | none => rfl
    | some e =>
      cases e with
      | dir =>
        refine ih (fun x hx => hr x (List.mem_cons_of_mem c hx)) fun q hq => ?_
        simpa using hag (c :: q) ((List.prefix_cons_inj c).2 hq)
      | file b => rfl
      | link t => rfl

theorem stat_congr (hv : v.Plain) (hv' : v'.Plain) (hp : ∀ c ∈ p, Proper c)
    (hag : ∀ q, q <+: p → v.entryAt q = v'.entryAt q) : v.stat p = v'.stat p :=
  walk_congr hv hv' hp fun q hq => by simpa using hag q hq

theorem lstat_congr (hv : v.Plain) (hv' : v'.Plain) (hp : ∀ c ∈ p, Proper c)
    (hag : ∀ q, q <+: p → v.entryAt q = v'.entryAt q) : v.lstat p = v'.lstat p :=
  walk_congr hv hv' hp fun q hq => by simpa using hag q hq

theorem content?_congr (hv : v.Plain) (hv' : v'.Plain) (hp : ∀ c ∈ p, Proper c)
    (hag : ∀ q, q <+: p → v.entryAt q = v'.entryAt q) : v.content? p = v'.content? p := by
  rw [content?, content?, target?, target?, stat_congr hv hv' hp hag]

theorem pathExists_congr (hv : v.Plain) (hv' : v'.Plain) (hp : ∀ c ∈ p, Proper c)
    (hag : ∀ q, q <+: p → v.entryAt q = v'.entryAt q) : v.pathExists p = v'.pathExists p := by
  rw [pathExists, pathExists, target?, target?, stat_congr hv hv' hp hag]

theorem isDir_congr (hv : v.Plain) (hv' : v'.Plain) (hp : ∀ c ∈ p, Proper c)
    (hag : ∀ q, q <+: p → v.entryAt q = v'.entryAt q) : v.isDir p = v'.isDir p := by
  rw [isDir, isDir, target?, target?, stat_congr hv hv' hp hag]

end Lookup

/-! ### Changes -/

theorem AgreeOn.setEntry (h : AgreeOn R v v') (real : List String) (e : Entry) :
    AgreeOn R (v.setEntry real e) (v'.setEntry real e) := by
  intro q hq
  by_cases hr : real = []
  · -- setting the root only makes it exist
    subst hr
    by_cases hq0 : q = []
    · subst hq0
      rfl
    · have h' := h q hq
      rwa [entryAt_of_ne_nil hq0, entryAt_of_ne_nil hq0] at h' ⊢
  · rw [entryAt_setEntry hr, entryAt_setEntry hr]
    split
    · rfl
    · exact h q hq

theorem AgreeOn.dropTree (h : AgreeOn R v v') {real : List String} (hr : real ≠ []) :
    AgreeOn R (v.dropTree real) (v'.dropTree real) := by
  intro q hq
  rw [entryAt_dropTree hr, entryAt_dropTree hr]
  split
  · rfl
  · exact h q hq

/-- What two runs of an operation answer, as far as the region can tell: the same failure, or
volumes that agree on the region. -/
def AgreeAfter {ε : Type} (R : List String → Prop) : Except ε Volume → Except ε Volume → Prop
  | .ok v, .ok v' => AgreeOn R v v'
  | .error e, .error e' => e = e'
  | _, _ => False

theorem AgreeAfter.error_or_ok {ε : Type} {x x' : Except ε Volume} (h : AgreeAfter R x x') :
    (∃ e, x = .error e ∧ x' = .error e) ∨ ∃ w w', x = .ok w ∧ x' = .ok w' ∧ AgreeOn R w w' := by
  rcases x with e | w <;> rcases x' with e' | w' <;> simp only [AgreeAfter] at h
  · exact .inl ⟨e, rfl, h ▸ rfl⟩
  · exact .inr ⟨w, w', rfl, rfl, h⟩

section Ops

variable (hv : v.Plain) (hv' : v'.Plain) (hp : ∀ c ∈ p, Proper c) (hR : ∀ q, q <+: p → R q)
  (h : AgreeOn R v v')
include hv hv' hp hR h

theorem writeFile_congr (b : Blob) : AgreeAfter R (v.writeFile p b) (v'.writeFile p b) := by
  unfold writeFile
  rw [stat_congr hv hv' hp fun q hq => h q (hR q hq)]
  rcases v'.stat p with e | ⟨real, _ | (_ | _ | _)⟩
  all_goals first | rfl | exact h.setEntry real _

theorem mkdir_congr : AgreeAfter R (v.mkdir p) (v'.mkdir p) := by
  have hag := fun q hq => h q (hR q hq)
  unfold mkdir
  rw [lstat_congr hv hv' hp hag, isDir_congr hv hv' hp hag]
  rcases v'.lstat p with e | ⟨real, _ | _⟩
  · rfl
  · exact h.setEntry real _
  · dsimp only
    split
    · exact h
    · rfl

theorem removeTree_congr (hp0 : p ≠ []) : AgreeAfter R (v.removeTree p) (v'.removeTree p) := by
  unfold removeTree
  rw [lstat_congr hv hv' hp fun q hq => h q (hR q hq)]
  rcases hl : v'.lstat p with e | ⟨real, _ | (_ | _ | _)⟩
  all_goals try rfl
  -- the tree removed is at the path itself
  have hreal : real = p := by
    have := (lstat_eq_ok hv' hp hl).1
    simp only [Place.mk.injEq] at this
    exact this.1
  subst hreal
  exact h.dropTree hp0

end Ops

/-- Making directories answers alike on volumes that agree on every prefix of the path, and
leaves volumes that agree on the region again. -/
theorem mkdirsFrom_congr (fuel : Nat) :
    ∀ {v v' : Volume} {p : List String}, v.Plain → v'.Plain → (∀ c ∈ p, Proper c) →
      (∀ q, q <+: p → R q) → AgreeOn R v v' →
      (v.mkdirsFrom fuel p).2 = (v'.mkdirsFrom fuel p).2 ∧
        AgreeOn R (v.mkdirsFrom fuel p).1 (v'.mkdirsFrom fuel p).1 := by
  induction fuel with
  | zero =>
    intro v v' p hv hv' hp hR h
    rw [mkdirsFrom.eq_def, mkdirsFrom.eq_def]
    dsimp only
    rcases (mkdir_congr hv hv' hp hR h).error_or_ok with ⟨e, he, he'⟩ | ⟨w, w', hw, hw', hagr⟩
    · rw [he, he']
      cases e <;> exact ⟨rfl, h⟩
    · rw [hw, hw']
      exact ⟨rfl, hagr⟩
  | succ fuel ih =>
    intro v v' p hv hv' hp hR h
    rw [mkdirsFrom.eq_def, mkdirsFrom.eq_def]
    dsimp only
    rcases (mkdir_congr hv hv' hp hR h).error_or_ok with ⟨e, he, he'⟩ | ⟨w, w', hw, hw', hagr⟩
    · rw [he, he']
      cases e
      case noEntry =>
        -- the parent first, on both volumes alike; then the path on what that left
        have hpar : ∀ c ∈ p.dropLast, Proper c := fun c hc => hp c (List.dropLast_subset _ hc)
        have hRpar : ∀ q, q <+: p.dropLast → R q :=
          fun q hq => hR q (hq.trans (List.dropLast_prefix p))
        obtain ⟨hf, hagr⟩ := ih hv hv' hpar hRpar h
        have hmade := mkdirsFrom_madeAlong hv fuel p.dropLast hpar
        have hmade' := mkdirsFrom_madeAlong hv' fuel p.dropLast hpar
        dsimp only
        generalize v.mkdirsFrom fuel p.dropLast = r at hf hagr hmade ⊢
        generalize v'.mkdirsFrom fuel p.dropLast = r' at hf hagr hmade' ⊢
        rcases r with ⟨w, _ | f⟩ <;> rcases r' with ⟨w', _ | f'⟩
        all_goals simp only [Option.some.injEq, reduceCtorEq] at hf
        · dsimp only
          rcases (mkdir_congr hmade.plain hmade'.plain hp hR hagr).error_or_ok with
            ⟨e₁, he₁, he₁'⟩ | ⟨w₁, w₁', hw₁, hw₁', hagr₁⟩
          · rw [he₁, he₁']
            exact ⟨rfl, hagr⟩
          · rw [hw₁, hw₁']
            exact ⟨rfl, hagr₁⟩
        · subst hf
          exact ⟨rfl, hagr⟩
      all_goals exact ⟨rfl, h⟩
    · rw [hw, hw']
      exact ⟨rfl, hagr⟩

theorem makeDirs_congr (hv : v.Plain) (hv' : v'.Plain) (hp : ∀ c ∈ p, Proper c)
    (hR : ∀ q, q <+: p → R q) (h : AgreeOn R v v') :
    (v.makeDirs p).2 = (v'.makeDirs p).2 ∧ AgreeOn R (v.makeDirs p).1 (v'.makeDirs p).1 :=
  mkdirsFrom_congr p.length hv hv' hp hR h

/-! ### Distinct paths -/

/-- No two entries of the volume are at one path. -/
def Keyed (v : Volume) : Prop := (v.entries.map (·.1)).Nodup

theorem Keyed.setEntry (hk : v.Keyed) (real : List String) (e : Entry) :
    (v.setEntry real e).Keyed := by
  unfold Keyed Volume.setEntry
  split
  · exact hk
  · -- the entries at the path are dropped before the new one is added
    rw [List.map_append, List.nodup_append]
    refine ⟨hk.sublist (List.filter_sublist.map _), by simp, ?_⟩
    intro a ha b hb
    obtain ⟨x, hx, rfl⟩ := List.mem_map.1 ha
    rw [List.mem_singleton.1 hb]
    simpa using (List.mem_filter.1 hx).2

theorem Keyed.dropTree (hk : v.Keyed) (real : List String) : (v.dropTree real).Keyed :=
  hk.sublist (List.filter_sublist.map _)

theorem Keyed.writeFile (hk : v.Keyed) {b : Blob} (h : v.writeFile p b = .ok v') : v'.Keyed := by
  unfold Volume.writeFile at h
  split at h
  · cases h
  · cases h
    exact hk.setEntry _ _
  · cases h

theorem Keyed.mkdir (hk : v.Keyed) (h : v.mkdir p = .ok v') : v'.Keyed := by
  unfold Volume.mkdir at h
  split at h
  · cases h
    exact hk.setEntry _ _
  · split at h
    · cases h
      exact hk
    · cases h
  · cases h

theorem Keyed.mkdirsFrom (hk : v.Keyed) (fuel : Nat) :
    ∀ p : List String, (v.mkdirsFrom fuel p).1.Keyed := by
  induction fuel with
  | zero =>
    intro p
    rw [mkdirsFrom.eq_def]
    dsimp only
    rcases hm : v.mkdir p with e | w
    · cases e <;> exact hk
    · exact hk.mkdir hm
  | succ fuel ih =>
    intro p
    rw [mkdirsFrom.eq_def]
    dsimp only
    rcases hm : v.mkdir p with e | w
    · cases e
      case noEntry =>
        dsimp only
        have hpar := ih p.dropLast
        rcases hr : v.mkdirsFrom fuel p.dropLast with ⟨w, _ | f⟩
        all_goals rw [hr] at hpar
        · dsimp only
          rcases hm₁ : w.mkdir p with e₁ | w₁
          · exact hpar
          · exact hpar.mkdir hm₁
        · exact hpar
      all_goals exact hk
    · exact hk.mkdir hm

theorem Keyed.makeDirs (hk : v.Keyed) (p : List String) : (v.makeDirs p).1.Keyed :=
  hk.mkdirsFrom _ p

theorem Keyed.removeTree (hk : v.Keyed) (h : v.removeTree p = .ok v') : v'.Keyed := by
  unfold Volume.removeTree at h
  split at h <;> cases h
  exact hk.dropTree _

theorem Keyed.removeTreeQuietly (hk : v.Keyed) (p : List String) :
    (v.removeTreeQuietly p).Keyed := by
  unfold Volume.removeTreeQuietly
  split
  · rename_i h
    exact hk.removeTree h
  · exact hk

/-! ### Listings -/

/-- Sorting by the order of names gives one list for every order of the same names. -/
theorem mergeSort_names_eq {l l' : List String} (h : l.Perm l') :
    l.mergeSort (fun a b => decide (a < b) || a == b) =
      l'.mergeSort (fun a b => decide (a < b) || a == b) := by
  have htrans : ∀ a b c : String, (decide (a < b) || a == b) = true →
      (decide (b < c) || b == c) = true → (decide (a < c) || a == c) = true := by
    intro a b c hab hbc
    simp only [Bool.or_eq_true, decide_eq_true_eq, beq_iff_eq] at hab hbc ⊢
    rcases hab with hab | rfl <;> rcases hbc with hbc | rfl
    · exact .inl (String.lt_trans hab hbc)
    · exact .inl hab
    · exact .inl hbc
    · exact .inr rfl
  have htotal : ∀ a b : String,
      ((decide (a < b) || a == b) || (decide (b < a) || b == a)) = true := by
    intro a b
    simp only [Bool.or_eq_true, decide_eq_true_eq, beq_iff_eq]
    by_cases hab : a < b
    · exact .inl (.inl hab)
    by_cases hba : b < a
    · exact .inr (.inl hba)
    exact .inl (.inr (String.le_antisymm (String.not_lt.1 hba) (String.not_lt.1 hab)))
  refine List.Perm.eq_of_pairwise (fun a b _ _ hab hba => ?_)
    (List.pairwise_mergeSort htrans htotal _) (List.pairwise_mergeSort htrans htotal _)
    ((List.mergeSort_perm _ _).trans (h.trans (List.mergeSort_perm _ _).symm))
  simp only [Bool.or_eq_true, decide_eq_true_eq, beq_iff_eq] at hab hba
  rcases hab with hab | rfl
  · rcases hba with hba | rfl
    · exact absurd hba (String.lt_asymm hab)
    · rfl
  · rfl

section Children

variable {D : List String}

theorem eq_of_dropLast_getLast? {q : List String} {x : String} (hd : q.dropLast = D)
    (hl : q.getLast? = some x) : q = D ++ [x] := by
  obtain ⟨ys, rfl⟩ := List.getLast?_eq_some_iff.1 hl
  rw [List.dropLast_concat] at hd
  rw [hd]

/-- The names of the children of `D` that the entries of a volume hold. -/
theorem mem_children {x : String} :
    x ∈ v.entries.filterMap (fun (q, _) =>
      if q.dropLast == D && q.length == D.length + 1 then q.getLast? else none) ↔
      (v.entryAt (D ++ [x])).isSome := by
  rw [List.mem_filterMap, entryAt_of_ne_nil (by simp), Option.isSome_map, List.find?_isSome]
  constructor
  · rintro ⟨⟨q, e⟩, hmem, hf⟩
    simp only [Bool.and_eq_true, beq_iff_eq] at hf
    split at hf
    · rename_i hq
      -- a child's path is the directory's and its last name
      have hqx : q = D ++ [x] := eq_of_dropLast_getLast? hq.1 hf
      exact ⟨(q, e), hmem, by simp [hqx]⟩
    · cases hf
  · rintro ⟨⟨q, e⟩, hmem, hq⟩
    simp only [beq_iff_eq] at hq
    subst hq
    exact ⟨(D ++ [x], e), hmem, by simp⟩

theorem nodup_children (hk : v.Keyed) :
    (v.entries.filterMap (fun (q, _) =>
      if q.dropLast == D && q.length == D.length + 1 then q.getLast? else none)).Nodup := by
  unfold Keyed at hk
  rw [List.Nodup, List.pairwise_map] at hk
  rw [List.Nodup, List.pairwise_filterMap]
  refine hk.imp fun {a a'} hne x hx x' hx' hxx => hne ?_
  subst hxx
  obtain ⟨q, e⟩ := a
  obtain ⟨q', e'⟩ := a'
  simp only [Bool.and_eq_true, beq_iff_eq] at hx hx'
  split at hx <;> split at hx'
  · rename_i hq hq'
    rw [eq_of_dropLast_getLast? hq.1 hx, eq_of_dropLast_getLast? hq'.1 hx']
  · exact absurd hx' (by simp)
  · exact absurd hx (by simp)
  · exact absurd hx (by simp)

end Children

/-- The names listed in a directory of proper names are those of its children with an entry. -/
theorem isSome_of_mem_names (hv : v.Plain) {D : List String} (hD : ∀ c ∈ D, Proper c) {x : String}
    (hx : x ∈ v.names D) : (v.entryAt (D ++ [x])).isSome := by
  unfold names at hx
  split at hx
  · rename_i real hs
    have hreal : real = D := by
      have := (stat_eq_ok hv hD hs).1
      simp only [Place.mk.injEq] at this
      exact this.1
    subst hreal
    exact mem_children.1 (List.mem_mergeSort.1 hx)
  · cases hx

theorem mem_names_iff (hv : v.Plain) {D : List String} (hD : ∀ c ∈ D, Proper c)
    (hd : v.entryAt D = some .dir) {x : String} :
    x ∈ v.names D ↔ (v.entryAt (D ++ [x])).isSome := by
  unfold names
  rw [stat_of_entryAt hv hD hd]
  exact List.mem_mergeSort.trans mem_children

theorem nodup_names (hk : v.Keyed) (D : List String) : (v.names D).Nodup := by
  unfold names
  split
  · exact (List.mergeSort_perm _ _).nodup_iff.2 (nodup_children hk)
  · exact List.nodup_nil

/-- **A listing reads only the directory's way and children.** On plain volumes with distinct
paths, the names listed in a directory of proper names are the same on two volumes that agree
on the way to it and below it. -/
theorem names_congr (hv : v.Plain) (hv' : v'.Plain) (hk : v.Keyed) (hk' : v'.Keyed)
    {D : List String} (hD : ∀ c ∈ D, Proper c) (h : AgreeOn (Along D) v v') :
    v.names D = v'.names D := by
  unfold names
  rw [stat_congr hv hv' hD fun q hq => h q (.inl hq)]
  rcases hs : v'.stat D with e | ⟨real, _ | (_ | _ | _)⟩
  all_goals try rfl
  have hreal : real = D := by
    have := (stat_eq_ok hv' hD hs).1
    simp only [Place.mk.injEq] at this
    exact this.1
  subst hreal
  dsimp only
  -- the same children, each once: the same names in order
  refine mergeSort_names_eq ((List.perm_ext_iff_of_nodup (nodup_children hk)
    (nodup_children hk')).2 fun x => ?_)
  rw [mem_children, mem_children, h _ (.inr (List.prefix_append _ _))]

end Volume

end AddonCatalog
