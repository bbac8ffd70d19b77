import AddonCatalog.Proofs.Store.Removal
import Mathlib.Data.List.Sort

/-!
# Namespaces of a shared record table

Table stores opened on one database, each on a namespace of its own, share the rows of one
table. Each of them behaves as a dictionary that received only its own requests: for text keys
and values, a table store and a memory store answer every request alike, up to the order in
which they list their records.

* `RecordStore.Request` is a request with text keys and values, and `Request.run` its answer;
  `runShared` runs a session of requests on table stores of one database, each on the
  namespace the request names, and `runSeparate` runs it on memory stores, one per namespace;
* `Mirrors rows stores`: the memory stores hold, namespace by namespace, the records of the
  table, each key once. One request keeps it and is answered alike by both (`run_mirrors`);
* `put_table_overwrites` and `remove_table_absent`: a put replaces the value of its key and
  leaves every other record, of every namespace, as it was; removing an absent key changes
  nothing;
* `shared_table_namespaces_act_as_dictionaries`: every session, from mirrored stores, is
  answered alike by the shared table and by the separate dictionaries, without an error.
-/

namespace AddonCatalog

open scoped List

namespace RecordStore

/-- A request to a record store, with text keys and values. -/
inductive Request where
  | put (key value : String)
  | remove (key : String)
  | keys
  | getAll

/-- The answer to a request. -/
inductive Reply where
  | done
  | keys (ks : List Json)
  | records (rs : List (Json × Json))

/-- Two answers agree: the same keys in the same order, or the same records in any order. -/
def Reply.Agrees : Reply → Reply → Prop
  | .done, .done => True
  | .keys a, .keys b => a = b
  | .records a, .records b => a ~ b
  | _, _ => False

/-- Answers a request, with the store after it. -/
def Request.run : Request → RecordStore → Except Failure (Reply × RecordStore)
  | .put k v, st => do return (.done, ← st.put (.str k) (.str v))
  | .remove k, st => do return (.done, ← st.remove (.str k))
  | .keys, st => do return (.keys (← st.keys), st)
  | .getAll, st => do return (.records (← st.getAll), st)

/-- The rows of a table store; none for the other kinds of store. -/
def tableRows : RecordStore → List RecordRow
  | table _ rows => rows
  | _ => []

/-- The records of a memory store; none for the other kinds of store. -/
def entries : RecordStore → List (Json × Json)
  | memory rs => rs
  | _ => []

/-- Runs a session on table stores of one database: each request goes to the store of the
namespace it names, and the rows it leaves are those the next request finds. -/
def runShared : List (String × Request) → List RecordRow → List (Except Failure Reply)
  | [], _ => []
  | (ns, q) :: rest, rows =>
    match q.run (table ns rows) with
    | .ok (r, st) => .ok r :: runShared rest st.tableRows
    | .error e => .error e :: runShared rest rows

/-- Runs a session on separate memory stores, one per namespace. -/
def runSeparate : List (String × Request) → (String → List (Json × Json)) → List (Except Failure Reply)
  | [], _ => []
  | (ns, q) :: rest, stores =>
    match q.run (memory (stores ns)) with
    | .ok (r, st) => .ok r :: runSeparate rest (Function.update stores ns st.entries)
    | .error e => .error e :: runSeparate rest stores

/-- Both stores answered, and alike. -/
def AnsweredAlike (a b : Except Failure Reply) : Prop :=
  ∃ x y, a = .ok x ∧ b = .ok y ∧ x.Agrees y

/-! ### The records of a namespace -/

/-- The records of a namespace, in the order of the table's rows. -/
def spaceRecords (ns : String) (rows : List RecordRow) : List (Json × Json) :=
  (rows.filter (·.space == ns)).map fun r => (.str r.key, textValue r.value)

/-- The memory stores hold, namespace by namespace, the records of the table, each key
once. -/
structure Mirrors (rows : List RecordRow) (stores : String → List (Json × Json)) : Prop where
  perm : ∀ ns, spaceRecords ns rows ~ stores ns
  keys_nodup : ∀ ns, ((spaceRecords ns rows).map (·.1)).Nodup

/-- A fresh database mirrors empty dictionaries. -/
theorem mirrors_empty : Mirrors [] fun _ => [] :=
  ⟨fun _ => List.Perm.refl _, fun _ => List.nodup_nil⟩

variable {ns ns' k v : String} {rows : List RecordRow}

/-- The records that a table store lists are those of its namespace. -/
theorem getAll_table_perm : ∃ R, (table ns rows).getAll = .ok R ∧ R ~ spaceRecords ns rows := by
  refine ⟨_, rfl, ?_⟩
  have hsort := (List.mergeSort_perm ((rows.filter (·.space == ns)).map fun r => (r.key, r.value))
    fun a b => keyBefore a.1 b.1).map fun (kv : String × Option String) => ((.str kv.1 : Json), textValue kv.2)
  rw [List.map_map] at hsort
  exact hsort

theorem spaceRecords_dropKey :
    spaceRecords ns' (dropKey ns k rows) =
      if ns' = ns then (spaceRecords ns rows).filter fun p => !Json.sameKey p.1 (.str k)
      else spaceRecords ns' rows := by
  unfold spaceRecords dropKey
  rw [List.filter_filter]
  split
  · next hns =>
    subst hns
    rw [List.filter_map, List.filter_filter]
    congr 1
    refine List.filter_congr fun r _ => ?_
    simp only [Function.comp_apply, Json.sameKey]
    cases r.space == ns' <;> cases r.key == k <;> rfl
  · next hns =>
    congr 1
    refine List.filter_congr fun r _ => ?_
    by_cases hs : r.space = ns' <;> simp [hs, hns]

theorem spaceRecords_put :
    spaceRecords ns' (dropKey ns k rows ++ [⟨ns, k, some v⟩]) =
      if ns' = ns then
        (spaceRecords ns rows).filter (fun p => !Json.sameKey p.1 (.str k)) ++ [(.str k, .str v)]
      else spaceRecords ns' rows := by
  have happ : spaceRecords ns' (dropKey ns k rows ++ [⟨ns, k, some v⟩]) =
      spaceRecords ns' (dropKey ns k rows) ++ spaceRecords ns' [⟨ns, k, some v⟩] := by
    simp [spaceRecords, List.filter_append]
  rw [happ, spaceRecords_dropKey]
  by_cases hns : ns' = ns
  · subst hns
    simp [spaceRecords, textValue]
  · have hnil : spaceRecords ns' [⟨ns, k, some v⟩] = [] := by
      simp [spaceRecords, Ne.symm hns]
    rw [if_neg hns, if_neg hns, hnil, List.append_nil]

theorem sameKey_str_eq_false {j : Json} : Json.sameKey j (.str k) = false ↔ j ≠ .str k := by
  rw [Ne, ← Json.sameKey_str_right, Bool.not_eq_true]

/-- Setting a key that a dictionary holds at most once takes out its record and adds the new
one. -/
theorem setEntry_perm (value : Json) :
    ∀ {rs : List (Json × Json)}, (rs.map (·.1)).Nodup →
      setEntry (.str k) value rs ~ rs.filter (fun p => !Json.sameKey p.1 (.str k)) ++ [(.str k, value)]
  | [], _ => List.Perm.refl _
  | (a, b) :: rest, hnd => by
    rw [List.map_cons, List.nodup_cons] at hnd
    by_cases ha : a = .str k
    · -- the key is here, and nowhere in the rest
      subst ha
      have hrest : rest.filter (fun p => !Json.sameKey p.1 (.str k)) = rest :=
        List.filter_eq_self.mpr fun p hp => by
          have hne : p.1 ≠ .str k := fun h => hnd.1 (by simpa [h] using List.mem_map_of_mem (f := fun q : Json × Json => q.1) hp)
          simpa [sameKey_str_eq_false] using hne
      simp only [setEntry, Json.sameKey_str_right.mpr rfl, if_true, List.filter_cons, Bool.not_true,
        Bool.false_eq_true, if_false, hrest]
      exact (List.perm_append_singleton _ _).symm
    · have hsk : Json.sameKey a (.str k) = false := sameKey_str_eq_false.mpr ha
      simp only [setEntry, hsk, Bool.false_eq_true, if_false, List.filter_cons, Bool.not_false,
        if_true, List.cons_append]
      exact (setEntry_perm value hnd.2).cons _

theorem keys_nodup_filter {rs : List (Json × Json)} (hnd : (rs.map (·.1)).Nodup) (key : Json) :
    ((rs.filter fun p => !Json.sameKey p.1 key).map (·.1)).Nodup :=
  hnd.sublist ((List.filter_sublist).map _)

/-! ### One request -/

theorem put_table : (table ns rows).put (.str k) (.str v) = .ok (table ns (dropKey ns k rows ++ [⟨ns, k, some v⟩])) :=
  rfl

theorem put_memory (rs : List (Json × Json)) :
    (memory rs).put (.str k) (.str v) = .ok (memory (setEntry (.str k) (.str v) rs)) := rfl

theorem remove_table : (table ns rows).remove (.str k) = .ok (table ns (dropKey ns k rows)) := rfl

theorem remove_memory (rs : List (Json × Json)) :
    (memory rs).remove (.str k) = .ok (memory (rs.filter fun p => !Json.sameKey p.1 (.str k))) := rfl

variable {stores : String → List (Json × Json)}

theorem Mirrors.put (h : Mirrors rows stores) :
    Mirrors (dropKey ns k rows ++ [⟨ns, k, some v⟩])
      (Function.update stores ns (setEntry (.str k) (.str v) (stores ns))) := by
  refine ⟨fun ns' => ?_, fun ns' => ?_⟩ <;> rw [spaceRecords_put] <;> by_cases hns : ns' = ns
  · subst hns
    have hnd : ((stores ns').map (·.1)).Nodup :=
      ((h.perm ns').map fun p : Json × Json => p.1).nodup_iff.mp (h.keys_nodup ns')
    simp only [if_true, Function.update_self]
    exact (((h.perm ns').filter _).append_right _).trans (setEntry_perm _ hnd).symm
  · simp only [hns, if_false, Function.update_of_ne hns]
    exact h.perm ns'
  · subst hns
    simp only [if_true, List.map_append, List.map_cons, List.map_nil]
    refine List.nodup_append.mpr ⟨keys_nodup_filter (h.keys_nodup ns') _, List.nodup_singleton _,
      fun a ha b hb hab => ?_⟩
    obtain ⟨p, hp, rfl⟩ := List.mem_map.mp ha
    rw [List.mem_singleton] at hb
    subst hb
    have hkeep := (List.mem_filter.mp hp).2
    rw [hab] at hkeep
    simp [Json.sameKey] at hkeep
  · simp only [hns, if_false]
    exact h.keys_nodup ns'

theorem Mirrors.remove (h : Mirrors rows stores) :
    Mirrors (dropKey ns k rows)
      (Function.update stores ns ((stores ns).filter fun p => !Json.sameKey p.1 (.str k))) := by
  refine ⟨fun ns' => ?_, fun ns' => ?_⟩ <;> rw [spaceRecords_dropKey] <;> by_cases hns : ns' = ns
  · subst hns
    simpa using (h.perm ns').filter _
  · simpa [hns, Function.update_of_ne hns] using h.perm ns'
  · subst hns
    simpa using keys_nodup_filter (h.keys_nodup ns') _
  · simpa [hns] using h.keys_nodup ns'

/-- The keys of a list of text-keyed records, as texts. -/
def keyTexts (rs : List (Json × Json)) : List String := rs.map fun p => p.1.str?.getD ""

theorem map_str_keyTexts {rs : List (Json × Json)} (h : ∀ p ∈ rs, ∃ s, p.1 = .str s) :
    (keyTexts rs).map Json.str = rs.map (·.1) := by
  rw [keyTexts, List.map_map]
  refine List.map_congr_left fun p hp => ?_
  obtain ⟨s, hs⟩ := h p hp
  simp [hs, Json.str?]

theorem str_of_mem_spaceRecords {p : Json × Json} (hp : p ∈ spaceRecords ns rows) :
    ∃ s, p.1 = .str s := by
  obtain ⟨r, -, rfl⟩ := List.mem_map.mp hp
  exact ⟨r.key, rfl⟩

/-- Two stores whose records are the same text-keyed records, in any order, answer their
keys alike. -/
theorem keys_eq_of_perm {st st' : RecordStore} {R R' : List (Json × Json)} (hR : st.getAll = .ok R)
    (hR' : st'.getAll = .ok R') (hperm : R ~ R') (hstr : ∀ p ∈ R, ∃ s, p.1 = .str s) :
    ∃ ks, st.keys = .ok ks ∧ st'.keys = .ok ks := by
  have hstr' : ∀ p ∈ R', ∃ s, p.1 = .str s := fun p hp => hstr p (hperm.symm.subset hp)
  obtain ⟨sorted, hs, hsorted, hkeys⟩ := keys_of_texts hR (map_str_keyTexts hstr).symm
  obtain ⟨sorted', hs', hsorted', hkeys'⟩ := keys_of_texts hR' (map_str_keyTexts hstr').symm
  have htexts : keyTexts R ~ keyTexts R' := hperm.map _
  have heq : sorted = sorted' := List.Perm.eq_of_pairwise' hsorted hsorted' (hs.trans (htexts.trans hs'.symm))
  exact ⟨_, hkeys, heq ▸ hkeys'⟩

/-- **One request.** On mirrored stores, a table store and a memory store answer a request
alike and without an error, and the stores they leave mirror each other again. -/
theorem run_mirrors (ns : String) (h : Mirrors rows stores) (q : Request) :
    ∃ x st y st', q.run (table ns rows) = .ok (x, st) ∧ q.run (memory (stores ns)) = .ok (y, st') ∧
      x.Agrees y ∧ Mirrors st.tableRows (Function.update stores ns st'.entries) := by
  obtain ⟨R, hR, hperm⟩ : ∃ R, (table ns rows).getAll = .ok R ∧ R ~ spaceRecords ns rows := getAll_table_perm
  have hsame : Function.update stores ns (stores ns) = stores := Function.update_eq_self ns stores
  cases q with
  | put k v =>
    refine ⟨.done, table ns (dropKey ns k rows ++ [{ space := ns, key := k, value := some v }]), .done,
      memory (setEntry (.str k) (.str v) (stores ns)), by simp [Request.run, put_table],
      by simp [Request.run, put_memory], trivial, ?_⟩
    exact h.put
  | remove k =>
    refine ⟨.done, table ns (dropKey ns k rows), .done,
      memory ((stores ns).filter fun p => !Json.sameKey p.1 (.str k)), by simp [Request.run, remove_table],
      by simp [Request.run, remove_memory], trivial, ?_⟩
    exact h.remove
  | keys =>
    have hmem : (memory (stores ns)).getAll = .ok (stores ns) := rfl
    obtain ⟨ks, hks, hks'⟩ := keys_eq_of_perm hR hmem (hperm.trans (h.perm ns))
      fun p hp => str_of_mem_spaceRecords (hperm.subset hp)
    refine ⟨.keys ks, table ns rows, .keys ks, memory (stores ns), by simp [Request.run, hks],
      by simp [Request.run, hks'], rfl, ?_⟩
    simpa [tableRows, entries, hsame] using h
  | getAll =>
    refine ⟨.records R, table ns rows, .records (stores ns), memory (stores ns), by simp [Request.run, hR], rfl,
      hperm.trans (h.perm ns), ?_⟩
    simpa [tableRows, entries, hsame] using h

/-- **Shared namespaces act as separate dictionaries.** From mirrored stores, every session of
requests is answered alike, request by request, by table stores sharing one database and by
separate memory stores, one per namespace, and no request fails. -/
theorem runShared_answered_alike :
    ∀ (session : List (String × Request)) {rows : List RecordRow} {stores : String → List (Json × Json)},
      Mirrors rows stores → List.Forall₂ AnsweredAlike (runShared session rows) (runSeparate session stores)
  | [], _, _, _ => .nil
  | (ns, q) :: rest, rows, stores, h => by
    obtain ⟨x, st, y, st', hx, hy, hxy, h'⟩ := run_mirrors ns h q
    simp only [runShared, runSeparate, hx, hy]
    exact .cons ⟨x, y, rfl, rfl, hxy⟩ (runShared_answered_alike rest h')

/-! ### Overwriting and removing -/

/-- A put replaces the record of its key in its own namespace and leaves every other record, of
every namespace, as it was. -/
theorem put_table_overwrites :
    ∃ rows', (table ns rows).put (.str k) (.str v) = .ok (table ns rows') ∧
      spaceRecords ns rows' =
        (spaceRecords ns rows).filter (fun p => !Json.sameKey p.1 (.str k)) ++ [(.str k, .str v)] ∧
      ∀ ns', ns' ≠ ns → spaceRecords ns' rows' = spaceRecords ns' rows :=
  ⟨_, put_table, by simp [spaceRecords_put], fun _ hns => by simp [spaceRecords_put, hns]⟩

/-- Removing a key that the namespace does not hold succeeds and changes nothing. -/
theorem remove_table_absent (h : ∀ p ∈ spaceRecords ns rows, p.1 ≠ .str k) :
    (table ns rows).remove (.str k) = .ok (table ns rows) := by
  rw [remove_table, dropKey, List.filter_eq_self.mpr]
  intro r hr
  by_cases hns : r.space = ns
  · have hk : r.key ≠ k := fun hk =>
      h (.str r.key, textValue r.value) (List.mem_map_of_mem (List.mem_filter.mpr ⟨hr, by simpa using hns⟩))
        (by rw [hk])
    simp [hns, hk]
  · simp [hns]

end RecordStore

end AddonCatalog
