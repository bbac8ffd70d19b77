import AddonCatalog.Catalog.Index
import AddonCatalog.Proofs.Version.Range
import AddonCatalog.Proofs.Addon.RecordUid
import Mathlib.Data.List.Forall2
/-!
# Fetching a catalog index

What fetching an index makes of a reply, for every reply and every document. The fetcher turns
a failed request, a body that is not JSON and a document without a list into catalog errors;
three failures of an entry are not its own and pass through it.

* `Names`: an entry that names an addon of a kind; `entryAddon_of_names` reads its properties,
  then its range, then validates it, and `entryAddon_of_not_names` skips every other entry;
* `Describes`: what the addon of an entry is made of: the uid of the service, kind and id, the
  label without its range, and compatibility as the range check answers it;
* `Escape`: the failures that escape from an entry: `properties` that is no dictionary, a
  `compatibility` that is no text, a number past the digit limit;
* `fetch_fails_or_reads_entries`: a fetch fails with a catalog error, with the session's or the
  body's own failure, or with the escape of the first entry that fails; when it succeeds, its
  addons are, in order, one for each entry that names a kind and passes validation.
-/

namespace AddonCatalog

/-! ### Traversals that may fail -/

section MapM

variable {ε α β : Type} {f : α → Except ε β}

/-- A traversal succeeds exactly when each element does, with the answers in order. -/
theorem mapM_eq_ok_iff {xs : List α} {ys : List β} :
    xs.mapM f = .ok ys ↔ List.Forall₂ (fun x y => f x = .ok y) xs ys := by
  induction xs generalizing ys with
  | nil => cases ys <;> simp [pure, Except.pure]
  | cons x xs ih =>
    rw [List.mapM_cons]
    cases hx : f x with
    | error e => cases ys <;> simp [bind, Except.bind, hx]
    | ok y =>
      cases hxs : xs.mapM f with
      | error e => cases ys <;> simp [bind, Except.bind, hx, hxs, ← ih]
      | ok ys' => cases ys <;> simp [bind, Except.bind, pure, Except.pure, hx, hxs, ← ih]

/-- A traversal fails exactly at the first element that fails: every element before it
succeeds. -/
theorem mapM_eq_error_iff {xs : List α} {e : ε} :
    xs.mapM f = .error e ↔
      ∃ pre x post, xs = pre ++ x :: post ∧ (∀ y ∈ pre, ∃ b, f y = .ok b) ∧ f x = .error e := by
  induction xs with
  | nil => simp [pure, Except.pure]
  | cons x xs ih =>
    rw [List.mapM_cons]
    cases hx : f x with
    | error e' =>
      simp only [bind, Except.bind, Except.error.injEq]
      constructor
      · rintro rfl
        exact ⟨[], x, xs, rfl, by simp, hx⟩
      · rintro ⟨pre, y, post, hxs, hpre, hy⟩
        -- the first element fails, so no element can come before the one that fails
        cases pre with
        | nil =>
          obtain ⟨rfl, -⟩ := List.cons.inj hxs
          rw [hx] at hy
          exact Except.error.inj hy
        | cons z pre =>
          obtain ⟨rfl, -⟩ := List.cons.inj hxs
          obtain ⟨b, hb⟩ := hpre x (by simp)
          rw [hx] at hb
          cases hb
    | ok b =>
      have hfirst : (∃ pre y post, x :: xs = pre ++ y :: post ∧ (∀ z ∈ pre, ∃ b, f z = .ok b) ∧
          f y = .error e) ↔
          ∃ pre y post, xs = pre ++ y :: post ∧ (∀ z ∈ pre, ∃ b, f z = .ok b) ∧ f y = .error e := by
        constructor
        · rintro ⟨pre, y, post, hxs, hpre, hy⟩
          cases pre with
          | nil =>
            obtain ⟨rfl, -⟩ := List.cons.inj hxs
            rw [hx] at hy
            cases hy
          | cons z pre =>
            obtain ⟨-, rfl⟩ := List.cons.inj hxs
            exact ⟨pre, y, post, rfl, fun w hw => hpre w (by simp [hw]), hy⟩
        · rintro ⟨pre, y, post, rfl, hpre, hy⟩
          exact ⟨x :: pre, y, post, rfl, List.forall_mem_cons.2 ⟨⟨b, hx⟩, hpre⟩, hy⟩
      rw [hfirst, ← ih]
      cases xs.mapM f <;> simp [bind, Except.bind, pure, Except.pure]

/-- A bound computation fails when its first part fails, or when its first part succeeds and the
rest fails. -/
theorem except_bind_eq_error {γ : Type} {x : Except ε β} {g : β → Except ε γ} {e : ε} :
    x >>= g = .error e ↔ x = .error e ∨ ∃ b, x = .ok b ∧ g b = .error e := by
  cases x <;> simp [bind, Except.bind]

end MapM

theorem AddonType.ofValue?_eq_some_iff {s : String} {t : AddonType} :
    AddonType.ofValue? s = some t ↔ t.value = s := by
  constructor
  · intro h
    simpa using List.find?_some h
  · rintro rfl
    exact AddonType.ofValue_value t

namespace Addon

open Schema

theorem field_eq_ok_of_errorsOf {α : Type} {ms : List (String × Json)} {name : String}
    {dflt : Option α} {read : Json → Except Violation α} (d : α)
    (h : errorsOf (field ms name dflt read) = []) :
    field ms name dflt read = .ok (valueOr d (field ms name dflt read)) := by
  cases hf : field ms name dflt read with
  | ok a => rfl
  | error es =>
    rw [hf, errorsOf] at h
    exact absurd (h ▸ hf) (field_ne_error_nil _ _ _ _)

/-- An addon read from members has the uid, kind, id, compatibility and label that its fields
read as. -/
theorem ofMembers_fields {ms : List (String × Json)} {a : Addon} (h : ofMembers ms = .ok a) :
    field ms "uid" none Schema.uid = .ok a.uid ∧ field ms "type" none kind = .ok a.type ∧
      field ms "id" none text = .ok a.id ∧ field ms "compatible" (some true) flag = .ok a.compatible ∧
      field ms "label" (some "") text = .ok a.label := by
  -- unfolded by hand: the equation lemma of the reader of members is slow to build
  unfold ofMembers at h
  dsimp only at h
  split at h
  · rename_i hempty
    rw [← Except.ok.inj h]
    simp only [List.isEmpty_iff, List.append_assoc, List.append_eq_nil_iff] at hempty
    obtain ⟨hu, ht, hi, -, -, -, hc, hl, -⟩ := hempty
    exact ⟨field_eq_ok_of_errorsOf _ hu, field_eq_ok_of_errorsOf _ ht, field_eq_ok_of_errorsOf _ hi,
      field_eq_ok_of_errorsOf _ hc, field_eq_ok_of_errorsOf _ hl⟩
  · cases h

end Addon

namespace Catalog

/-! ### One entry -/

/-- An entry that names an addon of kind `kind`: an object with a true `id`, whose `type` is a
text that lower-cases to the value of the kind. -/
structure Names (entry : Json) (kind : AddonType) : Prop where
  obj : ∃ ms, entry = .obj ms
  id : (entry.getD "id").truthy = true
  type : ∃ t, entry.getD "type" = .str t ∧ Text.lowerAscii t = kind.value

/-- The addon `a` is the one an entry of kind `kind` describes: its uid is made of the service,
the kind and the id's text; it has the kind, the id's text and the label without its range; and
it is incompatible exactly when the core version is checked out of the entry's range. -/
structure Describes (src : Source) (entry : Json) (kind : AddonType) (a : Addon) : Prop where
  uid : a.uid = buildUid src.serviceId kind (entry.getD "id").display
  type : a.type = kind
  id : a.id = (entry.getD "id").display
  label : a.label = (rangeAndLabel entry).2
  compatible : a.compatible = false ↔
    ∃ s, (rangeAndLabel entry).1 = .str s ∧ inRange src.coreVersion (some s) = .ok false

variable {src : Source} {entry : Json} {kind : AddonType}

theorem entryKind_eq_some_iff :
    entryKind entry = some kind ↔ ∃ t, entry.getD "type" = .str t ∧ Text.lowerAscii t = kind.value := by
  unfold entryKind
  split
  · rename_i t ht
    rw [AddonType.ofValue?_eq_some_iff]
    simp only [ht, Json.str.injEq, exists_eq_left']
    exact eq_comm
  · rename_i hne
    simp only [reduceCtorEq, false_iff, not_exists, not_and]
    exact fun t ht => absurd ht (hne t)

/-- An entry that names no kind is skipped. -/
theorem entryAddon_of_not_names (h : ∀ k, ¬ Names entry k) : entryAddon src entry = .ok none := by
  unfold entryAddon
  cases entry with
  | obj ms =>
    by_cases hid : (Json.getD (.obj ms) "id").truthy = true
    · cases hk : entryKind (.obj ms) with
      | none => simp [hid, pure, Except.pure]
      | some k => exact absurd ⟨⟨ms, rfl⟩, hid, entryKind_eq_some_iff.1 hk⟩ (h k)
    · simp [hid, pure, Except.pure]
  | _ => rfl

/-- An entry that names a kind reads its properties, then checks its range, and is then
validated. -/
theorem entryAddon_of_names (h : Names entry kind) :
    entryAddon src entry = (do
      let props ← entryProperties entry
      let compatible ← compatibleWith src.coreVersion (rangeAndLabel entry).1
      pure (validEntry src entry kind compatible props)) := by
  obtain ⟨⟨ms, rfl⟩, hid, htype⟩ := h
  simp only [entryAddon, hid, entryKind_eq_some_iff.2 htype, Bool.not_true, Bool.false_eq_true,
    if_false]

/-- The properties of an entry fail exactly when its `properties` is true and cannot be made a
dictionary. -/
theorem entryProperties_eq_error_iff {f : Failure} :
    entryProperties entry = .error f ↔
      (entry.getD "properties").truthy = true ∧ (entry.getD "properties").dictPairs = .error f := by
  unfold entryProperties Json.orElse
  by_cases ht : (entry.getD "properties").truthy = true
  · cases hd : (entry.getD "properties").dictPairs <;>
      simp [ht, hd, bind, Except.bind, pure, Except.pure]
  · simp [ht, Json.dictPairs, bind, Except.bind, pure, Except.pure]

/-- A range check fails only on a true range that is no text, or on a number past the digit
limit; a range or a version that cannot be read counts as compatible. -/
theorem compatibleWith_eq_error {core : Option String} {range : Json} {f : Failure}
    (h : compatibleWith core range = .error f) :
    range.truthy = true ∧
      ((∀ s, range ≠ .str s) ∧ f.kind = .wrongType ∨
        ∃ s n, range = .str s ∧ inRange core (some s) = .error (.tooManyDigits n) ∧
          f = (VersionError.tooManyDigits n).failure) := by
  unfold compatibleWith at h
  by_cases ht : range.truthy = true
  · rw [if_neg (by simp [ht])] at h
    refine ⟨ht, ?_⟩
    split at h
    · rename_i s
      split at h
      · cases h
      · rename_i e he
        split at h
        · cases h
        · rename_i hr
          obtain ⟨n, rfl⟩ := VersionError.eq_tooManyDigits (Bool.eq_false_iff.2 hr)
          cases h
          exact .inr ⟨s, n, rfl, he, rfl⟩
    · rename_i hne
      cases h
      exact .inl ⟨hne, rfl⟩
  · rw [if_pos (by simpa using ht)] at h
    cases h

theorem inRange_empty_ne_ok {core : Option String} {b : Bool} : inRange core (some "") ≠ .ok b := by
  rw [inRange_of_parse?_none (by decide +kernel)]
  exact fun h => by cases h

/-- A range check answers `false` exactly when the range is a text out of which the core version
is checked. -/
theorem compatibleWith_eq_ok_false_iff {core : Option String} {range : Json} :
    compatibleWith core range = .ok false ↔
      ∃ s, range = .str s ∧ inRange core (some s) = .ok false := by
  constructor
  · intro h
    unfold compatibleWith at h
    split at h
    · cases h
    split at h
    · rename_i s _
      split at h
      · rename_i b hb
        cases h
        exact ⟨s, rfl, hb⟩
      · split at h <;> cases h
    · cases h
  · rintro ⟨s, rfl, hs⟩
    -- an empty range is false and never checked, and a check of it cannot answer
    have hne : s ≠ "" := by
      rintro rfl
      exact inRange_empty_ne_ok hs
    have ht : (Json.str s).truthy = true := by simpa [Json.truthy] using hne
    simp [compatibleWith, ht, hs]

/-- What validation keeps of an entry of kind `kind`: the uid of the service, the kind and the
id's text, the kind, the id's text, the compatibility it was given and the label without its
range. -/
theorem validEntry_eq_some {c : Bool} {props : List (Json × Json)} {a : Addon}
    (h : validEntry src entry kind c props = some a) :
    a.uid = buildUid src.serviceId kind (entry.getD "id").display ∧ a.type = kind ∧
      a.id = (entry.getD "id").display ∧ a.compatible = c ∧ a.label = (rangeAndLabel entry).2 := by
  unfold validEntry at h
  split at h
  · cases h
  · split at h
    · rename_i ha
      cases h
      obtain ⟨hu, ht, hi, hc, hl⟩ := Addon.ofMembers_fields ha
      have huid : a.uid = buildUid src.serviceId kind (entry.getD "id").display := by
        simp only [entryMembers, List.cons_append, Addon.field_uid_first] at hu
        split at hu
        · exact (Except.ok.inj hu).symm
        · cases hu
      simp [entryMembers, Schema.field, List.lookup_cons, Schema.text, Schema.kind, Schema.flag,
        AddonType.ofValue_value] at ht hi hc hl
      exact ⟨huid, ht.symm, hi.symm, hc.symm, hl.symm⟩
    · cases h

/-! ### What an entry gives -/

/-- What fetching makes of one entry of the list: an entry that names no kind is skipped, and so
is one that names a kind but whose fields validation rejects; an entry that names a kind and
validates gives one addon, the one it describes. -/
inductive EntryRead (src : Source) (entry : Json) : Option Addon → Prop
  | skipped : (∀ k, ¬ Names entry k) → EntryRead src entry none
  | rejected {k : AddonType} {props : List (Json × Json)} {c : Bool} : Names entry k →
      entryProperties entry = .ok props →
      compatibleWith src.coreVersion (rangeAndLabel entry).1 = .ok c →
      validEntry src entry k c props = none → EntryRead src entry none
  | addon {k : AddonType} {a : Addon} : Names entry k → Describes src entry k a →
      EntryRead src entry (some a)

theorem entryRead_of_entryAddon {o : Option Addon} (h : entryAddon src entry = .ok o) :
    EntryRead src entry o := by
  by_cases hn : ∃ k, Names entry k
  · obtain ⟨k, hk⟩ := hn
    rw [entryAddon_of_names hk] at h
    obtain ⟨props, hp, h⟩ := Order.except_bind_eq_ok.mp h
    obtain ⟨c, hc, h⟩ := Order.except_bind_eq_ok.mp h
    rw [← (Except.ok.inj h : validEntry src entry k c props = o)]
    cases hv : validEntry src entry k c props with
    | none => exact .rejected hk hp hc hv
    | some a =>
      obtain ⟨hu, ht, hi, hcompat, hl⟩ := validEntry_eq_some hv
      -- the addon is compatible as the range check answered
      have hfalse : a.compatible = false ↔
          compatibleWith src.coreVersion (rangeAndLabel entry).1 = .ok false := by
        rw [hc, hcompat]
        exact ⟨fun h => h ▸ rfl, fun h => Except.ok.inj h⟩
      exact .addon hk ⟨hu, ht, hi, hl, hfalse.trans compatibleWith_eq_ok_false_iff⟩
  · rw [entryAddon_of_not_names (not_exists.mp hn)] at h
    cases h
    exact .skipped (not_exists.mp hn)

/-! ### Failures that escape from an entry -/

theorem itemPair_error_kind {i : Nat} {x : Json} {f : Failure} (h : Json.itemPair i x = .error f) :
    f.kind = .wrongType ∨ f.kind = .invalidValue := by
  unfold Json.itemPair at h
  repeat' split at h
  all_goals cases h
  all_goals first | exact .inl rfl | exact .inr rfl

theorem itemPairs_error_kind {acc : List (Json × Json)} {i : Nat} {xs : List Json} {f : Failure}
    (h : Json.itemPairs acc i xs = .error f) : f.kind = .wrongType ∨ f.kind = .invalidValue := by
  induction xs generalizing acc i with
  | nil => cases h
  | cons x xs ih =>
    simp only [Json.itemPairs] at h
    obtain hx | ⟨⟨k, v⟩, -, hrest⟩ := except_bind_eq_error.1 h
    · exact itemPair_error_kind hx
    · exact ih hrest

/-- Making a value a dictionary fails with a type error or a value error. -/
theorem dictPairs_error_kind {v : Json} {f : Failure} (h : v.dictPairs = .error f) :
    f.kind = .wrongType ∨ f.kind = .invalidValue := by
  cases v with
  | obj ms => cases h
  | arr xs => exact itemPairs_error_kind h
  | str s =>
    simp only [Json.dictPairs] at h
    split at h
    · cases h
    · cases h
      exact .inr rfl
  | null | bool _ | int _ | float _ =>
    simp only [Json.dictPairs, Except.error.injEq] at h
    rw [← h]
    exact .inl rfl

/-- A true range that is not a text is the entry's `compatibility`: a range cut from the label is
a text. -/
theorem rangeAndLabel_fst_eq_compatibility (ht : (rangeAndLabel entry).1.truthy = true)
    (hs : ∀ s, (rangeAndLabel entry).1 ≠ .str s) :
    (rangeAndLabel entry).1 = entry.getD "compatibility" := by
  unfold rangeAndLabel at ht hs ⊢
  by_cases hc : (entry.getD "compatibility").truthy = true
  · simp only [hc, if_true]
  · simp only [hc, Bool.false_eq_true, if_false] at ht hs ⊢
    cases htr : titleRange (firstTrue entry ["label", "title"] (entry.getD "id")).display with
    | some p => simp [htr] at hs
    | none => simp [htr, Json.truthy] at ht

/-- The failures that escape from an entry that names a kind, which fetching passes on as they
are: a true `properties` that cannot be made a dictionary; a true `compatibility` that is not a
text; a range check that meets a number past the digit limit, in the core version or in a bound of
the range. -/
inductive Escape (src : Source) (entry : Json) : Failure → Prop
  | properties {f : Failure} : (entry.getD "properties").truthy = true →
      (entry.getD "properties").dictPairs = .error f → Escape src entry f
  | rangeType {f : Failure} : (entry.getD "compatibility").truthy = true →
      (∀ s, entry.getD "compatibility" ≠ .str s) → f.kind = .wrongType → Escape src entry f
  | digitLimit {s : String} {r : VersionRange} (n : Nat) : (rangeAndLabel entry).1 = .str s →
      VersionRange.parse? s = some r →
      ((∃ t ∈ src.coreVersion, ¬ Version.WithinDigitLimit t) ∨
        ¬ Version.WithinDigitLimit r.lower ∨ ¬ Version.WithinDigitLimit r.upper) →
      Escape src entry (VersionError.tooManyDigits n).failure

/-- What escapes from an entry is a type error or a value error. -/
theorem Escape.wrongType_or_invalidValue {f : Failure} (h : Escape src entry f) :
    f.kind = .wrongType ∨ f.kind = .invalidValue := by
  cases h with
  | properties _ hd => exact dictPairs_error_kind hd
  | rangeType _ _ hk => exact .inl hk
  | digitLimit => exact .inr rfl

/-- An entry fails only when it names a kind, with the failure of its properties, or else of its
range check. -/
theorem entryAddon_eq_error {f : Failure} (h : entryAddon src entry = .error f) :
    (∃ k, Names entry k) ∧ Escape src entry f := by
  by_cases hn : ∃ k, Names entry k
  · obtain ⟨k, hk⟩ := hn
    refine ⟨⟨k, hk⟩, ?_⟩
    rw [entryAddon_of_names hk] at h
    obtain hp | ⟨props, -, h⟩ := except_bind_eq_error.1 h
    · obtain ⟨ht, hd⟩ := entryProperties_eq_error_iff.1 hp
      exact .properties ht hd
    obtain hc | ⟨c, -, h⟩ := except_bind_eq_error.1 h
    · obtain ⟨ht, ⟨hs, hkind⟩ | ⟨s, n, hs, hr, rfl⟩⟩ := compatibleWith_eq_error hc
      · have hcompat := rangeAndLabel_fst_eq_compatibility ht hs
        rw [hcompat] at ht hs
        exact .rangeType ht hs hkind
      · obtain ⟨r, hr, hlim⟩ := inRange_error_past_limit hr rfl
        exact .digitLimit n hs hr hlim
    · cases h
  · rw [entryAddon_of_not_names (not_exists.mp hn)] at h
    cases h

/-! ### The reply and its document -/

/-- A failure that fetching passes on as it is: the session's failure before any response, or
the body's failure to read as JSON, when it is neither a failed request nor an invalid value
(those two become catalog errors). -/
def PassedOn (reply : Reply) (f : Failure) : Prop :=
  (reply = .fault f ∨ ∃ r, reply = .response r ∧ r.status < 400 ∧ r.body.json = .error f) ∧
    f.kind.isRequest = false ∧ (f.kind == .invalidValue) = false

/-- A reported failure is a catalog error, or the failure itself when it is neither a failed
request nor an invalid value. -/
theorem indexFailure_cases (url : String) (g : Failure) :
    (indexFailure url g).kind = .catalogFetch ∨
      indexFailure url g = g ∧ g.kind.isRequest = false ∧ (g.kind == .invalidValue) = false := by
  unfold indexFailure
  by_cases hr : g.kind.isRequest = true
  · exact .inl (by simp [hr])
  · by_cases hv : (g.kind == .invalidValue) = true
    · exact .inl (by simp [hr, hv])
    · simp only [Bool.not_eq_true] at hr hv
      exact .inr ⟨by simp [hr, hv], hr, hv⟩

theorem raiseForStatus_eq_ok_iff {r : Response} : r.raiseForStatus = .ok () ↔ r.status < 400 := by
  unfold Response.raiseForStatus
  split <;> simp <;> omega

theorem raiseForStatus_eq_error {r : Response} {g : Failure} (h : r.raiseForStatus = .error g) :
    g.kind = .http := by
  unfold Response.raiseForStatus at h
  split at h
  · cases h
    rfl
  · cases h

theorem replyDocument_eq_ok_iff {url : String} {reply : Reply} {doc : Json} :
    replyDocument url reply = .ok doc ↔
      ∃ r, reply = .response r ∧ r.status < 400 ∧ r.body.json = .ok doc := by
  cases reply with
  | fault g => simp [replyDocument]
  | response r =>
    simp only [replyDocument]
    split
    · rename_i g hg
      have hs : ¬ r.status < 400 := fun hs => by
        rw [raiseForStatus_eq_ok_iff.2 hs] at hg
        cases hg
      simp [hs]
    · rename_i hok
      have hs := raiseForStatus_eq_ok_iff.1 hok
      cases hj : r.body.json <;> simp [hs, hj]

/-- A reply gives no document only with a catalog error, or with the session's or the body's own
failure passed on. -/
theorem replyDocument_eq_error {url : String} {reply : Reply} {f : Failure}
    (h : replyDocument url reply = .error f) : f.kind = .catalogFetch ∨ PassedOn reply f := by
  cases reply with
  | fault g =>
    cases h
    rcases indexFailure_cases url g with hc | ⟨he, hr, hv⟩
    · exact .inl hc
    · rw [he]
      exact .inr ⟨.inl rfl, hr, hv⟩
  | response r =>
    simp only [replyDocument] at h
    split at h
    · rename_i g hg
      cases h
      -- a failure raised for the status is a failed request, so it becomes a catalog error
      left
      simp [indexFailure, raiseForStatus_eq_error hg, ErrorKind.isRequest]
    · rename_i hok
      split at h
      · cases h
      · rename_i g hj
        cases h
        rcases indexFailure_cases url g with hc | ⟨he, hr, hv⟩
        · exact .inl hc
        · rw [he]
          exact .inr ⟨.inr ⟨r, rfl, raiseForStatus_eq_ok_iff.1 hok, hj⟩, hr, hv⟩

/-- The addon list of a document: the document itself when it is a list, or else, in an object,
the first value among `addons`, `items` and `entries` that is a list. -/
def AddonList (doc : Json) (entries : List Json) : Prop :=
  doc = .arr entries ∨ (∃ ms, doc = .obj ms) ∧
    ∃ pre k post, listKeys = pre ++ k :: post ∧ (doc.getD k).arr? = some entries ∧
      ∀ k' ∈ pre, (doc.getD k').arr? = none

theorem documentEntries_eq_ok_iff {url : String} {doc : Json} {entries : List Json} :
    documentEntries url doc = .ok entries ↔ AddonList doc entries := by
  unfold documentEntries AddonList
  cases doc with
  | arr xs => simp
  | obj ms =>
    rw [← List.findSome?_eq_some_iff]
    cases hf : listKeys.findSome? fun k => (Json.getD (.obj ms) k).arr? <;> simp
  | _ => simp

theorem documentEntries_eq_error {url : String} {doc : Json} {f : Failure}
    (h : documentEntries url doc = .error f) : f.kind = .catalogFetch := by
  unfold documentEntries at h
  repeat' split at h
  all_goals cases h
  all_goals rfl

/-! ### A whole fetch -/

/-- **A fetch fails as a catalog error or with one of a few failures that pass through it, and
otherwise reads every entry of the addon list.** A fetch fails with a catalog error; or with the
session's or the body's own failure, passed on; or at the first entry that fails, which names a
kind, with a type error or a value error that escapes from its properties, its `compatibility`, or
the digit limit. When it succeeds, the reply is a response below status 400 whose document holds
an addon list, and the addons are, in order, one for each entry of the list that names a kind and
passes validation, the addon that entry describes. -/
theorem fetch_fails_or_reads_entries (src : Source) (reply : Reply) :
    (∀ f, addonsOfReply src reply = .error f →
      f.kind = .catalogFetch ∨ PassedOn reply f ∨
        (f.kind = .wrongType ∨ f.kind = .invalidValue) ∧
        ∃ r doc pre e post, reply = .response r ∧ r.status < 400 ∧ r.body.json = .ok doc ∧
          AddonList doc (pre ++ e :: post) ∧ (∀ x ∈ pre, ∃ o, EntryRead src x o) ∧
          (∃ k, Names e k) ∧ Escape src e f) ∧
    (∀ as, addonsOfReply src reply = .ok as →
      ∃ r doc entries outs, reply = .response r ∧ r.status < 400 ∧ r.body.json = .ok doc ∧
        AddonList doc entries ∧ List.Forall₂ (EntryRead src) entries outs ∧
        as = outs.reduceOption) := by
  refine ⟨fun f h => ?_, fun as h => ?_⟩
  · obtain hd | ⟨doc, hd, h⟩ := except_bind_eq_error.1 h
    · exact (replyDocument_eq_error hd).imp_right .inl
    obtain ⟨r, hr, hs, hj⟩ := replyDocument_eq_ok_iff.1 hd
    obtain he | ⟨entries, he, h⟩ := except_bind_eq_error.1 h
    · exact .inl (documentEntries_eq_error he)
    obtain hm | ⟨found, -, h⟩ := except_bind_eq_error.1 h
    · -- the traversal stops at the first entry that fails; the entries before it were read
      obtain ⟨pre, e, post, rfl, hpre, hfail⟩ := mapM_eq_error_iff.1 hm
      obtain ⟨hn, hesc⟩ := entryAddon_eq_error hfail
      refine .inr (.inr ⟨hesc.wrongType_or_invalidValue, r, doc, pre, e, post, hr, hs, hj,
        documentEntries_eq_ok_iff.1 he, fun x hx => ?_, hn, hesc⟩)
      obtain ⟨o, ho⟩ := hpre x hx
      exact ⟨o, entryRead_of_entryAddon ho⟩
    · cases h
  · obtain ⟨doc, hd, h⟩ := Order.except_bind_eq_ok.mp h
    obtain ⟨entries, he, h⟩ := Order.except_bind_eq_ok.mp h
    obtain ⟨found, hm, h⟩ := Order.except_bind_eq_ok.mp h
    obtain ⟨r, hr, hs, hj⟩ := replyDocument_eq_ok_iff.1 hd
    refine ⟨r, doc, entries, found, hr, hs, hj, documentEntries_eq_ok_iff.1 he, ?_,
      (Except.ok.inj h).symm⟩
    exact (mapM_eq_ok_iff.1 hm).imp fun _ _ => entryRead_of_entryAddon

/-- An entry of kind `binding` whose `properties` is the number `5`. -/
def numberPropertiesEntry : Json :=
  .obj [("id", .str "a"), ("type", .str "binding"), ("properties", .int 5)]

/-- A response whose index holds that one entry. -/
def numberPropertiesIndex : Reply :=
  .response { body := .document (.arr [numberPropertiesEntry]) }

/-- Fetching that index fails with the type error of the entry's properties. -/
theorem fetch_passes_on_number_properties :
    (∃ f, addonsOfReply default numberPropertiesIndex = .error f ∧ f.kind = .wrongType) ∧
      ((∀ f, addonsOfReply default numberPropertiesIndex = .error f →
        f.kind = .catalogFetch ∨ PassedOn numberPropertiesIndex f ∨
          (f.kind = .wrongType ∨ f.kind = .invalidValue) ∧
          ∃ r doc pre e post, numberPropertiesIndex = .response r ∧ r.status < 400 ∧
            r.body.json = .ok doc ∧ AddonList doc (pre ++ e :: post) ∧
            (∀ x ∈ pre, ∃ o, EntryRead default x o) ∧ (∃ k, Names e k) ∧ Escape default e f) ∧
      (∀ as, addonsOfReply default numberPropertiesIndex = .ok as →
        ∃ r doc entries outs, numberPropertiesIndex = .response r ∧ r.status < 400 ∧
          r.body.json = .ok doc ∧ AddonList doc entries ∧
          List.Forall₂ (EntryRead default) entries outs ∧ as = outs.reduceOption)) := by
  have hnames : Names numberPropertiesEntry .binding :=
    ⟨⟨_, rfl⟩, by decide +kernel, ⟨"binding", rfl, by decide +kernel⟩⟩
  obtain ⟨f, hd, hkind⟩ : ∃ f, (numberPropertiesEntry.getD "properties").dictPairs = .error f ∧
      f.kind = .wrongType := ⟨_, rfl, rfl⟩
  have hentry : entryAddon default numberPropertiesEntry = .error f := by
    rw [entryAddon_of_names hnames, entryProperties_eq_error_iff.2 ⟨by decide +kernel, hd⟩]
    rfl
  -- the response reads as the one-entry list, and the traversal fails at that entry
  have hfetch : addonsOfReply default numberPropertiesIndex = .error f := by
    have hm : [numberPropertiesEntry].mapM (entryAddon default) = .error f :=
      mapM_eq_error_iff.2 ⟨[], numberPropertiesEntry, [], rfl, by simp, hentry⟩
    simp only [addonsOfReply]
    rw [show replyDocument (default : Source).url numberPropertiesIndex =
        .ok (.arr [numberPropertiesEntry]) from rfl]
    simp only [bind, Except.bind, documentEntries]
    rw [hm]
  exact ⟨⟨f, hfetch, hkind⟩, fetch_fails_or_reads_entries default numberPropertiesIndex⟩

end Catalog

end AddonCatalog
