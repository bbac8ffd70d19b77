import AddonCatalog.Proofs.Json.Indented
import AddonCatalog.Settings.File
import Mathlib.Data.Nat.Digits.Defs

/-!
# Updating the settings file and reading it again

An update reads the settings file, sets the named attributes of the settings to the values
given, as they are, and writes the file back; a load reads the file again. A load converts
what it reads: a flag is read leniently, an empty service or core version falls back to its
default, and a number is converted to a whole number. So a load gives back what an update
wrote only when the update gave each field a value of the field's own type, and then up to
the two defaults:

* `ofFileText_numbersFit`: the numbers of settings read from any file have at most
  `Number.maxDigits` digits, so the file an update writes can be read again;
* `ofFileText_fileText`: the settings file of settings whose numbers fit reads back as those
  settings, an empty service or core version as its default (`Settings.withTextDefaults`);
* `updateFields_members`: an update by changes that give fields values of their own types
  (`Settings.fitsField`) sets those fields (`Settings.assign`), and writes all of them;
* `load_after_update`: what a load reads after such an update;
* `update_then_load_flag_text`: a text given to a flag is written as a text and read back as
  a flag.
-/

namespace AddonCatalog

open Json

/-! ### Whole numbers read from a document fit the digit limit -/

namespace Number

theorem checkDigits_ok {count : Nat} {u : Unit} (h : checkDigits count = .ok u) :
    count ≤ maxDigits := by
  unfold checkDigits at h
  split at h
  · cases h
  · omega

/-- A whole number read from a text is the value of at most `maxDigits` digits. -/
theorem wholeOfText_natAbs {s : String} {n : Int} (h : wholeOfText s = .ok n) :
    ∃ ds : List Char, ds.length ≤ maxDigits ∧ n.natAbs = digitsValue ds := by
  unfold wholeOfText at h
  dsimp only at h
  -- the same checks follow each kind of sign
  split at h <;>
  · simp only [bind, Except.bind] at h
    split at h
    · split at h
      · cases h
      · next hc =>
        split at h
        · refine ⟨_, checkDigits_ok hc, ?_⟩
          simp only [pure, Except.pure, Except.ok.injEq] at h
          rw [← h]
          split <;> simp
        · simp [throw, throwThe, MonadExceptOf.throw] at h
    · simp [throw, throwThe, MonadExceptOf.throw] at h

theorem digitsValue_lt_aux : ∀ (cs : List Char) (acc : Nat),
    cs.foldl (fun acc c => 10 * acc + (Text.digitValue? c).getD 0) acc < (acc + 1) * 10 ^ cs.length
  | [], acc => by simp
  | c :: cs, acc => by
    have hd : (Text.digitValue? c).getD 0 < 10 := by
      cases hc : Text.digitValue? c with
      | none => simp
      | some d =>
        obtain ⟨r, -, rfl⟩ := Option.map_eq_some_iff.1 hc
        exact Nat.mod_lt _ (by decide)
    rw [List.foldl_cons, List.length_cons]
    calc _ < (10 * acc + (Text.digitValue? c).getD 0 + 1) * 10 ^ cs.length := digitsValue_lt_aux cs _
      _ ≤ (acc + 1) * 10 * 10 ^ cs.length := Nat.mul_le_mul_right _ (by omega)
      _ = (acc + 1) * 10 ^ (cs.length + 1) := by rw [Nat.pow_succ, Nat.mul_assoc, Nat.mul_comm 10]

/-- Digits of any script write a number below ten to the number of digits. -/
theorem digitsValue_lt (ds : List Char) : digitsValue ds < 10 ^ ds.length := by
  simpa [digitsValue] using digitsValue_lt_aux ds 0

/-- A finite double has a mantissa of at most 53 bits and an exponent of at most 971. -/
theorem ofFloat_finite {x : Float} {b : Binary} (h : Binary.ofFloat x = .finite b) :
    b.mantissa < 2 ^ 53 ∧ b.exponent ≤ 971 := by
  simp only [Binary.ofFloat, Nat.pow_eq] at h
  have hfrac : x.toBits.toNat % 2 ^ 52 < 2 ^ 52 := Nat.mod_lt _ (Nat.two_pow_pos _)
  have hbiased : x.toBits.toNat / 2 ^ 52 % 2 ^ 11 < 2 ^ 11 := Nat.mod_lt _ (Nat.two_pow_pos _)
  split_ifs at h with h1 h2 <;> simp only [Bits.finite.injEq] at h <;> subst h <;> dsimp only
  · -- a subnormal double
    exact ⟨by omega, by omega⟩
  · simp only [beq_iff_eq, Int.ofNat_eq_natCast] at h1 ⊢
    exact ⟨by omega, by omega⟩

/-- A double cut towards zero has at most `maxDigits` digits. -/
theorem truncateFloat_natAbs_lt {x : Float} {n : Int} (h : truncateFloat x = .ok n) :
    n.natAbs < 10 ^ maxDigits := by
  unfold truncateFloat at h
  split at h
  next b hb =>
    obtain ⟨hm, he⟩ := ofFloat_finite hb
    simp only [Except.ok.injEq, Nat.pow_eq] at h
    subst h
    -- the exponents stay symbolic: a power of a large literal is not evaluated
    have hmag : (if b.exponent ≥ 0 then b.mantissa * 2 ^ b.exponent.toNat
        else b.mantissa / 2 ^ (-b.exponent).toNat) < 10 ^ maxDigits := by
      split
      · calc b.mantissa * 2 ^ b.exponent.toNat < 2 ^ 53 * 2 ^ b.exponent.toNat :=
              Nat.mul_lt_mul_of_pos_right hm (Nat.two_pow_pos _)
          _ = 2 ^ (53 + b.exponent.toNat) := (Nat.pow_add 2 53 _).symm
          _ < 10 ^ (53 + b.exponent.toNat) := Nat.pow_lt_pow_left (by decide) (by omega)
          _ ≤ 10 ^ maxDigits := Nat.pow_le_pow_right (by decide) (by unfold maxDigits; omega)
      · calc _ ≤ b.mantissa := Nat.div_le_self _ _
          _ < 2 ^ 53 := hm
          _ < 10 ^ 53 := Nat.pow_lt_pow_left (by decide) (by decide)
          _ ≤ 10 ^ maxDigits := Nat.pow_le_pow_right (by decide) (by unfold maxDigits; omega)
    split <;> simp only [Int.natAbs_neg, Int.natAbs_natCast] <;> exact hmag
  all_goals cases h

end Number

namespace Json

theorem digitsFit_int_of_lt {n : Int} (h : n.natAbs < 10 ^ Number.maxDigits) :
    digitsFit (.int n) = true := by
  simp only [digitsFit, decide_eq_true_eq]
  exact Nat.repr_length _ _ (by decide) h

/-- A whole number read from a value whose numbers fit the digit limit fits it too. -/
theorem digitsFit_wholeOf {v : Json} {n : Int} (hv : digitsFit v = true)
    (h : Number.wholeOf v = .ok n) : digitsFit (.int n) = true := by
  cases v with
  | int m =>
    cases h
    exact hv
  | bool b => cases h; cases b <;> decide
  | float x =>
    exact digitsFit_int_of_lt (Number.truncateFloat_natAbs_lt h)
  | str s =>
    obtain ⟨ds, hlen, hn⟩ := Number.wholeOfText_natAbs h
    apply digitsFit_int_of_lt
    rw [hn]
    exact Nat.lt_of_lt_of_le (Number.digitsValue_lt ds) (Nat.pow_le_pow_right (by decide) hlen)
  | null | arr _ | obj _ => cases h

theorem digitsFit_lookup {ms : List (String × Json)} {k : String} {v : Json}
    (hms : membersFit ms = true) (h : ms.lookup k = some v) : digitsFit v = true := by
  induction ms with
  | nil => cases h
  | cons m ms ih =>
    obtain ⟨k', v'⟩ := m
    simp only [membersFit, Bool.and_eq_true] at hms
    by_cases hk : k = k'
    · subst hk
      simp only [List.lookup_cons_self, Option.some.injEq] at h
      exact h ▸ hms.1
    · have hne : (k == k') = false := by simpa using hk
      rw [List.lookup_cons, hne] at h
      exact ih hms.2 h

/-- A document is read only when its whole numbers fit the digit limit. -/
theorem digitsFit_of_parseDocument? {t : String} {v : Json} (h : parseDocument? t = some v) :
    digitsFit v = true := by
  simp only [parseDocument?, readDocument, bind, Except.bind] at h
  split at h
  · cases h
  · split at h
    · next hfit => simp only [pure, Except.pure, Except.toOption, Option.some.injEq] at h; exact h ▸ hfit
    · cases h

end Json

namespace Settings

/-- Whether both numbers of the settings have at most `Number.maxDigits` digits. -/
def numbersFit (s : Settings) : Bool :=
  digitsFit (.int s.cacheTtlSeconds) && digitsFit (.int s.requestTimeoutSeconds)

/-- Settings read from an object: each number is read from the member of its name, or from
its default. -/
theorem ofJson_numbers {data : Json} {s : Settings} (h : ofJson data = .ok s) :
    ∃ ms, data = .obj ms ∧
      Number.wholeOf ((ms.lookup "cache_ttl_seconds").getD (.int 900)) = .ok s.cacheTtlSeconds ∧
      Number.wholeOf ((ms.lookup "request_timeout_seconds").getD (.int 30)) =
        .ok s.requestTimeoutSeconds := by
  unfold ofJson at h
  cases data with
  | obj ms =>
    refine ⟨ms, rfl, ?_⟩
    simp only [bind, Except.bind, get?] at h
    split at h
    · cases h
    · next ttl httl =>
      split at h
      · cases h
      · next timeout htimeout =>
        simp only [pure, Except.pure, Except.ok.injEq] at h
        subst h
        exact ⟨httl, htimeout⟩
  | _ => cases h

/-- The numbers of settings read from an object whose numbers fit, fit. -/
theorem numbersFit_ofJson {data : Json} {s : Settings} (hv : digitsFit data = true)
    (h : ofJson data = .ok s) : s.numbersFit = true := by
  obtain ⟨ms, rfl, httl, htimeout⟩ := ofJson_numbers h
  have hfield : ∀ k (d : Int), digitsFit (.int d) = true →
      digitsFit ((ms.lookup k).getD (.int d)) = true := by
    intro k d hd
    cases hk : ms.lookup k with
    | none => exact hd
    | some v => exact digitsFit_lookup hv hk
  simp only [numbersFit, Bool.and_eq_true]
  exact ⟨digitsFit_wholeOf (hfield _ _ (by decide)) httl,
    digitsFit_wholeOf (hfield _ _ (by decide)) htimeout⟩

/-- **Settings read from any file have numbers within the digit limit.** -/
theorem ofFileText_numbersFit (file : Option String) : (ofFileText file).numbersFit = true := by
  cases file with
  | none => decide
  | some t =>
    simp only [ofFileText]
    split
    · next v hv =>
      split
      · next s hs => exact numbersFit_ofJson (digitsFit_of_parseDocument? hv) hs
      · decide
    · decide

/-! ### Writing the settings and reading them back -/

/-- The settings as a load reads them back from their file: an empty service or core
version is read as its default. -/
def withTextDefaults (s : Settings) : Settings :=
  { s with
    serviceId := if s.serviceId = "" then ({} : Settings).serviceId else s.serviceId
    coreVersion := if s.coreVersion = "" then ({} : Settings).coreVersion else s.coreVersion }

/-- The members of the settings, in the order of the fields. -/
theorem members_eq (s : Settings) : s.members =
    [("remote_enabled", .bool s.remoteEnabled), ("include_incompatible", .bool s.includeIncompatible),
      ("catalog_url", .str s.catalogUrl), ("service_id", .str s.serviceId),
      ("core_version", .str s.coreVersion), ("cache_ttl_seconds", .int s.cacheTtlSeconds),
      ("request_timeout_seconds", .int s.requestTimeoutSeconds), ("data_dir", .str s.dataDir)] :=
  rfl

theorem members_keys (s : Settings) : s.members.map (·.1) = fieldNames := rfl

theorem members_isScalar (s : Settings) : ∀ m ∈ s.members, isScalar m.2 = true := by
  simp [members_eq, isScalar]

theorem membersFit_members (s : Settings) : membersFit s.members = s.numbersFit := by
  simp [members_eq, membersFit, numbersFit, digitsFit]

/-- Reading settings from their own object view gives them back, an empty service or core
version as its default. -/
theorem ofJson_members (s : Settings) : ofJson (.obj s.members) = .ok s.withTextDefaults := by
  simp only [ofJson, members_eq, get?, bind, Except.bind, pure, Except.pure,
    Number.wholeOf, withTextDefaults]
  -- a text is read as itself when it is not empty, and an empty one as its default
  have text : ∀ t d : String, (if (Json.str t).truthy = true then (Json.str t).display else d) =
      if t = "" then d else t := by
    intro t d
    by_cases ht : t = "" <;> simp [ht, truthy, display]
  simp [List.lookup_cons, parseFlag, text]

/-- **The settings file reads back.** The settings file of settings whose numbers fit the
digit limit reads back as those settings, an empty service or core version as its default. -/
theorem ofFileText_fileText {s : Settings} (h : s.numbersFit = true) :
    ofFileText (some (fileText s.members)) = s.withTextDefaults := by
  have hread := readDocument_render_settings (members_isScalar s)
    (by rw [members_keys]; decide) (by rw [membersFit_members]; exact h)
  simp only [ofFileText, fileText, parseDocument?, hread, Except.toOption, ofJson_members]

/-! ### Updates that give fields values of their own types -/

/-- Whether a change gives the named field a value of the field's own type: a boolean for a
flag, a text for the catalog url, the service, the core version or the data directory, and a
whole number within the digit limit for the cache lifetime or the request timeout. -/
def fitsField (name : String) : Json → Bool
  | .bool _ => name == "remote_enabled" || name == "include_incompatible"
  | .str _ =>
    name == "catalog_url" || name == "service_id" || name == "core_version" || name == "data_dir"
  | .int n => (name == "cache_ttl_seconds" || name == "request_timeout_seconds") && digitsFit (.int n)
  | _ => false

/-- Sets the named field to a value of its own type; any other change leaves the settings as
they are. -/
def assign (s : Settings) (name : String) (v : Json) : Settings :=
  match v with
  | .bool b =>
    if name = "remote_enabled" then { s with remoteEnabled := b }
    else if name = "include_incompatible" then { s with includeIncompatible := b } else s
  | .str t =>
    if name = "catalog_url" then { s with catalogUrl := t }
    else if name = "service_id" then { s with serviceId := t }
    else if name = "core_version" then { s with coreVersion := t }
    else if name = "data_dir" then { s with dataDir := t } else s
  | .int n =>
    if name = "cache_ttl_seconds" then { s with cacheTtlSeconds := n }
    else if name = "request_timeout_seconds" then { s with requestTimeoutSeconds := n } else s
  | _ => s

/-- Sets the named fields, in order. -/
def assignAll (s : Settings) (changes : List (String × Json)) : Settings :=
  changes.foldl (fun s c => s.assign c.1 c.2) s

theorem mem_fieldNames_of_fitsField {name : String} {v : Json} (h : fitsField name v = true) :
    name ∈ fieldNames := by
  cases v with
  | bool b =>
    simp only [fitsField, Bool.or_eq_true, beq_iff_eq] at h
    rcases h with rfl | rfl <;> simp [fieldNames]
  | str t =>
    simp only [fitsField, Bool.or_eq_true, beq_iff_eq] at h
    rcases h with ((rfl | rfl) | rfl) | rfl <;> simp [fieldNames]
  | int n =>
    simp only [fitsField, Bool.and_eq_true, Bool.or_eq_true, beq_iff_eq] at h
    rcases h.1 with rfl | rfl <;> simp [fieldNames]
  | null | float _ | arr _ | obj _ => cases h

/-- Setting a field of the settings object makes it an own attribute, whatever the object
holds. -/
theorem setAttribute_field (own : List (String × Json)) {name : String} (h : name ∈ fieldNames)
    (v : Json) : setAttribute own name v = .ok (setMember own name v) := by
  have hclass : name ≠ "__class__" := by rintro rfl; simp [fieldNames] at h
  have hweak : name ≠ "__weakref__" := by rintro rfl; simp [fieldNames] at h
  have hdict : name ≠ "__dict__" := by rintro rfl; simp [fieldNames] at h
  have hattr : name ∈ classAttributes := List.mem_append_left _ h
  simp [setAttribute, hclass, hweak, hdict, hattr]

/-- A change that fits its field sets that member of the settings. -/
theorem setMember_members (s : Settings) {name : String} {v : Json} (h : fitsField name v = true) :
    setMember s.members name v = (s.assign name v).members := by
  cases v with
  | bool b =>
    simp only [fitsField, Bool.or_eq_true, beq_iff_eq] at h
    rcases h with rfl | rfl <;> simp [setMember, members_eq, assign]
  | str t =>
    simp only [fitsField, Bool.or_eq_true, beq_iff_eq] at h
    rcases h with ((rfl | rfl) | rfl) | rfl <;> simp [setMember, members_eq, assign]
  | int n =>
    simp only [fitsField, Bool.and_eq_true, Bool.or_eq_true, beq_iff_eq] at h
    rcases h.1 with rfl | rfl <;> simp [setMember, members_eq, assign]
  | null | float _ | arr _ | obj _ => cases h

theorem numbersFit_assign {s : Settings} {name : String} {v : Json} (hs : s.numbersFit = true)
    (h : fitsField name v = true) : (s.assign name v).numbersFit = true := by
  cases v with
  | int n =>
    simp only [fitsField, Bool.and_eq_true, Bool.or_eq_true, beq_iff_eq] at h
    obtain ⟨rfl | rfl, hn⟩ := h <;> simp_all [assign, numbersFit]
  | bool b | str t => simp only [assign]; split_ifs <;> exact hs
  | null | float _ | arr _ | obj _ => exact hs

theorem numbersFit_assignAll {s : Settings} {changes : List (String × Json)} (hs : s.numbersFit = true)
    (h : ∀ c ∈ changes, fitsField c.1 c.2 = true) : (s.assignAll changes).numbersFit = true := by
  induction changes generalizing s with
  | nil => exact hs
  | cons c cs ih =>
    exact ih (numbersFit_assign hs (h c (List.mem_cons_self ..)))
      fun c' hc' => h c' (List.mem_cons_of_mem _ hc')

/-- **An update by fitting changes sets their fields.** -/
theorem updateFields_members (s : Settings) {changes : List (String × Json)}
    (h : ∀ c ∈ changes, fitsField c.1 c.2 = true) :
    updateFields s.members changes = .ok (s.assignAll changes).members := by
  induction changes generalizing s with
  | nil => rfl
  | cons c cs ih =>
    obtain ⟨name, v⟩ := c
    have hc := h (name, v) (List.mem_cons_self ..)
    simp only [updateFields, setAttribute_field _ (mem_fieldNames_of_fitsField hc),
      setMember_members s hc, bind, Except.bind]
    exact ih (s.assign name v) fun c' hc' => h c' (List.mem_cons_of_mem _ hc')

/-- The settings write all their fields, as they are. -/
theorem writtenFields_members (s : Settings) : writtenFields s.members = .ok s.members := by
  simp [writtenFields, members_eq, fieldNames, List.lookup_cons, List.lookup_nil]

end Settings

open Settings

/-- **A load after an update.** Whatever the settings file held, an update by changes that give
fields values of their own types returns the settings read from the file with those fields
set, and writes a file from which a load reads those same settings, but for an empty service
or core version, which it reads as its default. -/
theorem load_after_update (file : Option String) (changes : List (String × Json))
    (h : ∀ c ∈ changes, fitsField c.1 c.2 = true) :
    (updateFields (ofFileText file).members changes >>= writtenFields) =
        .ok ((ofFileText file).assignAll changes).members ∧
      ofFileText (some (fileText ((ofFileText file).assignAll changes).members)) =
        ((ofFileText file).assignAll changes).withTextDefaults := by
  refine ⟨?_, ofFileText_fileText (numbersFit_assignAll (ofFileText_numbersFit file) h)⟩
  rw [updateFields_members _ h]
  exact writtenFields_members _

/-- Turning the remote catalog off, clearing the service and shortening the cache lifetime of
the default settings: the load reads the service back as its default. -/
theorem load_after_update_remote_off :
    (∀ c ∈ [("remote_enabled", Json.bool false), ("service_id", .str ""),
        ("cache_ttl_seconds", .int 60)], fitsField c.1 c.2 = true) ∧
      (updateFields (ofFileText none).members [("remote_enabled", Json.bool false),
          ("service_id", .str ""), ("cache_ttl_seconds", .int 60)] >>= writtenFields) =
        .ok ((ofFileText none).assignAll [("remote_enabled", Json.bool false),
          ("service_id", .str ""), ("cache_ttl_seconds", .int 60)]).members ∧
      ofFileText (some (fileText ((ofFileText none).assignAll [("remote_enabled", Json.bool false),
          ("service_id", .str ""), ("cache_ttl_seconds", .int 60)]).members)) =
        ((ofFileText none).assignAll [("remote_enabled", Json.bool false),
          ("service_id", .str ""), ("cache_ttl_seconds", .int 60)]).withTextDefaults :=
  ⟨by decide, load_after_update none _ (by decide)⟩

/-- A text given to a flag is written as it is, and a load reads it back as the flag it names:
the settings an update returns and those a load returns then differ. -/
theorem update_then_load_flag_text :
    (updateFields (ofFileText none).members [("remote_enabled", .str "off"), ("service_id", .str "")]
        >>= writtenFields) =
      .ok [("remote_enabled", .str "off"), ("include_incompatible", .bool false),
        ("catalog_url", .str ""), ("service_id", .str ""), ("core_version", .str "4.0.0"),
        ("cache_ttl_seconds", .int 900), ("request_timeout_seconds", .int 30), ("data_dir", .str "")] ∧
    (ofFileText (some (fileText [("remote_enabled", .str "off"), ("include_incompatible", .bool false),
        ("catalog_url", .str ""), ("service_id", .str ""), ("core_version", .str "4.0.0"),
        ("cache_ttl_seconds", .int 900), ("request_timeout_seconds", .int 30),
        ("data_dir", .str "")]))).toJson ≠
      .obj [("remote_enabled", .str "off"), ("include_incompatible", .bool false),
        ("catalog_url", .str ""), ("service_id", .str ""), ("core_version", .str "4.0.0"),
        ("cache_ttl_seconds", .int 900), ("request_timeout_seconds", .int 30), ("data_dir", .str "")] := by
  refine ⟨?_, fun h => ?_⟩
  · have hfield : ∀ name ∈ ["remote_enabled", "service_id"], name ∈ fieldNames := by
      simp [fieldNames]
    simp only [ofFileText, updateFields, bind, Except.bind,
      setAttribute_field _ (hfield "remote_enabled" (by simp)),
      setAttribute_field _ (hfield "service_id" (by simp))]
    simp [members_eq, setMember, writtenFields, List.lookup_cons, List.lookup_nil, fieldNames]
  · -- a load always reads the flag as a boolean
    simp only [toJson, Json.obj.injEq, List.cons.injEq, Prod.mk.injEq] at h
    exact Json.noConfusion h.1.2

end AddonCatalog
