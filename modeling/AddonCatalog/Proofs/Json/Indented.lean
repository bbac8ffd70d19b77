import AddonCatalog.Proofs.Json.RoundTrip

/-!
# Reading back settings texts

The settings style writes an object with two-space indentation, each member on a line of
its own, and escapes every character beyond ASCII. The reader reads such a text of a flat
object back: one whose values are scalars (`null`, booleans, whole numbers, strings), whose
keys are distinct, and whose whole numbers are within the digit limit of documents.

* `readValue_writeScalar`: a written scalar reads back, whatever follows it that cannot
  extend a number;
* `readMembers_settings`: the indented members read back, by induction on the members, one
  step lemma per member;
* `readDocument_render_settings`: the whole text of such an object reads back as a document.
-/

namespace AddonCatalog.Json

/-- Whether a value is a scalar, written as one token. -/
def isScalar : Json → Bool
  | .null | .bool _ | .int _ | .str _ => true
  | _ => false

/-! ### The layout of a settings text -/

theorem render_settings_obj_toList (m : String × Json) (ms : List (String × Json)) :
    (render JsonStyle.settings (.obj (m :: ms))).toList =
      '{' :: (String.join (writeMembers JsonStyle.settings 1 true (m :: ms))).toList ++ ['\n', '}'] := by
  simp [render, write, breakAt, JsonStyle.settings]

theorem writeMembers_settings_toList (first : Bool) (k : String) (v : Json)
    (ms : List (String × Json)) :
    (String.join (writeMembers JsonStyle.settings 1 first ((k, v) :: ms))).toList =
      separator first ++ '\n' :: ' ' :: ' ' :: (writeString true k).toList ++ ':' :: ' ' ::
        (write JsonStyle.settings 1 v).toList ++
          (String.join (writeMembers JsonStyle.settings 1 false ms)).toList := by
  cases first <;> simp [writeMembers, breakAt, separator, JsonStyle.settings, String.toList_append]

theorem writeMembers_settings_false_toList (m : String × Json) (ms : List (String × Json)) :
    (String.join (writeMembers JsonStyle.settings 1 false (m :: ms))).toList =
      ',' :: (String.join (writeMembers JsonStyle.settings 1 true (m :: ms))).toList := by
  obtain ⟨k, v⟩ := m
  rw [writeMembers_settings_toList, writeMembers_settings_toList]; rfl

/-! ### Reading -/

section Steps

variable (r : Reading) (n d : Nat)

/-- The reader passes over the blank after a key's colon. -/
theorem readValue_space (cs : List Char) : readValue r n d (' ' :: cs) = readValue r n d cs := by
  cases n with
  | zero => rfl
  | succ n => rfl

/-- A written scalar reads back, whatever follows it that cannot extend a number. -/
theorem readValue_writeScalar (l : Nat) {v : Json} (hv : isScalar v = true) {tail : List Char}
    (ht : endsNumber tail = true) :
    readValue r (n + 1) d ((write JsonStyle.settings l v).toList ++ tail) = .ok (v, tail) := by
  cases v with
  | null => simp [write, readValue, skipSpace, readScalar]
  | bool b => cases b <;> simp [write, readValue, skipSpace, readScalar]
  | int i =>
    obtain ⟨c, t, hct, h45, h57⟩ := toString_int_head i
    have hne : ∀ x : Char, 57 < x.toNat ∨ x.toNat < 45 → c ≠ x := by
      rintro x hx rfl; omega
    simp only [write]
    rw [hct, List.cons_append, readValue_scalar r n d (by omega) (hne _ (by decide))
      (hne _ (by decide)) (hne _ (by decide)), ← List.cons_append, ← hct,
      readScalar_int_of_ends i ht]
  | str s =>
    simp only [write, JsonStyle.settings, writeString_toList, List.cons_append, List.append_assoc]
    rw [readValue_string, readString_writeString]
    rfl
  | float _ | arr _ | obj _ => simp [isScalar] at hv

end Steps

/-- The indented members of a flat object read back, up to the line break and the brace that
close it. -/
theorem readMembers_settings (r : Reading) :
    ∀ (ms : List (String × Json)), (∀ m ∈ ms, isScalar m.2 = true) → ms ≠ [] →
    ∀ (acc : List (String × Json)) (rest : List Char) (F d : Nat),
    (String.join (writeMembers JsonStyle.settings 1 true ms)).toList.length < F →
    readMembers r F d acc
        ((String.join (writeMembers JsonStyle.settings 1 true ms)).toList ++ '\n' :: '}' :: rest) =
      .ok (.obj (collectMembers (acc.reverse ++ ms)), rest)
  | [], _, hne => absurd rfl hne
  | [(k, v)], h, _ => by
    intro acc rest F d hF
    have hv : isScalar v = true := h (k, v) (by simp)
    have hJ : (String.join (writeMembers JsonStyle.settings 1 true [(k, v)])).toList =
        '\n' :: ' ' :: ' ' :: '"' :: ((k.toList.flatMap fun c => (escapeChar true c).toList) ++
          '"' :: ':' :: ' ' :: (write JsonStyle.settings 1 v).toList) := by
      rw [writeMembers_settings_toList, writeString_toList]
      simp only [separator, ↓reduceIte, List.nil_append, List.cons_append, List.append_assoc,
        writeMembers, String.join_nil, String.toList_empty, List.append_nil]
    obtain ⟨m, rfl⟩ : ∃ m, F = m + 2 := ⟨F - 2, by rw [hJ] at hF; simp at hF; omega⟩
    rw [hJ]
    simp only [List.cons_append, List.append_assoc]
    -- the value is followed by the line break before the closing brace
    rw [readMembers_last_of_skip rfl (readString_writeString r.lone k _)
      (by rw [readValue_space]; exact readValue_writeScalar r m d 1 hv rfl) rfl]
    simp
  | (k, v) :: p :: ms, h, _ => by
    intro acc rest F d hF
    have hv : isScalar v = true := h (k, v) (by simp)
    have hJ : (String.join (writeMembers JsonStyle.settings 1 true ((k, v) :: p :: ms))).toList =
        '\n' :: ' ' :: ' ' :: '"' :: ((k.toList.flatMap fun c => (escapeChar true c).toList) ++
          '"' :: ':' :: ' ' :: ((write JsonStyle.settings 1 v).toList ++
            ',' :: (String.join (writeMembers JsonStyle.settings 1 true (p :: ms))).toList)) := by
      rw [writeMembers_settings_toList, writeMembers_settings_false_toList, writeString_toList]
      simp only [separator, ↓reduceIte, List.nil_append, List.cons_append, List.append_assoc]
    obtain ⟨m, rfl⟩ : ∃ m, F = m + 1 := ⟨F - 1, by omega⟩
    rw [hJ] at hF ⊢
    simp only [List.length_append, List.length_cons] at hF
    simp only [List.cons_append, List.append_assoc]
    obtain ⟨m', rfl⟩ : ∃ m', m = m' + 1 := ⟨m - 1, by omega⟩
    -- the value is followed by the separator before the next member
    rw [readMembers_next_of_skip rfl (readString_writeString r.lone k _)
        (by rw [readValue_space]; exact readValue_writeScalar r m' d 1 hv rfl) rfl,
      readMembers_settings r (p :: ms) (fun x hx => h x (List.mem_cons_of_mem _ hx))
        (List.cons_ne_nil _ _) ((k, v) :: acc) rest (m' + 1) d (by omega)]
    simp

/-- The reader passes over the line break and indentation before a member. -/
theorem readMembers_indent (r : Reading) (n d : Nat) (acc : List (String × Json)) (cs : List Char) :
    readMembers r n d acc ('\n' :: ' ' :: ' ' :: cs) = readMembers r n d acc cs := by
  cases n with
  | zero => rfl
  | succ n => rfl

/-- **Settings texts read back.** The settings text of a flat object of scalars with distinct
keys and whole numbers within the digit limit reads back as a document. -/
theorem readDocument_render_settings {ms : List (String × Json)}
    (hs : ∀ m ∈ ms, isScalar m.2 = true) (hk : (ms.map (·.1)).Nodup) (hfit : membersFit ms = true) :
    readDocument (render JsonStyle.settings (.obj ms)) = .ok (.obj ms) := by
  cases ms with
  | nil => rfl
  | cons p ms =>
    obtain ⟨k, v⟩ := p
    obtain ⟨J, hJ⟩ : ∃ J,
        (String.join (writeMembers JsonStyle.settings 1 true ((k, v) :: ms))).toList = J :=
      ⟨_, rfl⟩
    -- the members start on the line after the brace
    obtain ⟨t, ht⟩ : ∃ t, J = '\n' :: ' ' :: ' ' :: '"' :: t := by
      rw [← hJ, writeMembers_settings_toList, writeString_toList]
      simp only [separator, ↓reduceIte, List.nil_append, List.cons_append]
      exact ⟨_, rfl⟩
    have hread : readValue ⟨true, documentRoom⟩ (J.length + 4 + 1) 0 ('{' :: (J ++ ['\n', '}'])) =
        .ok (.obj ((k, v) :: ms), []) := by
      have hmem := readMembers_settings ⟨true, documentRoom⟩ ((k, v) :: ms) hs (List.cons_ne_nil _ _)
        [] [] (J.length + 4) 1 (by rw [hJ]; omega)
      rw [List.reverse_nil, List.nil_append, collectMembers_of_nodup hk, hJ, ht] at hmem
      rw [ht, List.cons_append, readValue_object_of_skip _ _ _ (by decide) rfl, ← readMembers_indent]
      exact hmem
    have hlen : (render JsonStyle.settings (.obj ((k, v) :: ms))).length + 2 = J.length + 4 + 1 := by
      rw [← String.length_toList, render_settings_obj_toList, hJ]
      simp
    simp only [readDocument, parseWith]
    rw [hlen, render_settings_obj_toList, hJ, List.cons_append, hread]
    simp [bind, Except.bind, pure, Except.pure, skipSpace, digitsFit, hfit]

end AddonCatalog.Json
