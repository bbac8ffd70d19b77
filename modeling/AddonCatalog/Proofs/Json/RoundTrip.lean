import AddonCatalog.Proofs.Json.Scalars

/-!
# Reading back what the record writer writes

A value is *plain* when it holds no double and no object in it repeats a key. The record
writer and the reader agree on plain values, and the nesting scan measures a written value
by the containers it nests:

* `readValue_write`: the reader reads a written plain value back, with any fuel longer than
  its text and any room for as many containers as its text has characters; by mutual
  induction on the value, its items and its members, one step lemma per kind of token;
* `parse_render`: a plain value is read back from its whole text;
* `nesting_render`: the nesting of the text is the `depth` of the value, the most arrays and
  objects that enclose a key or a value in it.
-/

namespace AddonCatalog.Json

mutual
/-- Whether a value is written and read back as it is: it holds no double, and no object in
it repeats a key. -/
def plain : Json → Bool
  | .float _ => false
  | .arr xs => itemsPlain xs
  | .obj ms => decide (ms.map (·.1)).Nodup && membersPlain ms
  | _ => true
/-- Whether every item is plain. -/
def itemsPlain : List Json → Bool
  | [] => true
  | x :: xs => plain x && itemsPlain xs
/-- Whether every member's value is plain. -/
def membersPlain : List (String × Json) → Bool
  | [] => true
  | (_, v) :: ms => plain v && membersPlain ms
end

mutual
/-- The most arrays and objects that enclose a key or a value inside a value. -/
def depth : Json → Nat
  | .arr xs => itemsDepth xs
  | .obj ms => membersDepth ms
  | _ => 0
/-- The depth the items add to their array. -/
def itemsDepth : List Json → Nat
  | [] => 0
  | x :: xs => max (depth x + 1) (itemsDepth xs)
/-- The depth the members add to their object. -/
def membersDepth : List (String × Json) → Nat
  | [] => 0
  | (_, v) :: ms => max (depth v + 1) (membersDepth ms)
end

mutual
/-- A plain value holds no double, so no double of it is replaced by `null`. -/
theorem finiteOrNull_of_plain : ∀ v : Json, plain v = true → finiteOrNull v = v
  | .null, _ => rfl
  | .bool _, _ => rfl
  | .int _, _ => rfl
  | .float _, h => by simp [plain] at h
  | .str _, _ => rfl
  | .arr xs, h => by rw [finiteOrNull, finiteItems_of_plain xs h]
  | .obj ms, h => by
    rw [plain, Bool.and_eq_true] at h
    rw [finiteOrNull, finiteMembers_of_plain ms h.2]

theorem finiteItems_of_plain : ∀ xs : List Json, itemsPlain xs = true → finiteItems xs = xs
  | [], _ => rfl
  | x :: xs, h => by
    rw [itemsPlain, Bool.and_eq_true] at h
    rw [finiteItems, finiteOrNull_of_plain x h.1, finiteItems_of_plain xs h.2]

theorem finiteMembers_of_plain :
    ∀ ms : List (String × Json), membersPlain ms = true → finiteMembers ms = ms
  | [], _ => rfl
  | (k, v) :: ms, h => by
    rw [membersPlain, Bool.and_eq_true] at h
    rw [finiteMembers, finiteOrNull_of_plain v h.1, finiteMembers_of_plain ms h.2]
end

/-- The separator written before an item or a member. -/
def separator (first : Bool) : List Char := if first then [] else [',']

theorem write_arr_toList (l : Nat) (x : Json) (xs : List Json) :
    (write JsonStyle.record l (.arr (x :: xs))).toList =
      '[' :: (String.join (writeItems JsonStyle.record (l + 1) true (x :: xs))).toList ++ [']'] := by
  simp [write, breakAt, JsonStyle.record]

theorem write_obj_toList (l : Nat) (m : String × Json) (ms : List (String × Json)) :
    (write JsonStyle.record l (.obj (m :: ms))).toList =
      '{' :: (String.join (writeMembers JsonStyle.record (l + 1) true (m :: ms))).toList ++ ['}'] := by
  simp [write, breakAt, JsonStyle.record]

theorem writeItems_toList (l : Nat) (first : Bool) (x : Json) (xs : List Json) :
    (String.join (writeItems JsonStyle.record l first (x :: xs))).toList =
      separator first ++ (write JsonStyle.record l x).toList ++
        (String.join (writeItems JsonStyle.record l false xs)).toList := by
  cases first <;> simp [writeItems, breakAt, separator, JsonStyle.record, String.toList_append]

theorem writeMembers_toList (l : Nat) (first : Bool) (k : String) (v : Json) (ms : List (String × Json)) :
    (String.join (writeMembers JsonStyle.record l first ((k, v) :: ms))).toList =
      separator first ++ (writeString false k).toList ++ ':' :: (write JsonStyle.record l v).toList ++
        (String.join (writeMembers JsonStyle.record l false ms)).toList := by
  cases first <;> simp [writeMembers, breakAt, separator, JsonStyle.record, String.toList_append]

theorem writeItems_false_toList (l : Nat) (x : Json) (xs : List Json) :
    (String.join (writeItems JsonStyle.record l false (x :: xs))).toList =
      ',' :: (String.join (writeItems JsonStyle.record l true (x :: xs))).toList := by
  rw [writeItems_toList, writeItems_toList]; rfl

theorem writeMembers_false_toList (l : Nat) (m : String × Json) (ms : List (String × Json)) :
    (String.join (writeMembers JsonStyle.record l false (m :: ms))).toList =
      ',' :: (String.join (writeMembers JsonStyle.record l true (m :: ms))).toList := by
  obtain ⟨k, v⟩ := m
  rw [writeMembers_toList, writeMembers_toList]; rfl

theorem nestingFrom_separator (first : Bool) (T : List Char) (d b : Nat) :
    nestingFrom (separator first ++ T) false false d b = nestingFrom T false false d b := by
  cases first <;> rfl



mutual
theorem nestingFrom_write (l : Nat) : ∀ (v : Json), plain v = true → ∀ (T : List Char) (d b : Nat),
    nestingFrom ((write JsonStyle.record l v).toList ++ T) false false d b =
      nestingFrom T false false d (max b (d + depth v))
  | .null, _, T, d, b => by simp [write, nestingFrom, depth]
  | .bool bb, _, T, d, b => by cases bb <;> simp [write, nestingFrom, depth]
  | .int n, _, T, d, b => by
    simp only [write, depth, Nat.add_zero]
    exact nestingFrom_int n T d b
  | .float _, h, _, _, _ => by simp [plain] at h
  | .str s, _, T, d, b => by
    simp only [write, depth, Nat.add_zero]
    exact nestingFrom_writeString s T d b
  | .arr [], _, T, d, b => by simp [write, nestingFrom, depth, itemsDepth]
  | .arr (x :: xs), h, T, d, b => by
    have hx : 1 ≤ itemsDepth (x :: xs) := by simp only [itemsDepth]; omega
    simp only [write_arr_toList, List.cons_append, List.append_assoc]
    calc _ = nestingFrom ((String.join (writeItems JsonStyle.record (l + 1) true (x :: xs))).toList ++
            ']' :: T) false false (d + 1) (max b d) := rfl
      _ = nestingFrom (']' :: T) false false (d + 1) (max (max b d) (d + itemsDepth (x :: xs))) :=
          nestingFrom_writeItems (l + 1) (x :: xs) (by simpa [plain] using h) true _ d _ (by omega)
      _ = _ := by
          simp only [depth]
          rw [show max (max b d) (d + itemsDepth (x :: xs)) = max b (d + itemsDepth (x :: xs)) by omega]
          rfl
  | .obj [], _, T, d, b => by simp [write, nestingFrom, depth, membersDepth]
  | .obj (m :: ms), h, T, d, b => by
    have hx : 1 ≤ membersDepth (m :: ms) := by obtain ⟨k, v⟩ := m; simp only [membersDepth]; omega
    simp only [write_obj_toList, List.cons_append, List.append_assoc]
    calc _ = nestingFrom ((String.join (writeMembers JsonStyle.record (l + 1) true (m :: ms))).toList ++
            '}' :: T) false false (d + 1) (max b d) := rfl
      _ = nestingFrom ('}' :: T) false false (d + 1) (max (max b d) (d + membersDepth (m :: ms))) :=
          nestingFrom_writeMembers (l + 1) (m :: ms) (by simp [plain] at h; exact h.2) true _ d _ (by omega)
      _ = _ := by
          simp only [depth]
          rw [show max (max b d) (d + membersDepth (m :: ms)) = max b (d + membersDepth (m :: ms)) by omega]
          rfl

theorem nestingFrom_writeItems (l : Nat) : ∀ (xs : List Json), itemsPlain xs = true →
    ∀ (first : Bool) (T : List Char) (d b : Nat), d ≤ b →
    nestingFrom ((String.join (writeItems JsonStyle.record l first xs)).toList ++ T) false false (d + 1) b =
      nestingFrom T false false (d + 1) (max b (d + itemsDepth xs))
  | [], _, first, T, d, b, hb => by simp [writeItems, itemsDepth, Nat.max_eq_left hb]
  | x :: xs, h, first, T, d, b, hb => by
    simp only [itemsPlain, Bool.and_eq_true] at h
    rw [writeItems_toList, List.append_assoc, List.append_assoc, nestingFrom_separator,
      nestingFrom_write l x h.1, nestingFrom_writeItems l xs h.2 false T d _ (by omega)]
    simp only [itemsDepth]
    congr 1
    omega

theorem nestingFrom_writeMembers (l : Nat) : ∀ (ms : List (String × Json)), membersPlain ms = true →
    ∀ (first : Bool) (T : List Char) (d b : Nat), d ≤ b →
    nestingFrom ((String.join (writeMembers JsonStyle.record l first ms)).toList ++ T) false false (d + 1) b =
      nestingFrom T false false (d + 1) (max b (d + membersDepth ms))
  | [], _, first, T, d, b, hb => by simp [writeMembers, membersDepth, Nat.max_eq_left hb]
  | (k, v) :: ms, h, first, T, d, b, hb => by
    simp only [membersPlain, Bool.and_eq_true] at h
    simp only [writeMembers_toList, List.append_assoc, List.cons_append]
    rw [nestingFrom_separator, nestingFrom_writeString]
    calc _ = nestingFrom ((write JsonStyle.record l v).toList ++
            (String.join (writeMembers JsonStyle.record l false ms)).toList ++ T) false false (d + 1) (max b (d + 1)) := by
          rw [List.append_assoc]; rfl
      _ = _ := by
          rw [List.append_assoc, nestingFrom_write l v h.1,
            nestingFrom_writeMembers l ms h.2 false T d _ (by omega)]
          simp only [membersDepth]
          congr 1
          omega
end


theorem nesting_render {v : Json} (hv : plain v = true) : nesting (render JsonStyle.record v) = depth v := by
  have h := nestingFrom_write 0 v hv [] 0 0
  rw [List.append_nil] at h
  simp [nesting, render, h, nestingFrom]

/-! ### Reading -/

theorem write_head (l : Nat) (v : Json) (hv : plain v = true) :
    ∃ c t, (write JsonStyle.record l v).toList = c :: t ∧ 32 < c.toNat ∧ c ≠ ']' := by
  cases v with
  | null => exact ⟨'n', ['u', 'l', 'l'], by simp [write], by decide, by decide⟩
  | bool b =>
    cases b with
    | false => exact ⟨'f', ['a', 'l', 's', 'e'], by simp [write], by decide, by decide⟩
    | true => exact ⟨'t', ['r', 'u', 'e'], by simp [write], by decide, by decide⟩
  | int i =>
    obtain ⟨c, t, hct, h45, h57⟩ := toString_int_head i
    exact ⟨c, t, hct, by omega, by rintro rfl; exact absurd h57 (by decide)⟩
  | float x => simp [plain] at hv
  | str s => exact ⟨'"', _, writeString_toList s, by decide, by decide⟩
  | arr xs =>
    cases xs with
    | nil => exact ⟨'[', [']'], by simp [write], by decide, by decide⟩
    | cons x xs => exact ⟨'[', _, by rw [write_arr_toList, List.cons_append], by decide, by decide⟩
  | obj ms =>
    cases ms with
    | nil => exact ⟨'{', ['}'], by simp [write], by decide, by decide⟩
    | cons m ms => exact ⟨'{', _, by rw [write_obj_toList, List.cons_append], by decide, by decide⟩


theorem foldl_setMember : ∀ (ms acc : List (String × Json)), ((acc ++ ms).map (·.1)).Nodup →
    ms.foldl (fun acc m => setMember acc m.1 m.2) acc = acc ++ ms
  | [], acc, _ => by simp
  | (k, v) :: ms, acc, h => by
    have hk : acc.any (·.1 == k) = false := by
      simp only [List.map_append, List.map_cons, List.nodup_append, List.nodup_cons] at h
      simp only [List.any_eq_false, beq_iff_eq]
      intro m hm hmk
      exact h.2.2 m.1 (List.mem_map_of_mem hm) k (by simp) hmk
    have hset : setMember acc k v = acc ++ [(k, v)] := by simp [setMember, hk]
    rw [List.foldl_cons, hset, foldl_setMember ms (acc ++ [(k, v)]) (by simpa using h)]
    simp

/-- Collecting members whose keys are distinct keeps them as they are. -/
theorem collectMembers_of_nodup {ms : List (String × Json)} (h : (ms.map (·.1)).Nodup) :
    collectMembers ms = ms :=
  foldl_setMember ms [] (by simpa using h)

theorem readValue_scalar (r : Reading) (n d : Nat) {c : Char} (hc : 32 < c.toNat) (h1 : c ≠ '{')
    (h2 : c ≠ '[') (h3 : c ≠ '"') (T : List Char) :
    readValue r (n + 1) d (c :: T) = match readScalar (c :: T) with
      | some v => .ok v
      | none => .error .malformed := by
  rw [readValue, skipSpace_cons hc]
  split
  next _ heq => exact absurd (List.cons.inj heq).1 h1
  next _ heq => exact absurd (List.cons.inj heq).1 h2
  next _ heq => exact absurd (List.cons.inj heq).1 h3
  next => rfl


section Steps

variable (r : Reading) (n d : Nat)

theorem readValue_string (T : List Char) :
    readValue r (n + 1) d ('"' :: T) = match readString r.lone [] T with
      | some (t, after) => .ok (.str t, after)
      | none => .error .malformed := by
  rw [readValue, skipSpace_cons (by decide)]
  rfl

theorem readValue_array (hd : d < r.room) {c : Char} {t : List Char} (hc : 32 < c.toNat) (hne : c ≠ ']') :
    readValue r (n + 1) d ('[' :: c :: t) = readItems r n (d + 1) [] (c :: t) := by
  rw [readValue, skipSpace_cons (by decide)]
  simp only [show ¬d ≥ r.room by omega, if_false, skipSpace_cons hc]
  split
  next _ heq => exact absurd (List.cons.inj heq).1 hne
  next => rfl

/-- An object whose first key follows its brace after blanks is read member by member. -/
theorem readValue_object_of_skip (hd : d < r.room) {cs t : List Char} (hs : skipSpace cs = '"' :: t) :
    readValue r (n + 1) d ('{' :: cs) = readMembers r n (d + 1) [] ('"' :: t) := by
  rw [readValue, skipSpace_cons (by decide)]
  simp only [show ¬d ≥ r.room by omega, if_false, hs]
  rfl

theorem readValue_object (hd : d < r.room) {t : List Char} :
    readValue r (n + 1) d ('{' :: '"' :: t) = readMembers r n (d + 1) [] ('"' :: t) :=
  readValue_object_of_skip r n d hd (skipSpace_cons (by decide) t)

variable {r n d} {acc : List Json} {cs : List Char} {v : Json}

theorem readItems_last {rest : List Char} (h : readValue r n d cs = .ok (v, ']' :: rest)) :
    readItems r (n + 1) d acc cs = .ok (.arr (v :: acc).reverse, rest) := by
  simp [readItems, h, bind, Except.bind, skipSpace_cons (c := ']') (by decide)]

theorem readItems_next {after : List Char} (h : readValue r n d cs = .ok (v, ',' :: after)) :
    readItems r (n + 1) d acc cs = readItems r n d (v :: acc) after := by
  simp [readItems, h, bind, Except.bind, skipSpace_cons (c := ',') (by decide)]

variable {accm : List (String × Json)} {k : String} {T A rest' : List Char}

/-- The last member of an object: a key, after blanks, and a value that blanks and the closing
brace follow. -/
theorem readMembers_last_of_skip {rest : List Char} (hq : skipSpace cs = '"' :: T)
    (hk : readString r.lone [] T = some (k, ':' :: A)) (h : readValue r n d A = .ok (v, rest'))
    (hs : skipSpace rest' = '}' :: rest) :
    readMembers r (n + 1) d accm cs = .ok (.obj (collectMembers ((k, v) :: accm).reverse), rest) := by
  simp [readMembers, hq, hk, h, hs, bind, Except.bind, skipSpace_cons (c := ':') (by decide)]

/-- A member that another follows: a key, after blanks, and a value that blanks and a
separator follow. -/
theorem readMembers_next_of_skip {after : List Char} (hq : skipSpace cs = '"' :: T)
    (hk : readString r.lone [] T = some (k, ':' :: A)) (h : readValue r n d A = .ok (v, rest'))
    (hs : skipSpace rest' = ',' :: after) :
    readMembers r (n + 1) d accm cs = readMembers r n d ((k, v) :: accm) after := by
  simp [readMembers, hq, hk, h, hs, bind, Except.bind, skipSpace_cons (c := ':') (by decide)]

theorem readMembers_last {rest : List Char} (hk : readString r.lone [] T = some (k, ':' :: A))
    (h : readValue r n d A = .ok (v, '}' :: rest)) :
    readMembers r (n + 1) d accm ('"' :: T) = .ok (.obj (collectMembers ((k, v) :: accm).reverse), rest) :=
  readMembers_last_of_skip (skipSpace_cons (by decide) T) hk h (skipSpace_cons (by decide) rest)

theorem readMembers_next {after : List Char} (hk : readString r.lone [] T = some (k, ':' :: A))
    (h : readValue r n d A = .ok (v, ',' :: after)) :
    readMembers r (n + 1) d accm ('"' :: T) = readMembers r n d ((k, v) :: accm) after :=
  readMembers_next_of_skip (skipSpace_cons (by decide) T) hk h (skipSpace_cons (by decide) after)

end Steps

-- The cases match on the value only: matching on the fuel and the hypotheses as well makes
-- the match itself expensive to elaborate.
mutual
theorem readValue_write (r : Reading) (l : Nat) : ∀ (v : Json), plain v = true →
    ∀ (rest : List Char) (F d : Nat), closesValue rest = true →
    (write JsonStyle.record l v).toList.length < F →
    d + (write JsonStyle.record l v).toList.length ≤ r.room →
    readValue r F d ((write JsonStyle.record l v).toList ++ rest) = .ok (v, rest)
  | .null, _ => by
    intro rest F d _ hF _
    obtain ⟨n, rfl⟩ : ∃ n, F = n + 1 := ⟨F - 1, by omega⟩
    simp [write, readValue, skipSpace, readScalar]
  | .bool b, _ => by
    intro rest F d _ hF _
    obtain ⟨n, rfl⟩ : ∃ n, F = n + 1 := ⟨F - 1, by omega⟩
    cases b <;> simp [write, readValue, skipSpace, readScalar]
  | .int i, _ => by
    intro rest F d hr hF _
    obtain ⟨n, rfl⟩ : ∃ n, F = n + 1 := ⟨F - 1, by omega⟩
    obtain ⟨c, t, hct, h45, h57⟩ := toString_int_head i
    have hne : ∀ x : Char, 57 < x.toNat ∨ x.toNat < 45 → c ≠ x := by
      rintro x hx rfl; omega
    simp only [write]
    rw [hct, List.cons_append, readValue_scalar r n d (by omega) (hne _ (by decide))
      (hne _ (by decide)) (hne _ (by decide)), ← List.cons_append, ← hct, readScalar_int i hr]
  | .float _, h => by simp [plain] at h
  | .str s, _ => by
    intro rest F d _ hF _
    obtain ⟨n, rfl⟩ : ∃ n, F = n + 1 := ⟨F - 1, by omega⟩
    simp only [write, JsonStyle.record, writeString_toList, List.cons_append, List.append_assoc]
    rw [readValue_string, readString_writeString]
    rfl
  | .arr [], _ => by
    intro rest F d _ hF hroom
    obtain ⟨n, rfl⟩ : ∃ n, F = n + 1 := ⟨F - 1, by omega⟩
    have hd : d < r.room := by simp [write] at hroom; omega
    simp [write, readValue, skipSpace, show ¬d ≥ r.room by omega]
  | .arr (x :: xs), h => by
    intro rest F d _ hF hroom
    obtain ⟨n, rfl⟩ : ∃ n, F = n + 1 := ⟨F - 1, by omega⟩
    simp only [plain, itemsPlain, Bool.and_eq_true] at h
    obtain ⟨c, t, hct, hc, hne⟩ := write_head (l + 1) x h.1
    have hI : (String.join (writeItems JsonStyle.record (l + 1) true (x :: xs))).toList =
        c :: (t ++ (String.join (writeItems JsonStyle.record (l + 1) false xs)).toList) := by
      rw [writeItems_toList, hct]; rfl
    rw [write_arr_toList] at hF hroom ⊢
    simp only [List.length_cons, List.length_append] at hF hroom
    simp only [List.cons_append, List.append_assoc, List.nil_append]
    rw [hI, List.cons_append, readValue_array r n d (by omega) hc hne, ← List.cons_append, ← hI]
    simpa using readItems_write r (l + 1) (x :: xs) (by simp [itemsPlain, h.1, h.2])
      (List.cons_ne_nil _ _) [] rest n (d + 1) (by omega) (by omega)
  | .obj [], _ => by
    intro rest F d _ hF hroom
    obtain ⟨n, rfl⟩ : ∃ n, F = n + 1 := ⟨F - 1, by omega⟩
    have hd : d < r.room := by simp [write] at hroom; omega
    simp [write, readValue, skipSpace, show ¬d ≥ r.room by omega]
  | .obj ((k, v) :: ms), h => by
    intro rest F d _ hF hroom
    obtain ⟨n, rfl⟩ : ∃ n, F = n + 1 := ⟨F - 1, by omega⟩
    simp only [plain, Bool.and_eq_true, decide_eq_true_eq] at h
    have hM : (String.join (writeMembers JsonStyle.record (l + 1) true ((k, v) :: ms))).toList =
        '"' :: ((k.toList.flatMap fun c => (escapeChar false c).toList) ++ '"' :: ':' ::
          ((write JsonStyle.record (l + 1) v).toList ++
            (String.join (writeMembers JsonStyle.record (l + 1) false ms)).toList)) := by
      rw [writeMembers_toList, writeString_toList]
      simp only [separator, ↓reduceIte, List.nil_append, List.cons_append, List.append_assoc]
    rw [write_obj_toList] at hF hroom ⊢
    simp only [List.length_cons, List.length_append] at hF hroom
    simp only [List.cons_append, List.append_assoc, List.nil_append]
    rw [hM, List.cons_append, readValue_object r n d (by omega), ← List.cons_append, ← hM,
      readMembers_write r (l + 1) ((k, v) :: ms) h.2 (List.cons_ne_nil _ _) [] rest n (d + 1)
        (by omega) (by omega)]
    simp [collectMembers_of_nodup h.1]

theorem readItems_write (r : Reading) (l : Nat) :
    ∀ (xs : List Json), itemsPlain xs = true → xs ≠ [] →
    ∀ (acc : List Json) (rest : List Char) (F d : Nat),
    (String.join (writeItems JsonStyle.record l true xs)).toList.length + 1 < F →
    d + (String.join (writeItems JsonStyle.record l true xs)).toList.length ≤ r.room →
    readItems r F d acc
        ((String.join (writeItems JsonStyle.record l true xs)).toList ++ ']' :: rest) =
      .ok (.arr (acc.reverse ++ xs), rest)
  | [], _, hne => absurd rfl hne
  | [x], h, _ => by
    intro acc rest F d hF hroom
    simp only [itemsPlain, Bool.and_true] at h
    have hJ : (String.join (writeItems JsonStyle.record l true [x])).toList =
        (write JsonStyle.record l x).toList := by
      rw [writeItems_toList]
      simp only [separator, ↓reduceIte, List.nil_append, writeItems, String.join_nil,
        String.toList_empty, List.append_nil]
    obtain ⟨m, rfl⟩ : ∃ m, F = m + 1 := ⟨F - 1, by omega⟩
    rw [hJ] at hF hroom ⊢
    -- the last item is followed by the closing bracket
    rw [readItems_last (readValue_write r l x h (']' :: rest) m d rfl (by omega) (by omega))]
    simp
  | x :: y :: ys, h, _ => by
    intro acc rest F d hF hroom
    rw [itemsPlain, Bool.and_eq_true] at h
    have hJ : (String.join (writeItems JsonStyle.record l true (x :: y :: ys))).toList =
        (write JsonStyle.record l x).toList ++
          ',' :: (String.join (writeItems JsonStyle.record l true (y :: ys))).toList := by
      rw [writeItems_toList, writeItems_false_toList]; rfl
    obtain ⟨m, rfl⟩ : ∃ m, F = m + 1 := ⟨F - 1, by omega⟩
    rw [hJ] at hF hroom ⊢
    simp only [List.length_append, List.length_cons] at hF hroom
    rw [List.append_assoc, List.cons_append,
      readItems_next (readValue_write r l x h.1 _ m d rfl (by omega) (by omega)),
      readItems_write r l (y :: ys) h.2 (List.cons_ne_nil _ _) (x :: acc)
        rest m d (by omega) (by omega)]
    simp

theorem readMembers_write (r : Reading) (l : Nat) :
    ∀ (ms : List (String × Json)), membersPlain ms = true → ms ≠ [] →
    ∀ (acc : List (String × Json)) (rest : List Char) (F d : Nat),
    (String.join (writeMembers JsonStyle.record l true ms)).toList.length + 1 < F →
    d + (String.join (writeMembers JsonStyle.record l true ms)).toList.length ≤ r.room →
    readMembers r F d acc
        ((String.join (writeMembers JsonStyle.record l true ms)).toList ++ '}' :: rest) =
      .ok (.obj (collectMembers (acc.reverse ++ ms)), rest)
  | [], _, hne => absurd rfl hne
  | [(k, v)], h, _ => by
    intro acc rest F d hF hroom
    simp only [membersPlain, Bool.and_true] at h
    have hJ : (String.join (writeMembers JsonStyle.record l true [(k, v)])).toList =
        '"' :: ((k.toList.flatMap fun c => (escapeChar false c).toList) ++ '"' :: ':' ::
          (write JsonStyle.record l v).toList) := by
      rw [writeMembers_toList, writeString_toList]
      simp only [separator, ↓reduceIte, List.nil_append, List.cons_append, List.append_assoc,
        writeMembers, String.join_nil, String.toList_empty, List.append_nil]
    obtain ⟨m, rfl⟩ : ∃ m, F = m + 1 := ⟨F - 1, by omega⟩
    rw [hJ] at hF hroom ⊢
    simp only [List.length_append, List.length_cons] at hF hroom
    simp only [List.cons_append, List.append_assoc]
    rw [readMembers_last (readString_writeString r.lone k _)
      (readValue_write r l v h ('}' :: rest) m d rfl (by omega) (by omega))]
    simp
  | (k, v) :: m :: ms, h, _ => by
    intro acc rest F d hF hroom
    rw [membersPlain, Bool.and_eq_true] at h
    have hJ : (String.join (writeMembers JsonStyle.record l true ((k, v) :: m :: ms))).toList =
        '"' :: ((k.toList.flatMap fun c => (escapeChar false c).toList) ++ '"' :: ':' ::
          ((write JsonStyle.record l v).toList ++
            ',' :: (String.join (writeMembers JsonStyle.record l true (m :: ms))).toList)) := by
      rw [writeMembers_toList, writeMembers_false_toList, writeString_toList]
      simp only [separator, ↓reduceIte, List.nil_append, List.cons_append, List.append_assoc]
    obtain ⟨n, rfl⟩ : ∃ n, F = n + 1 := ⟨F - 1, by omega⟩
    rw [hJ] at hF hroom ⊢
    simp only [List.length_append, List.length_cons] at hF hroom
    simp only [List.cons_append, List.append_assoc]
    rw [readMembers_next (readString_writeString r.lone k _)
        (readValue_write r l v h.1 _ n d rfl (by omega) (by omega)),
      readMembers_write r l (m :: ms) h.2 (List.cons_ne_nil _ _) ((k, v) :: acc) rest n d
        (by omega) (by omega)]
    simp
end

/-- A plain value is read back from its record text. -/
theorem parse_render {v : Json} (hv : plain v = true) : parse? (render JsonStyle.record v) = some v := by
  have h := readValue_write ⟨false, (render JsonStyle.record v).length + 1⟩ 0 v hv []
    ((render JsonStyle.record v).length + 2) 0 rfl
    (by simp only [render, ← String.length_toList]; omega)
    (by simp only [render, ← String.length_toList]; omega)
  rw [List.append_nil] at h
  simp only [parse?, parseWith, render] at h ⊢
  rw [h]
  rfl


end AddonCatalog.Json
