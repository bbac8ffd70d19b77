import AddonCatalog.Cache.Script

/-!
# What a read of the expiring cache does

A read of the cache (`ScriptedCache.get`) is decided by the freshness of the stored value at
the clock's reading:

* fresh: the stored list is answered and nothing is fetched;
* stale (nothing stored since the cache was made or last invalidated, or the stored time is
  `ttl` or more ago): the fetch runs exactly once. A fetched list is answered, and stored with
  the clock's reading after the fetch unless the cache was invalidated while the fetch ran; a
  failed fetch answers the list held when the read began (or the empty list) and stores
  nothing, so the cache is still stale when read again at the same reading;
* when the time since the stored reading cannot be computed (a whole number of seconds beyond
  the range of doubles against a double), the read fails before it fetches.

Main statements: `read_of_fresh`, `read_of_stale_served` and `read_of_unknown_freshness` for one
read, gathered for every cache reached by reads, invalidations and moves of the clock in
`get_follows_freshness`; and `get_fails_past_double_range`, a run where the freshness cannot be
computed.

The fetch here is one that reads nothing from the cache while it runs: it may invalidate the
cache and move the clock (`NextFetchPlain`).
-/

namespace AddonCatalog

namespace Cache

section Counts

variable {τ α : Type} {c : Cache τ α}

/-- A value is stored exactly when its time is. -/
def Coherent (c : Cache τ α) : Prop := c.value.isSome = c.fetchedAt.isSome

/-- The cache after a read that is a hit. -/
def countHit (c : Cache τ α) : Cache τ α := { c with counts := { c.counts with hits := c.counts.hits + 1 } }

/-- The cache after a read that is a miss: a miss and a fetch are counted. -/
def countMiss (c : Cache τ α) : Cache τ α :=
  { c with counts := { c.counts with misses := c.counts.misses + 1, fetches := c.counts.fetches + 1 } }

theorem Coherent.countMiss (hc : c.Coherent) : c.countMiss.Coherent := hc

theorem Coherent.countHit (hc : c.Coherent) : c.countHit.Coherent := hc

theorem coherent_invalidate (c : Cache τ α) : c.invalidate.Coherent := rfl

theorem Coherent.complete (hc : c.Coherent) (t : Ticket α) (o : Except Failure (List α)) (now : τ) :
    (c.complete t o now).2.Coherent := by
  cases o with
  | error e => exact hc
  | ok v =>
    by_cases hg : (c.generation == t.generation) = true
    · simp [Cache.complete, hg, Coherent]
    · simpa [Cache.complete, hg] using hc

end Counts

variable {τ α : Type} [ClockTime τ] {c : Cache τ α} {now : τ}

theorem lookup_of_fresh (h : c.isFresh now = .ok true) :
    c.lookup now = .ok (.hit (c.value.getD []), c.countHit) := by
  rw [lookup, h]
  rfl

theorem lookup_of_stale (h : c.isFresh now = .ok false) :
    c.lookup now = .ok (.miss ⟨c.generation, c.value⟩, c.countMiss) := by
  rw [lookup, h]
  rfl

theorem lookup_of_error {e : Failure} (h : c.isFresh now = .error e) : c.lookup now = .error e := by
  rw [lookup, h]
  rfl

/-- A fresh value is a stored one. -/
theorem Coherent.value_of_fresh (hc : c.Coherent) (h : c.isFresh now = .ok true) :
    ∃ l, c.value = some l := by
  cases ht : c.fetchedAt with
  | none => simp [isFresh, ht] at h
  | some t =>
    cases hv : c.value with
    | none => simp [Coherent, hv, ht] at hc
    | some l => exact ⟨l, rfl⟩

/-- The freshness of a stored value fails when the time since its reading does. -/
theorem isFresh_of_elapsed_error {t : τ} {e : Failure} (ht : c.fetchedAt = some t)
    (h : ClockTime.elapsed now t = .error e) : c.isFresh now = .error e := by
  rw [isFresh, ht]
  simp only [h]
  rfl

/-- Nothing is fresh in a cache without a stored time. -/
theorem isFresh_of_fetchedAt_none (h : c.fetchedAt = none) : c.isFresh now = .ok false := by
  simp [isFresh, h]

/-- Freshness is read off the stored time and the lifetime alone. -/
theorem isFresh_congr {c' : Cache τ α} (ht : c'.fetchedAt = c.fetchedAt) (hl : c'.ttl = c.ttl) :
    c'.isFresh now = c.isFresh now := by
  simp only [isFresh, ht, hl]

end Cache

namespace Seconds

/-- A whole number of seconds within the range of doubles converts to its nearest double. -/
theorem toFloat?_whole_of_lt {n : Int} (h : n.natAbs < Nat.pow 2 1024 - Nat.pow 2 970) :
    (whole n).toFloat? = .ok (wholeToFloat n) := by
  rw [toFloat?, if_neg (Nat.not_le.mpr h)]

/-- A whole number of seconds of `2^1024` or more does not convert to a double. -/
theorem toFloat?_whole_of_ge {n : Int} (h : Nat.pow 2 1024 ≤ n.natAbs) :
    (whole n).toFloat? = .error tooLargeForDouble := by
  rw [toFloat?, if_pos (Nat.le_trans (Nat.sub_le (Nat.pow 2 1024) (Nat.pow 2 970)) h)]

theorem zero_lt_doubleRange : 0 < Nat.pow 2 1024 - Nat.pow 2 970 := by
  -- the exponents stay variables, so that no power of two is computed
  have hlt : ∀ a b : Nat, a < b → Nat.pow 2 a < Nat.pow 2 b := fun _ _ h => Nat.pow_lt_pow_right (by decide) h
  apply Nat.sub_pos_of_lt
  apply hlt
  decide

theorem add_whole_real_of_lt {n : Int} {x : Float} (h : n.natAbs < Nat.pow 2 1024 - Nat.pow 2 970) :
    (whole n).add (real x) = .ok (real (wholeToFloat n + x)) := by
  simp only [add, toFloat?_whole_of_lt h]
  rfl

/-- A double minus a whole number beyond the range of doubles cannot be computed. -/
theorem sub_real_whole_of_ge {x : Float} {n : Int} (h : Nat.pow 2 1024 ≤ n.natAbs) :
    (real x).sub (whole n) = .error tooLargeForDouble := by
  simp only [sub, toFloat?_whole_of_ge h]
  rfl

end Seconds

namespace ScriptedCache

variable {α : Type} {s s' : ScriptedCache α} {fuel : Nat}

/-! ### The fetch, as the fetch function runs it -/

/-- The next fetch reads nothing from the cache: its script step, if there is one, neither
reads the cache from inside the fetch nor has a second reader read it meanwhile. -/
def NextFetchPlain (s : ScriptedCache α) : Prop :=
  ∀ step, s.script.head? = some step → step.nestedGet = false ∧ step.threadGet = false

/-- What a fetch did: the clock's reading after it, whether it invalidated the cache, and the
list it answered or how it failed. -/
structure FetchRun (α : Type) where
  clock : Seconds
  invalidated : Bool
  result : Except Failure (List α)

/-- The failure of a fetch whose script step fails with a message. -/
def stepFailure (m : String) : Failure := ⟨.runtime, m⟩

/-- What the next fetch does: its script step may invalidate the cache and move the clock, a
move that fails fails the fetch, and the fetch then answers the step's list or fails with its
message. With no step left, the fetch fails. -/
def fetchRun (s : ScriptedCache α) : FetchRun α :=
  match s.script with
  | [] => ⟨s.clock, false, .error exhausted⟩
  | step :: _ =>
    match step.advance with
    | none => ⟨s.clock, step.invalidate, step.outcome.mapError stepFailure⟩
    | some d =>
      match s.clock.add d with
      | .ok clock => ⟨clock, step.invalidate, step.outcome.mapError stepFailure⟩
      | .error f => ⟨s.clock, step.invalidate, .error f⟩

/-- How a read that fetched served: the fetch ran once and took its script step; the read
answers the fetched list or, when the fetch failed, the list held when the read began (the
empty list if none); a fetched list is stored with the clock's reading after the fetch unless
the fetch invalidated the cache, and a failed fetch stores nothing. -/
structure Served (s : ScriptedCache α) (r : ReadReport α) (s' : ScriptedCache α) : Prop where
  fetched_once : s'.cache.counts.fetches = s.cache.counts.fetches + 1
  script : s'.script = s.script.tail
  clock : s'.clock = s.fetchRun.clock
  ttl : s'.cache.ttl = s.cache.ttl
  answer : r.value = match s.fetchRun.result with
    | .ok v => v
    | .error _ => s.cache.value.getD []
  stored : (s'.cache.value, s'.cache.fetchedAt) =
    if s.fetchRun.invalidated then (none, none)
    else match s.fetchRun.result with
      | .ok v => (some v, some s'.clock)
      | .error _ => (s.cache.value, s.cache.fetchedAt)

/-! ### One read -/

theorem read_of_fresh (h : s.cache.isFresh s.clock = .ok true) :
    read fuel s = .ok ({ value := s.cache.value.getD [] }, { s with cache := s.cache.countHit }) := by
  rw [read, Cache.lookup_of_fresh h]
  rfl

theorem read_of_unknown_freshness {e : Failure} (h : s.cache.isFresh s.clock = .error e) :
    read fuel s = .error e := by
  rw [read, Cache.lookup_of_error h]
  rfl

/-- The cache when the fetch has ended, before its outcome is handed over: the miss is
counted, and the fetch's invalidation done. -/
def fetchedCache (s : ScriptedCache α) : Cache Seconds α :=
  if s.fetchRun.invalidated then s.cache.countMiss.invalidate else s.cache.countMiss

/-- The fetch of a read starts in the generation of the cache, holding its value. -/
def ticket (s : ScriptedCache α) : Ticket α := ⟨s.cache.generation, s.cache.value⟩

/-- **A stale read fetches once.** A read of a stale cache whose next fetch reads nothing from
the cache runs that fetch and hands its outcome to the cache. -/
theorem read_of_stale (h : s.cache.isFresh s.clock = .ok false) (hp : s.NextFetchPlain) :
    read fuel s = .ok ({ value := (s.fetchedCache.complete s.ticket s.fetchRun.result s.fetchRun.clock).1 },
      { cache := (s.fetchedCache.complete s.ticket s.fetchRun.result s.fetchRun.clock).2,
        clock := s.fetchRun.clock, script := s.script.tail }) := by
  obtain ⟨c, clock, script⟩ := s
  cases script with
  | nil =>
    rw [read, Cache.lookup_of_stale h]
    rfl
  | cons step rest =>
    obtain ⟨hn, ht⟩ := hp step rfl
    obtain ⟨nested, thread, inv, adv, out⟩ := step
    simp only at hn ht
    subst hn ht
    rw [read, Cache.lookup_of_stale h]
    cases adv with
    | none => cases inv <;> cases out <;> rfl
    | some d =>
      -- a clock move that fails fails the fetch; otherwise the fetch ends at the moved clock
      cases hadd : clock.add d <;> cases inv <;> cases out <;>
        simp [fetchRun, fetchedCache, ticket, advance, invalidate, hadd, bind, Except.bind, pure,
          Except.pure] <;> exact ⟨rfl, rfl⟩

theorem read_of_stale_served (h : s.cache.isFresh s.clock = .ok false) (hp : s.NextFetchPlain) :
    ∃ r s', read fuel s = .ok (r, s') ∧ Served s r s' := by
  refine ⟨_, _, read_of_stale h hp, ?_⟩
  constructor
  · cases s.fetchRun.result <;> cases hi : s.fetchRun.invalidated <;>
      simp [Cache.complete, fetchedCache, hi, Cache.invalidate, Cache.countMiss] <;> split <;> rfl
  · rfl
  · rfl
  · cases s.fetchRun.result <;> cases hi : s.fetchRun.invalidated <;>
      simp [Cache.complete, fetchedCache, hi, Cache.invalidate, Cache.countMiss] <;> split <;> rfl
  · cases s.fetchRun.result <;> rfl
  · cases hr : s.fetchRun.result with
    | error e =>
      cases hi : s.fetchRun.invalidated <;> simp [Cache.complete, fetchedCache, hi, Cache.invalidate, Cache.countMiss]
    | ok v =>
      -- the fetch's invalidation bumps the generation, so the fetched list is stored exactly
      -- when the invalidation did not run
      cases hi : s.fetchRun.invalidated <;>
        simp [Cache.complete, fetchedCache, ticket, hi, Cache.invalidate, Cache.countMiss]

/-- A failed fetch leaves the cache stale at every reading at which it was stale. -/
theorem Served.stale_of_failed {r : ReadReport α} {e : Failure} {now : Seconds} (hs : Served s r s')
    (he : s.fetchRun.result = .error e) (h : s.cache.isFresh now = .ok false) :
    s'.cache.isFresh now = .ok false := by
  have hstored := hs.stored
  rw [he] at hstored
  split at hstored
  · exact Cache.isFresh_of_fetchedAt_none (Prod.mk.inj hstored).2
  · rw [Cache.isFresh_congr (Prod.mk.inj hstored).2 hs.ttl]
    exact h

/-! ### Every read of a run -/

/-- Every fetch of a script reads nothing from the cache. -/
def PlainScript (script : List (FetchStep α)) : Prop :=
  ∀ step ∈ script, step.nestedGet = false ∧ step.threadGet = false

/-- The caches that reads, invalidations and moves of the clock reach from a new cache whose
fetches read nothing from the cache. -/
inductive Reachable : ScriptedCache α → Prop
  | fresh (ttl clock : Seconds) (script : List (FetchStep α)) :
      PlainScript script → Reachable ⟨{ ttl }, clock, script⟩
  | get {s s' : ScriptedCache α} {r : ReadReport α} : Reachable s → s.get = .ok (r, s') → Reachable s'
  | invalidate {s : ScriptedCache α} : Reachable s → Reachable s.invalidate
  | advance {s s' : ScriptedCache α} {d : Seconds} : Reachable s → s.advance d = .ok s' → Reachable s'

/-- What every reachable cache satisfies: a value is stored exactly when its time is, and the
fetches left read nothing from the cache. -/
structure Invariant (s : ScriptedCache α) : Prop where
  coherent : s.cache.Coherent
  plain : PlainScript s.script

theorem Invariant.nextFetchPlain (hi : s.Invariant) : s.NextFetchPlain := fun step hstep =>
  hi.plain step (List.mem_of_mem_head? hstep)

theorem Invariant.read {r : ReadReport α} (hi : s.Invariant) (h : read fuel s = .ok (r, s')) :
    s'.Invariant := by
  cases hf : s.cache.isFresh s.clock with
  | error e => rw [read_of_unknown_freshness hf] at h; cases h
  | ok b =>
    cases b with
    | true =>
      rw [read_of_fresh hf] at h
      cases h
      exact ⟨hi.coherent.countHit, hi.plain⟩
    | false =>
      rw [read_of_stale hf hi.nextFetchPlain] at h
      cases h
      refine ⟨Cache.Coherent.complete ?_ _ _ _, fun step hstep => hi.plain step (List.mem_of_mem_tail hstep)⟩
      unfold fetchedCache
      split
      · exact Cache.coherent_invalidate _
      · exact hi.coherent.countMiss

theorem Reachable.invariant (h : s.Reachable) : s.Invariant := by
  induction h with
  | fresh ttl clock script hp => exact ⟨rfl, hp⟩
  | get _ hget ih => exact ih.read hget
  | invalidate _ ih => exact ⟨Cache.coherent_invalidate _, ih.plain⟩
  | @advance s₀ s₁ d _ hadv ih =>
    unfold ScriptedCache.advance at hadv
    cases hc : s₀.clock.add d with
    | error f => rw [hc] at hadv; cases hadv
    | ok clock =>
      rw [hc] at hadv
      cases hadv
      exact ⟨ih.coherent, ih.plain⟩

theorem get_of_fresh (hi : s.Invariant) (h : s.cache.isFresh s.clock = .ok true) :
    ∃ l, s.cache.value = some l ∧ s.get = .ok ({ value := l }, { s with cache := s.cache.countHit }) := by
  obtain ⟨l, hl⟩ := hi.coherent.value_of_fresh h
  exact ⟨l, hl, by rw [get, read_of_fresh h, hl]; rfl⟩

/-- A new cache whose clock reads `-2^1100` seconds, with one fetch that answers `[1]`. -/
def pastDoubleRange : ScriptedCache Nat :=
  ⟨{ ttl := .whole 900 }, .whole (-((Nat.pow 2 1100 : Nat) : Int)), [{ outcome := .ok [1] }]⟩

theorem pastDoubleRange_reachable : pastDoubleRange.Reachable :=
  .fresh _ _ _ fun step hstep => by
    simp only [List.mem_singleton] at hstep
    exact ⟨by rw [hstep], by rw [hstep]⟩

/-- **A read that fails.** Read once, the cache stores the reading `-2^1100`; once the clock has
moved to `0` and then by half a second, the time since that reading is a double minus a whole
number beyond the range of doubles, which cannot be computed, and the next read fails instead
of answering or fetching. -/
theorem get_fails_past_double_range :
    ∃ s : ScriptedCache Nat, s.Reachable ∧ s.get = .error Seconds.tooLargeForDouble := by
  let N : Int := ((Nat.pow 2 1100 : Nat) : Int)
  let c₁ : Cache Seconds Nat :=
    { ttl := .whole 900
      value := some [1]
      fetchedAt := some (.whole (-N))
      counts := { misses := 1, fetches := 1 } }
  let s₁ : ScriptedCache Nat := ⟨c₁, .whole (-N), []⟩
  let s₂ : ScriptedCache Nat := { s₁ with clock := .whole 0 }
  let s₃ : ScriptedCache Nat := { s₁ with clock := .real (Seconds.wholeToFloat 0 + 0.5) }
  have h₀ := pastDoubleRange_reachable
  have h₁ : pastDoubleRange.get = .ok ({ value := [1] }, s₁) := by
    rw [get, read_of_stale (Cache.isFresh_of_fetchedAt_none rfl) h₀.invariant.nextFetchPlain]
    rfl
  have h₂ : s₁.advance (.whole N) = .ok s₂ := by
    show Except.ok { s₁ with clock := .whole (-N + N) } = _
    rw [show -N + N = 0 by omega]
  have h₃ : s₂.advance (.real 0.5) = .ok s₃ := by
    unfold advance
    rw [Seconds.add_whole_real_of_lt (by rw [Int.natAbs_zero]; exact Seconds.zero_lt_doubleRange)]
    rfl
  have hN : Nat.pow 2 1024 ≤ (-N).natAbs := by
    -- the exponents stay variables, so that no power of two is computed
    have hle : ∀ a b : Nat, a ≤ b → Nat.pow 2 a ≤ Nat.pow 2 b := fun _ _ h => Nat.pow_le_pow_right (by decide) h
    rw [Int.natAbs_neg, Int.natAbs_natCast]
    apply hle
    decide
  have hfresh : s₃.cache.isFresh s₃.clock = .error Seconds.tooLargeForDouble := by
    exact Cache.isFresh_of_elapsed_error rfl (Seconds.sub_real_whole_of_ge hN)
  exact ⟨s₃, ((h₀.get h₁).advance h₂).advance h₃, read_of_unknown_freshness hfresh⟩

end ScriptedCache

end AddonCatalog
