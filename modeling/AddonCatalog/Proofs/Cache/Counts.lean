import AddonCatalog.Proofs.Cache.Freshness

/-!
# The counters of the expiring cache along a run

A run of the cache is a sequence of reads, invalidations and moves of the clock on a new cache
whose fetches read nothing from the cache (`ScriptedCache.Run`). It records what each read that
completed did (`ReadKind`): it answered a fresh value, or it fetched, and the fetch failed or not.
A read that fails, when the time since the stored reading cannot be computed, changes nothing and
is not recorded.

* `counts_get`: a completed read counts exactly what it did (`CacheCounts.record`): a hit, or a
  miss with its fetch, and a failure when the fetch failed;
* `Tallies`: counters that agree with a record of reads, kept by `Tallies.record`;
* `counters_follow_reads`: after every run, a value is stored exactly when its time is, the hits
  and misses add up to the completed reads, every miss fetched, the failures are the fetches that
  failed, and the hit rate divides by the number of completed reads only when there is one.
-/

namespace AddonCatalog

/-- What a completed read did: it answered a fresh value, or it fetched, and the fetch failed or
not. -/
inductive ReadKind where
  | hit
  | fetched (failed : Bool)
deriving DecidableEq

namespace CacheCounts

/-- The counters after a completed read of the given kind. -/
def record (c : CacheCounts) : ReadKind → CacheCounts
  | .hit => { c with hits := c.hits + 1 }
  | .fetched failed =>
    { c with misses := c.misses + 1, fetches := c.fetches + 1,
             failures := if failed then c.failures + 1 else c.failures }

/-- Counters that agree with a record of completed reads: the hits are the reads that were hits,
hits and misses together are all the reads, every miss fetched, and the failures are the fetches
that failed. -/
structure Tallies (c : CacheCounts) (log : List ReadKind) : Prop where
  hits : c.hits = log.count .hit
  total : c.hits + c.misses = log.length
  fetches : c.fetches = c.misses
  failures : c.failures = log.count (.fetched true)

theorem tallies_zero : Tallies {} [] := ⟨rfl, rfl, rfl, rfl⟩

theorem Tallies.record {c : CacheCounts} {log : List ReadKind} (h : Tallies c log) (k : ReadKind) :
    Tallies (c.record k) (log ++ [k]) := by
  obtain ⟨hh, ht, hf, hfail⟩ := h
  cases k with
  | hit => exact ⟨by simp [CacheCounts.record, hh], by simp [CacheCounts.record]; omega, hf, by simp [CacheCounts.record, hfail]⟩
  | fetched failed =>
    refine ⟨by simp [CacheCounts.record, hh], by simp [CacheCounts.record]; omega,
      by simp [CacheCounts.record, hf], ?_⟩
    cases failed <;> simp [CacheCounts.record, hfail]

end CacheCounts

namespace Cache

variable {τ α : Type}

theorem counts_countHit (c : Cache τ α) : c.countHit.counts = c.counts.record .hit := rfl

/-- Handing a fetch's outcome to the cache counts a failure exactly when the fetch failed. -/
theorem counts_complete [ClockTime τ] (c : Cache τ α) (t : Ticket α) (o : Except Failure (List α))
    (now : τ) :
    (c.complete t o now).2.counts =
      { c.counts with failures := if o.isOk then c.counts.failures else c.counts.failures + 1 } := by
  cases o with
  | error e => rfl
  | ok v =>
    simp only [complete, Except.isOk, Except.toBool, if_true]
    split <;> rfl

end Cache

namespace ScriptedCache

variable {α : Type} {s s' : ScriptedCache α} {r : ReadReport α} {log : List ReadKind}

/-- What a read of `s` does when it completes: a hit when the stored value is fresh at the
clock's reading; otherwise it fetches, and the fetch fails when the next fetch of the script
does. -/
def readKind (s : ScriptedCache α) : ReadKind :=
  match s.cache.isFresh s.clock with
  | .ok true => .hit
  | _ => .fetched (!s.fetchRun.result.isOk)

/-- **One read counts what it did.** A read of a cache whose fetches read nothing from it, if it
completes, adds to the counters exactly the kind of the read. -/
theorem counts_get (hi : s.Invariant) (h : s.get = .ok (r, s')) :
    s'.cache.counts = s.cache.counts.record s.readKind := by
  unfold get at h
  cases hf : s.cache.isFresh s.clock with
  | error e =>
    rw [read_of_unknown_freshness hf] at h
    cases h
  | ok b =>
    cases b with
    | true =>
      rw [read_of_fresh hf] at h
      cases h
      simp only [readKind, hf]
      exact Cache.counts_countHit _
    | false =>
      rw [read_of_stale hf hi.nextFetchPlain] at h
      cases h
      -- the miss and its fetch were counted before the fetch ran, whatever the fetch invalidated
      have hmiss : s.fetchedCache.counts = s.cache.counts.record (.fetched false) := by
        unfold fetchedCache
        split <;> rfl
      simp only [readKind, hf]
      rw [Cache.counts_complete, hmiss]
      cases s.fetchRun.result.isOk <;> rfl

/-- The runs of reads, invalidations and moves of the clock on a new cache whose fetches read
nothing from the cache, with the kinds of the reads that completed, in order. A read that fails
changes nothing, and is not recorded. -/
inductive Run : ScriptedCache α → List ReadKind → Prop
  | fresh (ttl clock : Seconds) (script : List (FetchStep α)) :
      PlainScript script → Run ⟨{ ttl }, clock, script⟩ []
  | get {s s' : ScriptedCache α} {r : ReadReport α} {log : List ReadKind} :
      Run s log → s.get = .ok (r, s') → Run s' (log ++ [s.readKind])
  | getFails {s : ScriptedCache α} {e : Failure} {log : List ReadKind} :
      Run s log → s.get = .error e → Run s log
  | invalidate {s : ScriptedCache α} {log : List ReadKind} : Run s log → Run s.invalidate log
  | advance {s s' : ScriptedCache α} {d : Seconds} {log : List ReadKind} :
      Run s log → s.advance d = .ok s' → Run s' log

theorem Run.reachable (h : s.Run log) : s.Reachable := by
  induction h with
  | fresh ttl clock script hp => exact .fresh ttl clock script hp
  | get _ hget ih => exact ih.get hget
  | getFails _ _ ih => exact ih
  | invalidate _ ih => exact ih.invalidate
  | advance _ hadv ih => exact ih.advance hadv

theorem counts_advance {d : Seconds} (h : s.advance d = .ok s') : s'.cache = s.cache := by
  unfold advance at h
  cases hc : s.clock.add d with
  | error f =>
    rw [hc] at h
    cases h
  | ok clock =>
    rw [hc] at h
    cases h
    rfl

/-- Along a run, the counters agree with the record of completed reads. -/
theorem Run.tallies (h : s.Run log) : s.cache.counts.Tallies log := by
  induction h with
  | fresh => exact CacheCounts.tallies_zero
  | @get s₀ s₁ r₀ log₀ hrun hget ih =>
    rw [counts_get hrun.reachable.invariant hget]
    exact ih.record _
  | getFails _ _ ih => exact ih
  | invalidate _ ih => exact ih
  | advance _ hadv ih =>
    rw [counts_advance hadv]
    exact ih

/-- **The counters follow the reads.** After every run of reads, invalidations and moves of the
clock on a new cache whose fetches read nothing from the cache, where `log` lists the reads that
completed:

* a value is stored exactly when its time is, so a fresh read answers a stored value;
* the hits are the reads that found a fresh value, and hits and misses add up to all completed
  reads;
* every miss fetched once;
* the failures are the fetches that failed;
* the hit rate is the hits over the completed reads, and `0` when no read has completed: it
  divides only by a positive count. -/
theorem counters_follow_reads (h : s.Run log) :
    s.cache.value.isSome = s.cache.fetchedAt.isSome ∧
    (s.cache.isFresh s.clock = .ok true → ∃ l, s.cache.value = some l) ∧
    s.cache.counts.hits = log.count .hit ∧
    s.cache.counts.hits + s.cache.counts.misses = log.length ∧
    s.cache.counts.fetches = s.cache.counts.misses ∧
    s.cache.counts.failures = log.count (.fetched true) ∧
    s.cache.hitRate =
      if log.length = 0 then 0.0 else Float.ofNat s.cache.counts.hits / Float.ofNat log.length := by
  have hi := h.reachable.invariant
  have ht := h.tallies
  refine ⟨hi.coherent, hi.coherent.value_of_fresh, ht.hits, ht.total, ht.fetches, ht.failures, ?_⟩
  unfold Cache.hitRate
  simp only [ht.total, beq_iff_eq]

/-- A new cache whose first fetch fails and whose second answers `[1]`. -/
def failingThenServing : ScriptedCache Nat :=
  ⟨{ ttl := .whole 900 }, .whole 0, [{ outcome := .error "boom" }, { outcome := .ok [1] }]⟩

/-- Read twice, that cache records a failed fetch and then a fetch that stored `[1]`. -/
theorem counters_after_failed_then_stored_fetch :
    ∃ s : ScriptedCache Nat, s.Run [.fetched true, .fetched false] ∧
      (s.cache.value.isSome = s.cache.fetchedAt.isSome ∧
      (s.cache.isFresh s.clock = .ok true → ∃ l, s.cache.value = some l) ∧
      s.cache.counts.hits = [ReadKind.fetched true, .fetched false].count .hit ∧
      s.cache.counts.hits + s.cache.counts.misses = [ReadKind.fetched true, .fetched false].length ∧
      s.cache.counts.fetches = s.cache.counts.misses ∧
      s.cache.counts.failures = [ReadKind.fetched true, .fetched false].count (.fetched true) ∧
      s.cache.hitRate = if [ReadKind.fetched true, .fetched false].length = 0 then 0.0
        else Float.ofNat s.cache.counts.hits / Float.ofNat [ReadKind.fetched true, .fetched false].length) := by
  have h₀ : failingThenServing.Run [] := .fresh _ _ _ fun step hstep => by
    simp only [List.mem_cons, List.not_mem_nil, or_false] at hstep
    rcases hstep with rfl | rfl <;> exact ⟨rfl, rfl⟩
  -- the first read finds nothing stored and runs the failing fetch, which stores nothing
  have hget₁ : failingThenServing.get = _ :=
    read_of_stale (Cache.isFresh_of_fetchedAt_none rfl) h₀.reachable.invariant.nextFetchPlain
  have h₁ := h₀.get hget₁
  -- so the second read runs the next fetch
  have hget₂ : ScriptedCache.get _ = _ :=
    read_of_stale (Cache.isFresh_of_fetchedAt_none rfl) h₁.reachable.invariant.nextFetchPlain
  have h₂ : ScriptedCache.Run _ [.fetched true, .fetched false] := h₁.get hget₂
  exact ⟨_, h₂, counters_follow_reads h₂⟩

end ScriptedCache

end AddonCatalog
