import AddonCatalog.Failure
/-!
# Expiring cache

The remote catalog is kept in a cache that holds a list value for a number of
seconds. Time is any type of `ClockTime`: the time elapsed between two readings, which
may fail, and an order.

A read (`Cache.lookup`) is a hit when the value is fresh: it has been stored at some
time `t` and `now - t < ttl`; when that difference fails, so does the read, before it
counts anything. Otherwise the read is a miss and a fetch starts; the caller runs the
fetch and hands its outcome to `Cache.complete`:

* a failed fetch counts a failure and answers the value held when the fetch started,
  or the empty list;
* a successful fetch answers its value and stores it with the time the fetch ended,
  unless the cache was invalidated while the fetch was in flight.

`Cache.invalidate` drops the value and its time, and makes a fetch in flight unable to
store its result. While a fetch is in flight, other readers get the value held when
they ask (`Cache.inFlight`), or wait for the fetch to end when there is none.
-/

namespace AddonCatalog

/-- Readings of a clock: the time from the second reading to the first, and an order. -/
class ClockTime (τ : Type) where
  elapsed : τ → τ → Except Failure τ
  before : τ → τ → Bool

/-- The counters of a cache. -/
structure CacheCounts where
  hits : Nat := 0
  misses : Nat := 0
  fetches : Nat := 0
  failures : Nat := 0
deriving BEq, Inhabited

/-- A cache of a list value, with its lifetime `ttl`. -/
structure Cache (τ α : Type) where
  ttl : τ
  value : Option (List α) := none
  fetchedAt : Option τ := none
  /-- Bumped by every invalidation. -/
  generation : Nat := 0
  counts : CacheCounts := {}
deriving Inhabited

/-- A fetch in flight: the generation it started in, and the value held then. -/
structure Ticket (α : Type) where
  generation : Nat
  previous : Option (List α)

/-- The outcome of a read: a fresh value, or a fetch to run. -/
inductive Lookup (α : Type) where
  | hit (value : List α)
  | miss (ticket : Ticket α)

namespace Cache

variable {τ α : Type} [ClockTime τ]

/-- Whether the value is fresh at time `now`. -/
def isFresh (c : Cache τ α) (now : τ) : Except Failure Bool :=
  match c.fetchedAt with
  | some t => do return ClockTime.before (← ClockTime.elapsed now t) c.ttl
  | none => .ok false

/-- Starts a read at time `now`: a hit answers the value, a miss starts a fetch. -/
def lookup (c : Cache τ α) (now : τ) : Except Failure (Lookup α × Cache τ α) := do
  if ← c.isFresh now then
    return (.hit (c.value.getD []), { c with counts := { c.counts with hits := c.counts.hits + 1 } })
  else
    return (.miss ⟨c.generation, c.value⟩,
      { c with counts := { c.counts with misses := c.counts.misses + 1,
                                         fetches := c.counts.fetches + 1 } })

/-- Ends a fetch at time `now` with its outcome; answers the value the read gives. -/
def complete (c : Cache τ α) (t : Ticket α) (outcome : Except Failure (List α)) (now : τ) :
    List α × Cache τ α :=
  match outcome with
  | .error _ => (t.previous.getD [], { c with counts := { c.counts with failures := c.counts.failures + 1 } })
  | .ok v =>
    (v, if c.generation == t.generation then { c with value := some v, fetchedAt := some now } else c)

end Cache

namespace Cache

variable {τ α : Type}

/-- Drops the value; a fetch in flight will not store its result. -/
def invalidate (c : Cache τ α) : Cache τ α :=
  { c with value := none, fetchedAt := none, generation := c.generation + 1 }

/-- What another reader gets while a fetch is in flight: the value held, if any;
without one it waits for the fetch to end. -/
def inFlight (c : Cache τ α) : Option (List α) := c.value

/-- The share of reads that were hits, `0` before any read. -/
def hitRate (c : Cache τ α) : Float :=
  let total := c.counts.hits + c.counts.misses
  if total == 0 then 0.0 else Float.ofNat c.counts.hits / Float.ofNat total

end Cache

end AddonCatalog
