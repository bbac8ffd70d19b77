import AddonCatalog.Cache.Expiring
import AddonCatalog.Number.Seconds
/-!
# A cache over a scripted fetch

To observe the cache's behaviour under re-entrant and concurrent reads, its fetch can
follow a script: each fetch consumes the next step of the script, and a fetch with no
step left fails. While it is in flight, a step may

1. read the cache again from inside the fetch (`nestedGet`): this answers the value
   the cache holds; with no value such a read would wait for itself forever, which is
   reported as `wouldBlock`;
2. read the cache from a second reader (`threadGet`): this answers the value the
   cache holds; with no value the second reader waits until the fetch has ended and then
   reads again, which may start a fetch of its own;
3. invalidate the cache;
4. move the clock forward, which fails the fetch when the sum fails;

and then it fails with a message or answers its value. A read whose freshness check
fails, fails.
-/

namespace AddonCatalog

/-- One step of a fetch script. -/
structure FetchStep (α : Type) where
  nestedGet : Bool := false
  threadGet : Bool := false
  invalidate : Bool := false
  advance : Option Seconds := none
  /-- The message the fetch fails with, or the value it answers. -/
  outcome : Except String (List α) := .ok []

/-- What a read from inside a fetch answers. -/
inductive NestedRead (α : Type) where
  | value (v : List α)
  | wouldBlock

/-- What a read answers, with what the reads made during its fetches answered, in
order. -/
structure ReadReport (α : Type) where
  value : List α
  nested : List (NestedRead α) := []
  threaded : List (List α) := []

/-- A cache whose fetch follows a script, with its clock. -/
structure ScriptedCache (α : Type) where
  cache : Cache Seconds α
  clock : Seconds
  script : List (FetchStep α)

namespace ScriptedCache

variable {α : Type}

/-- The error of a fetch with no step left. -/
def exhausted : Failure := ⟨.runtime, "fetch script exhausted"⟩

/-- Moves the clock forward. -/
def advance (s : ScriptedCache α) (seconds : Seconds) : Except Failure (ScriptedCache α) := do
  return { s with clock := ← s.clock.add seconds }

/-- Invalidates the cache. -/
def invalidate (s : ScriptedCache α) : ScriptedCache α :=
  { s with cache := s.cache.invalidate }

/-- Reads the cache; `fuel` bounds the reads a second reader starts. -/
def read : Nat → ScriptedCache α → Except Failure (ReadReport α × ScriptedCache α)
  | fuel, s => do
    match ← s.cache.lookup s.clock with
    | (.hit v, c) => return ({ value := v }, { s with cache := c })
    | (.miss t, c) =>
      let s := { s with cache := c }
      match s.script with
      | [] =>
        let (v, c) := s.cache.complete t (.error exhausted) s.clock
        return ({ value := v }, { s with cache := c })
      | step :: rest =>
        let s := { s with script := rest }
        let nested : List (NestedRead α) :=
          if step.nestedGet then [match s.cache.inFlight with
            | some v => .value v
            | none => .wouldBlock] else []
        let early : Option (List α) := if step.threadGet then s.cache.inFlight else none
        let waits := step.threadGet && early.isNone
        let s := if step.invalidate then s.invalidate else s
        let (s, moved) := match step.advance with
          | some d => match s.advance d with
            | .ok s => (s, Except.ok ())
            | .error f => (s, .error f)
          | none => (s, .ok ())
        let outcome : Except Failure (List α) := match moved, step.outcome with
          | .error f, _ => .error f
          | _, .error m => .error ⟨.runtime, m⟩
          | _, .ok v => .ok v
        let (v, c) := s.cache.complete t outcome s.clock
        let s := { s with cache := c }
        if waits then
          match fuel with
          | 0 => return ({ value := v, nested := nested }, s)
          | fuel + 1 =>
            let (again, s) ← read fuel s
            let report : ReadReport α :=
              { value := v, nested := nested ++ again.nested, threaded := again.threaded ++ [again.value] }
            return (report, s)
        else return ({ value := v, nested := nested, threaded := early.toList }, s)

/-- Reads the cache, with enough fuel for every step of the script. -/
def get (s : ScriptedCache α) : Except Failure (ReadReport α × ScriptedCache α) :=
  read (s.script.length + 1) s

end ScriptedCache

end AddonCatalog
