import AddonCatalog.Addon.Basic
import AddonCatalog.Version.Order
import AddonCatalog.Order.InsertionSort
/-!
# Merging catalog entries

Entries that share a uid are ranked, and only the first is kept.

* `Addon.rank` orders two entries: a compatible entry comes before an incompatible one;
  otherwise the newer version comes first. Versions that cannot be read rank as equal
  to everything, so the ranking is not transitive, and which entry wins depends on the
  questions the sort asks (`Order.insertionSort`). A version whose number has too many
  digits fails the ranking, and with it the sort.
* `deduplicate` groups entries by uid, in the order each uid first appears, and keeps
  the first entry of each group after sorting it.
* `mergeEntries` puts the installed entries first, then the remote entries whose uid
  is not installed, each marked installed or not by a check; unless incompatible
  entries are wanted it drops the entries that are neither installed nor compatible,
  and it deduplicates the result.
-/

namespace AddonCatalog

namespace Addon

/-- The ranking of two entries: `-1` when `a` comes first, `1` when `b` does. -/
def rank (a b : Addon) : Except Failure Int :=
  if a.compatible != b.compatible then .ok (if a.compatible then -1 else 1)
  else
    match compareTexts (some a.version) (some b.version) with
    | .error e => .error e.failure
    | .ok c => match c.error with
      | some _ => .ok 0
      | none => .ok (-orderingSign c.ordering)

/-- Whether `a` ranks before `b`. -/
def ranksBefore (a b : Addon) : Except Failure Bool := (rank a b).map (· < 0)

end Addon

/-- Adds an entry to its uid's group, keeping the groups in order of first appearance. -/
def addToGroup (groups : List (String × List Addon)) (a : Addon) : List (String × List Addon) :=
  if groups.any (·.1 == a.uid) then
    groups.map fun g => if g.1 == a.uid then (g.1, g.2 ++ [a]) else g
  else groups ++ [(a.uid, [a])]

/-- The entries grouped by uid, in order of first appearance. -/
def groupByUid (entries : List Addon) : List (String × List Addon) :=
  entries.foldl addToGroup []

/-- The winner of a group: the first entry after ranking; a single entry wins alone. -/
def groupWinner : List Addon → Except Failure (Option Addon)
  | [] => .ok none
  | [a] => .ok (some a)
  | group => (Order.insertionSortM Addon.ranksBefore group).map (·.head?)

/-- One entry per uid: the winner of each group, in order of first appearance. -/
def deduplicate (entries : List Addon) : Except Failure (List Addon) :=
  (groupByUid entries).filterMapM fun g => groupWinner g.2

/-- Whether an entry is shown when incompatible entries are not wanted. -/
def Addon.shown (a : Addon) : Bool := a.installed || a.compatible

/-- Merges installed entries with remote ones; `installedCheck` marks the remote entries
that are not installed ones. The check may fail, and then the merge fails. -/
def mergeEntriesM {m : Type → Type} [Monad m] [MonadExcept Failure m] (installed remote : List Addon)
    (includeIncompatible : Bool) (installedCheck : String → m Bool) : m (List Addon) := do
  let localUids := installed.map (·.uid)
  let extra ← (remote.filter fun a => !localUids.contains a.uid).mapM fun a => do
    let b ← installedCheck a.uid
    pure (a.withInstalled b)
  let merged := installed ++ extra
  let kept := if includeIncompatible then merged else merged.filter Addon.shown
  match deduplicate kept with
  | .ok r => pure r
  | .error e => throw e

/-- Merges installed entries with remote ones, with a check that cannot fail. -/
def mergeEntries (installed remote : List Addon) (includeIncompatible : Bool)
    (installedCheck : String → Bool) : Except Failure (List Addon) :=
  mergeEntriesM installed remote includeIncompatible fun u => pure (installedCheck u)

end AddonCatalog
