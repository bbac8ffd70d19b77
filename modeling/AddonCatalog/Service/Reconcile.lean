import AddonCatalog.Service.Sources
import AddonCatalog.Addon.Merge
import AddonCatalog.Addon.Record
/-!
# Reconciliation

One reconciliation cycle (`refreshSource`):

1. Nothing happens until every registered handler is ready.
2. The policy is read.
3. The records are read. If any record is unreadable (no value, or a value that is
   not a valid addon), every key is removed, in sorted order, and the cycle ends there.
4. A record whose addon some handler reports installed is kept as installed. The
   others are missing: the record under the addon's uid is removed.
5. When the policy enables the remote catalog, it is read through the cache and merged
   with the installed addons (`mergeEntriesM`).
6. The result is published as the snapshot; then, if addons are missing, one repair
   is scheduled for those not already being repaired.

A repair reinstalls each missing addon, unless the current snapshot shows it installed
again: it is resolved like a request (`getAddon`), falling back to its dropped record,
and installed through `installAddon`, which emits the outcome as an event.

The cycle, the repair, the lookup and the install call each other through the
executor. Each call takes a `fuel` argument that bounds the depth of these nested
calls; the default (`Service.depth`) is far above what a session reaches, since each
nested repair handles uids that no enclosing repair is handling.
-/

namespace AddonCatalog

namespace Service

open WorldM

/-- The message of an install of an unknown addon. -/
def notKnownInstall : String := "Add-on can't be installed because it is not known."

/-- The message of an install of an addon no handler supports. -/
def noHandlerInstall : String := "Add-on can't be installed because there is no handler for it."

/-- The message of an install of an installed addon. -/
def alreadyInstalled : String := "Add-on is already installed."

/-- The message of an uninstall of an unknown addon. -/
def notKnownUninstall : String := "Add-on can't be uninstalled because it is not known."

/-- The message of an uninstall of an addon no handler supports. -/
def noHandlerUninstall : String := "Add-on can't be uninstalled because there is no handler for it."

/-- The message of an uninstall of an addon that is not installed. -/
def notInstalled : String := "Add-on is not installed."

/-- The message of a call nested beyond the depth bound. -/
def tooDeep : String := "Service calls nested too deeply."

/-- The depth bound of nested service calls. -/
def depth : Nat := 10000

/-- Splits records into the readable addons and the keys of the unreadable ones; a
record is readable when its value is a text that holds an addon. -/
def readRecords : List (Json × Json) → List Addon × List Json
  | [] => ([], [])
  | (k, v) :: rest =>
    let (as, bad) := readRecords rest
    match v.str?.map Addon.ofRecord with
    | some (.ok a) => (a :: as, bad)
    | _ => (as, k :: bad)

/-- Removes every record, in sorted key order; answers the keys. -/
def purgeRecords : WorldM (List Json) := do
  let keys ← lift (← service).store.keys
  keys.forM fun k => onStore (·.remove k)
  pure keys

/-- Splits addons into those some handler reports installed and the missing ones,
asking in order. -/
def splitInstalled : List Addon → WorldM (List Addon × List Addon)
  | [] => pure ([], [])
  | a :: rest => do
    let b ← isInstalled a.uid
    let (i, m) ← splitInstalled rest
    pure (if b then (a.withInstalled true :: i, m) else (i, a.withInstalled false :: m))

/-- The snapshot of a merged addon list. -/
def snapshotOf (merged : List Addon) : Snapshot :=
  ⟨merged, (merged.filter (·.installed)).map (·.uid)⟩

/-- The current snapshot; empty before the first publication. -/
def current : WorldM Snapshot := do return (← service).snapshot.getD {}

/-- The outcome of an install or uninstall attempt that reached the handler. -/
def failureMessage (verb : String) (e : Failure) : String :=
  if e.kind.isHandler then e.message else "Failed to " ++ verb ++ " add-on: " ++ e.message

/-- Stores the missing addons by uid; a later addon of a uid replaces an earlier one. -/
def storedByUid (missing : List Addon) : List (String × Addon) :=
  missing.foldl (fun acc a =>
    if acc.any (·.1 == a.uid) then acc.map fun p => if p.1 == a.uid then (p.1, a) else p
    else acc ++ [(a.uid, a)]) []

mutual

/-- Runs one reconciliation cycle and publishes its result. -/
def refreshSource : Nat → WorldM Reconciled
  | 0 => throw ⟨.runtime, tooDeep⟩
  | fuel + 1 => do
    let w ← get
    if !w.registry.allReady then return { status := .notReady }
    let policy ← loadPolicy
    let records ← lift (← service).store.getAll
    let (found, unreadable) := readRecords records
    if !unreadable.isEmpty then
      let purged ← purgeRecords
      return { status := .purged, purgedUids := purged }
    let (installed, missing) ← splitInstalled found
    missing.forM fun a => onStore (·.remove (.str a.uid))
    let remote ← if policy.remoteEnabled then
        (do match ← attempt remoteValue with
          | .ok v => pure v
          | .error _ => pure [])
      else pure []
    let merged ← mergeEntriesM installed remote policy.includeIncompatible isInstalled
    modifyService fun s => { s with snapshot := some (snapshotOf merged) }
    if !missing.isEmpty then scheduleRepair fuel missing
    return { status := .published, addons := merged, missingUids := missing.map (·.uid) }

/-- Runs a cycle, ignoring its errors. -/
def refreshQuietly : Nat → WorldM Unit
  | 0 => pure ()
  | fuel + 1 => do
    let _ ← attempt (refreshSource fuel)
    pure ()

/-- Schedules the repair of the missing addons not already being repaired. -/
def scheduleRepair : Nat → List Addon → WorldM Unit
  | 0, _ => pure ()
  | fuel + 1, missing => do
    let s ← service
    let pending := missing.filter fun a => !s.repairing.contains a.uid
    let fresh := (pending.map (·.uid)).foldl (fun acc u => if acc.contains u then acc else acc ++ [u]) []
    modifyService fun s => { s with repairing := s.repairing ++ fresh }
    if pending.isEmpty then return
    let stored := storedByUid pending
    let accepted ← submit fuel (.repair stored)
    if !accepted then
      modifyService fun s =>
        { s with repairing := s.repairing.filter fun u => !(stored.map (·.1)).contains u }

/-- Submits a background job; answers whether the executor took it. -/
def submit : Nat → Job → WorldM Bool
  | 0, _ => pure false
  | fuel + 1, job => do
    let s ← service
    if s.closed then return false
    match s.executor with
    | .immediate =>
      let _ ← attempt (runJob fuel job)
      return true
    | .queue =>
      modifyService fun s => { s with queue := s.queue ++ [job] }
      return true
    | .rejecting => return false

/-- Runs a background job. -/
def runJob : Nat → Job → WorldM Unit
  | 0, _ => pure ()
  | fuel + 1, .refresh => refreshQuietly fuel
  | fuel + 1, .repair stored => stored.forM fun (uid, record) => repairOne fuel uid record

/-- Reinstalls one missing addon, unless it is installed again; errors are ignored. -/
def repairOne : Nat → String → Addon → WorldM Unit
  | 0, _, _ => pure ()
  | fuel + 1, uid, record => do
    let _ ← attempt (do
      if !(← current).installedUids.contains uid then
        let found ← getAddon fuel uid
        let _ ← installAddon fuel ((found.getD record).withInstalled false)
        pure ())
    modifyService fun s => { s with repairing := s.repairing.filter (· != uid) }

/-- Finds an addon: in the snapshot (publishing one first if there is none), else
remotely when the policy allows; a remote addon shows whether it is installed. -/
def getAddon : Nat → String → WorldM (Option Addon)
  | 0, _ => pure none
  | fuel + 1, uid => do
    let s ← service
    let uid := match normalizeUid s.serviceId (.str uid) with
      | .ok u => u
      | .error _ => uid
    if s.snapshot.isNone then refreshQuietly fuel
    match (← current).find? uid with
    | some a => return some a
    | none =>
      let policy ← loadPolicy
      if !policy.remoteEnabled then return none
      let remote := (← service).remote
      let found ← attempt (if hasLookup remote then lookupRemote uid
        else do return (← remoteValue).find? (·.uid == uid))
      match found with
      | .ok (some a) => return some (a.withInstalled (← isInstalled a.uid))
      | _ => return none

/-- Installs a resolved addon with the first handler that supports it, and emits the
outcome. -/
def installAddon : Nat → Addon → WorldM Event
  | 0, a => emit (Event.failed a.uid tooDeep)
  | fuel + 1, a => do
    match (← get).registry.find? a.type a.contentType with
    | none => emit (Event.failed a.uid noHandlerInstall)
    | some h =>
      let outcome ← attempt (do
        if ← handlerReports h.name a.uid then return some alreadyInstalled
        installWith h.name a
        onStore (·.put (.str a.uid) (.str (a.withInstalled true).toRecord))
        return none)
      match outcome with
      | .error e => emit (Event.failed a.uid (failureMessage "install" e))
      | .ok (some m) => emit (Event.failed a.uid m)
      | .ok none =>
        modifyService fun s => { s with cache := s.cache.invalidate }
        refreshQuietly fuel
        emit (Event.installed a.uid)

end

end Service

end AddonCatalog
