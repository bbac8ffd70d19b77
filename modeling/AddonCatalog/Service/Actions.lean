import AddonCatalog.Service.Reconcile
/-!
# The service's requests

What the service offers, on top of reconciliation:

* `getAddons` runs a cycle, ignoring its errors, and answers the current snapshot;
* `getAddonRequest` finds one addon by a uid as given;
* `install` and `uninstall` never fail: their outcome is emitted as an event, which is
  also the answer. An install resolves the addon (an unknown one fails) and goes
  through `installAddon`. An uninstall resolves the addon, finds its handler, and
  fails when the handler does not report it installed, removing its record first;
  after a successful uninstall the record is removed, the cache invalidated and a
  cycle run.
* `handlerReady` tells the listeners that a handler is ready: recorders note it, the
  service submits a refresh; `register` does so for a handler that is ready when it is
  registered.
* `close` stops background work: nothing is submitted afterwards.
* `runJobs` runs the queued jobs, first in first out; jobs queued meanwhile wait for
  the next call.
-/

namespace AddonCatalog

namespace Service

open WorldM

/-- Runs a cycle, ignoring its errors, and answers the snapshot. -/
def getAddons (fuel : Nat) : WorldM (List Addon) := do
  refreshQuietly fuel
  return (← current).addons

/-- Finds one addon by a uid as given. -/
def getAddonRequest (fuel : Nat) (uid : Json) : WorldM (Option Addon) := do
  let u ← lift (normalizeUid (← service).serviceId uid)
  getAddon fuel u

/-- Installs an addon by uid; answers the event of the outcome. -/
def install (fuel : Nat) (uid : Json) : WorldM Event := do
  let u ← lift (normalizeUid (← service).serviceId uid)
  match ← attempt (getAddon fuel u) with
  | .ok (some a) => installAddon fuel a
  | _ => emit (Event.failed u notKnownInstall)

/-- Uninstalls an addon by uid; answers the event of the outcome. -/
def uninstall (fuel : Nat) (uid : Json) : WorldM Event := do
  let u ← lift (normalizeUid (← service).serviceId uid)
  match ← attempt (getAddon fuel u) with
  | .ok (some a) =>
    match (← get).registry.find? a.type a.contentType with
    | none => emit (Event.failed u noHandlerUninstall)
    | some h =>
      let outcome ← attempt (do
        if !(← handlerReports h.name u) then
          onStore (·.remove (.str u))
          return some notInstalled
        uninstallWith h.name a
        onStore (·.remove (.str u))
        return none)
      match outcome with
      | .error e => emit (Event.failed u (failureMessage "uninstall" e))
      | .ok (some m) => emit (Event.failed u m)
      | .ok none =>
        modifyService fun s => { s with cache := s.cache.invalidate }
        refreshQuietly fuel
        emit (Event.uninstalled u)
  | _ => emit (Event.failed u notKnownUninstall)

/-- Tells each listener, in order, that the handler of a name is ready. -/
def notifyListeners (fuel : Nat) (handler : String) : List Listener → WorldM Unit
  | [] => pure ()
  | .recorder n :: rest => do
    modifyRegistry (·.record n handler)
    notifyListeners fuel handler rest
  | .service :: rest => do
    let _ ← submit fuel .refresh
    notifyListeners fuel handler rest

/-- Tells the listeners that a handler is ready. -/
def handlerReady (fuel : Nat) (name : String) : WorldM Unit := do
  notifyListeners fuel name (← get).registry.listeners

/-- Registers a known handler; a handler that is ready tells the listeners. -/
def register (fuel : Nat) (name : String) : WorldM Unit := do
  let r := (← get).registry
  if r.isRegistered name then return
  modifyRegistry (·.register name)
  match r.handler? name with
  | some h => if h.isReady then handlerReady fuel name
  | none => pure ()

/-- Restores the archive handler: re-deploys its cached archives, marks it ready, and
tells the listeners when it is tied to the registry. -/
def restoreArchive (fuel : Nat) : WorldM Unit := do
  match (← get).registry.handler? archiveHandlerName with
  | some (.archive h) =>
    onHost h.restoreFiles
    modifyRegistry (·.update archiveHandlerName fun _ => .archive { h with ready := true })
    if h.notifies then handlerReady fuel archiveHandlerName
  | _ => pure ()

/-- Unregisters a handler. -/
def unregister (name : String) : WorldM Unit := modifyRegistry (·.unregister name)

/-- Stops background work and stops listening to the registry. -/
def close : WorldM Unit := do
  modifyService fun s => { s with closed := true }
  modifyRegistry (·.removeListener .service)

/-- Runs the queued jobs, first in first out; answers how many ran. -/
def runJobs (fuel : Nat) : WorldM Nat := do
  let jobs := (← service).queue
  modifyService fun s => { s with queue := [] }
  jobs.forM fun j => do
    let _ ← attempt (runJob fuel j)
    pure ()
  return jobs.length

/-- Moves the clock forward. -/
def advance (seconds : Seconds) : WorldM Unit := do
  let clock ← lift ((← service).clock.add seconds)
  modifyService fun s => { s with clock }

/-- A service over a world: it listens to the registry for ready handlers. -/
def listen (w : World) : World :=
  { w with registry := w.registry.addListener .service }

end Service

end AddonCatalog
