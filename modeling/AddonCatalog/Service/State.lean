import AddonCatalog.Handler.Registry
import AddonCatalog.Store.Records
import AddonCatalog.Cache.Expiring
import AddonCatalog.Number.Seconds
import AddonCatalog.Settings.File
import AddonCatalog.Catalog.Index
import AddonCatalog.Event
/-!
# The state of the addon service

The addon service reconciles three sources into one addon list: the installed records
of its store, what its handlers report installed, and a remote catalog read through an
expiring cache. The result of a reconciliation is published as a snapshot.

The service runs on a world that holds everything it touches: the host (files and
network), the handler registry, and the service's own state. `WorldM` is a computation
on the world that may fail; the world keeps every change made before a failure.

Where the service reads from:

* its policy source: a fixed policy, a source that always fails (the defaults are then
  used), or the settings file, read again on every cycle;
* its remote source: none, a scripted list of addons that can be told to fail, or a
  JSON catalog fetched over the network; the source may also answer lookups of one
  uid;
* its executor, which runs background jobs (refreshes and repairs): at once, queued
  until asked, or never (every submission is rejected).
-/

namespace AddonCatalog

/-- A published reconciliation: the addon list and the uids shown as installed. -/
structure Snapshot where
  addons : List Addon := []
  installedUids : List String := []
deriving Inhabited

/-- The addon with a uid in a snapshot. -/
def Snapshot.find? (s : Snapshot) (uid : String) : Option Addon := s.addons.find? (·.uid == uid)

/-- How a reconciliation ended. -/
inductive ReconcileStatus where
  | published
  | notReady
  | purged
deriving BEq, Inhabited

/-- The value of a reconciliation status. -/
def ReconcileStatus.value : ReconcileStatus → String
  | .published => "published"
  | .notReady => "not_ready"
  | .purged => "purged"

/-- The outcome of a reconciliation. -/
structure Reconciled where
  status : ReconcileStatus
  addons : List Addon := []
  missingUids : List String := []
  /-- The keys of the records removed, as the store holds them. -/
  purgedUids : List Json := []
deriving Inhabited

/-- Where the catalog policy is read from. -/
inductive PolicySource where
  | fixed (p : Policy)
  /-- A source whose reading always fails. -/
  | broken
  /-- The settings file at a path of the volume (`none`: a path outside it), with the
  environment overrides. -/
  | settingsFile (path : Option (List String)) (env : List (String × Json))
deriving Inhabited

/-- Where the remote catalog comes from. -/
inductive RemoteSource where
  | none
  /-- A list of addons; fetching fails with `error` while it is set. With `lookup`, the
  source also answers lookups of one uid. -/
  | scripted (addons : List Addon) (error : Option String) (lookup : Bool)
  /-- A JSON catalog fetched over the network, also used for lookups. -/
  | catalog (src : Catalog.Source) (timeout : Int × Int)
deriving Inhabited

/-- A background job. -/
inductive Job where
  | refresh
  /-- Reinstalls the addons whose records were dropped, by uid. -/
  | repair (stored : List (String × Addon))
deriving Inhabited

/-- How background jobs are run. -/
inductive ExecutorKind where
  /-- Jobs run when they are submitted; their errors are ignored. -/
  | immediate
  /-- Jobs wait in a queue until asked to run. -/
  | queue
  /-- Every submission is rejected. -/
  | rejecting
deriving BEq, Inhabited

/-- The service's own state. -/
structure ServiceState where
  serviceId : String
  store : RecordStore
  policy : PolicySource := .fixed {}
  remote : RemoteSource := .none
  cache : Cache Seconds Addon
  clock : Seconds := .whole 0
  snapshot : Option Snapshot := none
  /-- The uids a repair is under way for. -/
  repairing : List String := []
  closed : Bool := false
  executor : ExecutorKind := .immediate
  queue : List Job := []
  /-- Every event emitted, in order. -/
  events : List Event := []
  fetchCount : Nat := 0
  lookupCount : Nat := 0
deriving Inhabited

/-- Everything the service touches. -/
structure World where
  host : Host := {}
  registry : Registry := {}
  service : ServiceState
deriving Inhabited

/-- A computation on the world that may fail. -/
abbrev WorldM := ExceptT Failure (StateM World)

namespace WorldM

/-- Runs a host computation on the world's host. -/
def onHost {α : Type} (m : HostM α) : WorldM α := do
  let w ← get
  let (r, h) := (m.run).run w.host
  set { w with host := h }
  match r with
  | .ok a => pure a
  | .error e => throw e

/-- Changes the service state. -/
def modifyService (f : ServiceState → ServiceState) : WorldM Unit :=
  modify fun w => { w with service := f w.service }

/-- Reads the service state. -/
def service : WorldM ServiceState := do return (← get).service

/-- Changes the registry. -/
def modifyRegistry (f : Registry → Registry) : WorldM Unit :=
  modify fun w => { w with registry := f w.registry }

/-- Runs an operation on the record store. -/
def onStore (f : RecordStore → Except Failure RecordStore) : WorldM Unit := do
  let w ← get
  match f w.service.store with
  | .ok s => set { w with service := { w.service with store := s } }
  | .error e => throw e

/-- Runs a computation and answers its outcome instead of failing. -/
def attempt {α : Type} (m : WorldM α) : WorldM (Except Failure α) :=
  tryCatch (Except.ok <$> m) fun e => pure (Except.error e)

/-- Runs a computation on a world: its outcome and the world after it. -/
def runOn {α : Type} (m : WorldM α) (w : World) : Except Failure α × World := (m.run).run w

/-- Lifts a value that may be an error. -/
def lift {α : Type} : Except Failure α → WorldM α
  | .ok a => pure a
  | .error e => throw e

end WorldM

end AddonCatalog
