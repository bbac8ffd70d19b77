import AddonCatalog.Service.State
/-!
# What the service reads and calls

The service's access to its collaborators, as computations on the world:

* `loadPolicy` reads the policy; any failure gives the default policy.
* `remoteValue` reads the remote catalog through the cache: a fresh value is a hit,
  otherwise the remote source is fetched, and a failed fetch gives the previous value
  or nothing.
* `lookupRemote` asks the remote source for one uid, when it answers lookups.
* `isInstalled` asks the registered handlers; `installWith` and `uninstallWith` call
  a known handler by name.
* `emit` publishes an event.
-/

namespace AddonCatalog

namespace Service

open WorldM

/-- The error of a policy source that always fails. -/
def brokenPolicy : Failure := ⟨.os, "policy unavailable"⟩

/-- The policy of a source, read from the world's files. -/
def policyOf (v : Volume) : PolicySource → Except Failure Policy
  | .fixed p => .ok p
  | .broken => .error brokenPolicy
  | .settingsFile path env =>
    let text := path.bind fun p => (v.content? p).bind Blob.text?
    .ok ((Settings.ofFileText text).applyEnv env).policy

/-- Reads the policy; a failure gives the defaults. -/
def loadPolicy : WorldM Policy := do
  let w ← get
  match policyOf w.host.files w.service.policy with
  | .ok p => pure p
  | .error _ => pure {}

/-- Whether some registered handler reports a uid installed. -/
def isInstalled (uid : String) : WorldM Bool := do
  let w ← get
  lift (w.registry.isInstalled w.host.files uid)

/-- Fetches the catalog from the network. -/
def fetchCatalog (src : Catalog.Source) (timeout : Int × Int) : WorldM (List Addon) := do
  let reply ← onHost (HostM.send (Catalog.indexRequest src.url timeout))
  lift (Catalog.addonsOfReply src reply)

/-- Fetches the remote catalog. -/
def fetchRemote : WorldM (List Addon) := do
  match (← service).remote with
  | .none => pure []
  | .scripted addons error _ =>
    modifyService fun s => { s with fetchCount := s.fetchCount + 1 }
    match error with
    | some m => throw ⟨.connection, m⟩
    | none => pure addons
  | .catalog src timeout => fetchCatalog src timeout

/-- Reads the remote catalog through the cache. -/
def remoteValue : WorldM (List Addon) := do
  let s ← service
  match ← lift (s.cache.lookup s.clock) with
  | (.hit v, c) =>
    modifyService fun s => { s with cache := c }
    pure v
  | (.miss t, c) =>
    modifyService fun s => { s with cache := c }
    let outcome ← attempt fetchRemote
    let s ← service
    let (v, c) := s.cache.complete t outcome s.clock
    modifyService fun s => { s with cache := c }
    pure v

/-- Whether the remote source answers lookups of one uid. -/
def hasLookup : RemoteSource → Bool
  | .scripted _ _ lookup => lookup
  | .catalog _ _ => true
  | .none => false

/-- Asks the remote source for one uid. -/
def lookupRemote (uid : String) : WorldM (Option Addon) := do
  match (← service).remote with
  | .scripted addons error _ =>
    modifyService fun s => { s with lookupCount := s.lookupCount + 1 }
    match error with
    | some m => throw ⟨.connection, m⟩
    | none => pure (addons.find? (·.uid == uid))
  | .catalog src timeout => do
    let addons ← fetchCatalog src timeout
    pure (addons.find? (·.uid == uid))
  | .none => pure none

/-- Calls the install of a known handler. -/
def installWith (name : String) (a : Addon) : WorldM Unit := do
  match (← get).registry.handler? name with
  | some (.scripted h) =>
    let (r, h) := h.install a
    modifyRegistry (·.update name fun _ => .scripted h)
    lift r
  | some (.archive h) => onHost (h.install a)
  | none => pure ()

/-- Calls the uninstall of a known handler. -/
def uninstallWith (name : String) (a : Addon) : WorldM Unit := do
  match (← get).registry.handler? name with
  | some (.scripted h) =>
    let (r, h) := h.uninstall a
    modifyRegistry (·.update name fun _ => .scripted h)
    lift r
  | some (.archive h) => onHost (h.uninstall a)
  | none => pure ()

/-- Whether a known handler reports a uid installed. -/
def handlerReports (name : String) (uid : String) : WorldM Bool := do
  let w ← get
  match w.registry.handler? name with
  | some h => lift (h.isInstalled w.host.files uid)
  | none => pure false

/-- Publishes an event. -/
def emit (e : Event) : WorldM Event := do
  modifyService fun s => { s with events := s.events ++ [e] }
  pure e

/-- The uid of a request: a bare `type:id` gets the service's prefix. A value that is
not a text has no colons to count. -/
def normalizeUid (serviceId : String) (uid : Json) : Except Failure String :=
  match uid with
  | .str u => .ok (if (u.toList.filter (· == ':')).length == 1 then serviceId ++ ":" ++ u else u)
  | v => .error ⟨.missingAttribute, "'" ++ v.typeName ++ "' object has no attribute 'count'"⟩

end Service

end AddonCatalog
