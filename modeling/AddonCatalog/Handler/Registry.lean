import AddonCatalog.Handler.Scripted
import AddonCatalog.Archive.Handler
/-!
# Handlers and their registry

A handler performs the installs and uninstalls of the addons it supports. There are
two kinds: scripted handlers, whose behaviour is set by their fields, and the archive
handler.

The registry keeps the registered handlers in registration order, each once; the first
registered handler that supports an addon is the one used for it. An addon is
installed when some registered handler reports it installed, asking them in order and
stopping at the first that does; an error of one of them stops the question.

The registry also keeps listeners, told when a handler becomes ready: when a ready
handler is registered, and when a handler reports itself ready. A listener is either a
recorder, which notes the handler's name (or fails, when its name starts with
`broken`), or the addon service, which then schedules a refresh. The handlers known to
the registry, registered or not, are kept by name in its pool.
-/

namespace AddonCatalog

/-- A handler. -/
inductive Handler where
  | scripted (h : ScriptedHandler)
  | archive (h : ArchiveHandler)
deriving Inhabited

namespace Handler

/-- The name of a handler. -/
def name : Handler → String
  | scripted h => h.name
  | archive _ => archiveHandlerName

/-- Whether a handler has finished restoring its own state. -/
def isReady : Handler → Bool
  | scripted h => h.ready
  | archive h => h.ready

/-- Whether a handler handles addons of a type and content type. -/
def supports (t : AddonType) (contentType : String) : Handler → Bool
  | scripted h => h.supports t contentType
  | archive _ => ArchiveHandler.supports t contentType

/-- Whether a handler reports a uid installed. -/
def isInstalled (v : Volume) (uid : String) : Handler → Except Failure Bool
  | scripted h => h.isInstalled uid
  | archive h => h.isInstalled v uid

end Handler

/-- Who is told when a handler becomes ready. -/
inductive Listener where
  /-- Notes the name of the handler; fails when its name starts with `broken`. -/
  | recorder (name : String)
  /-- The addon service. -/
  | service
deriving BEq, Inhabited

/-- The registered handlers, the known ones, and the listeners. -/
structure Registry where
  pool : List Handler := []
  order : List String := []
  listeners : List Listener := []
  /-- What the recorders noted: their name and the handler's, or `raised`. -/
  notified : List (String × String) := []
deriving Inhabited

namespace Registry

/-- The known handler with a name. -/
def handler? (r : Registry) (name : String) : Option Handler :=
  r.pool.find? (·.name == name)

/-- Adds a handler to the pool, unless one of its name is known. -/
def know (r : Registry) (h : Handler) : Registry :=
  if (r.handler? h.name).isSome then r else { r with pool := r.pool ++ [h] }

/-- Replaces the known handler of a name. -/
def update (r : Registry) (name : String) (f : Handler → Handler) : Registry :=
  { r with pool := r.pool.map fun h => if h.name == name then f h else h }

/-- The registered handlers, in registration order. -/
def handlers (r : Registry) : List Handler := r.order.filterMap r.handler?

/-- The first registered handler that supports a type and content type. -/
def find? (r : Registry) (t : AddonType) (contentType : String) : Option Handler :=
  r.handlers.find? (·.supports t contentType)

/-- Whether every registered handler is ready. -/
def allReady (r : Registry) : Bool := r.handlers.all (·.isReady)

/-- Whether some handler reports a uid installed, asking in order. -/
def anyInstalled (v : Volume) (uid : String) : List Handler → Except Failure Bool
  | [] => .ok false
  | h :: rest => do
    if ← h.isInstalled v uid then return true
    anyInstalled v uid rest

/-- Whether some registered handler reports a uid installed. -/
def isInstalled (r : Registry) (v : Volume) (uid : String) : Except Failure Bool :=
  anyInstalled v uid r.handlers

/-- Whether a handler is registered. -/
def isRegistered (r : Registry) (name : String) : Bool := r.order.contains name

/-- Registers a handler; registering again changes nothing. -/
def register (r : Registry) (name : String) : Registry :=
  if r.isRegistered name then r else { r with order := r.order ++ [name] }

/-- Unregisters a handler. -/
def unregister (r : Registry) (name : String) : Registry :=
  { r with order := r.order.filter (· != name) }

/-- Adds a listener; adding it again changes nothing. -/
def addListener (r : Registry) (l : Listener) : Registry :=
  if r.listeners.contains l then r else { r with listeners := r.listeners ++ [l] }

/-- Removes a listener. -/
def removeListener (r : Registry) (l : Listener) : Registry :=
  { r with listeners := r.listeners.filter (· != l) }

/-- Notes what a recorder does when a handler becomes ready. -/
def record (r : Registry) (listener handler : String) : Registry :=
  { r with notified := r.notified ++
    [(listener, if listener.startsWith "broken" then "raised" else handler)] }

end Registry

end AddonCatalog
