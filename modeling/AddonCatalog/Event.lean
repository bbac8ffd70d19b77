import AddonCatalog.Json.Show
import AddonCatalog.Failure
/-!
# Events

The outcome of an install or uninstall request is announced as an event about the
addon: installed, uninstalled, or failed with a message. Events go out on a bus to its
subscribers, in the order they subscribed; a subscriber that fails on an event does not
stop the others, and a bus that fails to deliver does not stop the notifier, which
still answers with the event.

* `EventKind` lists the outcomes with their values and event types;
* `Event.ofKind` builds the event of an outcome: a failure without a message gets
  `Unknown failure`;
* `Bus.deliver` gives the subscribers that receive an event.
-/

namespace AddonCatalog

/-- The outcome of a request about an addon. -/
inductive EventKind where
  | installed
  | uninstalled
  | failed
deriving BEq, DecidableEq, Inhabited

namespace EventKind

/-- Every outcome, in order. -/
def all : List EventKind := [installed, uninstalled, failed]

/-- The value of an outcome. -/
def value : EventKind → String
  | installed => "installed"
  | uninstalled => "uninstalled"
  | failed => "failed"

/-- The event type of an outcome: `addon.` and its value. -/
def eventType (k : EventKind) : String := "addon." ++ k.value

/-- The outcome with the given value, which must match exactly. -/
def ofValue? (s : String) : Option EventKind := all.find? (·.value == s)

/-- The outcome a value names; any other value is not a valid outcome. -/
def ofJson (v : Json) : Except Failure EventKind :=
  match v.str?.bind ofValue? with
  | some k => .ok k
  | none => .error ⟨.invalidValue, v.quoted ++ " is not a valid AddonEventKind"⟩

end EventKind

/-- An event about an addon. -/
structure Event where
  kind : EventKind
  uid : String
  /-- The message of a failure. -/
  message : Option String := none
deriving BEq, Inhabited

namespace Event

/-- The event of an outcome; a failure without a message gets `Unknown failure`, and
only failures carry a message. -/
def ofKind (k : EventKind) (uid : String) (message : Option String) : Event :=
  match k with
  | .failed => ⟨.failed, uid, some ((message.filter (!·.isEmpty)).getD "Unknown failure")⟩
  | k => ⟨k, uid, none⟩

/-- The event of a successful install. -/
def installed (uid : String) : Event := ofKind .installed uid none

/-- The event of a successful uninstall. -/
def uninstalled (uid : String) : Event := ofKind .uninstalled uid none

/-- The event of a failed request. -/
def failed (uid : String) (message : String) : Event := ofKind .failed uid (some message)

/-- Whether the event announces a failure. -/
def isFailure (e : Event) : Bool := e.kind == .failed

/-- The object view of an event: type, source, entity and payload. -/
def toJson (e : Event) : Json :=
  .obj [("type", .str e.kind.eventType), ("source", .str "core"),
    ("entity", .obj [("kind", .str "addon"), ("id", .str e.uid)]),
    ("payload", .obj (match e.message with
      | some m => [("message", .str m)]
      | none => []))]

end Event

/-- A subscriber of a bus, known by its name; a failing subscriber fails on every
event it receives. -/
structure Subscriber where
  name : String
  fails : Bool
deriving BEq, Inhabited

/-- An event bus: its subscribers in the order they subscribed, each at most once. -/
structure Bus where
  subscribers : List Subscriber := []
deriving Inhabited

namespace Bus

/-- Adds a subscriber; subscribing again changes nothing. -/
def subscribe (b : Bus) (s : Subscriber) : Bus :=
  if b.subscribers.contains s then b else ⟨b.subscribers ++ [s]⟩

/-- Removes a subscriber; an unknown one changes nothing. -/
def unsubscribe (b : Bus) (s : Subscriber) : Bus := ⟨b.subscribers.erase s⟩

/-- The subscribers that receive an event: all but the failing ones, in order. -/
def deliver (b : Bus) (_e : Event) : List Subscriber := b.subscribers.filter (!·.fails)

end Bus

end AddonCatalog
