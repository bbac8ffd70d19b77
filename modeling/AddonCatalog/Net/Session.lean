import AddonCatalog.Files.Volume
/-!
# The host

The program runs on a host that has a volume of files and a network. The network
answers each request by its url from a table of replies; a url not in the table is
answered with status 404. It keeps the requests it received, in order, and which of
the responses it served were closed.

`HostM` is the computation on a host that may fail: the host keeps every change made
before a failure.
-/

namespace AddonCatalog

/-- A network that answers from a table of replies. -/
structure Network where
  routes : List (String × Reply) := []
  requests : List Request := []
  /-- One mark per closed response. -/
  closed : List Bool := []
deriving Inhabited

namespace Network

/-- The reply to a url not in the table. -/
def notFound : Reply := .response { status := 404, body := .blob Blob.empty }

/-- The reply to a request; the request is recorded. -/
def get (n : Network) (r : Request) : Reply × Network :=
  (((n.routes.find? (·.1 == r.url)).map (·.2)).getD notFound, { n with requests := n.requests ++ [r] })

end Network

/-- The files and network the program sees. -/
structure Host where
  files : Volume := {}
  net : Network := {}
deriving Inhabited

/-- A computation on a host that may fail. -/
abbrev HostM := ExceptT Failure (StateM Host)

namespace HostM

/-- Runs a file operation on the host's volume. -/
def onFiles (f : Volume → Except Failure Volume) : HostM Unit := do
  let h ← get
  match f h.files with
  | .ok v => set { h with files := v }
  | .error e => throw e

/-- Runs a file operation that keeps its effects when it fails. -/
def onFilesKeeping (f : Volume → Volume × Option Failure) : HostM Unit := do
  let h ← get
  let (v, failure) := f h.files
  set { h with files := v }
  if let some e := failure then throw e

/-- The host's volume. -/
def files : HostM Volume := do return (← get).files

/-- Sends a request and answers the reply. -/
def send (r : Request) : HostM Reply := do
  let h ← get
  let (reply, n) := h.net.get r
  set { h with net := n }
  return reply

/-- Marks a response closed. -/
def closeResponse : HostM Unit :=
  modify fun h => { h with net := { h.net with closed := h.net.closed ++ [true] } }

end HostM

end AddonCatalog
