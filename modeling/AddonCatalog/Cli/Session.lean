import AddonCatalog.Cli.Args
import AddonCatalog.Console.Table
import AddonCatalog.Console.Markup
import AddonCatalog.Service.Actions
import AddonCatalog.Settings.Paths
/-!
# Running commands

A command runs on a machine: its files and network, its record databases, its
environment variables and the width of its console. Every command that does work
builds the service afresh from the settings:

1. the settings file is the one given with `--settings`, else `settings.json` in the data
   directory; the environment overrides apply;
2. the archive handler is set up on `cache/archives` of the data directory named by the
   settings and registered; the remote catalog is read from the catalog url, when there
   is one; records live in `store/records.sqlite` under the service id; the policy is
   read from the settings file again on every cycle;
3. the handler is restored, which makes the service run one refresh.

Then the command prints to the console: tables of types or addons, the details of one
addon, or the events an install or uninstall emitted. A command that finds nothing or
whose write failed exits with `1`; a usage error exits with `2`; a failure of the
command itself also exits with `1` and is reported. Texts are printed through the
console markup and laid out in the console width; a text whose markup is broken fails
the command, except for an event, which is then not printed. The scratch directory
that messages write as `<tmp>` is a path of `scratchPathLength` characters on the
machine, and is laid out as such.
-/

namespace AddonCatalog

/-- The place of a path in the scratch volume `<tmp>`; paths outside it are kept apart
under a directory of their own, named by their root. -/
def Location.onVolume (l : Location) : List String :=
  match l.root, l.parts with
  | "", "<tmp>" :: rest => rest
  | r, ps => ("<outside>" ++ r) :: ps

/-- The directories at the top of every machine's file system. -/
def systemDirectories : List String :=
  ["bin", "boot", "dev", "etc", "home", "lib", "media", "mnt", "opt", "proc", "root", "run",
    "sbin", "srv", "sys", "tmp", "usr", "var"]

/-- Whether a path names a directory outside the scratch volume that every machine has:
the root or the current directory, their parents, and the system directories at the
top of the root. -/
def Location.isStandingDirectory (l : Location) : Bool :=
  l.parts.all (· == "..") ||
    (l.root != "" && match l.parts.dropWhile (· == "..") with
      | [d] => systemDirectories.contains d
      | _ => false)

namespace Cli

/-- What commands run on. -/
structure Machine where
  host : Host := {}
  /-- The record databases, by path; each holds the rows of every namespace. -/
  databases : List (Location × List RecordRow) := []
  /-- The environment variables. -/
  env : List (String × String) := []
  width : Nat := 80
deriving Inhabited

/-- What one command did. -/
structure Outcome where
  exitCode : Nat
  /-- What the console printed. -/
  console : String := ""
  /-- What the command line printed: help, version and usage errors. -/
  output : String := ""
  /-- The failure the command stopped with, if any. -/
  failure : Option Failure := none
deriving Inhabited

namespace Machine

/-- An environment variable. -/
def var (m : Machine) (name : String) : Option String := m.env.lookup name

/-- The home directory. -/
def home (m : Machine) : String := (m.var "HOME").getD ""

/-- The environment as settings overrides read it. -/
def overrides (m : Machine) : List (String × Json) := m.env.map fun (k, v) => (k, .str v)

/-- The data directory named by a configured directory (empty: not configured). -/
def dataDir (m : Machine) (configured : String) : Except Failure Location :=
  dataHome (.str configured) (m.var "ADDONHUB_HOME") m.home

/-- The data directory of the environment alone. -/
def dataRoot (m : Machine) : Except Failure Location := m.dataDir ""

/-- Whether a path text names a directory: one of the scratch volume, or one that
stands outside it on every machine (`Location.isStandingDirectory`). The empty text
names nothing. -/
def isDirectory (m : Machine) (path : String) : Bool :=
  let l := Location.ofText path
  !path.isEmpty && (l.isStandingDirectory || m.host.files.isDir l.onVolume)

/-- The rows of the database at a path; a missing database has none. -/
def rowsAt (m : Machine) (db : Location) : List RecordRow :=
  ((m.databases.find? (·.1 == db)).map (·.2)).getD []

/-- Replaces the rows of the database at a path. -/
def setRows (m : Machine) (db : Location) (rows : List RecordRow) : Machine :=
  { m with databases := (m.databases.filter (·.1 != db)) ++ [(db, rows)] }

/-- The settings file a command reads: the one given, else the one in the data
directory of the environment. -/
def settingsPath (m : Machine) (given : Option String) : Except Failure (List String) :=
  match given with
  | some p => .ok (Location.ofText p).onVolume
  | none => m.dataRoot.map fun root => (settingsFile root).onVolume

/-- The settings a command runs with. -/
def settings (m : Machine) (path : List String) : Settings :=
  (Settings.ofFileText ((m.host.files.content? path).bind Blob.text?)).applyEnv m.overrides

end Machine

open WorldM

/-- The world of a command before the service is built: the machine's host and a
service over an empty store. -/
def blankWorld (m : Machine) (s : Settings) : World :=
  { host := m.host, service := { serviceId := s.serviceId, store := .memory [], cache := { ttl := .whole 0 } } }

/-- Builds the service of the settings on the world: the archive handler, the remote
catalog, the record store and the policy source, then restores the handler. -/
def build (m : Machine) (s : Settings) (home : Location) (path : List String) : WorldM Unit := do
  let timeout : Int × Int := (10, s.requestTimeoutSeconds)
  let h : ArchiveHandler := { cacheDir := (archivesDir home).onVolume, downloader := { timeout } }
  modifyRegistry fun r => { r with pool := [.archive h] }
  Service.register Service.depth archiveHandlerName
  let db := recordsFile home
  onHost (HostM.onFilesKeeping (·.makeDirs db.onVolume.dropLast))
  let store : RecordStore :=
    if (← get).host.files.isDir db.onVolume then .unopenable db.text
    else .table s.serviceId (m.rowsAt db)
  let remote : RemoteSource :=
    if s.catalogUrl.isEmpty then .none
    else .catalog ⟨s.catalogUrl, s.serviceId, some s.coreVersion⟩ timeout
  modifyService fun _ =>
    { serviceId := s.serviceId, store, policy := .settingsFile (some path) m.overrides, remote,
      cache := { ttl := .whole s.cacheTtlSeconds }, executor := .immediate }
  modify Service.listen
  Service.restoreArchive Service.depth

/-- A command in progress: the world and what the console printed so far. -/
structure Session where
  world : World
  console : String := ""

/-- A computation of a command that may fail; the session keeps what happened before
a failure. -/
abbrev SessionM := ExceptT Failure (StateM Session)

/-- Runs a computation on the session's world. -/
def onWorld {α : Type} (m : WorldM α) : SessionM α := do
  let s ← get
  let (r, w) := runOn m s.world
  set { s with world := w }
  match r with
  | .ok a => pure a
  | .error e => throw e

/-- Fails the session with a failure, or goes on with the value. -/
def orFail {α : Type} (r : Except Failure α) : SessionM α :=
  match r with
  | .ok a => pure a
  | .error e => throw e

/-- Appends lines to the console, each cut to the console width. -/
def emitLines (width : Nat) (lines : List String) : SessionM Unit :=
  modify fun s => { s with console := s.console ++ String.join (lines.map (Console.cropLine width · ++ "\n")) }

/-- The length of the scratch directory's path on the machine. -/
def scratchPathLength : Nat := 29

/-- The scratch directory as messages write it. -/
def scratchText : String := "<tmp>"

/-- A stand-in for the scratch directory's path while a text is laid out: as long as the
path, and made of characters that do not break a line. -/
def scratchStandIn : String :=
  "<tmp" ++ String.ofList (List.replicate (scratchPathLength - 5) '~') ++ ">"

/-- Prints a marked-up text, laid out in the width with the scratch directory at its
full length. The markup is read even when the console has no width to draw in; the
styles are read as the laid out text is drawn. -/
def print (width : Nat) (markup : String) : SessionM Unit := do
  let text ← orFail (Console.render (markup.replace scratchText scratchStandIn))
  if width = 0 then return
  let lines := Console.wrap width .none .fold text
  orFail (Console.checkStyles (Console.drawnStyles lines))
  emitLines width ((Console.printed lines).map fun l =>
    (Console.cropLine width l).replace scratchStandIn scratchText)

/-- Prints a table whose title and cells are marked up. -/
def printTable (width : Nat) (title : String) (headers : List String) (rows : List (List String)) :
    SessionM Unit := do
  emitLines width (← orFail (Console.Table.render { title := some title, headers, rows } width))

/-- The printed form of an event. -/
def eventMarkup (e : Event) : String :=
  match e.kind with
  | .failed => "[red]✗ " ++ e.uid ++ ": " ++ Console.escape (e.message.getD "") ++ "[/red]"
  | .installed => "[green]✓ Installed " ++ e.uid ++ "[/green]"
  | .uninstalled => "[green]✓ Uninstalled " ++ e.uid ++ "[/green]"

/-- Prints an event; an event that cannot be printed is left out. -/
def printEvent (width : Nat) (e : Event) : SessionM Unit :=
  tryCatch (print width (eventMarkup e)) fun _ => pure ()

/-- A text, or `-` when it is empty. -/
def orDash (s : String) : String := if s.isEmpty then "-" else s

/-- A flag as `yes` or `no`. -/
def yesNo (b : Bool) : String := if b then "yes" else "no"

/-- The row of an addon in the addon table. -/
def addonRow (a : Addon) : List String :=
  [a.uid, a.type.value, orDash a.version, if a.installed then "[green]yes[/green]" else "no",
    if a.compatible then "yes" else "[red]no[/red]"]

/-- Prints the details of an addon. -/
def printDetails (width : Nat) (a : Addon) : SessionM Unit := do
  let p := print width
  p ("[bold cyan]" ++ Console.escape (if a.label.isEmpty then a.id else a.label) ++ "[/bold cyan]")
  p ("  UID:          " ++ a.uid)
  p ("  Type:         " ++ a.type.label)
  p ("  Version:      " ++ orDash a.version)
  p ("  Content type: " ++ orDash a.contentType)
  p ("  Installed:    " ++ yesNo a.installed)
  p ("  Compatible:   " ++ yesNo a.compatible)
  if !a.author.isEmpty then p ("  Author:       " ++ a.author)
  match a.link with
  | some l => if !l.isEmpty then p ("  Link:         " ++ l)
  | none => pure ()
  if !a.description.isEmpty then p ("\n" ++ Console.escape a.description)

/-- Runs a write and prints the events it emitted; a failure exits with `1`. -/
def write (width : Nat) (action : WorldM Event) : SessionM Nat := do
  let before := (← get).world.service.events.length
  let e ← onWorld action
  ((← get).world.service.events.drop before).forM (printEvent width)
  return if e.isFailure then 1 else 0

/-- Performs a request on a built service; answers the exit code. -/
def perform (width : Nat) : Request → SessionM Nat
  | .types => do
    printTable width "Addon Types" ["Type", "Label"] (AddonType.all.map fun t => [t.value, t.label])
    return 0
  | .list installedOnly => do
    let addons ← onWorld (Service.getAddons Service.depth)
    let addons := if installedOnly then addons.filter (·.installed) else addons
    let headers := ["UID", "Type", "Version", "Installed", "Compatible"]
    if addons.isEmpty then print width "[yellow]No addons found.[/yellow]"
    else printTable width ("Addons (" ++ toString addons.length ++ ")") headers (addons.map addonRow)
    return 0
  | .show uid => do
    match ← onWorld (Service.getAddonRequest Service.depth (.str uid)) with
    | none =>
      print width ("[red]Addon not found: " ++ uid ++ "[/red]")
      return 1
    | some a =>
      printDetails width a
      return 0
  | .install uid => write width (Service.install Service.depth (.str uid))
  | .uninstall uid => write width (Service.uninstall Service.depth (.str uid))

namespace Machine

/-- Builds the service and performs a request; the machine keeps the files, network
and records the command left. -/
def runRequest (m : Machine) (given : Option String) (r : Request) : Machine × Outcome :=
  match m.settingsPath given with
  | .error e => (m, { exitCode := 1, failure := some e })
  | .ok path =>
    let s := m.settings path
    match m.dataDir s.dataDir with
    | .error e => (m, { exitCode := 1, failure := some e })
    | .ok home =>
      let act : SessionM Nat := do
        onWorld (build m s home path)
        perform m.width r
      let (result, session) := (act.run).run { world := blankWorld m s }
      let w := session.world
      let m := { m with host := w.host }
      let m := match w.service.store with
        | .table _ rows => m.setRows (recordsFile home) rows
        | _ => m
      match result with
      | .ok code => (m, { exitCode := code, console := session.console })
      | .error e => (m, { exitCode := 1, console := session.console, failure := some e })

/-- Runs one command line. -/
def runCommand (m : Machine) (args : List String) : Machine × Outcome :=
  match invocation m.isDirectory args with
  | .print text => (m, { exitCode := 0, output := text })
  | .usage text => (m, { exitCode := 2, output := text })
  | .run given _ r => m.runRequest given r

end Machine

end Cli

end AddonCatalog
