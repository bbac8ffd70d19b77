import AddonCatalog.Archive.Download
import AddonCatalog.Addon.Basic
/-!
# The archive handler

The archive handler installs addons distributed as downloadable archives. Each addon
has a directory in the handler's cache directory, named by its uid with every
character outside `A-Z a-z 0-9 . _ -` replaced by `_`. The directory doubles as the
installed state: an addon is installed when its directory holds the `.installed`
marker.

* Installing downloads the archive named by the addon's `download_url` property into
  the addon's directory, under the last part of the url's path (`addon.archive` when
  there is none), checking the `sha256` property when it is set. It then deploys the
  archive: a zip archive is unpacked into `content/` (replacing what was there), and
  the marker is written with the archive's name. When the download or the unpacking
  fails, the addon's directory is removed.
* Unpacking reads the archive's directory, then checks each member in order: a `..`
  part or an absolute path stops it. OS errors and broken archives are reported as
  failures to extract; an archive cut short inside a member's data, or one using what
  the reader does not support, fails as the reader does.
* Uninstalling removes the addon's directory; it refuses a symbolic link.
* Restoring deploys, in name order, the directories without a marker, each from its
  first plain file in name order whose name does not start with `.`; a failure there
  is passed over. The handler is then ready.
-/

namespace AddonCatalog

/-- The content type of archive addons. -/
def archiveContentTypeName : String := "application/vnd.addonhub.archive"

/-- The name of the installed marker. -/
def installedMarker : String := ".installed"

/-- The directory archives are unpacked into. -/
def contentDirName : String := "content"

/-- The archive name used when a url's path has no last part. -/
def defaultArchiveName : String := "addon.archive"

/-- The name of the archive handler. -/
def archiveHandlerName : String := "ArchiveAddonHandler"

/-- The directory name of a uid: characters outside `A-Z a-z 0-9 . _ -` become `_`. -/
def safeDirName (uid : String) : String :=
  String.map (fun c => if (c.toNat < 128 && c.isAlphanum) || c == '.' || c == '_' || c == '-' then c else '_') uid

/-- A handler that installs archives into a cache directory. -/
structure ArchiveHandler where
  cacheDir : List String
  downloader : Downloader := {}
  ready : Bool := false
  /-- Whether it tells its registry when it becomes ready. -/
  notifies : Bool := true
deriving Inhabited

namespace ArchiveHandler

/-- The directory of an addon. -/
def addonDir (h : ArchiveHandler) (uid : String) : List String := h.cacheDir ++ [safeDirName uid]

/-- It handles archive addons of every type. -/
def supports (_t : AddonType) (contentType : String) : Bool := contentType == archiveContentTypeName

/-- Whether an addon's directory holds the installed marker; a directory name too long
for the system fails. -/
def isInstalled (h : ArchiveHandler) (v : Volume) (uid : String) : Except Failure Bool :=
  v.checkExists (h.addonDir uid ++ [installedMarker])

/-- The names of the directories holding the installed marker, in order. -/
def installedDirs (h : ArchiveHandler) (v : Volume) : List String :=
  (v.names h.cacheDir).filter fun n => v.pathExists (h.cacheDir ++ [n, installedMarker])

/-- The parts of an archive member's name, as a path reads them. -/
def memberParts (m : String) : List String :=
  (if m.startsWith "/" then ["/"] else []) ++ Volume.partsOf m

/-- The error of an archive that cannot be unpacked: OS errors and broken archives
become handler errors, anything else passes unchanged. -/
def extractFailure (archiveName : String) (e : Failure) : Failure :=
  if e.kind.isOs || e.kind == .badArchive then
    ⟨.handler, "Failed to extract archive " ++ archiveName ++ ": " ++ e.message⟩
  else e

/-- Fails with the failure of a computation. -/
def orThrow {α : Type} : Except Failure α → HostM α
  | .ok a => pure a
  | .error e => throw e

/-- Unpacks the named members of an archive into a directory, in order. A member's
file is created once its header has been read, and keeps the data delivered before
a failure in its data. -/
def unpackMembers (archive : ByteArray) (entries : List Zip.Entry) (target : List String) :
    List String → HostM Unit
  | [] => pure ()
  | m :: rest => do
    if (memberParts m).contains ".." then
      throw ⟨.handler, "Path traversal detected in archive: " ++ m⟩
    if m.startsWith "/" then
      throw ⟨.handler, "Absolute path detected in archive: " ++ m⟩
    let path := target ++ Volume.partsOf m
    if m.endsWith "/" then HostM.onFilesKeeping (·.makeDirs path)
    else
      HostM.onFilesKeeping (·.makeDirs path.dropLast)
      let some e := Zip.entryOf? entries m | throw ⟨.missingKey, Text.quote m⟩
      let d ← orThrow (Zip.readMember archive e)
      HostM.onFiles (·.writeFile path ⟨d.data⟩)
      if let some f := d.failure then throw f
    unpackMembers archive entries target rest

/-- Unpacks an archive into a directory. -/
def extract (archiveName : String) (archive : ByteArray) (target : List String) : HostM Unit :=
  tryCatch (do
    HostM.onFilesKeeping (·.makeDirs target)
    let entries ← orThrow (Zip.directory archive)
    unpackMembers archive entries target (Zip.names entries))
    (fun e => throw (extractFailure archiveName e))

/-- Deploys an archive in an addon directory: unpacks a zip archive into `content/`
and writes the marker. -/
def deploy (dir : List String) (archive : List String) : HostM Unit := do
  let v ← HostM.files
  let bytes := ((v.content? archive).map (·.bytes)).getD ByteArray.empty
  if ← orThrow (Zip.isArchive? bytes) then
    let content := dir ++ [contentDirName]
    if v.pathExists content then HostM.onFiles (·.removeTree content)
    extract (archive.getLast?.getD "") bytes content
  HostM.onFiles (·.writeFile (dir ++ [installedMarker]) (Blob.ofText (archive.getLast?.getD "")))

/-- Installs an addon from the archive its `download_url` names. -/
def install (h : ArchiveHandler) (a : Addon) : HostM Unit := do
  let url := (a.property? "download_url").getD .null
  unless url.truthy do
    throw ⟨.handler, "Add-on " ++ a.uid ++ " has no download_url property."⟩
  let dir := h.addonDir a.uid
  let parts ← match UrlParts.ofJson url with
    | .ok p => pure p
    | .error e => throw e
  let name := match UrlParts.lastName parts.path with
    | "" => defaultArchiveName
    | n => n
  let archive := dir ++ [name]
  tryCatch (do
    let _ ← h.downloader.fetch url archive ((a.property? "sha256").getD .null)
    deploy dir archive)
    (fun e => do
      if e.kind.isHandler then
        modify fun host => { host with files := host.files.removeTreeQuietly dir }
      throw e)

/-- Uninstalls an addon by removing its directory. -/
def uninstall (h : ArchiveHandler) (a : Addon) : HostM Unit := do
  let dir := h.addonDir a.uid
  let v ← HostM.files
  unless ← orThrow (v.checkExists dir) do
    throw ⟨.handler, "Add-on " ++ a.uid ++ " is not present in " ++ Volume.pathText h.cacheDir ++ "."⟩
  match v.removeTree dir with
  | .ok v => modify fun host => { host with files := v }
  | .error e => throw ⟨.handler, "Failed to remove add-on " ++ a.uid ++ ": " ++ e.message⟩

/-- The archive of a directory: its first plain file, in name order, whose name does
not start with `.`. -/
def findArchive (v : Volume) (dir : List String) : Option (List String) :=
  ((v.names dir).find? fun n => !n.startsWith "." && (v.content? (dir ++ [n])).isSome).map
    fun n => dir ++ [n]

/-- Deploys the directories without a marker, in name order; a handler error there is
passed over. -/
def restoreDirs (h : ArchiveHandler) : List String → HostM Unit
  | [] => pure ()
  | n :: rest => do
    let v ← HostM.files
    let dir := h.cacheDir ++ [n]
    if v.isDir dir && !v.pathExists (dir ++ [installedMarker]) then
      match findArchive v dir with
      | some archive =>
        tryCatch (deploy dir archive) fun e => if e.kind.isHandler then pure () else throw e
      | none => pure ()
    h.restoreDirs rest

/-- Re-deploys the cached archives that were never unpacked. -/
def restoreFiles (h : ArchiveHandler) : HostM Unit := do
  let v ← HostM.files
  if v.pathExists h.cacheDir then h.restoreDirs (v.names h.cacheDir)

end ArchiveHandler

end AddonCatalog
