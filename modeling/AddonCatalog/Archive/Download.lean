import AddonCatalog.Net.Session
import AddonCatalog.Net.Url
import AddonCatalog.Files.Ops
import AddonCatalog.Number.Whole
/-!
# Downloading archives

An archive is fetched from an `http` or `https` url that names a host, and stored at
its target path. It is first written to a hidden part file beside the target,
`.<name>.part`, and moved over the target once complete, so a failed download leaves
the previous target as it was. The part file is removed at the end whatever happens.

A download fails with a `DownloadError` when

* the url is not an `http(s)` url with a host (checked before anything else);
* the response declares (`Content-Length`) or serves more bytes than the size limit;
* an expected digest is given and the digest of the served bytes differs from it,
  compared after trimming and lower-casing;
* the request fails (`Fetching <url> failed: ...`), or a file operation fails
  (`Cannot store archive <target>: ...`).

Other errors, such as a `Content-Length` that is not a number, are not wrapped.
-/

namespace AddonCatalog

/-- The user agent of archive requests. -/
def archiveUserAgent : String := "AddonHub-Archive/1.0"

/-- How archives are downloaded: the request timeouts and the size limit. -/
structure Downloader where
  timeout : Int × Int := (10, 300)
  maxBytes : Int := 100 * 1024 * 1024
deriving Inhabited

namespace Downloader

/-- The error of a url that is not an `http(s)` url with a host. -/
def refused (url : String) : Failure :=
  ⟨.download, "Refusing to fetch '" ++ url ++ "': only http(s) urls with a host are allowed"⟩

/-- The part file of a target. -/
def partPath (target : List String) : List String :=
  target.dropLast ++ ["." ++ target.getLast?.getD "" ++ ".part"]

/-- The request for an archive. -/
def request (d : Downloader) (url : String) : Request :=
  ⟨url, [("User-Agent", archiveUserAgent)], d.timeout, true⟩

/-- The size a response declares in `Content-Length`; a missing or false value declares none. -/
def declaredSize (r : Response) : Except Failure Int :=
  let header := ((r.headers.find? (·.1 == "Content-Length")).map (·.2)).getD .null
  Number.wholeOf (header.orElse (.int 0))

/-- Receives the body of a response into the part file, within the size limit; answers its
digest. -/
def receive (d : Downloader) (url : String) (part : List String) (r : Response) : HostM String := do
  match r.raiseForStatus with
  | .error e => throw e
  | .ok () => pure ()
  let declared ← match declaredSize r with
    | .ok n => pure n
    | .error e => throw e
  if declared > d.maxBytes then
    throw ⟨.download, "Archive " ++ url ++ " declares " ++ toString declared ++
      " bytes, over the size limit of " ++ toString d.maxBytes⟩
  HostM.onFiles (·.writeFile part Blob.empty)
  let blob := r.body.toBlob
  if (blob.size : Int) > d.maxBytes then
    throw ⟨.download, "Archive " ++ url ++ " exceeds the size limit of " ++
      toString d.maxBytes ++ " bytes"⟩
  HostM.onFiles (·.writeFile part blob)
  pure blob.digest

/-- Streams the archive at `url` into the part file; answers its digest. The response is
closed whatever happens. -/
def stream (d : Downloader) (url : String) (part : List String) : HostM String := do
  HostM.onFilesKeeping (·.makeDirs part.dropLast)
  match ← HostM.send (d.request url) with
  | .fault f => throw f
  | .response r =>
    let outcome ← tryCatch (Except.ok <$> d.receive url part r) (fun e => pure (Except.error e))
    HostM.closeResponse
    match outcome with
    | .ok digest => pure digest
    | .error e => throw e

/-- The error a failure inside a download is reported as. -/
def wrap (url : String) (target : List String) (e : Failure) : Failure :=
  if e.kind.isRequest then ⟨.download, "Fetching " ++ url ++ " failed: " ++ e.message⟩
  else if e.kind.isOs then ⟨.download, "Cannot store archive " ++ Volume.pathText target ++ ": " ++ e.message⟩
  else e

/-- Whether a digest matches the expected one; a false expected value matches all. -/
def checkDigest (url : String) (expected : Json) (digest : String) : Except Failure Unit :=
  if !expected.truthy then .ok ()
  else match expected with
    | .str s =>
      if digest == Text.lowerAscii (Text.trim s) then .ok ()
      else .error ⟨.download, "SHA256 mismatch for " ++ url ++ ": expected " ++ s ++ ", got " ++ digest⟩
    | v => .error ⟨.missingAttribute, "'" ++ v.typeName ++ "' object has no attribute 'strip'"⟩

/-- Streams the archive into the part file of `target`, checks its digest and moves it over
`target`; answers its digest. -/
def deliver (d : Downloader) (url : String) (target : List String) (sha256 : Json) :
    HostM String := do
  let part := partPath target
  let digest ← d.stream url part
  match checkDigest url sha256 digest with
  | .ok () => pure ()
  | .error e => throw e
  HostM.onFiles (·.replace part target)
  pure digest

/-- Removes a part file; one that cannot be removed is left as it is. -/
def discard (part : List String) : HostM Unit := do
  let v ← HostM.files
  match v.unlink part with
  | .ok v => modify fun h => { h with files := v }
  | .error _ => pure ()

/-- Fetches the archive at `url` into `target`; answers its digest. -/
def fetch (d : Downloader) (url : Json) (target : List String) (sha256 : Json) : HostM String := do
  let text := url.display
  let parts ← match UrlParts.ofJson (if url.truthy then url else .str "") with
    | .ok p => pure p
    | .error e => throw e
  unless (parts.scheme == "http" || parts.scheme == "https") && parts.netloc != "" do
    throw (refused text)
  let outcome ← tryCatch (Except.ok <$> d.deliver text target sha256)
    (fun e => pure (Except.error (wrap text target e)))
  discard (partPath target)
  match outcome with
  | .ok digest => pure digest
  | .error e => throw e

end Downloader

end AddonCatalog
