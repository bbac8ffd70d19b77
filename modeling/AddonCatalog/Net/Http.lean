import AddonCatalog.Failure
import AddonCatalog.Json.Reader
import AddonCatalog.Json.Writer
import AddonCatalog.Digest.Sha256
import AddonCatalog.Zip.Read
/-!
# Requests and replies

The library talks to remote sites through a session that answers each request with a
reply: either a failure raised before any response (a refused connection, a timeout,
or anything else), or a response with a status, headers and a body.

* A `Blob` is the content of a body or a file: its bytes, which may be read as text or
  as a zip archive.
* A `Body` is what a response serves: a blob, or a JSON document served as its text.
* `Reply.raiseForStatus` turns a status of 400 or more into an `HTTPError` named by
  the status; `Body.json` reads the body as JSON.
-/

namespace AddonCatalog

/-- The content of a body or a file: its bytes. -/
structure Blob where
  bytes : ByteArray
deriving Inhabited

namespace Blob

/-- No bytes. -/
def empty : Blob := ⟨ByteArray.empty⟩

/-- A text as its UTF-8 bytes. -/
def ofText (s : String) : Blob := ⟨s.toUTF8⟩

/-- The number of bytes of a blob. -/
def size (b : Blob) : Nat := b.bytes.size

/-- The SHA-256 digest of a blob, in hex. -/
def digest (b : Blob) : String := Digest.sha256Hex b.bytes.toList

/-- Whether the blob is a zip archive: whether it ends with an end record. -/
def isArchive (b : Blob) : Bool := Zip.isArchive b.bytes

/-- The text of a blob whose bytes are valid UTF-8. -/
def text? (b : Blob) : Option String := String.fromUTF8? b.bytes

end Blob

/-- What a response serves. -/
inductive Body where
  | blob (b : Blob)
  /-- A JSON document, served as its one-line ASCII text. -/
  | document (v : Json)
  /-- A body whose reading as JSON fails. -/
  | unreadable
deriving Inhabited

/-- The message with which reading a body that is not JSON fails. -/
def notJsonMessage : String := "Expecting value: line 1 column 1 (char 0)"

/-- The failure of a body that nests containers too deeply for the reader. -/
def tooDeepFailure (array : Bool) : Failure :=
  ⟨.recursion, "maximum recursion depth exceeded while decoding a JSON " ++
    (if array then "array" else "object") ++ " from a unicode string"⟩

namespace Body

/-- The content served. -/
def toBlob : Body → Blob
  | .blob b => b
  | .document v => Blob.ofText (Json.render JsonStyle.document v)
  | .unreadable => Blob.empty

/-- The body read as JSON. -/
def json : Body → Except Failure Json
  | .document v => .ok v
  | .blob b => match b.text? with
    | some t => match Json.readDocument t with
      | .ok v => .ok v
      | .error (.tooDeep array) => .error (tooDeepFailure array)
      | .error .malformed => .error ⟨.invalidValue, notJsonMessage⟩
    | none => .error ⟨.invalidValue, notJsonMessage⟩
  | .unreadable => .error ⟨.invalidValue, notJsonMessage⟩

end Body

/-- A response: status, headers and body. -/
structure Response where
  status : Nat := 200
  headers : List (String × Json) := []
  body : Body
deriving Inhabited

/-- The answer of a session to a request. -/
inductive Reply where
  /-- The request failed before a response arrived. -/
  | fault (f : Failure)
  | response (r : Response)
deriving Inhabited

/-- Fails with an `HTTPError` when the status is 400 or more. -/
def Response.raiseForStatus (r : Response) : Except Failure Unit :=
  if r.status ≥ 400 then .error ⟨.http, toString r.status ++ " Error"⟩ else .ok ()

/-- A request as the session receives it. -/
structure Request where
  url : String
  headers : List (String × String)
  /-- Seconds to connect and to read. -/
  timeout : Int × Int
  stream : Bool
deriving Inhabited

end AddonCatalog
