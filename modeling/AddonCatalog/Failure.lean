/-!
# Errors

An error the program reports has a kind and a message. The kinds are the library's own
(a version that cannot be read, a catalog that cannot be fetched, a handler, download or
record store that fails, a value that fails validation) and the general ones that a
collaborator or a malformed value raises (a wrong value or type, a missing attribute or
key, a runtime or operating system failure, a failed request, a markup error, a broken
archive or compressed stream, an unsupported feature, data that ends too early, bytes
that are not text, a broken LZMA stream, or nesting too deep to follow).

* `ErrorKind.name` is the name under which a kind is reported;
* the constructors of messages stand in the modules of their domains.
-/

namespace AddonCatalog

/-- The kinds of error. -/
inductive ErrorKind where
  | versionParse
  | catalogFetch
  | handler
  | download
  | recordStore
  | invalidValue
  | wrongType
  | missingAttribute
  | missingKey
  | runtime
  | overflow
  | os
  | connection
  | timeout
  | http
  | request
  | markup
  | fileExists
  | isDirectory
  | notDirectory
  | fileNotFound
  | badArchive
  | brokenStream
  | notImplemented
  | endOfData
  | undecodable
  | lzma
  | recursion
deriving BEq, Inhabited

/-- The name under which a kind of error is reported. -/
def ErrorKind.name : ErrorKind → String
  | .versionParse => "VersionParseError"
  | .catalogFetch => "CatalogFetchError"
  | .handler => "HandlerError"
  | .download => "DownloadError"
  | .recordStore => "RecordStoreError"
  | .invalidValue => "ValueError"
  | .wrongType => "TypeError"
  | .missingAttribute => "AttributeError"
  | .missingKey => "KeyError"
  | .runtime => "RuntimeError"
  | .overflow => "OverflowError"
  | .os => "OSError"
  | .connection => "ConnectionError"
  | .timeout => "Timeout"
  | .http => "HTTPError"
  | .request => "RequestException"
  | .markup => "MarkupError"
  | .fileExists => "FileExistsError"
  | .isDirectory => "IsADirectoryError"
  | .notDirectory => "NotADirectoryError"
  | .fileNotFound => "FileNotFoundError"
  | .badArchive => "BadZipFile"
  | .brokenStream => "error"
  | .notImplemented => "NotImplementedError"
  | .endOfData => "EOFError"
  | .undecodable => "UnicodeDecodeError"
  | .lzma => "LZMAError"
  | .recursion => "RecursionError"

/-- The kind of error with the given name. -/
def ErrorKind.ofName? (s : String) : Option ErrorKind :=
  [ErrorKind.versionParse, .catalogFetch, .handler, .download, .recordStore, .invalidValue,
    .wrongType, .missingAttribute, .missingKey, .runtime, .overflow, .os, .connection, .timeout, .http,
    .request, .markup, .fileExists, .isDirectory, .notDirectory, .fileNotFound, .badArchive,
    .brokenStream, .notImplemented, .endOfData, .undecodable, .lzma, .recursion].find? (·.name == s)

/-- Whether errors of a kind are failed requests: a refused connection, a timeout, an
error status or any other failure of the request itself. -/
def ErrorKind.isRequest : ErrorKind → Bool
  | .connection | .timeout | .http | .request => true
  | _ => false

/-- Whether errors of a kind are operating system errors; a failed request counts as one. -/
def ErrorKind.isOs : ErrorKind → Bool
  | .os | .fileExists | .isDirectory | .notDirectory | .fileNotFound => true
  | k => k.isRequest

/-- Whether errors of a kind are handler errors; download errors are handler errors. -/
def ErrorKind.isHandler : ErrorKind → Bool
  | .handler | .download => true
  | _ => false

/-- An error: its kind and its message. -/
structure Failure where
  kind : ErrorKind
  message : String
deriving BEq, Inhabited

end AddonCatalog
