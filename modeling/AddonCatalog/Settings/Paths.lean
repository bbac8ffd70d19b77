import AddonCatalog.Json.Show
import AddonCatalog.Failure
/-!
# Paths of the data directory

A path is kept in normal form: its root (none, `/`, or exactly `//`, which POSIX keeps
apart) and its parts. Reading a path text drops empty parts and `.` parts and keeps
`..`; the empty path reads `.`.

A leading part `~` stands for the home directory, without its trailing slashes (an
empty one is the root `/`); a leading part `~name` stands for the home directory of the
user `name` (`Location.expandUser`). When the user is unknown, or the home directory
itself starts with `~`, the home directory cannot be determined, a `RuntimeError`.

The data directory is chosen in this order (`dataHome`): the configured directory when
it is true, else `ADDONHUB_HOME` when it is set and non-empty, else `.addonhub` in the
home directory. A configured directory that is not a text is a `TypeError`. Below the
data directory lie `settings.json`, `store/records.sqlite` and `cache/archives`.
-/

namespace AddonCatalog

/-- A path in normal form. -/
structure Location where
  /-- `""`, `"/"` or `"//"`. -/
  root : String
  parts : List String
deriving BEq, Inhabited

namespace Location

/-- Reads a path text into normal form. -/
def ofText (s : String) : Location :=
  let cs := s.toList
  let root := match cs with
    | '/' :: '/' :: '/' :: _ => "/"
    | '/' :: '/' :: _ => "//"
    | '/' :: _ => "/"
    | _ => ""
  ⟨root, (s.splitOn "/").filter fun p => p != "" && p != "."⟩

/-- The text of a path. -/
def text (l : Location) : String :=
  let t := l.root ++ "/".intercalate l.parts
  if t.isEmpty then "." else t

/-- The path of a child. -/
def child (l : Location) (name : String) : Location := { l with parts := l.parts ++ [name] }

/-- The path of a descendant, given by a relative path text. -/
def descend (l : Location) (rel : String) : Location :=
  { l with parts := l.parts ++ (Location.ofText rel).parts }

/-- The users of the system and their home directories. -/
def systemUsers : List (String × String) :=
  [("root", "/root"), ("daemon", "/usr/sbin"), ("bin", "/bin"), ("sys", "/dev"),
    ("sync", "/bin"), ("games", "/usr/games"), ("man", "/var/cache/man"),
    ("lp", "/var/spool/lpd"), ("mail", "/var/mail"), ("news", "/var/spool/news"),
    ("uucp", "/var/spool/uucp"), ("proxy", "/bin"), ("www-data", "/var/www"),
    ("backup", "/var/backups"), ("list", "/var/list"), ("irc", "/run/ircd"),
    ("_apt", "/nonexistent"), ("nobody", "/nonexistent")]

/-- The error when the home directory cannot be determined. -/
def noHome : Failure := ⟨.runtime, "Could not determine home directory."⟩

/-- The home directory a part `~` or `~name` stands for, given the current one;
`none` for an unknown user. -/
def homeOf (part : String) (home : String) : Option String :=
  let dir? := if part == "~" then some home else systemUsers.lookup (String.ofList (part.toList.drop 1))
  dir?.map fun dir =>
    let trimmed := String.ofList (dir.toList.reverse.dropWhile (· == '/')).reverse
    if trimmed.isEmpty then "/" else trimmed

/-- Replaces a leading `~` or `~name` part by that home directory. -/
def expandUser (l : Location) (home : String) : Except Failure Location :=
  match l.root, l.parts with
  | "", first :: rest =>
    if first.startsWith "~" then
      match homeOf first home with
      | some dir =>
        if dir.startsWith "~" then .error noHome
        else let h := Location.ofText dir
          .ok { h with parts := h.parts ++ rest }
      | none => .error noHome
    else .ok l
  | _, _ => .ok l

end Location

/-- The error of a path given by a value that is not a text. -/
def pathTypeError (v : Json) : Failure :=
  ⟨.wrongType, "expected str, bytes or os.PathLike object, not " ++ v.typeName⟩

/-- The data directory: the configured one, else `ADDONHUB_HOME`, else `.addonhub` in
the home directory. -/
def dataHome (configured : Json) (envHome : Option String) (home : String) : Except Failure Location :=
  let homeDefault := ((Location.ofText "~").expandUser home).map (·.child ".addonhub")
  if configured.truthy then
    match configured with
    | .str d => (Location.ofText d).expandUser home
    | v => .error (pathTypeError v)
  else match envHome with
    | some e => if e.isEmpty then homeDefault else (Location.ofText e).expandUser home
    | none => homeDefault

/-- The settings file below a data directory. -/
def settingsFile (h : Location) : Location := h.child "settings.json"

/-- The record database below a data directory. -/
def recordsFile (h : Location) : Location := (h.child "store").child "records.sqlite"

/-- The archive cache below a data directory. -/
def archivesDir (h : Location) : Location := (h.child "cache").child "archives"

end AddonCatalog
