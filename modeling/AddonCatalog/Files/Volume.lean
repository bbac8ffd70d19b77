import AddonCatalog.Net.Http
/-!
# A volume of files

The files the program works with lie below one directory, the volume's root. A path is
the list of its parts below the root; in messages the root is written `<tmp>`.

A volume maps each path that exists to its entry: a directory, a file with its
content, or a symbolic link with its target, a path text relative to the link's
directory. Every parent of an entry is a directory. The root itself may be missing
until something is made in it.

Paths are looked up the way the system does (`Volume.walk`): part by part, following
links on the way, `..` going up from the directory reached. A lookup fails when a
part on the way is missing (`noEntry`), is not a directory (`notDirectory`), is a
name longer than `maxNameBytes` bytes of UTF-8 (`nameTooLong`), or when links lead to
links too many times (`tooManyLinks`). Whether the last part is followed when it is a
link is up to the caller.
-/

namespace AddonCatalog

/-- What a path of a volume holds. -/
inductive Entry where
  | dir
  | file (content : Blob)
  | link (target : String)
deriving Inhabited

/-- Files below one root directory, by path, and whether the root exists. -/
structure Volume where
  entries : List (List String × Entry) := []
  hasRoot : Bool := true
deriving Inhabited

/-- Why a path cannot be looked up. -/
inductive WalkError where
  | noEntry
  | notDirectory
  | tooManyLinks
  | nameTooLong
deriving BEq, Inhabited

/-- The most bytes of UTF-8 a name in a directory may take. -/
def maxNameBytes : Nat := 255

/-- A looked-up path: where its last part really is, and what is there. -/
structure Place where
  real : List String
  entry : Option Entry
deriving Inhabited

namespace Volume

/-- The text of a path, with the root written `<tmp>`. -/
def pathText (p : List String) : String := String.join ("<tmp>" :: p.map ("/" ++ ·))

/-- The parts of a path text relative to a directory: empty and `.` parts dropped. -/
def partsOf (s : String) : List String := (s.splitOn "/").filter fun p => p != "" && p != "."

/-- The entry at a real path (no link followed); the root is a directory, if it exists. -/
def entryAt (v : Volume) (p : List String) : Option Entry :=
  if p.isEmpty then (if v.hasRoot then some .dir else none) else (v.entries.find? (·.1 == p)).map (·.2)

/-- Looks up the parts `rest` from the real directory `acc`, following links on the way
and, when `followLast` is set, at the end; `fuel` bounds the links followed. -/
def walk (v : Volume) (followLast : Bool) (fuel : Nat) (acc rest : List String) :
    Except WalkError Place :=
  match rest with
  | [] => .ok ⟨acc, v.entryAt acc⟩
  | c :: rest =>
    if c == "" || c == "." then walk v followLast fuel acc rest
    else if c == ".." then walk v followLast fuel acc.dropLast rest
    else if acc.isEmpty && !v.hasRoot then .error .noEntry
    else if c.utf8ByteSize > maxNameBytes then .error .nameTooLong
    else
      let here := acc ++ [c]
      match v.entryAt here with
      | some (.link t) =>
        if rest.isEmpty && !followLast then .ok ⟨here, some (.link t)⟩
        else match fuel with
          | 0 => .error .tooManyLinks
          | fuel + 1 =>
            if t.startsWith "/" then .error .noEntry
            else walk v followLast fuel acc (partsOf t ++ rest)
      | some .dir => walk v followLast fuel here rest
      | some (.file b) => if rest.isEmpty then .ok ⟨here, some (.file b)⟩ else .error .notDirectory
      | none => if rest.isEmpty then .ok ⟨here, none⟩ else .error .noEntry
termination_by (fuel, rest.length)

/-- The number of links a lookup may follow. -/
def linkLimit : Nat := 40

/-- Looks up a path, following a link at its end. -/
def stat (v : Volume) (p : List String) : Except WalkError Place := v.walk true linkLimit [] p

/-- Looks up a path, not following a link at its end. -/
def lstat (v : Volume) (p : List String) : Except WalkError Place := v.walk false linkLimit [] p

/-- The entry a path leads to, links followed. -/
def target? (v : Volume) (p : List String) : Option Entry :=
  match v.stat p with
  | .ok pl => pl.entry
  | .error _ => none

/-- Whether a path leads to something, links followed. -/
def pathExists (v : Volume) (p : List String) : Bool := (v.target? p).isSome

/-- Whether a path leads to a directory, links followed. -/
def isDir (v : Volume) (p : List String) : Bool :=
  match v.target? p with
  | some .dir => true
  | _ => false

/-- The content of the file a path leads to, links followed. -/
def content? (v : Volume) (p : List String) : Option Blob :=
  match v.target? p with
  | some (.file b) => some b
  | _ => none

/-- Whether a path is itself a symbolic link. -/
def isLink (v : Volume) (p : List String) : Bool :=
  match v.lstat p with
  | .ok ⟨_, some (.link _)⟩ => true
  | _ => false

/-- The names in the directory a path leads to, in code point order. -/
def names (v : Volume) (p : List String) : List String :=
  match v.stat p with
  | .ok ⟨real, some .dir⟩ =>
    (v.entries.filterMap fun (q, _) =>
      if q.dropLast == real && q.length == real.length + 1 then q.getLast? else none).mergeSort
      fun a b => decide (a < b) || a == b
  | _ => []

/-- Sets the entry at a real path; setting the root makes it exist. -/
def setEntry (v : Volume) (real : List String) (e : Entry) : Volume :=
  if real.isEmpty then { v with hasRoot := true }
  else { v with entries := (v.entries.filter (·.1 != real)) ++ [(real, e)] }

/-- Removes the entry at a real path and everything below it. -/
def dropTree (v : Volume) (real : List String) : Volume :=
  { v with entries := v.entries.filter fun (q, _) => !(real.isPrefixOf q) }

/-- Everything below a directory, by path relative to it: directories, written with a
final `/`, without content, and files with their content. A link shows what it leads
to and is not descended. -/
def listing (v : Volume) (base : List String) : List (String × Option Blob) :=
  match v.stat base with
  | .ok ⟨real, some .dir⟩ =>
    v.entries.filterMap fun (q, e) =>
      if real.isPrefixOf q && real.length < q.length then
        let rel := "/".intercalate (q.drop real.length)
        match e with
        | .dir => some (rel ++ "/", none)
        | .file b => some (rel, some b)
        | .link _ => match v.target? q with
          | some .dir => some (rel ++ "/", none)
          | some (.file b) => some (rel, some b)
          | _ => none
      else none
  | _ => []

end Volume

end AddonCatalog
