import AddonCatalog.Files.Volume
import AddonCatalog.Text.Quoted
/-!
# Operations on a volume

The file operations the program uses, with the errors the system reports for them. An
error names the path as it was given, and the system's error number:

* `checkExists` tells whether a path leads to something; only a name too long fails.
* `mkdirs` makes a directory and its missing parents; a directory already there is
  fine. `makeDirs` does the same and keeps the parents made before a failure. A path on the way that is not a directory fails with `Not a directory`, the
  path itself being something else with `File exists`.
* `writeFile` replaces the content of a file (following a link at its end); a
  directory there fails with `Is a directory`.
* `replace` moves a file over another path; a directory there fails, and so does a
  path whose last part is `.` or `..`, with `Device or resource busy`.
* `unlink` removes a file or link; a directory fails with `Is a directory`.
* `removeTree` removes a directory and everything below it; it refuses a symbolic
  link, and `removeTreeQuietly` ignores every error. Its errors name the path as the
  path object it was given, `PosixPath('…')`.
-/

namespace AddonCatalog

/-- An operating system error. -/
inductive OsError where
  | noEntry
  | notDirectory
  | exists
  | isDirectory
  | tooManyLinks
  | busy
  | nameTooLong
deriving BEq, Inhabited

namespace OsError

/-- The error number and text of an error. -/
def describe : OsError → String
  | noEntry => "[Errno 2] No such file or directory"
  | notDirectory => "[Errno 20] Not a directory"
  | «exists» => "[Errno 17] File exists"
  | isDirectory => "[Errno 21] Is a directory"
  | tooManyLinks => "[Errno 40] Too many levels of symbolic links"
  | busy => "[Errno 16] Device or resource busy"
  | nameTooLong => "[Errno 36] File name too long"

/-- The kind an error is reported as. -/
def kind : OsError → ErrorKind
  | noEntry => .fileNotFound
  | notDirectory => .notDirectory
  | «exists» => .fileExists
  | isDirectory => .isDirectory
  | tooManyLinks => .os
  | busy => .os
  | nameTooLong => .os

/-- The error about a path. -/
def about (e : OsError) (p : List String) : Failure :=
  ⟨e.kind, e.describe ++ ": " ++ Text.quote (Volume.pathText p)⟩

/-- The error about a path given as a path object. -/
def aboutObject (e : OsError) (p : List String) : Failure :=
  ⟨e.kind, e.describe ++ ": PosixPath(" ++ Text.quote (Volume.pathText p) ++ ")"⟩

/-- The error about a move from one path to another. -/
def aboutMove (e : OsError) (src dst : List String) : Failure :=
  ⟨e.kind, e.describe ++ ": " ++ Text.quote (Volume.pathText src) ++ " -> " ++
    Text.quote (Volume.pathText dst)⟩

/-- The error of a failed lookup. -/
def ofWalk : WalkError → OsError
  | .noEntry => noEntry
  | .notDirectory => notDirectory
  | .tooManyLinks => tooManyLinks
  | .nameTooLong => nameTooLong

end OsError

namespace Volume

/-- Whether a path leads to something, links followed. A missing part, a part that is
not a directory and a loop of links all answer `false`; a name too long fails. -/
def checkExists (v : Volume) (p : List String) : Except Failure Bool :=
  match v.stat p with
  | .ok pl => .ok pl.entry.isSome
  | .error .nameTooLong => .error (OsError.nameTooLong.about p)
  | .error _ => .ok false

/-- Makes one directory; a directory already there is fine. -/
def mkdir (v : Volume) (p : List String) : Except OsError Volume :=
  match v.lstat p with
  | .ok ⟨real, none⟩ => .ok (v.setEntry real .dir)
  | .ok ⟨_, some _⟩ => if v.isDir p then .ok v else .error .exists
  | .error e => .error (OsError.ofWalk e)

/-- Makes a directory and its missing parents, trying the path itself first and its
parent when a part on the way is missing; `fuel` bounds the parents tried. Answers the
volume with the directories made, and the failure that stopped it, if any: parents
made before a failure stay. -/
def mkdirsFrom (v : Volume) : Nat → List String → Volume × Option Failure
  | fuel, p =>
    match v.mkdir p with
    | .ok v => (v, none)
    | .error .noEntry =>
      match fuel with
      | 0 => (v, some (OsError.noEntry.about p))
      | fuel + 1 =>
        match v.mkdirsFrom fuel p.dropLast with
        | (v, some f) => (v, some f)
        | (v, none) =>
          match v.mkdir p with
          | .ok v => (v, none)
          | .error e => (v, some (e.about p))
    | .error e => (v, some (e.about p))

/-- Makes a directory and its missing parents, keeping what was made before a failure. -/
def makeDirs (v : Volume) (p : List String) : Volume × Option Failure := v.mkdirsFrom p.length p

/-- Makes a directory and its missing parents. -/
def mkdirs (v : Volume) (p : List String) : Except Failure Volume :=
  match v.makeDirs p with
  | (v, none) => .ok v
  | (_, some f) => .error f

/-- Writes a file, replacing its content. -/
def writeFile (v : Volume) (p : List String) (b : Blob) : Except Failure Volume :=
  match v.stat p with
  | .ok ⟨_, some .dir⟩ => .error (OsError.isDirectory.about p)
  | .ok ⟨real, _⟩ => .ok (v.setEntry real (.file b))
  | .error e => .error ((OsError.ofWalk e).about p)

/-- Whether the last part of a path is `.` or `..`, which no move may name. -/
def endsInDots (p : List String) : Bool := p.getLast? == some "." || p.getLast? == some ".."

/-- Moves the file at `src` to `dst`, replacing a file or link there. -/
def replace (v : Volume) (src dst : List String) : Except Failure Volume :=
  if endsInDots src || endsInDots dst then .error (OsError.busy.aboutMove src dst) else
  match v.lstat src, v.lstat dst with
  | .ok ⟨s, some e⟩, .ok ⟨d, there⟩ =>
    match there with
    | some .dir => .error (OsError.isDirectory.aboutMove src dst)
    | _ => .ok (((v.dropTree s).setEntry d e))
  | .ok ⟨_, none⟩, _ => .error (OsError.noEntry.aboutMove src dst)
  | .error e, _ => .error ((OsError.ofWalk e).aboutMove src dst)
  | _, .error e => .error ((OsError.ofWalk e).aboutMove src dst)

/-- Removes a file or link. -/
def unlink (v : Volume) (p : List String) : Except Failure Volume :=
  match v.lstat p with
  | .ok ⟨_, some .dir⟩ => .error (OsError.isDirectory.about p)
  | .ok ⟨real, some _⟩ => .ok (v.dropTree real)
  | .ok ⟨_, none⟩ => .error (OsError.noEntry.about p)
  | .error e => .error ((OsError.ofWalk e).about p)

/-- The error of removing a tree at a symbolic link. -/
def linkTreeFailure : Failure := ⟨.os, "Cannot call rmtree on a symbolic link"⟩

/-- Removes a directory and everything below it. -/
def removeTree (v : Volume) (p : List String) : Except Failure Volume :=
  match v.lstat p with
  | .ok ⟨real, some .dir⟩ => .ok (v.dropTree real)
  | .ok ⟨_, some (.link _)⟩ => .error linkTreeFailure
  | .ok ⟨_, some (.file _)⟩ => .error (OsError.notDirectory.aboutObject p)
  | .ok ⟨_, none⟩ => .error (OsError.noEntry.aboutObject p)
  | .error e => .error ((OsError.ofWalk e).aboutObject p)

/-- Removes a directory and everything below it, ignoring every error. -/
def removeTreeQuietly (v : Volume) (p : List String) : Volume :=
  match v.removeTree p with
  | .ok v => v
  | .error _ => v

end Volume

end AddonCatalog
