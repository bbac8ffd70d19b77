import AddonCatalog.Addon.Basic
import AddonCatalog.Failure
/-!
# Scripted handlers

A scripted handler installs nothing: it keeps the set of uids it reports installed and
records the calls made to it. It can be told to fail: an install or uninstall can fail
with a handler error or crash with another error, and its installed check can crash.

* it supports an addon when the addon's type is one of its types (all types when it
  names none) and the content type is its own;
* an install records the call `(uid, version)` first, then crashes, fails, or adds
  the uid; an uninstall records the uid first, then crashes, fails, or removes it.
-/

namespace AddonCatalog

/-- A handler whose behaviour is set by its fields. -/
structure ScriptedHandler where
  name : String
  contentType : String := "application/x-fake"
  /-- The type values it supports; `none` is every type. -/
  types : Option (List String) := none
  installed : List String := []
  ready : Bool := true
  installError : Option String := none
  uninstallError : Option String := none
  installCrash : Option String := none
  uninstallCrash : Option String := none
  isInstalledCrash : Option String := none
  installCalls : List (String × String) := []
  uninstallCalls : List String := []
deriving Inhabited

namespace ScriptedHandler

/-- Whether it handles addons of a type and content type. -/
def supports (h : ScriptedHandler) (t : AddonType) (contentType : String) : Bool :=
  (match h.types with
    | none => true
    | some ts => ts.contains t.value) && contentType == h.contentType

/-- Whether it reports a uid installed. -/
def isInstalled (h : ScriptedHandler) (uid : String) : Except Failure Bool :=
  match h.isInstalledCrash with
  | some m => .error ⟨.runtime, m⟩
  | none => .ok (h.installed.contains uid)

/-- Adds a uid to the installed set. -/
def addInstalled (h : ScriptedHandler) (uid : String) : ScriptedHandler :=
  if h.installed.contains uid then h else { h with installed := h.installed ++ [uid] }

/-- Removes a uid from the installed set. -/
def removeInstalled (h : ScriptedHandler) (uid : String) : ScriptedHandler :=
  { h with installed := h.installed.filter (· != uid) }

/-- Installs an addon; the call is recorded whatever its outcome. -/
def install (h : ScriptedHandler) (a : Addon) : Except Failure Unit × ScriptedHandler :=
  let h := { h with installCalls := h.installCalls ++ [(a.uid, a.version)] }
  match h.installCrash, h.installError with
  | some m, _ => (.error ⟨.runtime, m⟩, h)
  | none, some m => (.error ⟨.handler, m⟩, h)
  | none, none => (.ok (), h.addInstalled a.uid)

/-- Uninstalls an addon; the call is recorded whatever its outcome. -/
def uninstall (h : ScriptedHandler) (a : Addon) : Except Failure Unit × ScriptedHandler :=
  let h := { h with uninstallCalls := h.uninstallCalls ++ [a.uid] }
  match h.uninstallCrash, h.uninstallError with
  | some m, _ => (.error ⟨.runtime, m⟩, h)
  | none, some m => (.error ⟨.handler, m⟩, h)
  | none, none => (.ok (), h.removeInstalled a.uid)

end ScriptedHandler

end AddonCatalog
