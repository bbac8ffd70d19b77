import AddonCatalog.Addon.Schema
import AddonCatalog.Json.Writer
/-!
# Stored records

An installed addon is stored as a record: the compact JSON text of its object view,
fields in declaration order, no spaces, characters beyond ASCII kept.

* `Addon.toRecord` writes a record, `Addon.ofRecord` reads one back.
-/

namespace AddonCatalog.Addon

/-- The record text of an addon. -/
def toRecord (a : Addon) : String := Json.render JsonStyle.record a.toJson

/-- Reads an addon from a record text. -/
def ofRecord (s : String) : Except (List FieldError) Addon := ofText s

end AddonCatalog.Addon
