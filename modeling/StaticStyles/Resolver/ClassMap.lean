import StaticStyles.Json.Decode
import StaticStyles.Json.Writer
import StaticStyles.Rule.Record
import StaticStyles.Text.Blank

/-!
Class maps: from the key of a combination to its class, for one component, and manifests of the maps of
many components. Both are kept as JSON with sorted keys.
-/
namespace StaticStyles

/-- The class of each combination, by key. -/
abbrev ClassMap := SortedMap String

/-- The class maps of components. -/
abbrev ClassMaps := SortedMap ClassMap

/-- Why a persisted map cannot be used. -/
inductive MapError where
  | unreadable
  | blankClass (key : String)
deriving DecidableEq, Repr

namespace MapError

/-- The wording of an error that lies in the map and not in its syntax. -/
def message? : MapError → Option String
  | .unreadable => none
  | .blankClass key =>
    some ("Resolver map unavailable: empty class name for key " ++ Text.quoted key)

end MapError

namespace ClassMap

/-- A map with the classes of records; the last of a repeated key stays. -/
def addRecords (map : ClassMap) (records : List Record) : ClassMap :=
  map.insertAll (records.map fun record => (record.key, record.className))

def ofRecords (records : List Record) : ClassMap := addRecords ∅ records

def toJson (map : ClassMap) : String := String.ofList (Json.indentMap 0 map)

/-- The map if none of its classes is blank. -/
def checked (map : ClassMap) : Except MapError ClassMap :=
  match map.entries.find? fun entry => Text.isBlankText entry.2.toList with
  | some entry => .error (.blankClass entry.1)
  | none => .ok map

def ofJson (text : String) : Except MapError ClassMap :=
  match (Json.Raw.ofText? text).bind Json.Raw.textMap? with
  | some map => checked map
  | none => .error .unreadable

/-- The entries of a JSON value that is an object of texts. -/
def valueEntries? (value : Json.Value) : Option (List (String × String)) :=
  value.members?.bind fun members => members.mapM fun (key, value) => value.text?.map (key, ·)

def ofValue (value : Json.Value) : Except MapError ClassMap :=
  match valueEntries? value with
  | some entries => checked (.ofList entries)
  | none => .error .unreadable

end ClassMap

namespace ClassMaps

/-- The manifest of components: their maps as JSON. -/
def toJson (maps : ClassMaps) : String := String.ofList (Json.indentMaps 0 maps)

/-- The maps of a manifest. The first error in the order of the components counts. -/
def ofJson (text : String) : Except MapError ClassMaps :=
  match (Json.Value.ofText? text).bind (·.members?) with
  | some members => do
    let maps ← members.mapM fun (component, value) => (ClassMap.ofValue value).map (component, ·)
    return .ofList maps
  | none => .error .unreadable

end ClassMaps
end StaticStyles
