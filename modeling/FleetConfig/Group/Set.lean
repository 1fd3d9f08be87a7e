import FleetConfig.Digest
import FleetConfig.Group.Basic
import FleetConfig.Value.Json

/-!
# Group sets

A group set is a snapshot of all groups.  Its version names it; without a
version of its own it is named by a digest of the groups, so that equal
definitions share a version.
-/

namespace FleetConfig

/-- All groups at one time. -/
structure GroupSet where
  groups : List Group
  version : String

namespace GroupSet

/-- The digest of groups. -/
def digest (groups : List Group) : String :=
  Digest.ofText (Value.list (groups.map Group.toPlain)).canonicalJson

/-- Groups under a version; an empty version stands for the digest. -/
def ofGroups
    (groups : List Group)
    (version : String) :
    GroupSet :=
  ⟨groups, if version.isEmpty then digest groups else version⟩

/-- How many identifiers the rules of a group set are given. -/
def idsTaken : Value → Nat
  | .map entries =>
      match Entries.find? entries (.text "groups") with
      | some (.list groups) =>
          groups.foldr (Group.idsTaken · + ·) 0
      | _ =>
          0
  | _ =>
      0

/-- Read a group set, handing out identifiers to its rules. -/
def read
    (supply : IdSupply)
    (document : Value) :
    Checked GroupSet :=
  (Schema.record document).andThen fun entries =>
    ofGroups
      <$> Schema.withDefault entries "groups" [] (Group.readList supply)
      <*> Schema.withDefault entries "version" "" Schema.text

/-- The first group with an identifier. -/
def find?
    (groupSet : GroupSet)
    (id : String) :
    Option Group :=
  groupSet.groups.find? (·.id == id)

/-- The identifiers of the groups, in order. -/
def ids (groupSet : GroupSet) : List String :=
  groupSet.groups.map (·.id)

end GroupSet

end FleetConfig
