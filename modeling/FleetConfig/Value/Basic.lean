import FleetConfig.Number.Numeral

/-!
# Fact and payload values

Facts, rule values and payloads are trees of maps and lists over scalars.  A map
keeps its entries in the order in which they were first written; its keys are
scalars, because documents may use other keys than text.  Two keys are the same
key when they are equal as numbers or as texts.
-/

namespace FleetConfig

/-- A value without parts. -/
inductive Scalar where
  | null
  | boolean (value : Bool)
  | integer (value : Int)
  | double (value : Binary64)
  | text (value : String)
  deriving Repr, DecidableEq

/-- A tree of maps and lists over scalars. -/
inductive Value where
  | scalar (value : Scalar)
  | list (items : List Value)
  | map (entries : List (Scalar × Value))
  deriving Repr

/-- The entries of a map, in order. -/
abbrev Entries :=
  List (Scalar × Value)

/-- The entries of a map whose keys are all texts, in order. -/
abbrev Fields :=
  List (String × Value)

namespace Scalar

/-- The number that a key stands for when keys are compared; truth values count as 1 and 0. -/
def keyNumber? : Scalar → Option Number
  | .boolean value =>
      some (.integer (if value then 1 else 0))
  | .integer value =>
      some (.integer value)
  | .double value =>
      some (.double value)
  | _ =>
      none

/-- Whether two scalars are the same key. -/
def sameKey (left right : Scalar) : Bool :=
  match left.keyNumber?, right.keyNumber? with
  | some leftNumber, some rightNumber =>
      leftNumber.equal rightNumber
  | none, none =>
      left == right
  | _, _ =>
      false

end Scalar

namespace Value

/-- The value `null`. -/
@[match_pattern] def null : Value :=
  .scalar .null

/-- A truth value. -/
@[match_pattern] def boolean (value : Bool) : Value :=
  .scalar (.boolean value)

/-- A whole number. -/
@[match_pattern] def integer (value : Int) : Value :=
  .scalar (.integer value)

/-- A double. -/
@[match_pattern] def double (value : Binary64) : Value :=
  .scalar (.double value)

/-- A text. -/
@[match_pattern] def text (value : String) : Value :=
  .scalar (.text value)

/-- A text, or `null` for none. -/
def optionalText : Option String → Value
  | some value =>
      .text value
  | none =>
      .null

/-- A list of texts. -/
def texts (items : List String) : Value :=
  .list (items.map .text)

/-- A map with text keys. -/
def ofFields (fields : Fields) : Value :=
  .map (fields.map fun (key, value) => (.text key, value))

/-- Whether a value is neither a list nor a map. -/
def isScalar : Value → Bool
  | .scalar _ =>
      true
  | _ =>
      false

end Value

namespace Entries

/-- The value under a key. -/
def find?
    (entries : Entries)
    (key : Scalar) :
    Option Value :=
  (List.find? (fun entry => entry.1.sameKey key) entries).map Prod.snd

/-- Set the value under a key: in place if the key is there, at the end if not. -/
def put
    (entries : Entries)
    (key : Scalar)
    (value : Value) :
    Entries :=
  match entries with
  | [] =>
      [(key, value)]
  | (oldKey, oldValue) :: rest =>
      if oldKey.sameKey key then
        (oldKey, value) :: rest
      else
        (oldKey, oldValue) :: put rest key value

/-- The entries written one after the other, later ones replacing earlier ones. -/
def ofList (written : Entries) : Entries :=
  written.foldl (fun entries (key, value) => put entries key value) []

end Entries

namespace Fields

/-- The value under a key. -/
def find?
    (fields : Fields)
    (key : String) :
    Option Value :=
  List.lookup key fields

/-- Set the value under a key: in place if the key is there, at the end if not. -/
def put
    (fields : Fields)
    (key : String)
    (value : Value) :
    Fields :=
  match fields with
  | [] =>
      [(key, value)]
  | (oldKey, oldValue) :: rest =>
      if oldKey = key then
        (oldKey, value) :: rest
      else
        (oldKey, oldValue) :: put rest key value

/-- Lay fields over others, which they replace where both have a key. -/
def overlay (base above : Fields) : Fields :=
  above.foldl (fun fields (key, value) => put fields key value) base

end Fields

end FleetConfig
