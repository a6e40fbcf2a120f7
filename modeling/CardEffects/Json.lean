import CardEffects.Keyword

/-!
# JSON values

The values of JSON, and what it means for a type to be written as one. Numbers come in two sorts:
those written as an integer, which are exact, and all others, which no type of this library reads.

* `JsonCodec`: a type whose values are written as JSON and read back.
* `JsonMembers.required`, `JsonMembers.optional`: the members of an object that a structure reads.
  Members that it does not read are ignored, and an optional one may be null or missing.
* `Json.variant`: an alternative of a type with several, an object whose only key names it.
-/

namespace CardEffects

/-- A JSON value. The members of an object are in the order in which they are written. -/
inductive Json
  | null
  | bool (value : Bool)
  /-- A number written as an integer. -/
  | int (value : Int)
  /-- A number written in any other way, as it is spelled. -/
  | real (spelling : String)
  | str (value : String)
  | arr (items : List Json)
  | obj (members : List (String × Json))
deriving Repr, BEq, Inhabited

/-- The members of a JSON object. -/
abbrev JsonMembers := List (String × Json)

/-- A type whose values are written as JSON and read back. -/
class JsonCodec (α : Type) where
  /-- The JSON value that a value is written as. -/
  toJson : α → Json
  /-- The value that a JSON value is written for. -/
  ofJson? : Json → Option α

open JsonCodec

namespace Json

/-- The members of an object. -/
def members? : Json → Option JsonMembers
  | obj members => some members
  | _ => none

/-- An alternative with the given name and content. -/
@[match_pattern]
def variant (name : String) (content : Json) : Json :=
  obj [(name, content)]

end Json

namespace JsonMembers

/-- The value of a member that has to be there. -/
def required {α : Type} [JsonCodec α] (members : JsonMembers) (key : String) : Option α :=
  (members.lookup key).bind ofJson?

/-- The value of a member that may be missing or null. -/
def optional {α : Type} [JsonCodec α] (members : JsonMembers) (key : String) :
    Option (Option α) :=
  match members.lookup key with
  | none | some .null => some none
  | some json => (ofJson? json).map some

end JsonMembers

/-! ## Booleans, texts, lists and options -/

instance : JsonCodec Bool where
  toJson := .bool
  ofJson?
    | .bool value => some value
    | _ => none

instance : JsonCodec String where
  toJson := .str
  ofJson?
    | .str value => some value
    | _ => none

instance {α : Type} [JsonCodec α] : JsonCodec (List α) where
  toJson items := .arr (items.map toJson)
  ofJson?
    | .arr items => items.mapM ofJson?
    | _ => none

/-- An option is written as its value, or as null. -/
instance {α : Type} [JsonCodec α] : JsonCodec (Option α) where
  toJson
    | some value => toJson value
    | none => .null
  ofJson?
    | .null => some none
    | json => (ofJson? json).map some

/-- A keyword is written as its word. -/
instance {α : Type} [Keyword α] : JsonCodec α where
  toJson keyword := .str (Keyword.word keyword)
  ofJson?
    | .str word => Keyword.ofWord? word
    | _ => none

end CardEffects
