import Regenesis.Json.Value

/-!
# Json.Descriptor — JSON schemas of fixed shapes

The data of the genesis block have fixed shapes: objects with named properties that are texts,
integers, booleans, open objects, lists, or objects of another shape. A descriptor names a shape and
the shapes that it refers to, and is written as a JSON schema: the attributes of a schema in the
order of their names, the properties in the order of the shape.
-/

namespace Regenesis.Json

/-- What a property holds. -/
inductive Kind where
  | text
  | integer
  | boolean
  /-- An object with any members. -/
  | openObject
  | list (items : Kind)
  /-- An object of a named shape. -/
  | shape (name : String)
deriving DecidableEq, Repr

/-- A property of a shape. -/
structure Property where
  name : String
  kind : Kind
  /-- Whether the property must be there. -/
  required : Bool := true
  /-- The text that stands for a missing property. -/
  default : Option String := none
deriving DecidableEq, Repr

/-- The shape of an object. -/
structure Shape where
  name : String
  properties : List Property
deriving DecidableEq, Repr

/-- A shape with the shapes that it refers to, in the order of their names. -/
structure Descriptor where
  root : Shape
  definitions : List Shape
deriving DecidableEq, Repr

/-- The title of a property: its name, the first letter capital and the others small. -/
def title (name : String) : String :=
  match name.toList with
  | [] => ""
  | c :: rest => String.ofList (c.toUpper :: rest.map Char.toLower)

/-- The schema of a kind, with a title if one is given. A reference to a shape has no title. -/
def Kind.schema (k : Kind) (title : Option String) : List (String × Json) :=
  let titled : List (String × Json) := (title.map fun t => ("title", .str t)).toList
  match k with
  | .text => titled ++ [("type", .str "string")]
  | .integer => titled ++ [("type", .str "integer")]
  | .boolean => titled ++ [("type", .str "boolean")]
  | .openObject => ("additionalProperties", .bool true) :: titled ++ [("type", .str "object")]
  | .list items => ("items", .obj (items.schema none)) :: titled ++ [("type", .str "array")]
  | .shape name => [("$ref", .str ("#/$defs/" ++ name))]

/-- The schema of a property. -/
def Property.schema (p : Property) : Json :=
  .obj ((p.default.map fun d => ("default", Json.str d)).toList ++ p.kind.schema (title p.name))

/-- The attributes of a shape's schema. -/
def Shape.schema (s : Shape) : List (String × Json) := [
  ("properties", .obj (s.properties.map fun p => (p.name, p.schema))),
  ("required", .arr ((s.properties.filter Property.required).map fun p => .str p.name)),
  ("title", .str s.name),
  ("type", .str "object")]

/-- The JSON schema of a descriptor. -/
def Descriptor.schema (d : Descriptor) : Json :=
  let definitions : List (String × Json) :=
    if d.definitions.isEmpty then []
    else [("$defs", .obj (d.definitions.map fun s => (s.name, .obj s.schema)))]
  .obj (definitions ++ d.root.schema)

end Regenesis.Json
