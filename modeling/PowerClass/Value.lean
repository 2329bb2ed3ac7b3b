import PowerClass.Table
import PowerClass.Text.Quoted

/-!
# PowerClass.Value

The kinds of property and the typed values that a device gives and takes. A value has a variant of
its own; `Kind.variant` says which one a kind takes.
-/

namespace PowerClass

/-- How the value of a property is represented and shown. A `deviceType` property shows the type
of the supply, through the table of types, and its value never comes from the driver. -/
inductive Kind where
  | int32
  | int64
  | enum (table : Table)
  | text
  | deviceType
  deriving DecidableEq

/-- The variants of a value. -/
inductive Variant where
  | int
  | int64
  | ordinal
  | text
  deriving DecidableEq

/-- A value of a property. An ordinal may lie outside its table. -/
inductive Value where
  | int (n : Int32)
  | int64 (n : Int64)
  | ordinal (n : Int32)
  | text (s : String)
  deriving DecidableEq

namespace Variant

def label : Variant → String
  | .int => "int"
  | .int64 => "int64"
  | .ordinal => "ordinal"
  | .text => "text"

end Variant

namespace Kind

def table? : Kind → Option Table
  | .enum table => some table
  | .deviceType => some .type
  | .int32 | .int64 | .text => none

def variant : Kind → Variant
  | .int32 => .int
  | .int64 => .int64
  | .enum _ | .deviceType => .ordinal
  | .text => .text

def label : Kind → String
  | .int32 => "int"
  | .int64 => "int64"
  | .enum _ => "enum"
  | .text => "text"
  | .deviceType => "type"

def display : Kind → String
  | .enum table => "enum(" ++ table.label ++ ")"
  | kind => kind.label

/-- A kind as JSON: an object with its tag and, when enumerated, its table. -/
def toJson : Kind → Json
  | .int32 => .obj [("kind", .str "int32")]
  | .int64 => .obj [("kind", .str "int64")]
  | .enum table => .obj [("kind", .str "enum"), ("table", table.toJson)]
  | .text => .obj [("kind", .str "text")]
  | .deviceType => .obj [("kind", .str "device_type")]

/-- The kinds without a table, by their tags. -/
def plainTags : List (String × Kind) :=
  [("int32", .int32), ("int64", .int64), ("text", .text), ("device_type", .deviceType)]

/-- A kind out of its tag and what stands beside it: a table for an enumerated kind, nothing or
null for any other. -/
def ofTag? (tag : Json) (content : Option Json) : Option Kind :=
  match tag.variant? [("enum", ())] with
  | some () => (content.bind Table.ofJson?).map .enum
  | none =>
    match content with
    | none | some .null => tag.variant? plainTags
    | some _ => none

/-- The kind that JSON describes: an object whose other fields count for nothing, or an array of
tag and content. -/
def ofJson? : Json → Option Kind
  | .obj fields => (fields.lookup "kind").bind fun tag => ofTag? tag (fields.lookup "table")
  | .arr [tag, content] => ofTag? tag (some content)
  | _ => none

end Kind

namespace Value

def variant : Value → Variant
  | .int _ => .int
  | .int64 _ => .int64
  | .ordinal _ => .ordinal
  | .text _ => .text

/-- The number that a value holds, none for a text. -/
def asInt? : Value → Option Int
  | .int n | .ordinal n => some n.toInt
  | .int64 n => some n.toInt
  | .text _ => none

def toJson : Value → Json
  | .int n | .ordinal n => .int n.toInt
  | .int64 n => .int n.toInt
  | .text s => .str s

def display : Value → String
  | .int n => "Int(" ++ Decimal.ofInt n.toInt ++ ")"
  | .int64 n => "Int64(" ++ Decimal.ofInt n.toInt ++ ")"
  | .ordinal n => "Ordinal(" ++ Decimal.ofInt n.toInt ++ ")"
  | .text s => "Text(" ++ Text.quote s ++ ")"

end Value
end PowerClass
