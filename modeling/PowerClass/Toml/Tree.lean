import PowerClass.Toml

/-!
# PowerClass.Toml.Tree

The tables of a document while it is read. TOML lets a table be defined once only: by a header, by
dotted keys, or as a value. A table that so far only stands on the way to another can still get a
header of its own.
-/

namespace PowerClass
namespace Toml

/-- How a table came about: on the way to the table of a header, on the way of a dotted key, or by
a header of its own. -/
inductive Origin where
  | passing
  | dotted
  | header
  deriving DecidableEq

/-- What a key holds: a finished value, a table, or the tables under headers in double brackets,
the newest first. -/
inductive Node where
  | value (value : Toml)
  | table (origin : Origin) (fields : List (String × Node))
  | tables (items : List (List (String × Node)))

abbrev Fields := List (String × Node)

namespace Fields

def replace (fields : Fields) (key : String) (node : Node) : Fields :=
  fields.map fun field => if field.1 = key then (key, node) else field

/-- Changes the table at the end of a path, where `change` gets the origin and the fields of that
table. Tables on the way that are missing are made. A path of dotted keys may not pass through a
table that has a header. -/
def within (keys : Bool) (change : Origin → Fields → Option Fields) :
    List String → Origin → Fields → Option Fields
  | [], origin, fields => change origin fields
  | key :: path, _, fields =>
    match fields.lookup key with
    | none =>
      let origin := if keys then Origin.dotted else .passing
      (within keys change path origin []).map fun sub => fields ++ [(key, .table origin sub)]
    | some (.table origin sub) =>
      if keys ∧ origin = .header then none
      else (within keys change path origin sub).map fun sub =>
        fields.replace key (.table origin sub)
    | some (.tables (newest :: older)) =>
      (within keys change path .header newest).map fun sub =>
        fields.replace key (.tables (sub :: older))
    | some (.tables []) | some (.value _) => none

/-- Adds a key and its value, where the key's path gives the tables that it is in. -/
def insert (fields : Fields) (path : List String) (key : String) (value : Toml) :
    Option Fields :=
  within true
    (fun origin fields =>
      if (origin = .dotted) ↔ path = [] then none
      else
        match fields.lookup key with
        | some _ => none
        | none => some (fields ++ [(key, .value value)]))
    path .header fields

def openTable (fields : Fields) (path : List String) (key : String) : Option Fields :=
  within false
    (fun _ fields =>
      match fields.lookup key with
      | none => some (fields ++ [(key, .table .header [])])
      | some (.table .passing sub) => some (fields.replace key (.table .header sub))
      | some _ => none)
    path .header fields

def openItem (fields : Fields) (path : List String) (key : String) : Option Fields :=
  within false
    (fun _ fields =>
      match fields.lookup key with
      | none => some (fields ++ [(key, .tables [[]])])
      | some (.tables items) => some (fields.replace key (.tables ([] :: items)))
      | some _ => none)
    path .header fields

/-- Adds a key and its value to the table of the last header. -/
def insertIn (fields : Fields) (section_ path : List String) (key : String) (value : Toml) :
    Option Fields :=
  within false (fun _ fields => insert fields path key value) section_ .header fields

end Fields

mutual

def Node.finish : Node → Toml
  | .value value => value
  | .table _ fields => .table (finishFields fields)
  | .tables items => .array (finishItems items).reverse

def finishFields : List (String × Node) → List (String × Toml)
  | [] => []
  | (key, node) :: rest => (key, node.finish) :: finishFields rest

def finishItems : List (List (String × Node)) → List Toml
  | [] => []
  | fields :: rest => .table (finishFields fields) :: finishItems rest

end

end Toml
end PowerClass
