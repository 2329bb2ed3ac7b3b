import PowerClass.Decimal

/-!
# PowerClass.Json

JSON values, their compact and their indented text, and the reading of a value that names one of
several variants. The fields of an object keep their order.

* `ofFields_of_nodup`: an object keeps all of its fields when their names differ.
-/

namespace PowerClass

/-- A JSON value. A number is `mantissa` divided by ten to the power `places`, so a whole number
has no places. -/
inductive Json where
  | null
  | bool (value : Bool)
  | number (mantissa : Int) (places : Nat)
  | str (text : String)
  | arr (items : List Json)
  | obj (fields : List (String × Json))

namespace Json

instance : Inhabited Json := ⟨.null⟩

def int (n : Int) : Json := .number n 0

def escapeChar (c : Char) : List Char :=
  match c with
  | '"' => ['\\', '"']
  | '\\' => ['\\', '\\']
  | '\x08' => ['\\', 'b']
  | '\x0C' => ['\\', 'f']
  | '\n' => ['\\', 'n']
  | '\r' => ['\\', 'r']
  | '\t' => ['\\', 't']
  | c =>
    if c.toNat < 0x20 then
      ['\\', 'u', '0', '0', Nat.digitChar (c.toNat / 16), Nat.digitChar (c.toNat % 16)]
    else [c]

def quote (s : String) : String :=
  String.ofList ('"' :: (s.toList.flatMap escapeChar ++ ['"']))

/-- The text of a number, with its places after the point. -/
def numberText (mantissa : Int) (places : Nat) : String :=
  if places = 0 then Decimal.ofInt mantissa
  else
    let digits := Nat.toDigits 10 mantissa.natAbs
    let padded := List.replicate (places + 1 - digits.length) '0' ++ digits
    let whole := padded.take (padded.length - places)
    let sign := if mantissa < 0 then ['-'] else []
    String.ofList (sign ++ whole ++ '.' :: padded.drop (padded.length - places))

mutual

/-- Text without any white space between tokens. -/
def compact : Json → String
  | .null => "null"
  | .bool value => if value then "true" else "false"
  | .number mantissa places => numberText mantissa places
  | .str text => quote text
  | .arr items => "[" ++ String.intercalate "," (compactItems items) ++ "]"
  | .obj fields => "\x7b" ++ String.intercalate "," (compactFields fields) ++ "\x7d"

def compactItems : List Json → List String
  | [] => []
  | item :: rest => compact item :: compactItems rest

def compactFields : List (String × Json) → List String
  | [] => []
  | (name, value) :: rest => (quote name ++ ":" ++ compact value) :: compactFields rest

end

/-- A new line with the given depth of indentation, two spaces for each level. -/
def newline (depth : Nat) : String :=
  String.ofList ('\n' :: List.replicate (2 * depth) ' ')

/-- Items between brackets, each on a line of its own. Without items the brackets stand together. -/
def block (depth : Nat) (first last : String) : List String → String
  | [] => first ++ last
  | items =>
    first ++ newline (depth + 1) ++ String.intercalate ("," ++ newline (depth + 1)) items ++
      newline depth ++ last

mutual

/-- Text with each item and field on a line of its own. -/
def pretty (depth : Nat) : Json → String
  | .null => "null"
  | .bool value => if value then "true" else "false"
  | .number mantissa places => numberText mantissa places
  | .str text => quote text
  | .arr items => block depth "[" "]" (prettyItems (depth + 1) items)
  | .obj fields => block depth "\x7b" "\x7d" (prettyFields (depth + 1) fields)

def prettyItems (depth : Nat) : List Json → List String
  | [] => []
  | item :: rest => pretty depth item :: prettyItems depth rest

def prettyFields (depth : Nat) : List (String × Json) → List String
  | [] => []
  | (name, value) :: rest =>
    (quote name ++ ": " ++ pretty depth value) :: prettyFields depth rest

end

/-- An object out of fields that may repeat a name: the last value of a name stands where the
name first stood. -/
def ofFields (fields : List (String × Json)) : Json :=
  .obj (fields.foldl put [])
where
  /-- A field among fields of other names. -/
  put : List (String × Json) → String × Json → List (String × Json)
    | [], field => [field]
    | (name, old) :: rest, field =>
      if name = field.1 then field :: rest else (name, old) :: put rest field

theorem put_of_not_mem {fields : List (String × Json)} {field : String × Json}
    (h : field.1 ∉ fields.map Prod.fst) : ofFields.put fields field = fields ++ [field] := by
  induction fields with
  | nil => rfl
  | cons first rest ih =>
    rw [List.map_cons, List.mem_cons, not_or] at h
    rw [ofFields.put, if_neg (Ne.symm h.1), ih h.2, List.cons_append]

theorem foldl_put_of_nodup {fields others : List (String × Json)}
    (h : ((fields ++ others).map Prod.fst).Nodup) :
    others.foldl ofFields.put fields = fields ++ others := by
  induction others generalizing fields with
  | nil => simp
  | cons field others ih =>
    have hn : field.1 ∉ fields.map Prod.fst := by
      rw [List.map_append, List.map_cons] at h
      exact fun hm => (List.nodup_append.mp h).2.2 _ hm _ List.mem_cons_self rfl
    rw [List.foldl_cons, put_of_not_mem hn, ih (by rwa [List.append_assoc]), List.append_assoc]
    rfl

/-- No field is lost when no name repeats. -/
theorem ofFields_of_nodup {fields : List (String × Json)} (h : (fields.map Prod.fst).Nodup) :
    ofFields fields = .obj fields := by
  rw [ofFields, foldl_put_of_nodup (by simpa using h), List.nil_append]

/-- A variant without content: its name, or an object whose only field has that name and holds
null. -/
def variant? {α : Type} (names : List (String × α)) : Json → Option α
  | .str name => names.lookup name
  | .obj [(name, .null)] => names.lookup name
  | _ => none

def text? : Json → Option String
  | .str text => some text
  | _ => none

end Json
end PowerClass
