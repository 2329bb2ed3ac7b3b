import PowerClass.Toml.Quoted
import PowerClass.Toml.Tree

/-!
# PowerClass.Toml.Reader

Reading TOML documents, version 1.1: newlines, comments and a last comma may stand inside an inline
table, seconds may be left out of a time, and basic strings know `\e` and `\x`. A text that breaks a
rule has no value. Fuel is at least the number of characters, and at least twice that number and two
more where a value is read, since each bracket takes two units of it.
-/

namespace PowerClass
namespace Toml
namespace Reader

/-- What follows blanks and tabs. -/
def skipBlanks (cs : List Char) : List Char :=
  cs.dropWhile fun c => c == ' ' || c == '\t'

/-- What follows a comment, when there is one. -/
def skipComment : List Char → List Char
  | '#' :: cs => cs.dropWhile Quoted.isPlain
  | cs => cs

/-- What follows blanks, newlines and comments. -/
def skipGaps (fuel : Nat) (cs : List Char) : List Char :=
  match fuel with
  | 0 => cs
  | fuel + 1 =>
    let cs := skipComment (skipBlanks cs)
    match Quoted.newline? cs with
    | some (_, cs) => skipGaps fuel cs
    | none => cs

/-- Whether a key may hold the character without quotes. -/
def isBareChar (c : Char) : Bool :=
  c.isAlphanum || c == '_' || c == '-'

/-- One part of a key, and what follows. -/
def keyPart? (fuel : Nat) (cs : List Char) : Option (String × List Char) :=
  match cs.takeWhile isBareChar with
  | [] => Quoted.readLine? fuel cs
  | bare => some (String.ofList bare, cs.dropWhile isBareChar)

/-- The parts of a key with points between them, the last one apart, and what follows. -/
def key? (fuel : Nat) (cs : List Char) : Option (List String × String × List Char) := do
  let (part, cs) ← keyPart? fuel (skipBlanks cs)
  let cs := skipBlanks cs
  match fuel, cs with
  | fuel + 1, '.' :: cs => do
    let (path, last, cs) ← key? fuel cs
    some (part :: path, last, cs)
  | _, cs => some ([], part, cs)

def nestingLimit : Nat := 80

mutual

/-- The value at the start of the characters, where brackets may be nested so many levels more, and
what follows. -/
def value? (fuel levels : Nat) (cs : List Char) : Option (Toml × List Char) :=
  match fuel with
  | 0 => none
  | fuel + 1 =>
    match cs with
    | '[' :: cs => do
      guard (levels ≠ 0)
      let (items, cs) ← items? fuel (levels - 1) (skipGaps fuel cs)
      some (.array items, cs)
    | '\x7b' :: cs => do
      guard (levels ≠ 0)
      let (fields, cs) ← fields? fuel (levels - 1) [] (skipGaps fuel cs)
      some (.table (finishFields fields), cs)
    | '"' :: _ | '\'' :: _ => do
      let (text, cs) ← Quoted.read? fuel cs
      some (.string text, cs)
    | cs => Scalar.read? cs

/-- The items of an array up to its closing bracket, and what follows. -/
def items? (fuel levels : Nat) (cs : List Char) : Option (List Toml × List Char) :=
  match fuel, cs with
  | 0, _ => none
  | _, ']' :: cs => some ([], cs)
  | fuel + 1, cs => do
    let (item, cs) ← value? fuel levels cs
    match skipGaps fuel cs with
    | ',' :: cs => do
      let (items, cs) ← items? fuel levels (skipGaps fuel cs)
      some (item :: items, cs)
    | ']' :: cs => some ([item], cs)
    | _ => none

/-- The fields of an inline table up to its closing brace, added to those before, and what
follows. -/
def fields? (fuel levels : Nat) (before : Fields) (cs : List Char) :
    Option (Fields × List Char) :=
  match fuel, cs with
  | 0, _ => none
  | _, '\x7d' :: cs => some (before, cs)
  | fuel + 1, cs => do
    let (path, key, cs) ← key? fuel cs
    let .cons '=' cs := cs | none
    let (value, cs) ← value? fuel levels (skipBlanks cs)
    let fields ← before.insert path key value
    match skipGaps fuel cs with
    | ',' :: cs => fields? fuel levels fields (skipGaps fuel cs)
    | '\x7d' :: cs => some (fields, cs)
    | _ => none

end

/-- What a line of a document does. -/
inductive Line where
  | blank
  | header (path : List String) (key : String)
  | item (path : List String) (key : String)
  | field (path : List String) (key : String) (value : Toml)

/-- The line at the start of the characters, and what follows it. -/
def line? (fuel : Nat) (cs : List Char) : Option (Line × List Char) :=
  match skipBlanks cs with
  | '[' :: '[' :: cs => do
    let (path, key, cs) ← key? fuel cs
    match cs with
    | ']' :: ']' :: cs => some (.item path key, cs)
    | _ => none
  | '[' :: cs => do
    let (path, key, cs) ← key? fuel cs
    match cs with
    | ']' :: cs => some (.header path key, cs)
    | _ => none
  | [] => some (.blank, [])
  | '#' :: cs => some (.blank, '#' :: cs)
  | '\n' :: cs => some (.blank, '\n' :: cs)
  | '\r' :: cs => some (.blank, '\r' :: cs)
  | cs => do
    let (path, key, cs) ← key? fuel cs
    match cs with
    | '=' :: cs => do
      let cs := skipBlanks cs
      let (value, cs) ← value? (2 * fuel + 2) nestingLimit cs
      some (.field path key value, cs)
    | _ => none

/-- The fields of a document, where `section_` is the path of the last header. -/
def document? (fuel : Nat) (section_ : List String) (fields : Fields) (cs : List Char) :
    Option Fields := do
  let (line, cs) ← line? fuel cs
  let (section_, fields) ←
    match line with
    | .blank => some (section_, fields)
    | .header path key => (fields.openTable path key).map (path ++ [key], ·)
    | .item path key => (fields.openItem path key).map (path ++ [key], ·)
    | .field path key value => (fields.insertIn section_ path key value).map (section_, ·)
  match fuel, skipComment (skipBlanks cs) with
  | _, [] => some fields
  | 0, _ => none
  | fuel + 1, cs =>
    match Quoted.newline? cs with
    | some (_, cs) => document? fuel section_ fields cs
    | none => none

/-- The characters without a byte order mark in front. -/
def dropMark : List Char → List Char
  | '\uFEFF' :: cs => cs
  | cs => cs

end Reader

def read? (text : String) : Option (List (String × Toml)) :=
  let cs := Reader.dropMark text.toList
  (Reader.document? cs.length [] [] cs).map finishFields

end Toml
end PowerClass
