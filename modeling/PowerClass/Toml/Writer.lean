import PowerClass.Decimal
import PowerClass.Toml.Reader

/-!
# PowerClass.Toml.Writer

Writing TOML documents. A string takes the first of its forms that needs no escape and ends where
it should; an array of two or more items has a line for each.
-/

namespace PowerClass
namespace Toml
namespace Writer

def longestRun (c : Char) (cs : List Char) : Nat :=
  (cs.foldl (fun (run, longest) d =>
    let run := if d = c then run + 1 else 0
    (run, max longest run)) (0, 0)).2

/-- Whether a character cannot stand in any string but as an escape. -/
def needsEscape (c : Char) : Bool :=
  (c.toNat < 0x20 && c != '\t' && c != '\n') || c == '\x7F'

def hexDigit (n : Nat) : Char :=
  (Nat.digitChar n).toUpper

/-- One character of a basic string. A newline stands as it is in a string of several lines. -/
def escapeChar (lines : Bool) (c : Char) : List Char :=
  match c with
  | '\x08' => ['\\', 'b']
  | '\t' => ['\\', 't']
  | '\n' => if lines then ['\n'] else ['\\', 'n']
  | '\x0C' => ['\\', 'f']
  | '\r' => ['\\', 'r']
  | '\\' => ['\\', '\\']
  | c =>
    if c.toNat < 0x20 || c == '\x7F' then
      ['\\', 'u', '0', '0', hexDigit (c.toNat / 16), hexDigit (c.toNat % 16)]
    else [c]

/-- Characters of a basic string in which so many quotes may stand in a row. -/
def escape (lines : Bool) (allowed run : Nat) : List Char → List Char
  | [] => []
  | '"' :: cs =>
    if run < allowed then '"' :: escape lines allowed (run + 1) cs
    else '\\' :: '"' :: escape lines allowed 0 cs
  | c :: cs => escapeChar lines c ++ escape lines allowed 0 cs

def string (text : String) : String :=
  let cs := text.toList
  let single := longestRun '\'' cs
  let double := longestRun '"' cs
  let escapes := cs.any needsEscape
  let backslash := cs.contains '\\'
  let newline := cs.contains '\n'
  let opening (quotes : List Char) : List Char := if newline then quotes ++ ['\n'] else quotes
  let form :=
    if !escapes && !backslash && double = 0 && !newline then
      '"' :: (escape false 0 0 cs ++ ['"'])
    else if !escapes && single = 0 && !newline then '\'' :: (cs ++ ['\''])
    else if !escapes && !backslash && double ≤ 2 then
      opening ['"', '"', '"'] ++ escape true 2 0 cs ++ ['"', '"', '"']
    else if !escapes && single ≤ 2 then
      opening ['\'', '\'', '\''] ++ cs ++ ['\'', '\'', '\'']
    else if newline then opening ['"', '"', '"'] ++ escape true 2 0 cs ++ ['"', '"', '"']
    else '"' :: (escape false 0 0 cs ++ ['"'])
  String.ofList form

/-- A key, in quotes when it needs them. -/
def key (name : String) : String :=
  if !name.isEmpty && name.toList.all Reader.isBareChar then name else string name

/-- Items between brackets, each on a line of its own when there are several. -/
def items : List String → String
  | [] => "[]"
  | [item] => "[" ++ item ++ "]"
  | texts => "[\n" ++ String.join (texts.map fun item => "    " ++ item ++ ",\n") ++ "]"

mutual

def value : Toml → String
  | .string text => string text
  | .integer n => Decimal.ofInt n
  | .float literal => literal
  | .boolean b => if b then "true" else "false"
  | .datetime literal => literal
  | .array values => items (texts values)
  | .table fields => "\x7b " ++ String.intercalate ", " (inlineFields fields) ++ " \x7d"

def texts : List Toml → List String
  | [] => []
  | first :: rest => value first :: texts rest

def inlineFields : List (String × Toml) → List String
  | [] => []
  | (name, first) :: rest => (key name ++ " = " ++ value first) :: inlineFields rest

end

/-- The fields of the tables that a value stands for under headers in double brackets, none when it
stands on the right of its key. -/
def headed? : Toml → Option (List (List (String × Toml)))
  | .array (first :: rest) => (first :: rest).mapM fields?
  | _ => none

def fieldLines (fields : List (String × Toml)) : String :=
  String.join (fields.map fun (name, v) => key name ++ " = " ++ value v ++ "\n")

/-- A document: the fields on the right of their keys, then the arrays of tables, each table under
its header. -/
def document (fields : List (String × Toml)) : String :=
  let plain := fields.filter fun (_, v) => (headed? v).isNone
  let headed := fields.flatMap fun (name, v) => ((headed? v).getD []).map fun fields => (name, fields)
  fieldLines plain ++
    String.join (headed.map fun (name, fields) => "\n[[" ++ key name ++ "]]\n" ++ fieldLines fields)

end Writer
end Toml
end PowerClass
