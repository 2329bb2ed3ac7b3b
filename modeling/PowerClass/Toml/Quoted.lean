import PowerClass.Toml.Scalar

/-!
# PowerClass.Toml.Quoted

The four forms of a string in TOML: basic strings with escapes and literal strings without, each on
one line or on several. Each function reads what follows the opening quotes, and answers the
characters of the string and what follows the closing quotes. Fuel is at least the number of
characters.
-/

namespace PowerClass
namespace Toml
namespace Quoted

/-- What a string or a comment may hold as it is: the tab, what prints in ASCII, and all beyond. -/
def isPlain (c : Char) : Bool :=
  c == '\t' || (0x20 ≤ c.toNat && c.toNat ≤ 0x7E) || 0x80 ≤ c.toNat

/-- A character by its code point in so many digits of base sixteen, and what follows. -/
def codePoint? (digits : Nat) (cs : List Char) : Option (Char × List Char) :=
  let first := cs.take digits
  let n := Scalar.number 16 first
  if first.length = digits ∧ first.all Scalar.isHexDigit = true ∧ n.isValidChar then
    some (Char.ofNat n, cs.drop digits)
  else none

/-- The character of an escape, after the backslash, and what follows. -/
def escape? : List Char → Option (Char × List Char)
  | 'b' :: cs => some ('\x08', cs)
  | 't' :: cs => some ('\t', cs)
  | 'n' :: cs => some ('\n', cs)
  | 'f' :: cs => some ('\x0C', cs)
  | 'r' :: cs => some ('\r', cs)
  | 'e' :: cs => some ('\x1B', cs)
  | '"' :: cs => some ('"', cs)
  | '\\' :: cs => some ('\\', cs)
  | 'x' :: cs => codePoint? 2 cs
  | 'u' :: cs => codePoint? 4 cs
  | 'U' :: cs => codePoint? 8 cs
  | _ => none

/-- A newline that the characters start with, and what follows. -/
def newline? : List Char → Option (List Char × List Char)
  | '\n' :: cs => some (['\n'], cs)
  | '\r' :: '\n' :: cs => some (['\r', '\n'], cs)
  | _ => none

/-- What follows a backslash at the end of a line: the next lines up to a character that is no
white space. None when the line does not end there. -/
def continued? (cs : List Char) : Option (List Char) :=
  let isGap (c : Char) : Bool := c == ' ' || c == '\t'
  match newline? (cs.dropWhile isGap) with
  | some (_, cs) => skip cs
  | none => none
where
  /-- Without blanks and newlines. A return stands only before a newline. -/
  skip : List Char → Option (List Char)
    | [] => some []
    | ' ' :: cs | '\t' :: cs | '\n' :: cs => skip cs
    | '\r' :: '\n' :: cs => skip cs
    | '\r' :: _ => none
    | cs => some cs

def basic? (fuel : Nat) (cs : List Char) : Option (List Char × List Char) :=
  match fuel, cs with
  | _, '"' :: cs => some ([], cs)
  | fuel + 1, '\\' :: cs => do
    let (c, cs) ← escape? cs
    let (text, cs) ← basic? fuel cs
    some (c :: text, cs)
  | fuel + 1, c :: cs =>
    if isPlain c then do
      let (text, cs) ← basic? fuel cs
      some (c :: text, cs)
    else none
  | _, _ => none

def literal? : List Char → Option (List Char × List Char)
  | [] => none
  | '\'' :: cs => some ([], cs)
  | c :: cs =>
    if isPlain c then do
      let (text, cs) ← literal? cs
      some (c :: text, cs)
    else none

/-- The end of a string on several lines: three quotes, with up to two more of them before, which
belong to the string. -/
def closing? (quote : Char) (cs : List Char) : Option (List Char × List Char) :=
  let run := (cs.takeWhile (· == quote)).length
  if 3 ≤ run then
    let inside := min (run - 3) 2
    some (List.replicate inside quote, cs.drop (inside + 3))
  else none

/-- A string on several lines after its opening, with escapes or without. -/
def lines? (quote : Char) (escapes : Bool) (fuel : Nat) (cs : List Char) :
    Option (List Char × List Char) :=
  match closing? quote cs with
  | some answer => some answer
  | none =>
    match fuel, cs with
    | 0, _ | _, [] => none
    | fuel + 1, c :: rest =>
      match newline? (c :: rest) with
      | some (text, rest) => do
        let (more, rest) ← lines? quote escapes fuel rest
        some (text ++ more, rest)
      | none =>
        if escapes && c == '\\' then
          match continued? rest with
          | some rest => lines? quote escapes fuel rest
          | none => do
            let (c, rest) ← escape? rest
            let (more, rest) ← lines? quote escapes fuel rest
            some (c :: more, rest)
        else if isPlain c then do
          let (more, rest) ← lines? quote escapes fuel rest
          some (c :: more, rest)
        else none

/-- The characters without the newline that they start with. -/
def dropNewline (cs : List Char) : List Char :=
  ((newline? cs).map Prod.snd).getD cs

/-- The string at the start of the characters, in any of the four forms. -/
def read? (fuel : Nat) (cs : List Char) : Option (String × List Char) :=
  let answer :=
    match cs with
    | '"' :: '"' :: '"' :: cs => lines? '"' true fuel (dropNewline cs)
    | '\'' :: '\'' :: '\'' :: cs => lines? '\'' false fuel (dropNewline cs)
    | '"' :: cs => basic? fuel cs
    | '\'' :: cs => literal? cs
    | _ => none
  answer.map fun (text, rest) => (String.ofList text, rest)

def readLine? (fuel : Nat) (cs : List Char) : Option (String × List Char) :=
  let answer :=
    match cs with
    | '"' :: cs => basic? fuel cs
    | '\'' :: cs => literal? cs
    | _ => none
  answer.map fun (text, rest) => (String.ofList text, rest)

end Quoted
end Toml
end PowerClass
