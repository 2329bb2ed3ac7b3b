import PowerClass.Toml

/-!
# PowerClass.Toml.Scalar

The values of TOML that are written without quotes or brackets: booleans, integers in four bases,
floats, and dates and times. `ofChars?` reads a whole literal or refuses it.
-/

namespace PowerClass
namespace Toml
namespace Scalar

/-- Digits without the underscores between them. At least one digit, and each underscore between
two digits. -/
def ungroup (isDigit : Char → Bool) : List Char → Option (List Char)
  | [] => none
  | [c] => if isDigit c then some [c] else none
  | c :: '_' :: rest => if isDigit c then (ungroup isDigit rest).map (c :: ·) else none
  | c :: rest => if isDigit c then (ungroup isDigit rest).map (c :: ·) else none

def digitValue (c : Char) : Nat :=
  if c.isDigit then c.toNat - 48
  else if 'a' ≤ c ∧ c ≤ 'f' then c.toNat - 87
  else c.toNat - 55

def number (base : Nat) (digits : List Char) : Nat :=
  digits.foldl (fun n c => base * n + digitValue c) 0

/-- Decimal digits without a leading zero, except zero itself. -/
def wholeDigits? (cs : List Char) : Option (List Char) :=
  match ungroup Char.isDigit cs with
  | some ['0'] => some ['0']
  | some ('0' :: _) => none
  | digits => digits

def isHexDigit (c : Char) : Bool :=
  c.isDigit || ('a' ≤ c && c ≤ 'f') || ('A' ≤ c && c ≤ 'F')

def isOctalDigit (c : Char) : Bool := '0' ≤ c && c ≤ '7'

def isBinaryDigit (c : Char) : Bool := c == '0' || c == '1'

/-- A sign and what follows it. -/
def signed : List Char → Bool × List Char
  | '+' :: cs => (false, cs)
  | '-' :: cs => (true, cs)
  | cs => (false, cs)

/-- An integer: decimal with an optional sign, or another base with its mark. -/
def integer? : List Char → Option Int
  | '0' :: 'x' :: cs => (ungroup isHexDigit cs).map fun ds => number 16 ds
  | '0' :: 'o' :: cs => (ungroup isOctalDigit cs).map fun ds => number 8 ds
  | '0' :: 'b' :: cs => (ungroup isBinaryDigit cs).map fun ds => number 2 ds
  | cs =>
    let (negative, cs) := signed cs
    (wholeDigits? cs).map fun ds => if negative then -(number 10 ds : Int) else number 10 ds

/-- Whether the digits, with ten to the power `up - down` as a factor, are too large for a double.
The bound is half a step above the greatest double. -/
def overflows (digits : List Char) (up down : Nat) : Bool :=
  let digits := digits.dropWhile (· == '0')
  if digits.isEmpty || digits.length + up < 300 + down then false
  else if 310 + down < digits.length + up then true
  else
    let shift := up - down
    (Nat.pow 2 1024 - Nat.pow 2 970) * Nat.pow 10 (down - up) ≤
      number 10 digits * Nat.pow 10 shift

/-- An exponent after its mark: its sign and its size. -/
def exponent? (cs : List Char) : Option (Bool × Nat) :=
  let (negative, cs) := signed cs
  (ungroup Char.isDigit cs).map fun ds => (negative, number 10 ds)

/-- Whether the characters are a finite float that fits a double: digits, then a fraction or an
exponent or both. -/
def isFiniteFloat (cs : List Char) : Bool :=
  let cs := (signed cs).2
  let isMark (c : Char) : Bool := c == 'e' || c == 'E'
  let significand := cs.takeWhile fun c => !isMark c
  let power := cs.dropWhile fun c => !isMark c
  let whole := significand.takeWhile (· != '.')
  let fraction := significand.dropWhile (· != '.')
  let exponent :=
    match power with
    | [] => some (false, 0)
    | _ :: digits => exponent? digits
  let places :=
    match fraction with
    | [] => if power.isEmpty then none else some []
    | _ :: digits => ungroup Char.isDigit digits
  match wholeDigits? whole, places, exponent with
  | some whole, some places, some (negative, size) =>
    let up := if negative then 0 else size
    let down := places.length + if negative then size else 0
    !overflows (whole ++ places) up down
  | _, _, _ => false

/-- Whether the characters are a float, infinities and not-a-number included. -/
def isFloat (cs : List Char) : Bool :=
  let rest := (signed cs).2
  rest == ['i', 'n', 'f'] || rest == ['n', 'a', 'n'] || isFiniteFloat cs

/-- A number of exactly two digits and what follows. -/
def twoDigits? : List Char → Option (Nat × List Char)
  | a :: b :: rest => if a.isDigit && b.isDigit then some (number 10 [a, b], rest) else none
  | _ => none

/-- Whether a year has a 29th of February. -/
def isLeap (year : Nat) : Bool :=
  year % 4 == 0 && (year % 100 != 0 || year % 400 == 0)

def daysIn (year month : Nat) : Nat :=
  match month with
  | 2 => if isLeap year then 29 else 28
  | 4 | 6 | 9 | 11 => 30
  | _ => 31

/-- What follows a date, when the characters start with one. -/
def date? (cs : List Char) : Option (List Char) := do
  let (century, cs) ← twoDigits? cs
  let (years, cs) ← twoDigits? cs
  let .cons '-' cs := cs | none
  let (month, cs) ← twoDigits? cs
  let .cons '-' cs := cs | none
  let (day, cs) ← twoDigits? cs
  if 1 ≤ month ∧ month ≤ 12 ∧ 1 ≤ day ∧ day ≤ daysIn (century * 100 + years) month then some cs
  else none

/-- What follows the fraction of a second, when there is one. -/
def subseconds? : List Char → Option (List Char)
  | '.' :: cs =>
    if (cs.takeWhile Char.isDigit).isEmpty then none else some (cs.dropWhile Char.isDigit)
  | cs => some cs

/-- What follows a time, when the characters start with one. The seconds may be left out. -/
def time? (cs : List Char) : Option (List Char) := do
  let (hour, cs) ← twoDigits? cs
  let .cons ':' cs := cs | none
  let (minute, cs) ← twoDigits? cs
  guard (hour ≤ 23 ∧ minute ≤ 59)
  match cs with
  | ':' :: cs =>
    let (second, cs) ← twoDigits? cs
    guard (second ≤ 60)
    subseconds? cs
  | cs => some cs

/-- Whether the characters are nothing or the offset of a time zone. -/
def isOffset : List Char → Bool
  | [] | ['Z'] | ['z'] => true
  | sign :: cs =>
    (sign == '+' || sign == '-') &&
      match twoDigits? cs with
      | some (hours, ':' :: cs) =>
        match twoDigits? cs with
        | some (minutes, []) => hours ≤ 23 && minutes ≤ 59
        | _ => false
      | _ => false

/-- Whether the characters are a date, a time, or both with an optional offset. -/
def isDatetime (cs : List Char) : Bool :=
  match date? cs with
  | some [] => true
  | some (mark :: cs) =>
    (mark == 'T' || mark == 't' || mark == ' ') && ((time? cs).map isOffset).getD false
  | none => (time? cs).map List.isEmpty |>.getD false

def ofChars? (cs : List Char) : Option Toml :=
  if cs == "true".toList then some (.boolean true)
  else if cs == "false".toList then some (.boolean false)
  else
    match integer? cs with
    | some n => some (.integer n)
    | none =>
      if isFloat cs then some (.float (String.ofList cs))
      else if isDatetime cs then some (.datetime (String.ofList cs))
      else none

def isLiteralChar (c : Char) : Bool :=
  c.isAlphanum || c == '+' || c == '-' || c == '_' || c == '.' || c == ':'

/-- The literal at the start of the characters, and what follows. After a date a space and a digit
go on with a time. -/
def literal (cs : List Char) : List Char × List Char :=
  let first := cs.takeWhile isLiteralChar
  let rest := cs.dropWhile isLiteralChar
  match date? first, rest with
  | some [], ' ' :: c :: more =>
    if c.isDigit then
      (first ++ ' ' :: (c :: more).takeWhile isLiteralChar, (c :: more).dropWhile isLiteralChar)
    else (first, rest)
  | _, _ => (first, rest)

/-- The value at the start of the characters, and what follows. -/
def read? (cs : List Char) : Option (Toml × List Char) :=
  let (first, rest) := literal cs
  (ofChars? first).map (·, rest)

end Scalar
end Toml
end PowerClass
