import PowerClass.Text.Blank

/-!
# PowerClass.Duration

Durations as people write them: numbers with units, such as `500ms`, `1m 30s` and `1.5h`. A number
may have blanks between its digits. Numbers are kept in 64 bits, so a duration that needs more has
no value.
-/

namespace PowerClass
namespace Duration

/-- A unit of time: its names, its length, and how many nanoseconds a part of it is counted in. -/
structure TimeUnit where
  names : List String
  nanoseconds : Nat
  grain : Nat

def second : Nat := 1000000000

/-- The units. A part of an hour, or of a longer unit, is counted in whole seconds. -/
def units : List TimeUnit :=
  [⟨["nanos", "nsec", "ns"], 1, 1⟩,
    ⟨["usec", "us", "µs"], 1000, 1⟩,
    ⟨["millis", "msec", "ms"], 1000000, 1⟩,
    ⟨["seconds", "second", "secs", "sec", "s"], second, 1⟩,
    ⟨["minutes", "minute", "min", "mins", "m"], 60 * second, 1⟩,
    ⟨["hours", "hour", "hr", "hrs", "h"], 3600 * second, second⟩,
    ⟨["days", "day", "d"], 86400 * second, second⟩,
    ⟨["weeks", "week", "wk", "wks", "w"], 604800 * second, second⟩,
    ⟨["months", "month", "M"], 2630016 * second, second⟩,
    ⟨["years", "year", "yr", "yrs", "y"], 31557600 * second, second⟩]

/-- The unit with a name. Case counts, since `m` is a minute and `M` a month. -/
def unit? (name : String) : Option TimeUnit :=
  units.find? fun unit => unit.names.contains name

/-- A number when it fits 64 bits. -/
def fit? (n : Nat) : Option Nat :=
  if n < 0x10000000000000000 then some n else none

def isUnitChar (c : Char) : Bool :=
  c.isAlpha || c == 'µ'

/-- The number that digits add to one before them, and what follows them. -/
def whole? (n : Nat) : List Char → Option (Nat × List Char)
  | [] => some (n, [])
  | c :: cs =>
    if c.isDigit then do whole? (← fit? (10 * n + (c.toNat - '0'.toNat))) cs
    else if Text.isBlank c then whole? n cs
    else some (n, c :: cs)

/-- A part of one: the numerator, and the denominator, a power of ten. -/
structure Fraction where
  numerator : Nat
  denominator : Nat

/-- The fraction that digits after a point add to one before them, and what follows them. At least
one digit must be there. -/
def fraction? (part : Fraction) : List Char → Option (Fraction × List Char)
  | [] => if part.denominator = 1 then none else some (part, [])
  | c :: cs =>
    if c.isDigit then do
      let denominator ← fit? (10 * part.denominator)
      let numerator ← fit? (10 * part.numerator + (c.toNat - '0'.toNat))
      fraction? ⟨numerator, denominator⟩ cs
    else if Text.isBlank c then fraction? part cs
    else if isUnitChar c && part.denominator ≠ 1 then some (part, c :: cs)
    else none

/-- A duration and some nanoseconds more, given as whole seconds or as parts of them. The seconds
of a duration fit 64 bits. -/
def add? (total more : Nat) : Option Nat := do
  let _ ← fit? ((total + more) / second)
  some (total + more)

def addUnits? (total n : Nat) (unit : TimeUnit) : Option Nat := do
  let scale := if unit.nanoseconds < second then 1 else second
  let count ← fit? (n * (unit.nanoseconds / scale))
  let _ ← fit? (if scale = 1 then total % second + count else count)
  add? total (count * scale)

def addPart? (total : Nat) (part : Fraction) (unit : TimeUnit) : Option Nat := do
  let product ← fit? (part.numerator * (unit.nanoseconds / unit.grain))
  add? total (product / part.denominator * unit.grain)

/-- The durations of numbers with units, added to one before them. Fuel is the number of
characters. -/
def sum? (fuel total : Nat) (cs : List Char) : Option Nat :=
  match fuel, cs.dropWhile Text.isBlank with
  | _, [] => some total
  | 0, _ => none
  | fuel + 1, c :: cs => do
    if !c.isDigit then none
    else
      let (n, cs) ← whole? (c.toNat - '0'.toNat) cs
      let (part, cs) ← match cs with
        | '.' :: cs => fraction? ⟨0, 1⟩ cs
        | cs => some (⟨0, 1⟩, cs)
      let unit ← unit? (String.ofList (cs.takeWhile isUnitChar))
      let total ← addUnits? total n unit
      let total ← addPart? total part unit
      sum? fuel total (cs.dropWhile isUnitChar)

/-- The nanoseconds of a duration. A zero needs no unit; text without a number is no duration. -/
def read? (text : String) : Option Nat :=
  let cs := text.toList
  if text = "0" then some 0
  else if cs.all Text.isBlank then none
  else sum? cs.length 0 cs

end Duration
end PowerClass
