/-!
# PowerClass.Text.Octets

Text out of bytes that may not be UTF-8: each maximal run that starts a character and then breaks
off, and each byte that can start none, becomes one replacement character U+FFFD.
-/

namespace PowerClass
namespace Text

/-- What replaces bytes that are no character. -/
def replacement : Char := '\uFFFD'

def isTail (b : Nat) : Bool := 0x80 ≤ b && b ≤ 0xBF

/-- For a byte that starts a character of several bytes: how many follow, the bits that it gives,
and the bounds of the byte after it. The bounds leave out overlong forms, surrogates and code
points past U+10FFFF. -/
def leadByte? (b : Nat) : Option (Nat × Nat × Nat × Nat) :=
  if 0xC2 ≤ b ∧ b ≤ 0xDF then some (1, b - 0xC0, 0x80, 0xBF)
  else if b = 0xE0 then some (2, 0, 0xA0, 0xBF)
  else if b = 0xED then some (2, 0xD, 0x80, 0x9F)
  else if 0xE1 ≤ b ∧ b ≤ 0xEF then some (2, b - 0xE0, 0x80, 0xBF)
  else if b = 0xF0 then some (3, 0, 0x90, 0xBF)
  else if b = 0xF4 then some (3, 4, 0x80, 0x8F)
  else if 0xF1 ≤ b ∧ b ≤ 0xF3 then some (3, b - 0xF0, 0x80, 0xBF)
  else none

/-- The characters of bytes, where `owed` continuation bytes with the given bounds are still
missing from a character whose bits so far are `bits`. -/
def decodeFrom (owed bits low high : Nat) : List Nat → List Char
  | [] => if owed = 0 then [] else [replacement]
  | b :: rest =>
    if owed ≠ 0 && low ≤ b && b ≤ high then
      let bits := bits * 64 + (b - 0x80)
      if owed = 1 then Char.ofNat bits :: decodeFrom 0 0 0 0 rest
      else decodeFrom (owed - 1) bits 0x80 0xBF rest
    else
      let broken := if owed = 0 then [] else [replacement]
      broken ++
        if b < 0x80 then Char.ofNat b :: decodeFrom 0 0 0 0 rest
        else
          match leadByte? b with
          | some (owed, bits, low, high) => decodeFrom owed bits low high rest
          | none => replacement :: decodeFrom 0 0 0 0 rest

/-- The text of bytes, with a replacement for whatever is not UTF-8. -/
def ofOctets (bytes : List Nat) : String :=
  String.ofList (decodeFrom 0 0 0 0 bytes)

end Text
end PowerClass
