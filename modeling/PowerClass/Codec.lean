import PowerClass.Decimal
import PowerClass.Text.Blank
import PowerClass.Text.Page
import PowerClass.Value

/-!
# PowerClass.Codec

Values and the text of their attributes. Encoding writes one line: a number in decimal, an ordinal
by its text (or in decimal outside its table), a text cut to one page. Decoding reads trimmed text:
an enumerated kind first looks for the text in its table and otherwise reads a decimal, which is
not compared with the table's length; a text property cannot be decoded.
-/

namespace PowerClass

/-- The most bytes that the text of one attribute takes, its newline included. -/
def pageSize : Nat := 4096

/-- Why a value cannot be encoded or a text cannot be decoded. -/
inductive CodecError where
  | invalidInteger (text : String)
  | textNotWritable
  | kindMismatch (kind : Kind) (variant : Variant)
  deriving DecidableEq

namespace CodecError

def message : CodecError → String
  | .invalidInteger text => "invalid integer: " ++ Text.quote text
  | .textNotWritable => "text properties cannot be stored"
  | .kindMismatch kind variant =>
    variant.label ++ " value does not fit a " ++ kind.display ++ " property"

end CodecError

namespace Codec

/-- A number of 32 bits out of trimmed text. -/
def readInt32 (text : String) : Except CodecError Int32 :=
  match Decimal.read? text.toList with
  | some n =>
    if -0x80000000 ≤ n ∧ n < 0x80000000 then .ok (Int32.ofInt n) else .error (.invalidInteger text)
  | none => .error (.invalidInteger text)

/-- A number of 64 bits out of trimmed text. -/
def readInt64 (text : String) : Except CodecError Int64 :=
  match Decimal.read? text.toList with
  | some n =>
    if -0x8000000000000000 ≤ n ∧ n < 0x8000000000000000 then .ok (Int64.ofInt n)
    else .error (.invalidInteger text)
  | none => .error (.invalidInteger text)

/-- An ordinal out of trimmed text: the position of a text of the table, else any decimal. -/
def readOrdinal (table : Table) (text : String) : Except CodecError Int32 :=
  match table.position? text with
  | some i => .ok (Int32.ofNat i)
  | none => readInt32 text

/-- The value that text stands for in a property of the given kind. -/
def decode (kind : Kind) (text : String) : Except CodecError Value :=
  let text := Text.trim text
  match kind with
  | .int32 => (readInt32 text).map .int
  | .int64 => (readInt64 text).map .int64
  | .enum table => (readOrdinal table text).map .ordinal
  | .deviceType => (readOrdinal .type text).map .ordinal
  | .text => .error .textNotWritable

/-- The text of an ordinal, its decimal outside the table. -/
def ordinalText (table : Table) (n : Int32) : String :=
  match table.text? n.toInt with
  | some text => text
  | none => Decimal.ofInt n.toInt

def appendLine (buffer line : String) : Except CodecError Unit × String :=
  (.ok (), (buffer ++ line).push '\n')

/-- Adds the text of a value to a buffer, which stays as it is when the value does not fit. -/
def encodeOnto (buffer : String) (kind : Kind) (value : Value) : Except CodecError Unit × String :=
  match kind, value with
  | .int32, .int n => appendLine buffer (Decimal.ofInt n.toInt)
  | .int64, .int64 n => appendLine buffer (Decimal.ofInt n.toInt)
  | .enum table, .ordinal n => appendLine buffer (ordinalText table n)
  | .deviceType, .ordinal n => appendLine buffer (ordinalText .type n)
  | .text, .text s => appendLine buffer (Text.cut (pageSize - 1) s)
  | kind, value => (.error (.kindMismatch kind value.variant), buffer)

/-- The text of a value, one line with its newline. -/
def encode (kind : Kind) (value : Value) : Except CodecError String :=
  match encodeOnto "" kind value with
  | (.ok (), text) => .ok text
  | (.error e, _) => .error e

end Codec
end PowerClass
