import PowerClass.Text.Printable

/-!
# PowerClass.Text.Quoted

Text in double quotes, as messages and log lines show it: tab, return, newline, NUL, the quote and
the backslash as two-character escapes, every other character that does not print on its own as
`\u` with its code point in braces, and all else as it is.
-/

namespace PowerClass
namespace Text

def hexDigits (n : Nat) : List Char :=
  Nat.toDigits 16 n

/-- One character between quotes. A single quote is escaped only where the style asks for it. -/
def escapeChar (single : Bool) (c : Char) : List Char :=
  match c with
  | '\x00' => ['\\', '0']
  | '\t' => ['\\', 't']
  | '\r' => ['\\', 'r']
  | '\n' => ['\\', 'n']
  | '\\' => ['\\', '\\']
  | '"' => ['\\', '"']
  | '\'' => if single then ['\\', '\''] else ['\'']
  | c => if isPrintable c then [c] else '\\' :: 'u' :: '\x7b' :: (hexDigits c.toNat ++ ['\x7d'])

def quoteWith (single : Bool) (s : String) : String :=
  String.ofList ('"' :: (s.toList.flatMap (escapeChar single) ++ ['"']))

def quote (s : String) : String :=
  quoteWith false s

end Text
end PowerClass
