/-!
# PowerClass.Decimal

Signed decimal numbers: an optional sign, then one or more ASCII digits.

* `read?_write`: a written number reads back as itself.
-/

namespace PowerClass
namespace Decimal

/-- The number that digits stand for, none when there are no digits or another character is among
them. Leading zeros are allowed. -/
def natural? (cs : List Char) : Option Nat :=
  if cs ≠ [] ∧ cs.all Char.isDigit = true then some (Nat.ofDigitChars 10 cs 0) else none

def read? : List Char → Option Int
  | '+' :: cs => (natural? cs).map Int.ofNat
  | '-' :: cs => (natural? cs).map fun n => -Int.ofNat n
  | cs => (natural? cs).map Int.ofNat

/-- The shortest decimal of a number: no leading zero, a sign only when it is negative. -/
def write : Int → List Char
  | .ofNat n => Nat.toDigits 10 n
  | .negSucc n => '-' :: Nat.toDigits 10 (n + 1)

def ofNat (n : Nat) : String :=
  String.ofList (write (.ofNat n))

def ofInt (n : Int) : String :=
  String.ofList (write n)

theorem natural?_toDigits (n : Nat) : natural? (Nat.toDigits 10 n) = some n := by
  have hd : ∀ c ∈ Nat.toDigits 10 n, c.isDigit = true :=
    fun c hc => Nat.isDigit_of_mem_toDigits (by decide) (by decide) hc
  rw [natural?, if_pos ⟨Nat.toDigits_ne_nil, List.all_eq_true.mpr hd⟩,
    Nat.ofDigitChars_toDigits (by decide) (by decide)]

theorem read?_toDigits (n : Nat) : read? (Nat.toDigits 10 n) = some (Int.ofNat n) := by
  have hd : ∀ c ∈ Nat.toDigits 10 n, c.isDigit = true :=
    fun c hc => Nat.isDigit_of_mem_toDigits (by decide) (by decide) hc
  have hr : read? (Nat.toDigits 10 n) = (natural? (Nat.toDigits 10 n)).map Int.ofNat := by
    unfold read?
    split
    · next h => exact absurd (hd '+' (by rw [h]; exact List.mem_cons_self)) (by decide)
    · next h => exact absurd (hd '-' (by rw [h]; exact List.mem_cons_self)) (by decide)
    · rfl
  rw [hr, natural?_toDigits, Option.map_some]

/-- A written number reads back as itself. -/
theorem read?_write (n : Int) : read? (write n) = some n := by
  cases n with
  | ofNat n => exact read?_toDigits n
  | negSucc n => rw [write, read?, natural?_toDigits, Option.map_some]; rfl

end Decimal
end PowerClass
