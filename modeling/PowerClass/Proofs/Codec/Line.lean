import PowerClass.Codec

/-!
# PowerClass.Proofs.Codec.Line

The line that a value is written as. Every encoding is one such line after whatever the buffer
holds, so what is proved of lines holds of `encode` and `encodeOnto` alike.

* `encodeOnto_eq` and `encode_eq`: encoding through `line?`.
* `exists_line?`: a value has a line exactly when its variant is that of the kind.
* `printable_of_line?`: the line of anything but a text is made of printable ASCII characters.
-/

namespace PowerClass
namespace Codec

/-- The contents of the line that a value is written as, none when the value does not fit. -/
def line? : Kind → Value → Option String
  | .int32, .int n => some (Decimal.ofInt n.toInt)
  | .int64, .int64 n => some (Decimal.ofInt n.toInt)
  | .enum table, .ordinal n => some (ordinalText table n)
  | .deviceType, .ordinal n => some (ordinalText .type n)
  | .text, .text s => some (Text.cut (pageSize - 1) s)
  | _, _ => none

theorem encodeOnto_eq (buffer : String) (kind : Kind) (value : Value) :
    encodeOnto buffer kind value =
      match line? kind value with
      | some line => (.ok (), (buffer ++ line).push '\n')
      | none => (.error (.kindMismatch kind value.variant), buffer) := by
  cases kind <;> cases value <;> rfl

theorem encode_eq (kind : Kind) (value : Value) :
    encode kind value =
      match line? kind value with
      | some line => .ok (line.push '\n')
      | none => .error (.kindMismatch kind value.variant) := by
  rw [encode, encodeOnto_eq]
  cases line? kind value with
  | some line => simp only [String.empty_append]
  | none => rfl

theorem exists_line? {kind : Kind} {value : Value} :
    (∃ line, line? kind value = some line) ↔ value.variant = kind.variant := by
  cases kind <;> cases value <;> simp [line?, Value.variant, Kind.variant]

/-! ## Lines of numbers and of texts in tables -/

def IsPrintable (c : Char) : Prop :=
  0x20 ≤ c.toNat ∧ c.toNat < 0x7F

instance (c : Char) : Decidable (IsPrintable c) :=
  inferInstanceAs (Decidable (_ ∧ _))

theorem mem_write {n : Int} {c : Char} (h : c ∈ Decimal.write n) : c = '-' ∨ c.isDigit = true := by
  cases n with
  | ofNat n => exact .inr (Nat.isDigit_of_mem_toDigits (by decide) (by decide) h)
  | negSucc n =>
    rcases List.mem_cons.mp h with rfl | h
    · exact .inl rfl
    · exact .inr (Nat.isDigit_of_mem_toDigits (by decide) (by decide) h)

theorem mem_ofInt {n : Int} {c : Char} (h : c ∈ (Decimal.ofInt n).toList) :
    c = '-' ∨ 0x30 ≤ c.toNat ∧ c.toNat ≤ 0x39 := by
  rw [Decimal.ofInt, String.toList_ofList] at h
  rcases mem_write h with rfl | h
  · exact .inl rfl
  · rw [Char.isDigit_iff_toNat] at h
    exact .inr h

theorem printable_of_mem_entries {table : Table} {text : String} (h : text ∈ table.entries) :
    ∀ c ∈ text.toList, IsPrintable c := by
  have ha : (table.entries.all fun text => text.toList.all fun c => IsPrintable c) = true := by
    cases table <;> decide
  simpa using List.all_eq_true.mp ha text h

theorem printable_ofInt {n : Int} : ∀ c ∈ (Decimal.ofInt n).toList, IsPrintable c := by
  intro c h
  rcases mem_ofInt h with rfl | h
  · decide
  · unfold IsPrintable
    omega

theorem printable_ordinalText (table : Table) (n : Int32) :
    ∀ c ∈ (ordinalText table n).toList, IsPrintable c := by
  unfold ordinalText
  split
  · next text h => exact printable_of_mem_entries (Table.mem_entries_of_text? h)
  · exact printable_ofInt

/-- A text property is the only one whose line a device chooses freely. -/
theorem printable_of_line? {kind : Kind} {value : Value} {line : String} (hk : kind ≠ .text)
    (h : line? kind value = some line) : ∀ c ∈ line.toList, IsPrintable c := by
  unfold line? at h
  split at h
  · cases h; exact printable_ofInt
  · cases h; exact printable_ofInt
  · cases h; exact printable_ordinalText _ _
  · cases h; exact printable_ordinalText _ _
  · exact absurd rfl hk
  · cases h

theorem newline_not_mem_of_line? {kind : Kind} {value : Value} {line : String} (hk : kind ≠ .text)
    (h : line? kind value = some line) : '\n' ∉ line.toList := by
  intro hm
  have hp := printable_of_line? hk h _ hm
  exact absurd hp (by decide)

end Codec
end PowerClass
