import Mathlib.Data.List.Induction
import PowerClass.Proofs.Codec.RoundTrip
import PowerClass.Proofs.Text.Trimmed

/-!
# PowerClass.Proofs.Codec.Grammar

The texts that each kind of property reads, as a grammar, and the values that they stand for.

* `Digits`, `Numeral`: decimal numbers with their value; `read?_eq_some_iff` says that these are
  what is read as a number.
* `Denotes`: the texts of each kind. An enumerated kind has the texts of its table, and for any
  other text the numbers of 32 bits, inside the table or not.
* `decode_exact`: decoding trims a text and then accepts this grammar, no more and no less.
-/

namespace PowerClass
namespace Decimal

/-- ASCII digits, at least one, and the number that they stand for. -/
inductive Digits : List Char → Nat → Prop where
  | digit {c : Char} : c.isDigit = true → Digits [c] (c.toNat - '0'.toNat)
  | append {cs : List Char} {n : Nat} {c : Char} :
      Digits cs n → c.isDigit = true → Digits (cs ++ [c]) (10 * n + (c.toNat - '0'.toNat))

/-- Digits after at most one sign, and the number that they stand for. -/
inductive Numeral : List Char → Int → Prop where
  | unsigned {cs : List Char} {n : Nat} : Digits cs n → Numeral cs n
  | positive {cs : List Char} {n : Nat} : Digits cs n → Numeral ('+' :: cs) n
  | negative {cs : List Char} {n : Nat} : Digits cs n → Numeral ('-' :: cs) (-n)

theorem Digits.ne_nil {cs : List Char} {n : Nat} (h : Digits cs n) : cs ≠ [] := by
  cases h <;> simp

theorem Digits.isDigit {cs : List Char} {n : Nat} (h : Digits cs n) :
    ∀ c ∈ cs, c.isDigit = true := by
  induction h with
  | digit hc => simpa using hc
  | append _ hc ih =>
    intro c hm
    rcases List.mem_append.mp hm with hm | hm
    · exact ih c hm
    · rwa [List.mem_singleton.mp hm]

theorem Digits.ofDigitChars_eq {cs : List Char} {n : Nat} (h : Digits cs n) :
    Nat.ofDigitChars 10 cs 0 = n := by
  induction h with
  | digit hc => rw [Nat.ofDigitChars_cons, Nat.ofDigitChars_nil, Nat.mul_zero, Nat.zero_add]
  | append _ hc ih =>
    rw [Nat.ofDigitChars_append, Nat.ofDigitChars_cons, Nat.ofDigitChars_nil, ih]

theorem digits_ofDigitChars {cs : List Char} (hne : cs ≠ [])
    (hd : ∀ c ∈ cs, c.isDigit = true) : Digits cs (Nat.ofDigitChars 10 cs 0) := by
  induction cs using List.reverseRecOn with
  | nil => exact absurd rfl hne
  | append_singleton front c ih =>
    have hc : c.isDigit = true := hd c (by simp)
    by_cases hf : front = []
    · subst hf
      rw [List.nil_append, Nat.ofDigitChars_cons, Nat.ofDigitChars_nil, Nat.mul_zero,
        Nat.zero_add]
      exact .digit hc
    · have hfront := ih hf fun d hm => hd d (by simp [hm])
      rw [Nat.ofDigitChars_append, Nat.ofDigitChars_cons, Nat.ofDigitChars_nil]
      exact .append hfront hc

theorem natural?_eq_some_iff {cs : List Char} {n : Nat} : natural? cs = some n ↔ Digits cs n := by
  unfold natural?
  constructor
  · intro h
    split at h
    · next hcs =>
      cases h
      exact digits_ofDigitChars hcs.1 (List.all_eq_true.mp hcs.2)
    · cases h
  · intro h
    rw [if_pos ⟨h.ne_nil, List.all_eq_true.mpr h.isDigit⟩, h.ofDigitChars_eq]

/-- What is read as a number is a numeral, and it is read as its value. -/
theorem read?_eq_some_iff {cs : List Char} {n : Int} : read? cs = some n ↔ Numeral cs n := by
  constructor
  · intro h
    unfold read? at h
    split at h <;> obtain ⟨m, hm, rfl⟩ := Option.map_eq_some_iff.mp h
    · exact .positive (natural?_eq_some_iff.mp hm)
    · exact .negative (natural?_eq_some_iff.mp hm)
    · exact .unsigned (natural?_eq_some_iff.mp hm)
  · intro h
    cases h with
    | positive hd => rw [read?, natural?_eq_some_iff.mpr hd]; rfl
    | negative hd => rw [read?, natural?_eq_some_iff.mpr hd]; rfl
    | unsigned hd =>
      -- A sign is no digit, so digits are read without looking for one.
      unfold read?
      split
      · exact absurd (hd.isDigit '+' List.mem_cons_self) (by decide)
      · exact absurd (hd.isDigit '-' List.mem_cons_self) (by decide)
      · rw [natural?_eq_some_iff.mpr hd]; rfl

end Decimal

namespace Codec

open Decimal

/-- The texts that are read in a property of a kind, without white space at their ends, and the
values that they stand for. -/
inductive Denotes : Kind → String → Value → Prop where
  | int32 {text : String} {n : Int} : Numeral text.toList n → -0x80000000 ≤ n → n < 0x80000000 →
      Denotes .int32 text (.int (Int32.ofInt n))
  | int64 {text : String} {n : Int} :
      Numeral text.toList n → -0x8000000000000000 ≤ n → n < 0x8000000000000000 →
      Denotes .int64 text (.int64 (Int64.ofInt n))
  | entry {table : Table} {text : String} {i : Nat} : table.entries[i]? = some text →
      Denotes (.enum table) text (.ordinal (Int32.ofNat i))
  | ordinal {table : Table} {text : String} {n : Int32} : text ∉ table.entries →
      Denotes .int32 text (.int n) → Denotes (.enum table) text (.ordinal n)
  | deviceType {text : String} {value : Value} : Denotes (.enum .type) text value →
      Denotes .deviceType text value

/-! ## Numbers -/

/-- A number within bounds, from what was read. Both widths are read this way. -/
def bounded {α ε : Type} (lower upper : Int) (make : Int → α) (refused : ε) :
    Option Int → Except ε α
  | some n => if lower ≤ n ∧ n < upper then .ok (make n) else .error refused
  | none => .error refused

theorem bounded_eq_ok_iff {α ε : Type} {lower upper : Int} {make : Int → α} {refused : ε}
    {read : Option Int} {a : α} :
    bounded lower upper make refused read = .ok a ↔
      ∃ n, read = some n ∧ lower ≤ n ∧ n < upper ∧ make n = a := by
  cases read with
  | none => simp [bounded]
  | some n =>
    by_cases h : lower ≤ n ∧ n < upper
    · simp [bounded, h]
    · simp only [bounded, if_neg h, reduceCtorEq, Option.some.injEq, false_iff, not_exists]
      rintro m ⟨rfl, hl, hu, -⟩
      exact h ⟨hl, hu⟩

theorem bounded_eq_error {α ε : Type} {lower upper : Int} {make : Int → α} {refused e : ε}
    {read : Option Int} (h : bounded lower upper make refused read = .error e) : e = refused := by
  unfold bounded at h
  split at h
  · split at h <;> cases h
    rfl
  · cases h
    rfl

theorem readInt32_eq (text : String) :
    readInt32 text =
      bounded (-0x80000000) 0x80000000 Int32.ofInt (.invalidInteger text) (read? text.toList) := by
  unfold readInt32 bounded
  cases read? text.toList <;> rfl

theorem readInt64_eq (text : String) :
    readInt64 text =
      bounded (-0x8000000000000000) 0x8000000000000000 Int64.ofInt (.invalidInteger text)
        (read? text.toList) := by
  unfold readInt64 bounded
  cases read? text.toList <;> rfl

theorem readInt32_eq_ok_iff {text : String} {n : Int32} :
    readInt32 text = .ok n ↔ Denotes .int32 text (.int n) := by
  rw [readInt32_eq, bounded_eq_ok_iff]
  simp only [read?_eq_some_iff]
  constructor
  · rintro ⟨m, hm, hl, hu, rfl⟩
    exact .int32 hm hl hu
  · intro h
    cases h with
    | int32 hm hl hu => exact ⟨_, hm, hl, hu, rfl⟩

theorem readInt64_eq_ok_iff {text : String} {n : Int64} :
    readInt64 text = .ok n ↔ Denotes .int64 text (.int64 n) := by
  rw [readInt64_eq, bounded_eq_ok_iff]
  simp only [read?_eq_some_iff]
  constructor
  · rintro ⟨m, hm, hl, hu, rfl⟩
    exact .int64 hm hl hu
  · intro h
    cases h with
    | int64 hm hl hu => exact ⟨_, hm, hl, hu, rfl⟩

/-! ## Ordinals -/

theorem position?_eq_some_iff {table : Table} {text : String} {i : Nat} :
    table.position? text = some i ↔ table.entries[i]? = some text := by
  constructor
  · intro h
    have ht := Table.text?_position? h
    rwa [Table.text?, if_pos (Int.natCast_nonneg i), Int.toNat_natCast] at ht
  · intro h
    have ht : table.text? i = some text := by
      rwa [Table.text?, if_pos (Int.natCast_nonneg i), Int.toNat_natCast]
    have hp := (Table.position?_text? ht).2
    rwa [Int.toNat_natCast] at hp

theorem position?_eq_none_iff {table : Table} {text : String} :
    table.position? text = none ↔ text ∉ table.entries := by
  rw [Table.position?, List.idxOf?_eq_none_iff]

theorem readOrdinal_eq_ok_iff {table : Table} {text : String} {n : Int32} :
    readOrdinal table text = .ok n ↔ Denotes (.enum table) text (.ordinal n) := by
  unfold readOrdinal
  cases hp : table.position? text with
  | some i =>
    have hentry := position?_eq_some_iff.mp hp
    constructor
    · intro h
      cases h
      exact .entry hentry
    · intro h
      cases h with
      | entry hother =>
        rw [position?_eq_some_iff.mpr hother] at hp
        cases hp
        rfl
      | ordinal hnot _ => exact absurd (List.mem_of_getElem? hentry) hnot
  | none =>
    have hnot := position?_eq_none_iff.mp hp
    simp only
    rw [readInt32_eq_ok_iff]
    constructor
    · exact .ordinal hnot
    · intro h
      cases h with
      | entry hentry => exact absurd (List.mem_of_getElem? hentry) hnot
      | ordinal _ hn => exact hn

/-! ## Decoding -/

theorem decode_eq_ok_iff {kind : Kind} {text : String} {value : Value} :
    decode kind text = .ok value ↔ Denotes kind (Text.trim text) value := by
  unfold decode
  constructor
  · intro h
    cases kind with
    | int32 =>
      obtain ⟨n, hn, rfl⟩ := Result.map_eq_ok.mp h
      exact readInt32_eq_ok_iff.mp hn
    | int64 =>
      obtain ⟨n, hn, rfl⟩ := Result.map_eq_ok.mp h
      exact readInt64_eq_ok_iff.mp hn
    | enum table =>
      obtain ⟨n, hn, rfl⟩ := Result.map_eq_ok.mp h
      exact readOrdinal_eq_ok_iff.mp hn
    | deviceType =>
      obtain ⟨n, hn, rfl⟩ := Result.map_eq_ok.mp h
      exact .deviceType (readOrdinal_eq_ok_iff.mp hn)
    | text => cases h
  · intro h
    cases h with
    | int32 hn hl hu =>
      exact Result.map_eq_ok.mpr ⟨_, readInt32_eq_ok_iff.mpr (.int32 hn hl hu), rfl⟩
    | int64 hn hl hu =>
      exact Result.map_eq_ok.mpr ⟨_, readInt64_eq_ok_iff.mpr (.int64 hn hl hu), rfl⟩
    | entry hi => exact Result.map_eq_ok.mpr ⟨_, readOrdinal_eq_ok_iff.mpr (.entry hi), rfl⟩
    | ordinal hnot hn =>
      exact Result.map_eq_ok.mpr ⟨_, readOrdinal_eq_ok_iff.mpr (.ordinal hnot hn), rfl⟩
    | deviceType h =>
      obtain ⟨n, rfl⟩ : ∃ n, value = .ordinal n := by cases h <;> exact ⟨_, rfl⟩
      exact Result.map_eq_ok.mpr ⟨n, readOrdinal_eq_ok_iff.mpr h, rfl⟩

theorem error_of_readInt32 {text : String} {e : CodecError} (h : readInt32 text = .error e) :
    e = .invalidInteger text := by
  rw [readInt32_eq] at h
  exact bounded_eq_error h

theorem error_of_readInt64 {text : String} {e : CodecError} (h : readInt64 text = .error e) :
    e = .invalidInteger text := by
  rw [readInt64_eq] at h
  exact bounded_eq_error h

theorem error_of_readOrdinal {table : Table} {text : String} {e : CodecError}
    (h : readOrdinal table text = .error e) : e = .invalidInteger text := by
  unfold readOrdinal at h
  split at h
  · cases h
  · exact error_of_readInt32 h

theorem error_of_decode {kind : Kind} (hk : kind ≠ .text) {text : String} {e : CodecError}
    (h : decode kind text = .error e) : e = .invalidInteger (Text.trim text) := by
  unfold decode at h
  cases kind with
  | int32 => exact error_of_readInt32 (Result.map_eq_error.mp h)
  | int64 => exact error_of_readInt64 (Result.map_eq_error.mp h)
  | enum table => exact error_of_readOrdinal (Result.map_eq_error.mp h)
  | deviceType => exact error_of_readOrdinal (Result.map_eq_error.mp h)
  | text => exact absurd rfl hk

theorem decode_eq_error_iff {kind : Kind} (hk : kind ≠ .text) {text : String} {e : CodecError} :
    decode kind text = .error e ↔
      (∀ value, ¬ Denotes kind (Text.trim text) value) ∧ e = .invalidInteger (Text.trim text) := by
  constructor
  · intro h
    refine ⟨fun value hv => ?_, error_of_decode hk h⟩
    rw [decode_eq_ok_iff.mpr hv] at h
    cases h
  · rintro ⟨hnone, rfl⟩
    cases h : decode kind text with
    | ok value => exact absurd (decode_eq_ok_iff.mp h) (hnone value)
    | error e => rw [error_of_decode hk h]

/-- No text of a table is a number, so a number stands for itself among ordinals too. -/
theorem denotes_ordinal_of_int32 {text : String} {n : Int32} (h : Denotes .int32 text (.int n))
    (table : Table) : Denotes (.enum table) text (.ordinal n) := by
  refine .ordinal (fun hm => ?_) h
  cases h with
  | int32 hn _ _ =>
    have hread := read?_eq_some_iff.mpr hn
    rw [read?_of_mem_entries hm] at hread
    cases hread

/-- **Decoding.** A text is read as what it is without the white space at its ends. Each kind
accepts the texts of its grammar and nothing else, and gives the values that they stand for; what
it refuses, it names. A text that is a number to an integer is the same number to every
enumerated kind. -/
theorem decode_exact (text : String) :
    (∀ inner, Text.Trimmed text inner ↔ inner = Text.trim text) ∧
    (∀ kind value, decode kind text = .ok value ↔ Denotes kind (Text.trim text) value) ∧
    decode .text text = .error .textNotWritable ∧
    (∀ kind e, kind ≠ .text → (decode kind text = .error e ↔
      (∀ value, ¬ Denotes kind (Text.trim text) value) ∧
        e = .invalidInteger (Text.trim text))) ∧
    ∀ n, decode .int32 text = .ok (.int n) →
      (∀ table, decode (.enum table) text = .ok (.ordinal n)) ∧
        decode .deviceType text = .ok (.ordinal n) := by
  refine ⟨fun inner => Text.trimmed_iff, fun kind value => decode_eq_ok_iff, rfl,
    fun kind e hk => decode_eq_error_iff hk, fun n h => ?_⟩
  have hn := decode_eq_ok_iff.mp h
  exact ⟨fun table => decode_eq_ok_iff.mpr (denotes_ordinal_of_int32 hn table),
    decode_eq_ok_iff.mpr (.deviceType (denotes_ordinal_of_int32 hn .type))⟩

theorem decode_exact_leadingZeros :
    decode .int32 "\u2003-0007\r\n" = .ok (.int (-7)) ∧
      decode (.enum .health) "\u2003-0007\r\n" = .ok (.ordinal (-7)) ∧
      Denotes (.enum .health) (Text.trim "\u2003-0007\r\n") (.ordinal (-7)) ∧
      decode .int32 "2147483648" = .error (.invalidInteger "2147483648") ∧
      ∀ value, ¬ Denotes .int32 (Text.trim "2147483648") value := by
  obtain ⟨-, reads, -, -, sameNumber⟩ := decode_exact "\u2003-0007\r\n"
  obtain ⟨-, -, -, refuses, -⟩ := decode_exact "2147483648"
  have hn : decode .int32 "\u2003-0007\r\n" = .ok (.int (-7)) := by decide
  have he : decode .int32 "2147483648" = .error (.invalidInteger "2147483648") := by decide
  have hordinal := (sameNumber (-7) hn).1 .health
  exact ⟨hn, hordinal, (reads _ _).mp hordinal, he, ((refuses .int32 _ (by decide)).mp he).1⟩

example :
    decode (.enum .health) " Over voltage\n" = .ok (.ordinal 4) ∧
      decode (.enum .health) "+-4 " = .error (.invalidInteger "+-4") := by
  decide

end Codec
end PowerClass
