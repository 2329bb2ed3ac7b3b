import PowerClass.Proofs.Codec.Line
import PowerClass.Proofs.Result

/-!
# PowerClass.Proofs.Codec.RoundTrip

Values survive being written and read back, for every kind that can be read.

* `readInt32_ofInt`, `readInt64_ofInt`: a number within its width, down to the least one, is read
  back from its decimal.
* `readOrdinal_ordinalText`: so is an ordinal. Inside the table its text is found where it stands;
  outside, its decimal is the text of no ordinal, because no text of a table reads as a number.
* `encode_roundTrip`: what is encoded decodes to itself, and what was decoded can be encoded.
-/

namespace PowerClass
namespace Codec

theorem readInt32_ofInt (n : Int32) : readInt32 (Decimal.ofInt n.toInt) = .ok n := by
  have hread : Decimal.read? (Decimal.ofInt n.toInt).toList = some n.toInt := by
    rw [Decimal.ofInt, String.toList_ofList, Decimal.read?_write]
  rw [readInt32, hread]
  simp only
  rw [if_pos ⟨n.le_toInt, n.toInt_lt⟩, Int32.ofInt_toInt]

theorem readInt64_ofInt (n : Int64) : readInt64 (Decimal.ofInt n.toInt) = .ok n := by
  have hread : Decimal.read? (Decimal.ofInt n.toInt).toList = some n.toInt := by
    rw [Decimal.ofInt, String.toList_ofList, Decimal.read?_write]
  rw [readInt64, hread]
  simp only
  rw [if_pos ⟨n.le_toInt, n.toInt_lt⟩, Int64.ofInt_toInt]

/-! ## Tables -/

theorem read?_of_mem_entries {table : Table} {text : String} (h : text ∈ table.entries) :
    Decimal.read? text.toList = none := by
  revert text
  cases table <;> decide

theorem trim_of_mem_entries {table : Table} {text : String} (h : text ∈ table.entries) :
    Text.trim text = text := by
  revert text
  cases table <;> decide

/-- No text of a table is a decimal, so an ordinal outside the table is never taken for one that
is inside. -/
theorem position?_ofInt (table : Table) (n : Int) : table.position? (Decimal.ofInt n) = none := by
  rw [Table.position?, List.idxOf?_eq_none_iff]
  intro h
  have hread := read?_of_mem_entries h
  rw [Decimal.ofInt, String.toList_ofList, Decimal.read?_write] at hread
  cases hread

theorem readOrdinal_ordinalText (table : Table) (n : Int32) :
    readOrdinal table (ordinalText table n) = .ok n := by
  unfold ordinalText
  split
  · next text h =>
    obtain ⟨hn, hp⟩ := Table.position?_text? h
    have hnat : Int32.ofNat n.toInt.toNat = n := by
      rw [← Int32.ofInt_eq_ofNat, Int.toNat_of_nonneg hn, Int32.ofInt_toInt]
    rw [readOrdinal, hp]
    simp only
    rw [hnat]
  · rw [readOrdinal, position?_ofInt]
    exact readInt32_ofInt n

/-! ## Trimming -/

theorem trim_ofInt (n : Int) : Text.trim (Decimal.ofInt n) = Decimal.ofInt n := by
  refine Text.trim_eq_self fun c hc => ?_
  rcases mem_ofInt hc with rfl | hd
  · decide
  · simp only [Text.isBlank, Bool.or_eq_false_iff, Bool.and_eq_false_iff, beq_eq_false_iff_ne,
      decide_eq_false_iff_not]
    omega

theorem trim_ordinalText (table : Table) (n : Int32) :
    Text.trim (ordinalText table n) = ordinalText table n := by
  unfold ordinalText
  split
  · next text h => exact trim_of_mem_entries (Table.mem_entries_of_text? h)
  · exact trim_ofInt _

/-! ## Lines -/

theorem decode_line {kind : Kind} {value : Value} {line : String} (hk : kind ≠ .text)
    (h : line? kind value = some line) : decode kind (line.push '\n') = .ok value := by
  unfold line? at h
  unfold decode
  rw [Text.trim_push_newline]
  split at h
  · cases h; simp only [trim_ofInt, readInt32_ofInt, Except.map]
  · cases h; simp only [trim_ofInt, readInt64_ofInt, Except.map]
  · cases h; simp only [trim_ordinalText, readOrdinal_ordinalText, Except.map]
  · cases h; simp only [trim_ordinalText, readOrdinal_ordinalText, Except.map]
  · exact absurd rfl hk
  · cases h

theorem variant_of_decode {kind : Kind} {text : String} {value : Value}
    (h : decode kind text = .ok value) : value.variant = kind.variant := by
  unfold decode at h
  cases kind with
  | int32 => obtain ⟨n, -, rfl⟩ := Result.map_eq_ok.mp h; rfl
  | int64 => obtain ⟨n, -, rfl⟩ := Result.map_eq_ok.mp h; rfl
  | enum table => obtain ⟨n, -, rfl⟩ := Result.map_eq_ok.mp h; rfl
  | deviceType => obtain ⟨n, -, rfl⟩ := Result.map_eq_ok.mp h; rfl
  | text => cases h

theorem exists_encode_decode {kind : Kind} {value : Value} (hk : kind ≠ .text)
    (hv : value.variant = kind.variant) :
    ∃ text, encode kind value = .ok text ∧ decode kind text = .ok value := by
  obtain ⟨line, hl⟩ := exists_line?.mpr hv
  refine ⟨line.push '\n', ?_, decode_line hk hl⟩
  rw [encode_eq, hl]

/-- **Round trip.** Every value that fits a kind other than text is written, and is read back from
what was written. Whatever such a kind reads fits it, so it can be written, and what was written is
again read as the same value. -/
theorem encode_roundTrip {kind : Kind} (hk : kind ≠ .text) :
    (∀ value : Value, value.variant = kind.variant →
      ∃ text, encode kind value = .ok text ∧ decode kind text = .ok value) ∧
    ∀ (text : String) (value : Value), decode kind text = .ok value →
      value.variant = kind.variant ∧
        ∃ written, encode kind value = .ok written ∧ decode kind written = .ok value := by
  refine ⟨fun value hv => exists_encode_decode hk hv, fun text value hd => ?_⟩
  have hv := variant_of_decode hd
  exact ⟨hv, exists_encode_decode hk hv⟩

theorem encode_roundTrip_status :
    Kind.enum .status ≠ .text ∧
      (∃ text, encode (.enum .status) (.ordinal (-2)) = .ok text ∧
        decode (.enum .status) text = .ok (.ordinal (-2))) ∧
      decode (.enum .status) " +9\n" = .ok (.ordinal 9) ∧
      ∃ written, encode (.enum .status) (.ordinal 9) = .ok written ∧
        decode (.enum .status) written = .ok (.ordinal 9) := by
  have hk : Kind.enum .status ≠ .text := by decide
  have hd : decode (.enum .status) " +9\n" = .ok (.ordinal 9) := rfl
  obtain ⟨written, read⟩ := encode_roundTrip hk
  exact ⟨hk, written (.ordinal (-2)) rfl, hd, (read _ _ hd).2⟩

example : encode .int32 (.int Int32.minValue) = .ok "-2147483648\n" := rfl

end Codec
end PowerClass
