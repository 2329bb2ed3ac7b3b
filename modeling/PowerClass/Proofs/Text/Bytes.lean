import Mathlib.Data.List.Basic
import PowerClass.Text.Blank

/-!
# PowerClass.Proofs.Text.Bytes

Text as the bytes that a file or a listener gets.

* `ofBytes?_eq_some_iff`: the bytes of a text are those that are read as it.
* `mem_bytes_iff`: an ASCII character is found in the bytes exactly when it is in the text, since
  the bytes of every other character are 128 or more.
-/

namespace PowerClass
namespace Text

/-- The bytes of a text in UTF-8. -/
def bytes (s : String) : List UInt8 :=
  s.toUTF8.data.toList

def ofBytes? (bytes : List UInt8) : Option String :=
  String.fromUTF8? ⟨bytes.toArray⟩

theorem bytes_append (s t : String) : bytes (s ++ t) = bytes s ++ bytes t := by
  simp [bytes]

theorem bytes_eq_flatMap (s : String) : bytes s = s.toList.flatMap String.utf8EncodeChar := by
  obtain ⟨cs, rfl⟩ := s.exists_eq_ofList
  simp [bytes, List.utf8Encode]

theorem length_bytes (s : String) : (bytes s).length = s.utf8ByteSize := by
  simp [bytes]

theorem ofBytes?_eq_some_iff {bs : List UInt8} {s : String} :
    ofBytes? bs = some s ↔ bytes s = bs := by
  unfold ofBytes? String.fromUTF8? bytes
  constructor
  · intro h
    split at h
    · cases h; rfl
    · cases h
  · rintro rfl
    exact dif_pos s.isValidUTF8

theorem ofBytes?_bytes (s : String) : ofBytes? (bytes s) = some s :=
  ofBytes?_eq_some_iff.mpr rfl

/-! ## ASCII characters -/

theorem mem_utf8EncodeChar_iff {c d : Char} (hc : c.toNat < 128) :
    c.toUInt8 ∈ String.utf8EncodeChar d ↔ c = d := by
  have hb : c.toUInt8.toNat = c.toNat := Nat.mod_eq_of_lt (by unfold Char.toNat at hc; omega)
  have hn : ∀ n, c.toUInt8 = UInt8.ofNat n ↔ c.toNat = n % 256 := by
    intro n
    rw [← UInt8.toNat_inj, hb, UInt8.toNat_ofNat']
  have hd : d.val.toNat = d.toNat := rfl
  rw [← Char.toNat_inj]
  unfold String.utf8EncodeChar
  simp only [hd]
  repeat' split
  all_goals
    simp only [List.mem_cons, List.not_mem_nil, or_false, hn]
    omega

/-- An ASCII character is in the bytes of a text as it is in the text. -/
theorem mem_bytes_iff {c : Char} (hc : c.toNat < 128) {s : String} :
    c.toUInt8 ∈ bytes s ↔ c ∈ s.toList := by
  rw [bytes_eq_flatMap, List.mem_flatMap]
  simp only [mem_utf8EncodeChar_iff hc, exists_eq_right']

end Text
end PowerClass
