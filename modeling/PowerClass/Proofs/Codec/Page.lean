import PowerClass.Proofs.Codec.Line

/-!
# PowerClass.Proofs.Codec.Page

A text property on its page. A position in the bytes of a text is a boundary when no character goes
over it. A character has at most four bytes, so the last boundary with room is never far from the
limit.

* `LongestPrefix`: of the whole characters that a text begins with, all that fit.
* `ScansBack`: the search for a boundary, from a position back, one byte at a time.
* `longestPrefix_cut`: cutting a text keeps the longest prefix that fits.
* `scansBack_posLE`, `le_posLE_add_three`: the search ends at the last boundary, after at most three
  steps.
* `encode_text_fits`: what the encoding of a text is.
-/

namespace PowerClass
namespace Text

/-- The text begins with `front`, which fits, and no more of its characters would. -/
structure LongestPrefix (room : Nat) (s front : String) : Prop where
  isPrefix : ∃ rest, s = front ++ rest
  size_le : front.utf8ByteSize ≤ room
  longest : ∀ other rest, s = other ++ rest → other.utf8ByteSize ≤ room →
    other.utf8ByteSize ≤ front.utf8ByteSize

/-- The search for a boundary, from a position back: how many steps it takes, and where it stops.
Below the first byte there is no step. -/
inductive ScansBack (s : String) : (start steps stop : Nat) → Prop where
  | stop {i : Nat} : (String.Pos.Raw.mk i).IsValid s → ScansBack s i 0 i
  | step {i n j : Nat} : ¬ (String.Pos.Raw.mk (i + 1)).IsValid s → ScansBack s i n j →
      ScansBack s (i + 1) (n + 1) j

theorem ScansBack.start_eq {s : String} {i n j : Nat} (h : ScansBack s i n j) : i = j + n := by
  induction h with
  | stop => rfl
  | step _ _ ih => omega

theorem longestPrefix_cut (room : Nat) (s : String) : LongestPrefix room s (cut room s) := by
  have hsize := utf8ByteSize_cut_le room s
  by_cases h : s.utf8ByteSize ≤ room
  · rw [cut_of_le h] at hsize ⊢
    refine ⟨⟨"", by simp⟩, hsize, fun other rest hs _ => ?_⟩
    rw [hs, String.utf8ByteSize_append]
    omega
  · have hcut : cut room s = (s.sliceTo (s.posLE ⟨room⟩)).copy := if_neg h
    have hsplits := (s.posLE ⟨room⟩).splits
    rw [← hcut] at hsplits
    refine ⟨⟨_, hsplits.eq_append⟩, hsize, fun other rest hs hother => ?_⟩
    -- Whatever the text begins with ends at a boundary, and this is the last one with room.
    have hend := (String.Pos.splits_ofEqAppend hs).offset_eq_rawEndPos
    have hle : String.Pos.ofEqAppend hs ≤ s.posLE ⟨room⟩ := by
      rw [String.le_posLE_iff, hend]
      exact hother
    rw [String.Pos.le_iff, hend, hsplits.offset_eq_rawEndPos] at hle
    exact hle

theorem posLE_of_not_isValid {s : String} {i : Nat}
    (h : ¬ (String.Pos.Raw.mk (i + 1)).IsValid s) : s.posLE ⟨i + 1⟩ = s.posLE ⟨i⟩ := by
  rw [String.posLE_eq_iff]
  have hle : (s.posLE ⟨i⟩).offset ≤ ⟨i⟩ := String.offset_posLE_le
  rw [String.Pos.Raw.le_iff] at hle
  refine ⟨String.Pos.Raw.le_iff.mpr (Nat.le_succ_of_le hle), fun p hp => ?_⟩
  have hne : p.offset.byteIdx ≠ i + 1 := by
    intro he
    have hoffset : p.offset = ⟨i + 1⟩ := String.Pos.Raw.ext he
    exact h (hoffset ▸ p.isValid)
  rw [String.Pos.Raw.le_iff] at hp
  rw [String.le_posLE_iff, String.Pos.Raw.le_iff]
  show p.offset.byteIdx ≤ i
  have hp : p.offset.byteIdx ≤ i + 1 := hp
  omega

theorem scansBack_posLE (s : String) (i : Nat) :
    ∃ n, ScansBack s i n (s.posLE ⟨i⟩).offset.byteIdx := by
  induction i with
  | zero =>
    have hzero : (String.Pos.Raw.mk 0).IsValid s := String.Pos.Raw.isValid_zero
    rw [String.offset_posLE_eq_self_iff.mpr hzero]
    exact ⟨0, .stop hzero⟩
  | succ i ih =>
    by_cases h : (String.Pos.Raw.mk (i + 1)).IsValid s
    · rw [String.offset_posLE_eq_self_iff.mpr h]
      exact ⟨0, .stop h⟩
    · obtain ⟨n, hn⟩ := ih
      rw [posLE_of_not_isValid h]
      exact ⟨n + 1, .step h hn⟩

/-- The character after the last boundary with room has at most four bytes. -/
theorem le_posLE_add_three {s : String} {i : Nat} (h : i < s.utf8ByteSize) :
    i ≤ (s.posLE ⟨i⟩).offset.byteIdx + 3 := by
  have hle : (s.posLE ⟨i⟩).offset.byteIdx ≤ i := String.Pos.Raw.le_iff.mp String.offset_posLE_le
  have hne : s.posLE ⟨i⟩ ≠ s.endPos := by
    intro he
    rw [he] at hle
    have hend : s.endPos.offset.byteIdx = s.utf8ByteSize := by simp
    omega
  have hnext := String.Pos.byteIdx_offset_next (s.posLE ⟨i⟩) hne
  have hfour := Char.utf8Size_le_four ((s.posLE ⟨i⟩).get hne)
  have hlt : i < ((s.posLE ⟨i⟩).next hne).offset.byteIdx :=
    String.Pos.Raw.lt_iff.mp (String.posLE_lt_iff.mp String.Pos.lt_next)
  omega

theorem scansBack_cut {room : Nat} {s : String} (h : room < s.utf8ByteSize) :
    ∃ n ≤ 3, ScansBack s room n (cut room s).utf8ByteSize := by
  have hcut : (cut room s).utf8ByteSize = (s.posLE ⟨room⟩).offset.byteIdx := by
    rw [cut, if_neg (by omega), String.Slice.utf8ByteSize_copy, String.utf8ByteSize_sliceTo]
  obtain ⟨n, hn⟩ := scansBack_posLE s room
  have hstart := hn.start_eq
  have hthree := le_posLE_add_three h
  rw [hcut]
  exact ⟨n, by omega, hn⟩

end Text

namespace Codec

/-- **Text on a page.** A text is written as the longest part of it from the beginning that leaves
room for a newline on a page, whole characters of at most 4095 bytes, and then the newline. Of a
text that is too long at most three bytes are lost that would fit: the search from the limit back
takes no more steps. -/
theorem encode_text_fits (t : String) :
    ∃ front, encode .text (.text t) = .ok (front.push '\n') ∧
      Text.LongestPrefix 4095 t front ∧
      (front.push '\n').utf8ByteSize ≤ pageSize ∧
      (t.utf8ByteSize ≤ 4095 → front = t) ∧
      (4095 < t.utf8ByteSize →
        4092 ≤ front.utf8ByteSize ∧ front.utf8ByteSize ≤ 4095 ∧
          ∃ n ≤ 3, Text.ScansBack t 4095 n front.utf8ByteSize) := by
  have hsize := Text.utf8ByteSize_cut_le 4095 t
  refine ⟨Text.cut 4095 t, encode_eq .text (.text t), Text.longestPrefix_cut 4095 t, ?_,
    Text.cut_of_le, fun h => ?_⟩
  · rw [String.utf8ByteSize_push]
    show (Text.cut 4095 t).utf8ByteSize + 1 ≤ 4096
    omega
  · obtain ⟨n, hthree, hn⟩ := Text.scansBack_cut h
    have hstart := hn.start_eq
    exact ⟨by omega, hsize, n, hthree, hn⟩

example : Text.cut 4 "aéé" = "aé" := by decide +kernel

end Codec
end PowerClass
