/-!
# PowerClass.Text.Page

Text cut to a number of UTF-8 bytes at a character boundary. One attribute is shown on one page,
so a long text keeps only the whole characters that fit.

* `cut_of_le`: text that fits is kept whole.
* `utf8ByteSize_cut_le`: what is kept fits.
-/

namespace PowerClass
namespace Text

/-- Text cut to at most the given number of bytes. The end of a text that is too long is looked for
from the last byte with room back, until it stands between two characters. -/
def cut (room : Nat) (s : String) : String :=
  if s.utf8ByteSize ≤ room then s else (s.sliceTo (s.posLE ⟨room⟩)).copy

theorem cut_of_le {room : Nat} {s : String} (h : s.utf8ByteSize ≤ room) : cut room s = s :=
  if_pos h

theorem utf8ByteSize_cut_le (room : Nat) (s : String) : (cut room s).utf8ByteSize ≤ room := by
  unfold cut
  split
  · next h => exact h
  · rw [String.Slice.utf8ByteSize_copy, String.utf8ByteSize_sliceTo]
    exact String.Pos.Raw.le_iff.mp String.offset_posLE_le

end Text
end PowerClass
