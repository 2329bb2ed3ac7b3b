import PowerClass.Text.Blank
import PowerClass.Text.Page

/-!
# PowerClass.Proofs.Text.Ends

Newlines at the end of a text. A file is read without them, and an entry ends before the first
newline of its text: dropping the newlines at the end leaves the first line as it is.

* `dropNewlines_push`, `dropNewlines_of_not_mem`: what a line is without its newline.
* `firstLine_dropNewlines`: the first line does not depend on the newlines at the end.
* `cut_dropNewlines_cut`: nor does a text that was cut to a page need to be cut again.
-/

namespace PowerClass
namespace Text

theorem takeWhile_append_of_forall {α : Type} {p : α → Bool} {xs ys : List α}
    (h : ∀ y ∈ ys, p y = false) : (xs ++ ys).takeWhile p = xs.takeWhile p := by
  induction xs with
  | nil =>
    cases ys with
    | nil => rfl
    | cons y rest => simp [h y List.mem_cons_self]
  | cons x rest ih =>
    rw [List.cons_append, List.takeWhile_cons, List.takeWhile_cons, ih]

theorem dropTail_append_of_forall {p : Char → Bool} {cs ds : List Char}
    (h : ∀ d ∈ ds, p d = true) : dropTail p (cs ++ ds) = dropTail p cs := by
  have hr : ∀ d ∈ ds.reverse, p d = true := fun d hd => h d (List.mem_reverse.mp hd)
  rw [dropTail, dropTail, List.reverse_append, List.dropWhile_append_of_pos hr]

theorem dropWhile_eq_self_of_head {p : Char → Bool} {cs : List Char}
    (h : ∀ c ∈ cs.head?, p c = false) : cs.dropWhile p = cs := by
  cases cs with
  | nil => rfl
  | cons c rest => rw [List.dropWhile_cons_of_neg (by simp [h c rfl])]

theorem dropTail_eq_self_of_last {p : Char → Bool} {cs : List Char}
    (h : ∀ c ∈ cs.getLast?, p c = false) : dropTail p cs = cs := by
  rw [dropTail, dropWhile_eq_self_of_head (by rwa [List.head?_reverse]), List.reverse_reverse]

theorem dropNewlines_push (s : String) : dropNewlines (s.push '\n') = dropNewlines s := by
  rw [dropNewlines, dropNewlines, String.toList_push, dropTail_append_of_forall (by simp)]

theorem dropNewlines_of_not_mem {s : String} (h : '\n' ∉ s.toList) : dropNewlines s = s := by
  have hlast : ∀ c ∈ s.toList.getLast?, (c == '\n') = false := by
    intro c hc
    exact beq_false_of_ne fun he => h (he ▸ List.mem_of_getLast? hc)
  rw [dropNewlines, dropTail_eq_self_of_last hlast, String.ofList_toList]

theorem firstLine_push (s : String) : firstLine (s.push '\n') = firstLine s := by
  rw [firstLine, firstLine, String.toList_push, takeWhile_append_of_forall (by simp)]

/-- The newlines at the end come after the first line. -/
theorem firstLine_dropNewlines (s : String) : firstLine (dropNewlines s) = firstLine s := by
  have hnl : ∀ c ∈ (s.toList.reverse.takeWhile (· == '\n')).reverse, (c != '\n') = false := by
    intro c hc
    have hall := List.all_takeWhile (p := (· == '\n')) (l := s.toList.reverse)
    have hb := List.all_eq_true.mp hall c (List.mem_reverse.mp hc)
    simpa using hb
  rw [firstLine, firstLine, dropNewlines, String.toList_ofList, ← takeWhile_append_of_forall hnl,
    dropTail_append_takeWhile]

theorem eq_dropNewlines_append (s : String) :
    s = dropNewlines s ++ String.ofList (s.toList.reverse.takeWhile (· == '\n')).reverse := by
  rw [dropNewlines, ← String.ofList_append, dropTail_append_takeWhile, String.ofList_toList]

/-! ## Length -/

theorem utf8ByteSize_dropNewlines_le (s : String) :
    (dropNewlines s).utf8ByteSize ≤ s.utf8ByteSize := by
  have hsize := congrArg String.utf8ByteSize (eq_dropNewlines_append s)
  rw [String.utf8ByteSize_append] at hsize
  omega

/-- A text that was cut is not cut again, also without the newlines at its end. -/
theorem cut_dropNewlines_cut (room : Nat) (s : String) :
    cut room (dropNewlines (cut room s)) = dropNewlines (cut room s) := by
  have hle := utf8ByteSize_dropNewlines_le (cut room s)
  have hcut := utf8ByteSize_cut_le room s
  exact cut_of_le (by omega)

end Text
end PowerClass
