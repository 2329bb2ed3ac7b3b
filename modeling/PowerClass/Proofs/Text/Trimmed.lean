import Mathlib.Data.List.TakeWhile
import PowerClass.Proofs.Text.Ends

/-!
# PowerClass.Proofs.Text.Trimmed

What trimming leaves, said without the way it is found.

* `trimmed_iff`: a trimmed text is what remains between the longest white space at either end, and
  there is one such text only.
-/

namespace PowerClass
namespace Text

/-- The inner text is all of a text but white space at its ends, where it has none itself. -/
structure Trimmed (text inner : String) : Prop where
  split : ∃ front back, (∀ c ∈ front, isBlank c = true) ∧ (∀ c ∈ back, isBlank c = true) ∧
    text.toList = front ++ inner.toList ++ back
  head_not_blank : ∀ c ∈ inner.toList.head?, isBlank c = false
  last_not_blank : ∀ c ∈ inner.toList.getLast?, isBlank c = false

theorem last_dropTail {p : Char → Bool} {cs : List Char} :
    ∀ c ∈ (dropTail p cs).getLast?, p c = false := by
  intro c hc
  rw [dropTail, List.getLast?_reverse] at hc
  have h := List.head?_dropWhile_not p cs.reverse
  rw [Option.mem_def.mp hc] at h
  simpa using h

theorem head_dropTail {p : Char → Bool} {cs : List Char} {c : Char}
    (hc : c ∈ (dropTail p cs).head?) : c ∈ cs.head? := by
  obtain ⟨rest, hr⟩ := List.head?_eq_some_iff.mp hc
  have h := dropTail_append_takeWhile p cs
  rw [hr, List.cons_append] at h
  rw [← h]
  rfl

theorem trimmed_trim (text : String) : Trimmed text (trim text) := by
  have hlist : (trim text).toList = trimChars text.toList := by rw [trim, String.toList_ofList]
  constructor
  case split =>
    rw [hlist]
    exact trimChars_eq_infix text.toList
  case head_not_blank =>
    intro c hc
    rw [hlist] at hc
    have h := List.head?_dropWhile_not isBlank text.toList
    rw [Option.mem_def.mp (head_dropTail hc)] at h
    simpa using h
  case last_not_blank =>
    rw [hlist]
    exact last_dropTail

theorem trimmed_iff {text inner : String} : Trimmed text inner ↔ inner = trim text := by
  constructor
  · rintro ⟨⟨front, back, hf, hb, htext⟩, hhead, hlast⟩
    have hd : (front ++ inner.toList ++ back).dropWhile isBlank =
        (inner.toList ++ back).dropWhile isBlank := by
      rw [List.append_assoc, List.dropWhile_append_of_pos hf]
    rw [← String.toList_inj, trim, String.toList_ofList, trimChars, htext, hd]
    -- White space at the end belongs to the front when nothing stands between the two.
    cases hi : inner.toList with
    | nil =>
      have hback : back.dropWhile isBlank = [] := List.dropWhile_eq_nil_iff.mpr hb
      rw [List.nil_append, hback]
      rfl
    | cons c rest =>
      rw [hi] at hhead hlast
      rw [dropWhile_eq_self_of_head (by simpa using hhead), dropTail_append_of_forall hb,
        dropTail_eq_self_of_last hlast]
  · rintro rfl
    exact trimmed_trim text

end Text
end PowerClass
