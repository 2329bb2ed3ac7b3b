import Mathlib.Data.List.Basic
import PowerClass.Text.Blank

/-!
# PowerClass.Proofs.Text.Pieces

Sequences that are cut at a separator, and texts that are cut into lines.

* `not_mem_of_mem_splitOn`: no piece has the separator.
* `dropLast_splitOn_flatMap`: of items that a separator ends, each gives its own pieces, and nothing
  runs from one item into the next.
* `lines`: the lines of a text are its segments but the last, which no newline ends.
-/

namespace PowerClass
namespace Text

section

variable {α : Type} [BEq α] [LawfulBEq α] {sep : α}

theorem not_mem_of_mem_splitOn {xs piece : List α} (h : piece ∈ xs.splitOn sep) :
    sep ∉ piece := by
  induction xs generalizing piece with
  | nil =>
    rw [List.splitOn_nil, List.mem_singleton] at h
    simp [h]
  | cons x rest ih =>
    rw [List.splitOn_cons_eq_if_modifyHead] at h
    by_cases hx : x = sep
    · rw [if_pos (beq_iff_eq.mpr hx)] at h
      rcases List.mem_cons.mp h with rfl | h
      · exact List.not_mem_nil
      · exact ih h
    · rw [if_neg (mt beq_iff_eq.mp hx)] at h
      obtain ⟨first, others, he⟩ := List.exists_cons_of_ne_nil (List.splitOn_ne_nil sep rest)
      rw [he, List.modifyHead_cons] at h
      rcases List.mem_cons.mp h with rfl | h
      · have hf : sep ∉ first := ih (by simp [he])
        intro hm
        rcases List.mem_cons.mp hm with rfl | hm
        · exact hx rfl
        · exact hf hm
      · exact ih (by simp [he, h])

theorem dropLast_splitOn_append (xs rest : List α) :
    ((xs ++ sep :: rest).splitOn sep).dropLast =
      xs.splitOn sep ++ (rest.splitOn sep).dropLast := by
  rw [List.splitOn_append_cons_self,
    List.dropLast_append_of_ne_nil (List.splitOn_ne_nil sep rest)]

theorem dropLast_splitOn_flatMap (sep : α) (items : List (List α)) :
    ((items.flatMap fun item => item ++ [sep]).splitOn sep).dropLast =
      items.flatMap fun item => item.splitOn sep := by
  induction items with
  | nil => simp [List.splitOn_nil]
  | cons item rest ih =>
    simp only [List.flatMap_cons, List.append_assoc, List.singleton_append]
    rw [dropLast_splitOn_append, ih]

end

/-! ## Lines -/

/-- What stands between the newlines of a text, before the first and after the last of them. -/
def segments (s : String) : List String :=
  (s.toList.splitOn '\n').map String.ofList

/-- The lines of a text. What follows its last newline is none. -/
def lines (s : String) : List String :=
  (segments s).dropLast

theorem newline_not_mem_of_mem_segments {s segment : String} (h : segment ∈ segments s) :
    '\n' ∉ segment.toList := by
  obtain ⟨cs, hc, rfl⟩ := List.mem_map.mp h
  rw [String.toList_ofList]
  exact not_mem_of_mem_splitOn hc

theorem newline_not_mem_of_mem_lines {s line : String} (h : line ∈ lines s) :
    '\n' ∉ line.toList :=
  newline_not_mem_of_mem_segments (List.dropLast_subset _ h)

theorem segments_of_not_mem {s : String} (h : '\n' ∉ s.toList) : segments s = [s] := by
  rw [segments, List.splitOn_eq_singleton h]
  simp

theorem lines_ofList_flatMap (texts : List String) :
    lines (String.ofList (texts.flatMap fun text => text.toList ++ ['\n'])) =
      texts.flatMap segments := by
  have h := dropLast_splitOn_flatMap '\n' (texts.map String.toList)
  rw [List.flatMap_map, List.flatMap_map] at h
  simp only [lines, segments, String.toList_ofList]
  rw [← List.map_dropLast, h, List.map_flatMap]
  rfl

theorem newline_not_mem_firstLine (s : String) : '\n' ∉ (firstLine s).toList := by
  rw [firstLine, String.toList_ofList]
  intro hm
  have hall := List.all_takeWhile (p := (· != '\n')) (l := s.toList)
  have hne := List.all_eq_true.mp hall _ hm
  simp at hne

end Text
end PowerClass
