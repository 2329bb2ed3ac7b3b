import PowerClass.Disk.Path

/-!
# PowerClass.Proofs.Disk.Path

Names that are one step of a path. Only for such a name is the path of the name below a directory
what one expects: one step more, and the name of the file that it leads to.

* `join_steps`, `join_isAbsolute`: the path of a component below a path.
* `fileName?_join`: it leads to a file of that name.
* `fileName?_eq_some_iff`: which name a path leads to.
-/

namespace PowerClass
namespace Path

/-- A name that is one step of a path, into a directory: not empty, without a slash, and neither the
step to the directory itself nor the step upwards. -/
structure IsComponent (name : String) : Prop where
  ne_empty : name ≠ ""
  not_mem : '/' ∉ name.toList
  ne_here : name ≠ "."
  ne_up : name ≠ ".."

instance (name : String) : Decidable (IsComponent name) :=
  decidable_of_iff (name ≠ "" ∧ '/' ∉ name.toList ∧ name ≠ "." ∧ name ≠ "..")
    ⟨fun ⟨he, hs, hd, hu⟩ => ⟨he, hs, hd, hu⟩, fun ⟨he, hs, hd, hu⟩ => ⟨he, hs, hd, hu⟩⟩

theorem splitSlashes_of_not_mem {cs : List Char} (h : '/' ∉ cs) : splitSlashes cs = [cs] := by
  induction cs with
  | nil => rfl
  | cons c rest ih =>
    rw [List.mem_cons, not_or] at h
    rw [splitSlashes, if_neg (Ne.symm h.1), ih h.2]

theorem ofString_of_isComponent {name : String} (h : IsComponent name) :
    ofString name = ⟨name, false, [name]⟩ := by
  have hne : name.toList ≠ [] := fun he => h.ne_empty (String.toList_inj.mp he)
  have hof : String.ofList name.toList = name := String.ofList_toList
  have hs := splitSlashes_of_not_mem h.not_mem
  have hmem := h.not_mem
  unfold ofString
  split
  · next he => exact absurd he hne
  · next cs he =>
    rw [he] at hmem
    exact absurd List.mem_cons_self hmem
  · rw [hs]
    obtain ⟨c, cs, hc⟩ := List.exists_cons_of_ne_nil hne
    rw [hc] at hof ⊢
    simp [stepsOf, hof]

section

variable {name : String} (h : IsComponent name) (path : Path)
include h

theorem join_steps : (path.join name).steps = path.steps ++ [name] := by
  simp [join, ofString_of_isComponent h, h.ne_empty]

theorem join_isAbsolute : (path.join name).isAbsolute = path.isAbsolute := by
  simp [join, ofString_of_isComponent h]

theorem fileName?_join : (path.join name).fileName? = some name := by
  have hlast : ((path.join name).steps.filter (· != ".")).getLast? = some name := by
    rw [join_steps h, List.filter_append]
    simp [h.ne_here]
  unfold fileName?
  rw [hlast]
  split
  · next he => cases he
  · next he => exact absurd (Option.some.inj he) h.ne_up
  · next he => exact he.symm

end

/-- The last step of a path that goes somewhere: after it come only steps to the same place. -/
def EndsIn (path : Path) (step : String) : Prop :=
  step ≠ "." ∧ ∃ before after, path.steps = before ++ step :: after ∧ ∀ other ∈ after, other = "."

theorem endsIn_iff {path : Path} {step : String} :
    path.EndsIn step ↔ (path.steps.filter (· != ".")).getLast? = some step := by
  rw [List.getLast?_filter, List.find?_eq_some_iff_append, EndsIn, bne_iff_ne]
  refine and_congr_right fun _ => ?_
  -- What is searched from the end is the list in reverse.
  constructor
  · rintro ⟨before, after, hs, ha⟩
    refine ⟨after.reverse, before.reverse, by simp [hs], fun other ho => ?_⟩
    simp [ha other (List.mem_reverse.mp ho)]
  · rintro ⟨after, before, hs, ha⟩
    refine ⟨before.reverse, after.reverse, ?_, fun other ho => ?_⟩
    · rw [← List.reverse_reverse path.steps, hs]
      simp
    · simpa using ha other (List.mem_reverse.mp ho)

theorem fileName?_eq_some_iff {path : Path} {name : String} :
    path.fileName? = some name ↔ path.EndsIn name ∧ name ≠ ".." := by
  rw [endsIn_iff]
  unfold fileName?
  split
  · next hl => simp [hl]
  · next hl =>
    rw [hl]
    constructor
    · exact nofun
    · rintro ⟨he, hu⟩
      exact absurd (Option.some.inj he).symm hu
  · next hu hl =>
    rw [hl, Option.some.injEq]
    constructor
    · rintro rfl
      exact ⟨rfl, hu⟩
    · exact And.left

end Path
end PowerClass
