import PowerClass.Proofs.Disk.Tree

/-!
# PowerClass.Proofs.Disk.Names

The names in a tree. A path that is written as text goes through names of files, and through the
steps to where one stands and upwards, which are names of nothing. So whatever is done by such paths
gives places that are made of names of files.

* `Path.Proper`: the steps of every path that was written as text (`Path.proper_ofString`,
  `Path.Proper.join`).
* `Tree.WellNamed`: each name in a tree is one step of a path. Every operation on files keeps it
  (`Tree.WellNamed.writeText`, `addFile`, `makeDirectories`, `remove`), so it holds of every tree
  that was made by them (`Tree.Made.wellNamed`).
-/

namespace PowerClass

namespace Path

/-- Each step of a path leads to where one stands, or upwards, or has the name of a file. -/
def Proper (path : Path) : Prop :=
  ∀ step ∈ path.steps, step ≠ "." → step ≠ ".." → IsComponent step

theorem slash_not_mem_of_mem_splitSlashes {cs part : List Char} (h : part ∈ splitSlashes cs) :
    '/' ∉ part := by
  induction cs generalizing part with
  | nil =>
    rw [splitSlashes, List.mem_singleton] at h
    rw [h]
    exact List.not_mem_nil
  | cons c rest ih =>
    rw [splitSlashes] at h
    split at h
    · rcases List.mem_cons.mp h with rfl | h
      · exact List.not_mem_nil
      · exact ih h
    · next hc =>
      split at h
      · rw [List.mem_singleton.mp h, List.mem_singleton]
        exact Ne.symm hc
      · next first others hs =>
        rw [hs] at ih
        rcases List.mem_cons.mp h with rfl | h
        · rw [List.mem_cons, not_or]
          exact ⟨Ne.symm hc, ih List.mem_cons_self⟩
        · exact ih (List.mem_cons_of_mem _ h)

/-- A step between slashes is the step to where one stands or not empty. -/
theorem mem_stepsOf {parts : List (List Char)} {step : String} (h : step ∈ stepsOf parts) :
    step = "." ∨ ∃ part ∈ parts, part ≠ [] ∧ step = String.ofList part := by
  fun_induction stepsOf parts with
  | case1 => cases h
  | case2 => exact .inl (List.mem_singleton.mp h)
  | case3 rest _ ih =>
    rcases ih h with h | ⟨part, hm, hp⟩
    · exact .inl h
    · exact .inr ⟨part, List.mem_cons_of_mem _ hm, hp⟩
  | case4 part rest _ hne ih =>
    rcases List.mem_cons.mp h with rfl | h
    · exact .inr ⟨part, List.mem_cons_self, hne, rfl⟩
    · rcases ih h with h | ⟨other, hm, hp⟩
      · exact .inl h
      · exact .inr ⟨other, List.mem_cons_of_mem _ hm, hp⟩

theorem isComponent_of_mem_stepsOf {cs : List Char} {step : String}
    (h : step ∈ stepsOf (splitSlashes cs)) (hhere : step ≠ ".") (hup : step ≠ "..") :
    IsComponent step := by
  rcases mem_stepsOf h with rfl | ⟨part, hm, hne, rfl⟩
  · exact absurd rfl hhere
  · refine ⟨fun he => hne ?_, ?_, hhere, hup⟩
    · rw [← String.toList_ofList (l := part), he]
      rfl
    · rw [String.toList_ofList]
      exact slash_not_mem_of_mem_splitSlashes hm

theorem proper_ofString (text : String) : (ofString text).Proper := by
  intro step hs hhere hup
  unfold ofString at hs
  split at hs
  · cases hs
  · exact isComponent_of_mem_stepsOf hs hhere hup
  · exact isComponent_of_mem_stepsOf hs hhere hup

theorem Proper.join {path : Path} (h : path.Proper) (name : String) : (path.join name).Proper := by
  intro step hs hhere hup
  unfold Path.join at hs
  simp only at hs
  split at hs
  · exact proper_ofString name step hs hhere hup
  · rcases List.mem_append.mp hs with hs | hs
    · exact h step hs hhere hup
    · split at hs
      · exact absurd (List.mem_singleton.mp hs) hhere
      · exact proper_ofString name step hs hhere hup

end Path

namespace Tree

/-- A place whose names are names of files. -/
def IsPlace (place : Place) : Prop :=
  ∀ name ∈ place, Path.IsComponent name

/-- Each name in a tree is the name of a file. -/
structure WellNamed (tree : Tree) : Prop where
  places : ∀ entry ∈ tree.nodes, IsPlace entry.1
  here : IsPlace tree.here

instance (place : Place) : Decidable (IsPlace place) :=
  inferInstanceAs (Decidable (∀ name ∈ place, Path.IsComponent name))

instance (tree : Tree) : Decidable tree.WellNamed :=
  decidable_of_iff ((∀ entry ∈ tree.nodes, IsPlace entry.1) ∧ IsPlace tree.here)
    ⟨fun ⟨hp, hh⟩ => ⟨hp, hh⟩, fun ⟨hp, hh⟩ => ⟨hp, hh⟩⟩

variable {tree after : Tree} {path : Path}

/-! ## Places of paths -/

theorem isPlace_nil : IsPlace [] :=
  fun _ hm => absurd hm List.not_mem_nil

theorem IsPlace.tail {place : Place} (h : IsPlace place) : IsPlace place.tail :=
  fun name hm => h name (List.mem_of_mem_tail hm)

theorem IsPlace.cons {place : Place} (h : IsPlace place) {step : String}
    (hs : Path.IsComponent step) : IsPlace (step :: place) :=
  List.forall_mem_cons.mpr ⟨hs, h⟩

theorem isPlace_of_walk {place there : Place} {steps : List String} (hp : IsPlace place)
    (hs : ∀ step ∈ steps, step ≠ "." → step ≠ ".." → Path.IsComponent step)
    (h : tree.walk place steps = .ok there) : IsPlace there := by
  induction steps generalizing place with
  | nil =>
    cases h
    exact hp
  | cons step rest ih =>
    obtain ⟨hstep, hrest⟩ := List.forall_mem_cons.mp hs
    rw [walk] at h
    split at h
    · cases h
    · cases h
    · by_cases hhere : step = "."
      · rw [if_pos hhere] at h
        exact ih hp hrest h
      · by_cases hup : step = ".."
        · rw [if_neg hhere, if_pos hup] at h
          exact ih hp.tail hrest h
        · rw [if_neg hhere, if_neg hup] at h
          exact ih (hp.cons (hstep hhere hup)) hrest h

theorem WellNamed.isPlace_of_resolve (hn : tree.WellNamed) (hp : path.Proper) {place : Place}
    (h : tree.resolve path = .ok place) : IsPlace place := by
  unfold resolve at h
  split at h
  · exact isPlace_of_walk isPlace_nil hp h
  · split at h
    · cases h
    · exact isPlace_of_walk hn.here hp h

theorem WellNamed.isComponent_of_listed (hn : tree.WellNamed) {root : Path} {names : List String}
    (h : tree.listDirectory root = .ok names) {name : String} (hm : name ∈ names) :
    Path.IsComponent name := by
  obtain ⟨place, -, -, hnames⟩ := exists_place_of_listDirectory h
  obtain ⟨node, hnode⟩ := (hnames name).mp hm
  exact hn.places _ hnode name List.mem_cons_self

/-! ## Operations -/

namespace WellNamed

variable (hn : tree.WellNamed)
include hn

theorem put {place : Place} (hp : IsPlace place) (node : TreeNode) :
    (tree.put place node).WellNamed where
  places := by
    refine List.forall_mem_cons.mpr ⟨hp, fun entry hm => ?_⟩
    exact hn.places entry (List.mem_filter.mp hm).1
  here := hn.here

theorem erase (place : Place) : (tree.erase place).WellNamed where
  places entry hm := hn.places entry (List.mem_filter.mp hm).1
  here := hn.here

theorem makeSteps {place : Place} {steps : List String} (hp : IsPlace place)
    (hs : ∀ step ∈ steps, step ≠ "." → step ≠ ".." → Path.IsComponent step)
    (h : tree.makeSteps place steps = .ok after) : after.WellNamed := by
  -- Each directory that is made leaves a tree from which the rest of the steps is made.
  induction steps generalizing tree place with
  | nil =>
    cases h
    exact hn
  | cons step rest ih =>
    obtain ⟨hstep, hrest⟩ := List.forall_mem_cons.mp hs
    rw [Tree.makeSteps] at h
    by_cases hhere : step = "."
    · rw [if_pos hhere] at h
      exact ih hn hp hrest h
    · by_cases hup : step = ".."
      · rw [if_neg hhere, if_pos hup] at h
        exact ih hn hp.tail hrest h
      · have hplace := hp.cons (hstep hhere hup)
        rw [if_neg hhere, if_neg hup] at h
        split at h
        · exact ih hn hplace hrest h
        · cases h
        · exact ih (hn.put hplace _) hplace hrest h

variable (hp : path.Proper)
include hp

theorem writeText {text : String} (h : tree.writeText path text = .ok after) :
    after.WellNamed := by
  unfold Tree.writeText at h
  cases hr : tree.resolve path with
  | error e =>
    rw [hr] at h
    cases h
  | ok place =>
    rw [hr] at h
    simp only at h
    have hplace := hn.isPlace_of_resolve hp hr
    split at h
    · cases h
    · cases h
      exact hn.put hplace _
    · split at h
      · cases h
        exact hn.put hplace _
      · cases h
      · cases h

theorem makeDirectories (h : tree.makeDirectories path = .ok after) : after.WellNamed := by
  unfold Tree.makeDirectories at h
  split at h
  · exact hn.makeSteps isPlace_nil hp h
  · exact hn.makeSteps hn.here hp h

theorem addFile {content : Content} {permissions : Nat}
    (h : tree.addFile path content permissions = .ok after) : after.WellNamed := by
  have hstart : IsPlace (if path.isAbsolute then [] else tree.here) := by
    split
    · exact isPlace_nil
    · exact hn.here
  have hsteps : ∀ step ∈ path.steps.dropLast, step ≠ "." → step ≠ ".." → Path.IsComponent step :=
    fun step hm => hp step (List.dropLast_subset _ hm)
  unfold Tree.addFile at h
  simp only at h
  split at h
  · cases h
  · next made hmade =>
    have hmade := hn.makeSteps hstart hsteps hmade
    split at h
    · cases h
    · next place hr =>
      cases h
      exact hmade.put (hmade.isPlace_of_resolve hp hr) _

omit hp in
theorem remove (path : Path) : (tree.remove path).WellNamed := by
  unfold Tree.remove
  split
  · exact hn.erase _
  · exact hn

end WellNamed

/-- Trees that are made by operations on files, from nothing at all. -/
inductive Made : Tree → Prop where
  | empty : Made ⟨[], []⟩
  | writeText {tree after : Tree} {path : Path} {text : String} (made : Made tree)
    (proper : path.Proper) (eq : tree.writeText path text = .ok after) : Made after
  | makeDirectories {tree after : Tree} {path : Path} (made : Made tree) (proper : path.Proper)
    (eq : tree.makeDirectories path = .ok after) : Made after
  | addFile {tree after : Tree} {path : Path} {content : Content} {permissions : Nat}
    (made : Made tree) (proper : path.Proper)
    (eq : tree.addFile path content permissions = .ok after) : Made after
  | remove {tree : Tree} (made : Made tree) (path : Path) : Made (tree.remove path)

theorem Made.wellNamed (h : Made tree) : tree.WellNamed := by
  induction h with
  | empty => exact ⟨fun entry hm => absurd hm List.not_mem_nil, isPlace_nil⟩
  | writeText _ proper eq ih => exact ih.writeText proper eq
  | makeDirectories _ proper eq ih => exact ih.makeDirectories proper eq
  | addFile _ proper eq ih => exact ih.addFile proper eq
  | remove _ path ih => exact ih.remove path

end Tree
end PowerClass
