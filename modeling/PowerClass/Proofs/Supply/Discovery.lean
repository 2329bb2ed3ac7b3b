import PowerClass.Proofs.Disk.Names
import PowerClass.Proofs.Result
import PowerClass.Proofs.Supply.Directory

/-!
# PowerClass.Proofs.Supply.Discovery

The two ways to the supplies below a root: opening every directory that is listed there, and joining
a name to the root. Both open directories at the path of a name below the root; they differ in the
names. Only a component of a path is ever listed, in every tree that was made by operations on files
(`Tree.Made.wellNamed`).

* `exists_discover`: what is discovered below a root that can be listed.
* `find_of_mem`: whatever is discovered is found by its name.
* `findAgrees_iff`: the names for which finding goes no further than discovering.
-/

namespace PowerClass
namespace Directory

variable {σ : Type} [Disk (StateM σ)] [TreeDisk σ] {registry : Registry}

open TreeDisk (tree)

/-! ## Discovering -/

theorem subdirectories_eq (root : Path) (names : List String) (s : σ) :
    (subdirectories root names : StateM σ _) s =
      ((names.filter fun name => (tree s).isDirectory (root.join name)).map root.join, s) := by
  induction names with
  | nil => rfl
  | cons name rest ih =>
    unfold subdirectories
    simp only [bind, StateT.bind, isDirectory_disk, ih, List.filter_cons]
    by_cases hd : (tree s).isDirectory (root.join name) = true <;> simp [hd] <;> rfl

theorem openAll_eq (hw : registry.WellFormed) (paths : List Path) (s : σ) :
    (openAll registry paths : StateM σ _) s =
      (paths.map fun path => (path, ((Directory.open registry path : StateM σ _) s).1), s) := by
  induction paths with
  | nil => rfl
  | cons path rest ih =>
    obtain ⟨result, hr⟩ : ∃ result, (Directory.open registry path : StateM σ _) s = (result, s) :=
      ⟨_, open_eq hw path s⟩
    unfold openAll
    simp only [bind, StateT.bind, hr, ih, List.map_cons]
    rfl

theorem mem_supplies_iff {opened : List (Path × Except OpenError Directory)}
    {directory : Directory} :
    directory ∈ supplies opened ↔ ∃ path, (path, .ok directory) ∈ opened := by
  simp only [supplies, List.mem_filterMap, Result.toOption_eq_some]
  constructor
  · rintro ⟨⟨path, result⟩, hm, rfl⟩
    exact ⟨path, hm⟩
  · rintro ⟨path, hm⟩
    exact ⟨_, hm, rfl⟩

/-- What opening the directories among the names below a root gives, in the order of the names. -/
def openings (registry : Registry) (root : Path) (names : List String) (s : σ) :
    List (Path × Except OpenError Directory) :=
  let listed := (names.mergeSort fun a b => a ≤ b).filter fun name =>
    (tree s).isDirectory (root.join name)
  (listed.map root.join).map fun path =>
    (path, ((Directory.open registry path : StateM σ _) s).1)

theorem survey_eq (hw : registry.WellFormed) {root : Path} {s : σ} {names : List String}
    (hl : (tree s).listDirectory root = .ok names) :
    (survey registry root : StateM σ _) s = (.ok (openings registry root names s), s) := by
  unfold survey
  simp only [bind, StateT.bind, TreeDisk.listDirectory_eq, hl, subdirectories_eq, map_apply,
    openAll_eq hw]
  rfl

theorem mem_openings_iff {root path : Path} {names : List String} {s : σ}
    {result : Except OpenError Directory} :
    (path, result) ∈ openings registry root names s ↔ ∃ name ∈ names, root.join name = path ∧
      (tree s).isDirectory path = true ∧
        ((Directory.open registry path : StateM σ _) s).1 = result := by
  simp only [openings, List.mem_map, List.mem_filter, List.mem_mergeSort, Prod.mk.injEq]
  constructor
  · rintro ⟨_, ⟨name, ⟨hm, hd⟩, rfl⟩, rfl, ho⟩
    exact ⟨name, hm, rfl, hd, ho⟩
  · rintro ⟨name, hm, rfl, hd, ho⟩
    exact ⟨_, ⟨name, ⟨hm, hd⟩, rfl⟩, rfl, ho⟩

/-- What is discovered below a root is what can be opened among the directories that are listed. -/
theorem exists_discover (hw : registry.WellFormed) {root : Path} {s : σ} {names : List String}
    (hl : (tree s).listDirectory root = .ok names) :
    ∃ found, (discover registry root : StateM σ _) s = (.ok found, s) ∧
      ∀ directory, directory ∈ found ↔ ∃ name ∈ names,
        (tree s).isDirectory (root.join name) = true ∧
          ((Directory.open registry (root.join name) : StateM σ _) s).1 = .ok directory := by
  refine ⟨supplies (openings registry root names s), ?_, fun directory => ?_⟩
  · rw [discover, map_apply, survey_eq hw hl]
    rfl
  · simp only [mem_supplies_iff, mem_openings_iff]
    constructor
    · rintro ⟨_, name, hm, rfl, hd, ho⟩
      exact ⟨name, hm, hd, ho⟩
    · rintro ⟨name, hm, hd, ho⟩
      exact ⟨_, name, hm, rfl, hd, ho⟩

theorem find_eq_ok_iff (root : Path) (name : String) (s : σ) {directory : Directory} :
    ((find registry root name : StateM σ _) s).1 = .ok directory ↔
      (tree s).isDirectory (root.join name) = true ∧
        ((Directory.open registry (root.join name) : StateM σ _) s).1 = .ok directory := by
  have hfind : (find registry root name : StateM σ _) s =
      if (tree s).isDirectory (root.join name) then
        (Directory.open registry (root.join name) : StateM σ _) s
      else (.error (.notFound name root), s) := by
    unfold find
    simp only [bind, StateT.bind, isDirectory_disk]
    split <;> rfl
  rw [hfind]
  by_cases hd : (tree s).isDirectory (root.join name) = true
  · simp [hd]
  · simp [hd]

theorem open_join_eq_ok_iff (hw : registry.WellFormed) (root : Path) {name : String}
    (hc : Path.IsComponent name) {s : σ} {directory : Directory} :
    ((Directory.open registry (root.join name) : StateM σ _) s).1 = .ok directory ↔
      directory = opened registry (root.join name) name (tree s) := by
  rw [open_eq hw, Path.fileName?_join hc]
  exact ⟨fun h => (Except.ok.inj h).symm, fun h => congrArg Except.ok h.symm⟩

/-! ## Finding -/

/-- Finding a name agrees with discovering: what is found is the supply of that name among those
that are discovered, and it is the directory that is listed below the root under the name. -/
structure FindAgrees (registry : Registry) (root : Path) (s : σ) (names : List String)
    (found : List Directory) (name : String) : Prop where
  ok_iff : ∀ directory, ((find registry root name : StateM σ _) s).1 = .ok directory ↔
    directory ∈ found ∧ directory.declaration.name = name
  below : ∀ directory, ((find registry root name : StateM σ _) s).1 = .ok directory →
    name ∈ names ∧ directory.path = root.join name ∧
      (tree s).find directory.path = .ok .directory

section

variable (hw : registry.WellFormed) {root : Path} {s : σ} {names : List String}
  (hl : (tree s).listDirectory root = .ok names) (hn : (tree s).WellNamed)
  {found : List Directory}
  (hfound : ∀ directory, directory ∈ found ↔ ∃ name ∈ names,
    (tree s).isDirectory (root.join name) = true ∧
      ((Directory.open registry (root.join name) : StateM σ _) s).1 = .ok directory)
include hw hl hn hfound

/-- Whatever is discovered is named by a component, and is found by its name. -/
theorem find_of_mem {directory : Directory} (hm : directory ∈ found) :
    Path.IsComponent directory.declaration.name ∧
      ((find registry root directory.declaration.name : StateM σ _) s).1 = .ok directory := by
  obtain ⟨name, hname, hd, ho⟩ := (hfound directory).mp hm
  have hc := hn.isComponent_of_listed hl hname
  have heq := (open_join_eq_ok_iff hw root hc).mp ho
  have hdecl : directory.declaration.name = name := congrArg (·.declaration.name) heq
  rw [hdecl]
  exact ⟨hc, (find_eq_ok_iff root name s).mpr ⟨hd, ho⟩⟩

theorem findAgrees_of_isComponent {name : String} (hc : Path.IsComponent name) :
    FindAgrees registry root s names found name := by
  have hfind : ∀ directory, ((find registry root name : StateM σ _) s).1 = .ok directory →
      (tree s).find (root.join name) = .ok .directory ∧ name ∈ names ∧
        directory = opened registry (root.join name) name (tree s) := by
    intro directory hf
    obtain ⟨hd, ho⟩ := (find_eq_ok_iff root name s).mp hf
    have hd := Tree.isDirectory_iff.mp hd
    exact ⟨hd, Tree.mem_of_find_join hl hc hd, (open_join_eq_ok_iff hw root hc).mp ho⟩
  constructor
  case ok_iff =>
    intro directory
    constructor
    · intro hf
      obtain ⟨hd, hm, heq⟩ := hfind directory hf
      exact ⟨(hfound directory).mpr ⟨name, hm, (find_eq_ok_iff root name s).mp hf⟩,
        congrArg (·.declaration.name) heq⟩
    · rintro ⟨hm, rfl⟩
      exact (find_of_mem hw hl hn hfound hm).2
  case below =>
    intro directory hf
    obtain ⟨hd, hm, rfl⟩ := hfind directory hf
    exact ⟨hm, rfl, hd⟩

end

/-- **Finding and discovering.** Below a root that can be listed, finding a name agrees with
discovering exactly when the name is a component of a path, or leads to nothing that can be opened.
Any other name that leads to a directory is found without being listed. -/
theorem findAgrees_iff {additions : List Addition} (hb : Registry.build additions = .ok registry)
    {root : Path} {s : σ} {names : List String} (hl : (tree s).listDirectory root = .ok names)
    (hn : (tree s).WellNamed) :
    ∃ found, (discover registry root : StateM σ _) s = (.ok found, s) ∧
      ∀ name, FindAgrees registry root s names found name ↔
        Path.IsComponent name ∨ (root.join name).fileName? = none ∨
          (tree s).find (root.join name) ≠ .ok .directory := by
  have hw := Registry.wellFormed_of_build hb
  obtain ⟨found, hdiscover, hfound⟩ := exists_discover hw hl
  refine ⟨found, hdiscover, fun name => ⟨fun h => ?_, ?_⟩⟩
  · by_contra hnot
    push Not at hnot
    obtain ⟨hc, hname, hd⟩ := hnot
    obtain ⟨last, hlast⟩ := Option.ne_none_iff_exists'.mp hname
    have hf : ((find registry root name : StateM σ _) s).1 =
        .ok (opened registry (root.join name) last (tree s)) :=
      (find_eq_ok_iff root name s).mpr
        ⟨Tree.isDirectory_iff.mpr hd, (open_eq_ok_iff hw).mpr ⟨last, hlast, rfl⟩⟩
    exact hc (hn.isComponent_of_listed hl (h.below _ hf).1)
  · intro h
    by_cases hc : Path.IsComponent name
    · exact findAgrees_of_isComponent hw hl hn hfound hc
    -- Nothing is found under any other name, nor discovered.
    have hnot : ∀ directory, ((find registry root name : StateM σ _) s).1 ≠ .ok directory := by
      intro directory hf
      obtain ⟨hd, ho⟩ := (find_eq_ok_iff root name s).mp hf
      obtain ⟨last, hlast, -⟩ := (open_eq_ok_iff hw).mp ho
      rcases h with hcomponent | hname | hdir
      · exact hc hcomponent
      · rw [hlast] at hname
        cases hname
      · exact hdir (Tree.isDirectory_iff.mp hd)
    constructor
    case ok_iff =>
      intro directory
      refine ⟨fun hf => absurd hf (hnot directory), ?_⟩
      rintro ⟨hm, rfl⟩
      exact absurd (find_of_mem hw hl hn hfound hm).1 hc
    case below => exact fun directory hf => absurd hf (hnot directory)

/-- A class with one supply, and a directory outside the class. -/
def classTree : Tree :=
  ⟨[(["class"], .directory), (["AC", "class"], .directory),
    (["type", "AC", "class"], .file (.text "Mains\n") 0o644), (["other"], .directory),
    (["BAT9", "other"], .directory), (["type", "BAT9", "other"], .file (.text "Battery\n") 0o644)],
    []⟩

theorem findAgrees_iff_classTree :
    Registry.build [] = .ok .standard ∧
      classTree.listDirectory (.ofString "class") = .ok ["AC"] ∧ classTree.WellNamed ∧
      ∃ found, (discover .standard (.ofString "class") : StateM Tree _) classTree =
          (.ok found, classTree) ∧
        ∀ name, FindAgrees .standard (.ofString "class") classTree ["AC"] found name ↔
          Path.IsComponent name ∨ ((Path.ofString "class").join name).fileName? = none ∨
            classTree.find ((Path.ofString "class").join name) ≠ .ok .directory := by
  have hl : classTree.listDirectory (.ofString "class") = .ok ["AC"] := by decide
  have hn : classTree.WellNamed := by decide
  exact ⟨Registry.build_nil, hl, hn, findAgrees_iff Registry.build_nil hl hn⟩

/-- The name of a path that leads out of the class is found, though no supply is called that. -/
theorem find_outside_class :
    ∃ found directory,
      (discover .standard (.ofString "class") : StateM Tree _) classTree =
        (.ok found, classTree) ∧
      (∀ other ∈ found, other.declaration.name = "AC") ∧
      ((find .standard (.ofString "class") "../other/BAT9" : StateM Tree _) classTree).1 =
        .ok directory ∧
      directory.path.text = "class/../other/BAT9" ∧ directory.declaration.name = "BAT9" ∧
      ¬ FindAgrees .standard (.ofString "class") classTree ["AC"] found "../other/BAT9" := by
  have hw := Registry.wellFormed_of_build Registry.build_nil
  have hl : (tree classTree).listDirectory (.ofString "class") = .ok ["AC"] := by decide
  obtain ⟨found, hdiscover, hfound⟩ := exists_discover hw hl
  have hfind : ((find .standard (.ofString "class") "../other/BAT9" : StateM Tree _)
      classTree).1 =
        .ok (opened .standard ((Path.ofString "class").join "../other/BAT9") "BAT9" classTree) :=
    (find_eq_ok_iff _ _ _).mpr ⟨by decide, (open_eq_ok_iff hw).mpr ⟨"BAT9", by decide, rfl⟩⟩
  refine ⟨found, _, hdiscover, fun other ho => ?_, hfind, by decide, rfl, fun h => ?_⟩
  · obtain ⟨name, hm, -, hopen⟩ := (hfound other).mp ho
    obtain rfl := List.mem_singleton.mp hm
    rw [(open_join_eq_ok_iff hw _ (by decide)).mp hopen]
    rfl
  · have hm := (h.below _ hfind).1
    exact absurd hm (by decide)

end Directory
end PowerClass
