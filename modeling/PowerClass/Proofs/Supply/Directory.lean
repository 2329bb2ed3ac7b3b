import PowerClass.Proofs.Attribute.Access
import PowerClass.Proofs.Disk.Tree
import PowerClass.Proofs.Supply.Quiet
import PowerClass.Supply.Directory

/-!
# PowerClass.Proofs.Supply.Directory

Directories as supplies. A path with a file name is opened on every disk. Over a disk whose files
are those of a tree, opening a directory only looks at the tree, and so do readings of its
properties.

* `open_of_fileName?`: opening never fails for what is found there.
* `open_eq`: what is opened is a function of the tree.
* `Opened`: what holds of every directory that was opened.
* `get_eq`, `isWritable_eq`: what the device answers, by what the tree has at the path of a
  property.
-/

namespace PowerClass

/-- The name of a property is one step of a path, into the directory of a supply. -/
theorem Registry.IsName.isComponent {name : String} (h : Registry.IsName name) :
    Path.IsComponent name where
  ne_empty := h.1
  not_mem := h.not_mem (by decide)
  ne_here := by
    rintro rfl
    exact h.not_mem (c := '.') (by decide) (by decide)
  ne_up := by
    rintro rfl
    exact h.not_mem (c := '.') (by decide) (by decide)

namespace Directory

theorem map_apply {σ α β : Type} (f : α → β) (x : StateM σ α) (s : σ) :
    (f <$> x) s = (f (x s).1, (x s).2) := rfl

theorem decode_of_ne_text {kind : Kind} (hk : kind ≠ .text) (text : String) :
    decode kind text = (Codec.decode kind text).mapError .invalidValue := by
  cases kind with
  | text => exact absurd rfl hk
  | _ => rfl

variable {σ : Type} [Disk (StateM σ)] {registry : Registry}

/-! ## Opening -/

/-- What is found is registered, in the order of the registry, and not the supply's type, whatever
the disk answers. -/
theorem present_spec (path : Path) (ds : List Descriptor) (s : σ) :
    ((present path ds : StateM σ _) s).1.Sublist ds ∧
      ∀ d ∈ ((present path ds : StateM σ _) s).1, d.kind ≠ .deviceType := by
  induction ds generalizing s with
  | nil => exact ⟨.refl [], nofun⟩
  | cons d rest ih =>
    unfold present
    by_cases hk : d.kind = .deviceType
    · rw [if_pos hk]
      exact ⟨(ih s).1.cons d, (ih s).2⟩
    · rw [if_neg hk]
      obtain ⟨found, s', hf⟩ : ∃ found s', (Disk.isFile (path.join d.name) : StateM σ Bool) s =
        (found, s') := ⟨_, _, rfl⟩
      obtain ⟨hsub, hkind⟩ := ih s'
      simp only [bind, StateT.bind, hf]
      cases found with
      | false => exact ⟨hsub.cons d, hkind⟩
      | true => exact ⟨hsub.cons_cons d, List.forall_mem_cons.mpr ⟨hk, hkind⟩⟩

theorem valid_of_sublist (hw : registry.WellFormed) {ds : List Descriptor}
    (hs : ds.Sublist registry.descriptors) (hk : ∀ d ∈ ds, d.kind ≠ .deviceType) (name : String)
    (type : SupplyType) : (⟨name, type, ds.map Descriptor.id⟩ : Declaration).Valid registry where
  canDeclare id hi := by
    obtain ⟨d, hd, rfl⟩ := List.mem_map.mp hi
    exact ⟨d, hw.get?_id (hs.subset hd), hk d hd⟩
  nodup := hw.nodup_ids.sublist (hs.map _)

theorem open_of_fileName?_none {path : Path} (hn : path.fileName? = none) (s : σ) :
    (Directory.open registry path : StateM σ _) s = (.error (.notSupply path), s) := by
  unfold Directory.open
  rw [hn]
  rfl

/-- A path with a file name is opened on every disk: what is found there can be declared. -/
theorem open_of_fileName? (hw : registry.WellFormed) {path : Path} {name : String}
    (hn : path.fileName? = some name) (s : σ) :
    (Directory.open registry path : StateM σ _) s =
      let type := (Disk.readText (path.join "type") : StateM σ _) s
      let found := (present path registry.descriptors : StateM σ _) type.2
      (.ok ⟨path, ⟨name, typeOf type.1, found.1.map Descriptor.id⟩, found.1⟩, found.2) := by
  obtain ⟨read, s', hr⟩ : ∃ read s', (Disk.readText (path.join "type") : StateM σ _) s =
    (read, s') := ⟨_, _, rfl⟩
  obtain ⟨found, s'', hf⟩ : ∃ found s'', (present path registry.descriptors : StateM σ _) s' =
    (found, s'') := ⟨_, _, rfl⟩
  obtain ⟨hsub, hkind⟩ := present_spec path registry.descriptors s'
  rw [hf] at hsub hkind
  have hv : Declaration.validate registry name (typeOf read) (found.map Descriptor.id) =
      .ok ⟨name, typeOf read, found.map Descriptor.id⟩ :=
    Declaration.validate_eq_ok_iff.mpr ⟨rfl, valid_of_sublist hw hsub hkind name (typeOf read)⟩
  unfold Directory.open
  rw [hn]
  simp only [bind, StateT.bind, hr, hf, hv]
  rfl

/-! ## Disks that are only read -/

/-- Whether a property has a file in the directory of a path of a disk. -/
def hasFile (path : Path) (s : σ) (d : Descriptor) : Bool :=
  d.kind ≠ .deviceType && ((Disk.isFile (path.join d.name) : StateM σ Bool) s).1

theorem present_of_quiet (hq : Disk.Quiet σ) (path : Path) (ds : List Descriptor) (s : σ) :
    (present path ds : StateM σ _) s = (ds.filter (hasFile path s), s) := by
  induction ds with
  | nil => rfl
  | cons d rest ih =>
    unfold present
    by_cases hk : d.kind = .deviceType
    · rw [if_pos hk, ih, List.filter_cons]
      simp [hasFile, hk]
    · rw [if_neg hk]
      obtain ⟨found, hf⟩ : ∃ found, (Disk.isFile (path.join d.name) : StateM σ Bool) s =
        (found, s) := ⟨_, Prod.ext rfl (hq.status _ s)⟩
      simp only [bind, StateT.bind, hf, ih, List.filter_cons]
      cases found <;> simp [hasFile, hk, hf] <;> rfl

theorem quiet_supply (hq : Disk.Quiet σ) (directory : Directory) :
    (directory.supply : Supply (StateM σ)).Quiet where
  get id s := by
    show ((directory.get id : StateM σ _) s).2 = s
    unfold Directory.get
    cases directory.descriptor? id with
    | none => rfl
    | some d => exact hq.readText _ s
  isWritable id s := by
    show ((directory.isWritable id : StateM σ _) s).2 = s
    unfold Directory.isWritable
    cases directory.descriptor? id with
    | none => rfl
    | some d => exact hq.status _ s

variable [TreeDisk σ]

open TreeDisk (tree)

/-! ## What a disk answers -/

section

variable (path : Path) (s : σ)

theorem isFile_disk : (Disk.isFile path : StateM σ Bool) s = ((tree s).isFile path, s) := by
  rw [Disk.isFile, map_apply, TreeDisk.status_eq]
  rfl

theorem isDirectory_disk :
    (Disk.isDirectory path : StateM σ Bool) s = ((tree s).isDirectory path, s) := by
  rw [Disk.isDirectory, map_apply, TreeDisk.status_eq]
  rfl

theorem isWritable_disk :
    (Disk.isWritable path : StateM σ Bool) s = ((tree s).isWritable path, s) := by
  rw [Disk.isWritable, map_apply, TreeDisk.status_eq]
  rfl

end

/-! ## Opening a directory of a tree -/

/-- Whether a property has a file in the directory of a path. -/
def isPresent (tree : Tree) (path : Path) (d : Descriptor) : Bool :=
  d.kind ≠ .deviceType && tree.isFile (path.join d.name)

theorem present_eq (path : Path) (ds : List Descriptor) (s : σ) :
    (present path ds : StateM σ _) s = (ds.filter (isPresent (tree s) path), s) := by
  have hfile : hasFile path s = isPresent (tree s) path := by
    funext d
    rw [hasFile, isFile_disk]
    rfl
  rw [present_of_quiet (TreeDisk.quiet σ), hfile]

/-- The directory at a path of a tree, under a name. -/
def opened (registry : Registry) (path : Path) (name : String) (tree : Tree) : Directory :=
  let descriptors := registry.descriptors.filter (isPresent tree path)
  ⟨path, ⟨name, typeOf (tree.readText (path.join "type")), descriptors.map Descriptor.id⟩,
    descriptors⟩

theorem valid_opened (hw : registry.WellFormed) (path : Path) (name : String) (tree : Tree) :
    (opened registry path name tree).declaration.Valid registry := by
  refine valid_of_sublist hw List.filter_sublist (fun d hd => ?_) name _
  have hp := (List.mem_filter.mp hd).2
  simp only [isPresent, Bool.and_eq_true, decide_eq_true_eq] at hp
  exact hp.1

/-- A path is opened exactly when it has a file name. -/
theorem open_eq (hw : registry.WellFormed) (path : Path) (s : σ) :
    (Directory.open registry path : StateM σ _) s =
      (match path.fileName? with
        | none => .error (.notSupply path)
        | some name => .ok (opened registry path name (tree s)), s) := by
  cases hn : path.fileName? with
  | none => exact open_of_fileName?_none hn s
  | some name =>
    rw [open_of_fileName? hw hn]
    simp only [TreeDisk.readText_eq, present_eq]
    rfl

theorem open_eq_ok_iff (hw : registry.WellFormed) {path : Path} {s : σ} {directory : Directory} :
    ((Directory.open registry path : StateM σ _) s).1 = .ok directory ↔
      ∃ name, path.fileName? = some name ∧ directory = opened registry path name (tree s) := by
  rw [open_eq hw]
  cases path.fileName? with
  | none => simp
  | some name => simp [eq_comm]

/-! ## Opened directories -/

/-- What holds of every directory that was opened: it knows properties of the registry, and has
declared what it knows. -/
structure Opened (registry : Registry) (directory : Directory) : Prop where
  sublist : directory.descriptors.Sublist registry.descriptors
  properties_eq : directory.declaration.properties = directory.descriptors.map Descriptor.id
  valid : directory.declaration.Valid registry

theorem Opened.of_tree (hw : registry.WellFormed) (path : Path) (name : String) (tree : Tree) :
    Opened registry (opened registry path name tree) :=
  ⟨List.filter_sublist, rfl, valid_opened hw path name tree⟩

theorem opened_of_open (hw : registry.WellFormed) {path : Path} {s : σ} {directory : Directory}
    (h : ((Directory.open registry path : StateM σ _) s).1 = .ok directory) :
    Opened registry directory := by
  obtain ⟨name, -, rfl⟩ := (open_eq_ok_iff hw).mp h
  exact .of_tree hw path name (tree s)

namespace Opened

variable {directory : Directory} (h : Opened registry directory) (hw : registry.WellFormed)
  {d : Descriptor}
include h hw

theorem mem_properties_iff (hd : d ∈ registry.descriptors) :
    d.id ∈ directory.declaration.properties ↔ d ∈ directory.descriptors := by
  rw [h.properties_eq, List.mem_map]
  constructor
  · rintro ⟨d', hd', hid⟩
    have heq : d' = d := List.inj_on_of_nodup_map hw.nodup_ids (h.sublist.subset hd') hd hid
    rwa [← heq]
  · exact fun hm => ⟨d, hm, rfl⟩

theorem kind_ne_deviceType (hd : d ∈ directory.descriptors) : d.kind ≠ .deviceType := by
  have hm := h.sublist.subset hd
  exact h.valid.kind_ne_deviceType hw hm ((h.mem_properties_iff hw hm).mpr hd)

theorem descriptor?_of_mem (hd : d ∈ directory.descriptors) :
    directory.descriptor? d.id = some d := by
  obtain ⟨found, hf⟩ : ∃ found, directory.descriptor? d.id = some found :=
    Option.isSome_iff_exists.mp (List.find?_isSome.mpr ⟨d, hd, by simp⟩)
  have hid : found.id = d.id := by simpa using List.find?_some hf
  have hmem : found ∈ directory.descriptors := List.mem_of_find?_eq_some hf
  rw [hf, List.inj_on_of_nodup_map hw.nodup_ids (h.sublist.subset hmem) (h.sublist.subset hd) hid]

/-- A property is read from the text of its file. -/
theorem get_eq (hd : d ∈ directory.descriptors) (s : σ) :
    (directory.supply : Supply (StateM σ)).get d.id s =
      (match (tree s).readText (directory.path.join d.name) with
        | .error e => .error (.ofFile e)
        | .ok text => Directory.decode d.kind text, s) := by
  show (directory.get d.id : StateM σ _) s = _
  unfold Directory.get
  rw [h.descriptor?_of_mem hw hd]
  cases hr : (tree s).readText (directory.path.join d.name) <;>
    simp only [map_apply, TreeDisk.readText_eq, hr]

theorem isWritable_eq (hd : d ∈ directory.descriptors) (s : σ) :
    (directory.supply : Supply (StateM σ)).isWritable d.id s =
      ((tree s).isWritable (directory.path.join d.name), s) := by
  show (directory.isWritable d.id : StateM σ _) s = _
  unfold Directory.isWritable
  rw [h.descriptor?_of_mem hw hd]
  exact isWritable_disk _ s

end Opened

/-- What is declared by opening a directory are the properties that have a file there. -/
theorem mem_properties_opened_iff (hw : registry.WellFormed) {d : Descriptor}
    (hd : d ∈ registry.descriptors) (path : Path) (name : String) (tree : Tree) :
    d.id ∈ (opened registry path name tree).declaration.properties ↔
      isPresent tree path d = true := by
  rw [(Opened.of_tree hw path name tree).mem_properties_iff hw hd, opened, List.mem_filter,
    and_iff_right hd]

theorem quiet (directory : Directory) : (directory.supply : Supply (StateM σ)).Quiet :=
  quiet_supply (TreeDisk.quiet σ) directory

end Directory
end PowerClass
