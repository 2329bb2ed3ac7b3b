import Mathlib.Data.List.Find
import PowerClass.Proofs.Attribute.Views
import PowerClass.Proofs.Supply.Directory
import PowerClass.Proofs.Text.Trimmed

/-!
# PowerClass.Proofs.Supply.Opening

Opening the directory of a supply. The path has to end in a name, and nothing else is asked of the
disk: whatever is found can be declared, also on a disk that changes in the meantime. On a disk that
is only read the declaration is what is there.

* `SupplyType.namedBy_iff`: the type that a `type` file names, said without the table of types.
* `IsMap`: the descriptors that were found, kept in any order.
* `DeclaresFiles`: a declaration of exactly the files of a directory.
* `open_declaresFiles`: what opening answers.
-/

namespace PowerClass

namespace SupplyType

theorem all_ordinal (type : SupplyType) : all[type.ordinal]? = some type := by
  cases type <;> rfl

theorem position?_label (type : SupplyType) :
    Table.type.position? type.label = some type.ordinal := by
  cases type <;> decide

theorem ofLabel?_eq_some_iff {text : String} {type : SupplyType} :
    ofLabel? text = some type ↔ type.label = Text.trim text := by
  rw [ofLabel?, Option.bind_eq_some_iff]
  constructor
  · rintro ⟨i, hi, ht⟩
    obtain ⟨hlt, -⟩ := List.getElem?_eq_some_iff.mp ht
    have hord : i = type.ordinal :=
      (List.getElem?_inj hlt (by decide)).mp (ht.trans (all_ordinal type).symm)
    subst hord
    rw [label, Table.text?_position? hi]
    rfl
  · intro hl
    rw [← hl]
    exact ⟨type.ordinal, position?_label type, all_ordinal type⟩

/-- The type that a reading of a `type` file names. -/
inductive NamedBy : Except FileError String → SupplyType → Prop where
  | label {text : String} {type : SupplyType} :
      Text.Trimmed text type.label → NamedBy (.ok text) type
  | other {text inner : String} : Text.Trimmed text inner →
      (∀ type : SupplyType, type.label ≠ inner) → NamedBy (.ok text) .unknown
  | unreadable (e : FileError) : NamedBy (.error e) .unknown

theorem namedBy_iff {read : Except FileError String} {type : SupplyType} :
    NamedBy read type ↔ type = Directory.typeOf read := by
  constructor
  · intro h
    cases h with
    | label ht => rw [Directory.typeOf, ofLabel?_eq_some_iff.mpr (Text.trimmed_iff.mp ht)]; rfl
    | other ht hn =>
      rw [Text.trimmed_iff] at ht
      have hnone : ofLabel? _ = none := Option.eq_none_iff_forall_ne_some.mpr fun type hl =>
        hn type ((ofLabel?_eq_some_iff.mp hl).trans ht.symm)
      rw [Directory.typeOf, hnone]
      rfl
    | unreadable e => rfl
  · rintro rfl
    cases read with
    | error e => exact .unreadable e
    | ok text =>
      rw [Directory.typeOf]
      cases hl : ofLabel? text with
      | some type =>
        exact .label (Text.trimmed_iff.mpr (ofLabel?_eq_some_iff.mp hl))
      | none =>
        refine .other (Text.trimmed_trim text) fun type ht => ?_
        rw [ofLabel?_eq_some_iff.mpr ht] at hl
        cases hl

end SupplyType

/-- There is a regular file at a path, as a disk answers in a state. -/
def Disk.FileAt {σ : Type} [Disk (StateM σ)] (path : Path) (s : σ) : Prop :=
  ∃ file, ((Disk.status path : StateM σ _) s).1 = some file ∧ file.kind = .regular

namespace Supply

variable {σ : Type} {supply : Supply (StateM σ)} {s s' : σ}

theorem Quiet.eq_of_asked (hq : supply.Quiet) (h : supply.Asked s s') : s' = s := by
  induction h with
  | refl => rfl
  | isWritable id _ ih => rw [hq.isWritable id, ih]

/-- What may be written does not change by being asked. -/
theorem Quiet.writable (hq : supply.Quiet) (s : σ) :
    supply.Writable s fun id => (supply.isWritable id s).1 := by
  intro s' h id
  rw [hq.eq_of_asked h]

theorem Writable.map_descriptor_attributes {writable : PropertyId → Bool}
    (hp : supply.Writable s writable) (registry : Registry) :
    (supply.attributes registry s).1.map Attribute.descriptor =
      registry.descriptors.filter fun d => (supply.exposure writable d).isVisible := by
  rw [hp.attributes_eq, List.filter_map, List.map_map]
  exact List.map_id _

end Supply

namespace Directory

variable {σ : Type} [Disk (StateM σ)] {registry : Registry} {path : Path} {name : String} {s : σ}
  {directory : Directory}

theorem hasFile_iff {d : Descriptor} :
    hasFile path s d = true ↔ d.kind ≠ .deviceType ∧ Disk.FileAt (path.join d.name) s := by
  simp [hasFile, Disk.isFile, map_apply, Option.any_eq_true, Disk.FileAt]

/-- A property other than the type has a file below a path. -/
def PropertyFile (registry : Registry) (path : Path) (s : σ) (id : PropertyId) : Prop :=
  ∃ d ∈ registry.descriptors, d.id = id ∧ d.kind ≠ .deviceType ∧ Disk.FileAt (path.join d.name) s

/-- The descriptors of a directory are a map: in whatever order its entries are gone through, their
identifiers are sorted to the declared properties, and each of them is found. -/
structure IsMap (directory : Directory) : Prop where
  sort_eq : ∀ entries : List Descriptor, entries.Perm directory.descriptors →
    (entries.map Descriptor.id).mergeSort PropertyId.le = directory.declaration.properties
  find?_eq : ∀ entries : List Descriptor, entries.Perm directory.descriptors → ∀ id,
    entries.find? (fun d => d.id = id) = directory.descriptor? id

theorem Opened.isMap (h : Opened registry directory) (hw : registry.WellFormed) :
    directory.IsMap := by
  constructor
  case sort_eq =>
    intro entries hp
    have hids : (directory.descriptors.map Descriptor.id).Sublist
        (registry.descriptors.map Descriptor.id) := h.sublist.map _
    rw [h.properties_eq]
    exact PropertyId.Increasing.mergeSort_eq_of_perm (hw.increasing_ids.sublist hids) (hp.map _)
  case find?_eq =>
    intro entries hp id
    have hreg : ∀ d ∈ entries, d ∈ registry.descriptors :=
      fun d hd => h.sublist.subset (hp.mem_iff.mp hd)
    refine List.find?_eq_find?_of_perm hp ?_
    rintro d ⟨hd, hid⟩ d' ⟨hd', hid'⟩
    have heq : d.id = d'.id := (of_decide_eq_true hid).trans (of_decide_eq_true hid').symm
    exact List.inj_on_of_nodup_map hw.nodup_ids (hreg d hd) (hreg d' hd') heq

/-- The directory at a path declares what a disk has there in a state: its type is that of the
`type` file, its properties are those with a file, and only these and the type are listed. -/
structure DeclaresFiles (registry : Registry) (path : Path) (name : String) (s : σ)
    (directory : Directory) : Prop where
  path_eq : directory.path = path
  name_eq : directory.declaration.name = name
  type : SupplyType.NamedBy ((Disk.readText (path.join "type") : StateM σ _) s).1
    directory.declaration.type
  increasing : PropertyId.Increasing directory.declaration.properties
  mem_properties_iff : ∀ id, id ∈ directory.declaration.properties ↔
    PropertyFile registry path s id
  listed_sublist :
    (((directory.supply : Supply (StateM σ)).attributes registry s).1.map
      Attribute.descriptor).Sublist registry.descriptors
  mem_listed_iff : ∀ name,
    (∃ a ∈ ((directory.supply : Supply (StateM σ)).attributes registry s).1,
      a.descriptor.name = name) ↔
      name = "type" ∨ ∃ d ∈ registry.descriptors, d.name = name ∧ Disk.FileAt (path.join name) s

/-- What is opened on a disk that is only read. -/
theorem open_of_quiet (hw : registry.WellFormed) (hq : Disk.Quiet σ)
    (hn : path.fileName? = some name) (s : σ) :
    let found := registry.descriptors.filter (hasFile path s)
    let read := ((Disk.readText (path.join "type") : StateM σ _) s).1
    (Directory.open registry path : StateM σ _) s =
      (.ok ⟨path, ⟨name, typeOf read, found.map Descriptor.id⟩, found⟩, s) := by
  rw [open_of_fileName? hw hn]
  simp only [hq.readText, present_of_quiet hq]

/-- The attributes of a directory that has declared its files. -/
theorem mem_listed_of_quiet {t : Descriptor} (hw : registry.WellFormed) (ht : registry.IsType t)
    (hq : Disk.Quiet σ) (hv : directory.declaration.Valid registry)
    (hm : ∀ id, id ∈ directory.declaration.properties ↔ PropertyFile registry path s id)
    (name : String) :
    (∃ a ∈ ((directory.supply : Supply (StateM σ)).attributes registry s).1,
      a.descriptor.name = name) ↔
      name = "type" ∨
        ∃ d ∈ registry.descriptors, d.name = name ∧ Disk.FileAt (path.join name) s := by
  have hp := (quiet_supply hq directory).writable s
  constructor
  · rintro ⟨⟨d, mode⟩, ha, rfl⟩
    obtain ⟨hd, ⟨hname, -⟩ | ⟨hi, -⟩⟩ := (Supply.mem_listed_iff hw ht hv hp).mp ha
    · exact .inl hname
    · obtain ⟨d', hd', hid, -, hf⟩ := (hm d.id).mp hi
      rw [(hw.id_eq_iff hd' hd).mp hid] at hf
      exact .inr ⟨d, hd, rfl, hf⟩
  · rintro (rfl | ⟨d, hd, rfl, hf⟩)
    · exact ⟨⟨t, .readOnly⟩,
        (Supply.mem_listed_iff hw ht hv hp).mpr ⟨ht.mem, .inl ⟨ht.name_eq, rfl⟩⟩, ht.name_eq⟩
    · by_cases hk : d.kind = .deviceType
      · exact ⟨⟨d, .readOnly⟩, (Supply.mem_listed_iff hw ht hv hp).mpr
          ⟨hd, .inl ⟨by rw [ht.eq_of_kind d hd hk, ht.name_eq], rfl⟩⟩, rfl⟩
      · exact ⟨⟨d, _⟩, (Supply.mem_listed_iff hw ht hv hp).mpr
          ⟨hd, .inr ⟨(hm d.id).mpr ⟨d, hd, rfl, hk, hf⟩, rfl⟩⟩, rfl⟩

theorem declaresFiles_of_quiet {t : Descriptor} (hw : registry.WellFormed)
    (ht : registry.IsType t) (hq : Disk.Quiet σ) (path : Path) (name : String) (s : σ) :
    let found := registry.descriptors.filter (hasFile path s)
    let read := ((Disk.readText (path.join "type") : StateM σ _) s).1
    DeclaresFiles registry path name s
      ⟨path, ⟨name, typeOf read, found.map Descriptor.id⟩, found⟩ := by
  intro found read
  have hkind : ∀ d ∈ found, d.kind ≠ .deviceType := fun d hd =>
    (hasFile_iff.mp (List.mem_filter.mp hd).2).1
  have hv := valid_of_sublist hw List.filter_sublist hkind name (typeOf read)
  have hmem : ∀ id, id ∈ found.map Descriptor.id ↔ PropertyFile registry path s id := by
    intro id
    simp only [found, List.mem_map, List.mem_filter, hasFile_iff, PropertyFile]
    constructor
    · rintro ⟨d, ⟨hd, hf⟩, hid⟩
      exact ⟨d, hd, hid, hf⟩
    · rintro ⟨d, hd, hid, hf⟩
      exact ⟨d, ⟨hd, hf⟩, hid⟩
  constructor
  case path_eq => rfl
  case name_eq => rfl
  case type => exact SupplyType.namedBy_iff.mpr rfl
  case increasing => exact hw.increasing_ids.sublist (List.filter_sublist.map _)
  case mem_properties_iff => exact hmem
  case listed_sublist =>
    rw [((quiet_supply hq _).writable s).map_descriptor_attributes]
    exact List.filter_sublist
  case mem_listed_iff => exact mem_listed_of_quiet hw ht hq hv hmem

/-- **Opening.** In every built registry a path that ends in a name is opened, on every disk: the
declaration is never refused, and the order in which the descriptors are kept that were found does
not count. On a disk that is only read the opened directory has that name, declares the properties
that have a file there, in increasing order, and is of the type that the `type` file names; the
attributes that are listed then are the type and these files. -/
theorem open_declaresFiles {additions : List Addition}
    (hb : Registry.build additions = .ok registry) (hn : path.EndsIn name) (hu : name ≠ "..")
    (s : σ) :
    (∃ directory s', (Directory.open registry path : StateM σ _) s = (.ok directory, s') ∧
      directory.declaration.name = name ∧ Opened registry directory ∧ directory.IsMap) ∧
    (Disk.Quiet σ → ∃ directory,
      (Directory.open registry path : StateM σ _) s = (.ok directory, s) ∧
        DeclaresFiles registry path name s directory) := by
  have hw := Registry.wellFormed_of_build hb
  obtain ⟨t, ht⟩ := Registry.exists_isType_of_build hb
  have hname := Path.fileName?_eq_some_iff.mpr ⟨hn, hu⟩
  constructor
  · obtain ⟨hsub, hkind⟩ := present_spec path registry.descriptors
      ((Disk.readText (path.join "type") : StateM σ _) s).2
    refine ⟨_, _, open_of_fileName? hw hname s, rfl, ?_⟩
    suffices hopened : Opened registry _ from ⟨hopened, hopened.isMap hw⟩
    exact ⟨hsub, rfl, valid_of_sublist hw hsub hkind _ _⟩
  · intro hq
    exact ⟨_, open_of_quiet hw hq hname s, declaresFiles_of_quiet hw ht hq path name s⟩

/-- A battery with a directory where a capacity could be, and a file that no property has. -/
def batteryTree : Tree :=
  ⟨[(["BAT0"], .directory), (["type", "BAT0"], .file (.text " Battery\n") 0o444),
    (["status", "BAT0"], .file (.text "Full\n") 0o444), (["capacity", "BAT0"], .directory),
    (["model_name", "BAT0"], .file (.malformed [0xFF]) 0o644),
    (["uevent", "BAT0"], .file (.text "") 0o644)], []⟩

theorem open_declaresFiles_battery :
    Registry.build [] = .ok .standard ∧ (Path.ofString "BAT0/.").EndsIn "BAT0" ∧
      "BAT0" ≠ ".." ∧ Disk.Quiet Tree ∧ ∃ directory,
        (Directory.open .standard (.ofString "BAT0/.") : StateM Tree _) batteryTree =
          (.ok directory, batteryTree) ∧
        DeclaresFiles .standard (.ofString "BAT0/.") "BAT0" batteryTree directory :=
  have hn : (Path.ofString "BAT0/.").EndsIn "BAT0" := Path.endsIn_iff.mpr (by decide)
  have hq := TreeDisk.quiet Tree
  ⟨Registry.build_nil, hn, by decide, hq,
    (open_declaresFiles Registry.build_nil hn (by decide) batteryTree).2 hq⟩

end Directory
end PowerClass
