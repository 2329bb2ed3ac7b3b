import PowerClass.Proofs.Codec.RoundTrip
import PowerClass.Proofs.Snapshot.Surface
import PowerClass.Proofs.Supply.Directory
import PowerClass.Proofs.Text.Ends

/-!
# PowerClass.Proofs.Supply.Copy

A directory that is filled with the attributes of a supply is a supply with the same snapshot. What
an attribute shows is read again by the directory and shown once more: a number or an ordinal comes
back as the same text, and a text loses the newlines at its end, which come after its first line.

* `HoldsAttributes`: the directory has the attributes of a supply and nothing else.
* `firstLine_reread`: the entry of a property survives being shown, read and shown again.
* `open_reproduces`: the directory is opened, and its snapshot is that of the supply, in the order
  of the registry.
-/

namespace PowerClass

namespace Declaration

/-- The declared properties in the order of the registry. -/
def inOrder (declaration : Declaration) (registry : Registry) : List PropertyId :=
  (registry.descriptors.map Descriptor.id).filter (· ∈ declaration.properties)

variable {registry : Registry} {declaration : Declaration}

theorem Valid.inOrder_perm (hv : declaration.Valid registry) (hw : registry.WellFormed) :
    (declaration.inOrder registry).Perm declaration.properties := by
  refine (List.perm_ext_iff_of_nodup (hw.nodup_ids.filter _) hv.nodup).mpr fun id => ?_
  rw [List.mem_filter, decide_eq_true_eq, and_iff_right_iff_imp]
  intro hi
  obtain ⟨d, hd, rfl, -⟩ := hv.exists_mem hw hi
  exact List.mem_map_of_mem hd

theorem Valid.inOrder_eq (hv : declaration.Valid registry) (hw : registry.WellFormed)
    (hs : declaration.properties.Sublist (registry.descriptors.map Descriptor.id)) :
    declaration.inOrder registry = declaration.properties := by
  have hself : declaration.properties.filter (· ∈ declaration.properties) =
      declaration.properties :=
    List.filter_eq_self.mpr fun id hi => decide_eq_true hi
  have hfilter := hs.filter (· ∈ declaration.properties)
  rw [hself] at hfilter
  exact (hfilter.eq_of_length (hv.inOrder_perm hw).length_eq.symm).symm

end Declaration

namespace Supply

/-- A directory of a tree that has a file with its text for each attribute that a supply shows, and
nothing else. Shown are the type and the declared properties that can be read. -/
structure HoldsAttributes {τ : Type} (supply : Supply (StateM τ)) (registry : Registry) (t : τ)
    (tree : Tree) (path : Path) : Prop where
  directory : tree.find path = .ok .directory
  file : ∀ name text, (supply.showAttribute registry name t).1 = .ok text →
    ∃ permissions, tree.find (path.join name) = .ok (.file (.text text) permissions)
  nothingElse : ∀ name node, Path.IsComponent name → tree.find (path.join name) = .ok node →
    ∃ text, (supply.showAttribute registry name t).1 = .ok text

/-- The entry that a property gives to a snapshot, none when it is left out. -/
def snapshotEntry {τ : Type} (supply : Supply (StateM τ)) (registry : Registry) (t : τ)
    (id : PropertyId) : Option (String × String) :=
  Snapshot.entryOf? registry ⟨id, supply.shown registry t id⟩

section

variable {τ : Type} {supply : Supply (StateM τ)} {registry : Registry} {t : τ} {d : Descriptor}

theorem shown_of_mem (supply : Supply (StateM τ)) (t : τ) (hw : registry.WellFormed)
    (hd : d ∈ registry.descriptors) :
    supply.shown registry t d.id = (supply.showAttribute registry d.name t).1 := by
  rw [shown, hw.get?_id hd]

theorem snapshotEntry_of_shown (hw : registry.WellFormed) (hd : d ∈ registry.descriptors)
    {text : String} (h : supply.shown registry t d.id = .ok text) :
    supply.snapshotEntry registry t d.id = some (d.name.toUpper, Text.firstLine text) := by
  rw [snapshotEntry, Snapshot.entryOf?, h]
  simp only [hw.get?_id hd]

theorem exists_shown_of_snapshotEntry {id : PropertyId} {entry : String × String}
    (h : supply.snapshotEntry registry t id = some entry) :
    ∃ text, supply.shown registry t id = .ok text := by
  unfold snapshotEntry Snapshot.entryOf? at h
  split at h
  · next text _ ht => exact ⟨text, ht⟩
  · cases h

end

end Supply

namespace Directory

theorem typeOf_label (type : SupplyType) : typeOf (.ok (type.label ++ "\n")) = type := by
  cases type <;> decide

/-- What a reading gave is read back from its text, and shown again with the same first line. -/
theorem firstLine_reread {kind : Kind} {answer : Except DeviceError Value} {text : String}
    (h : Supply.textOf kind answer = .ok text) :
    ∃ again, Supply.textOf kind (decode kind text) = .ok again ∧
      Text.firstLine again = Text.firstLine text := by
  obtain ⟨value, line, hl, rfl⟩ := Supply.exists_line?_of_textOf h
  by_cases hk : kind = .text
  · subst hk
    obtain ⟨s, rfl⟩ : ∃ s, value = .text s := by
      cases value with
      | text s => exact ⟨s, rfl⟩
      | _ => cases hl
    have hcut : line = Text.cut (pageSize - 1) s := (Option.some.inj hl).symm
    refine ⟨(Text.dropNewlines line).push '\n', ?_, ?_⟩
    · -- The text was cut to a page when it was shown, so showing it again does not cut it.
      rw [decode, Text.dropNewlines_push, Supply.textOf, Codec.line?, hcut,
        Text.cut_dropNewlines_cut]
    · rw [Text.firstLine_push, Text.firstLine_push, Text.firstLine_dropNewlines]
  · refine ⟨line.push '\n', ?_, rfl⟩
    rw [decode_of_ne_text hk, Codec.decode_line hk hl]
    simp only [Except.mapError, Supply.textOf, hl]

/-! ## The directory of the attributes -/

section

variable {τ σ : Type} [Disk (StateM σ)] [TreeDisk σ] {registry : Registry} {t : τ} {s : σ}
  {path : Path} {supply : Supply (StateM τ)}

open TreeDisk (tree)

variable (hw : registry.WellFormed) (hv : supply.declaration.Valid registry)
  (hh : supply.HoldsAttributes registry t (tree s) path)
include hw hv hh

/-- The properties with a file are those that the supply has declared and shows. -/
theorem isPresent_iff {d : Descriptor} (hd : d ∈ registry.descriptors) :
    isPresent (tree s) path d = true ↔
      d.id ∈ supply.declaration.properties ∧ ∃ text, supply.shown registry t d.id = .ok text := by
  rw [Supply.shown_of_mem supply t hw hd, isPresent, Bool.and_eq_true, decide_eq_true_eq,
    Tree.isFile_iff]
  constructor
  · rintro ⟨hk, content, permissions, hf⟩
    obtain ⟨text, hshow⟩ := hh.nothingElse d.name _ (hw.isName d hd).isComponent hf
    refine ⟨?_, text, hshow⟩
    -- An attribute that nobody declared is hidden, so it is not shown.
    by_contra hi
    have hm : (supply.mode d t).1 = .hidden := by
      rw [Supply.mode_of_undeclared supply hk hi]
      rfl
    rw [Supply.showAttribute_of_hidden supply (hw.lookup?_name hd) hm] at hshow
    cases hshow
  · rintro ⟨hi, text, hshow⟩
    obtain ⟨permissions, hf⟩ := hh.file d.name text hshow
    exact ⟨hv.kind_ne_deviceType hw hd hi, .text text, permissions, hf⟩

variable (hs : supply.Steady t)
include hs

/-- A property of the directory is shown with the first line that the supply shows. -/
theorem exists_shown_opened (name : String) {d : Descriptor} (hd : d ∈ registry.descriptors)
    (hp : isPresent (tree s) path d = true) :
    ∃ text again, supply.shown registry t d.id = .ok text ∧
      ((opened registry path name (tree s)).supply : Supply (StateM σ)).shown registry s d.id =
        .ok again ∧ Text.firstLine again = Text.firstLine text := by
  obtain ⟨hi, text, hshown⟩ := (isPresent_iff hw hv hh hd).mp hp
  have ho := Opened.of_tree hw path name (tree s)
  have hm : d ∈ (opened registry path name (tree s)).descriptors := List.mem_filter.mpr ⟨hd, hp⟩
  have hread : Supply.textOf d.kind (supply.fetch d t).1 = .ok text := by
    rw [← Supply.read_of_mem supply hw hd, ← Supply.shown_eq_read hw hv hs .refl hi, hshown]
  obtain ⟨again, hagain, hline⟩ := firstLine_reread hread
  obtain ⟨permissions, hf⟩ :=
    hh.file d.name text (by rw [← Supply.shown_of_mem supply t hw hd, hshown])
  refine ⟨text, again, hshown, ?_, hline⟩
  have hget : (((opened registry path name (tree s)).supply : Supply (StateM σ)).get d.id s).1 =
      decode d.kind text := by
    rw [ho.get_eq hw hm]
    simp only [opened, Tree.readText_of_file hf]
  rw [Supply.shown_eq_read hw ho.valid ((quiet _).steady s) .refl
      ((ho.mem_properties_iff hw hd).mpr hm), Supply.read_of_mem _ hw hd,
    Supply.fetch_of_ne_deviceType _ (ho.kind_ne_deviceType hw hm), hget, hagain]

/-- The properties that have a file give the entries of all that were declared: the others were not
shown, and give none. -/
theorem filterMap_snapshotEntry_opened (name : String) :
    (opened registry path name (tree s)).declaration.properties.filterMap
        (((opened registry path name (tree s)).supply : Supply (StateM σ)).snapshotEntry
          registry s) =
      (supply.declaration.inOrder registry).filterMap (supply.snapshotEntry registry t) := by
  have hproperties : (opened registry path name (tree s)).declaration.properties =
      (registry.descriptors.filter (isPresent (tree s) path)).map Descriptor.id := rfl
  rw [hproperties]
  simp only [Declaration.inOrder, List.filterMap_map, List.filter_map, List.filterMap_filter]
  refine List.filterMap_congr fun d hd => ?_
  simp only [Function.comp_apply, decide_eq_true_eq]
  by_cases hp : isPresent (tree s) path d = true
  · obtain ⟨hi, -⟩ := (isPresent_iff hw hv hh hd).mp hp
    obtain ⟨text, again, hshown, hagain, hline⟩ := exists_shown_opened hw hv hh hs name hd hp
    rw [if_pos hp, if_pos hi, Supply.snapshotEntry_of_shown hw hd hagain,
      Supply.snapshotEntry_of_shown hw hd hshown, hline]
  · have hn : d.id ∈ supply.declaration.properties →
        supply.snapshotEntry registry t d.id = none := by
      intro hi
      by_contra hne
      obtain ⟨entry, he⟩ := Option.ne_none_iff_exists'.mp hne
      exact hp ((isPresent_iff hw hv hh hd).mpr ⟨hi, Supply.exists_shown_of_snapshotEntry he⟩)
    rw [if_neg hp]
    split
    · next hi => exact (hn hi).symm
    · rfl

theorem snapshot_opened (name : String) :
    (((opened registry path name (tree s)).supply : Supply (StateM σ)).snapshot registry s).1 =
      .ok ⟨("NAME", name) ::
        (supply.declaration.inOrder registry).filterMap (supply.snapshotEntry registry t)⟩ := by
  have ho := Opened.of_tree hw path name (tree s)
  refine (Supply.snapshot_eq_ok_iff hw ho.valid ((quiet _).steady s)).mpr ⟨?_, ?_⟩
  · -- Whatever has a file is shown.
    intro id hid e he
    obtain ⟨d, hm, rfl⟩ := List.mem_map.mp hid
    obtain ⟨hd, hp⟩ := List.mem_filter.mp hm
    obtain ⟨-, again, -, hagain, -⟩ := exists_shown_opened hw hv hh hs name hd hp
    have hok := he.symm.trans hagain
    cases hok
  · rw [← filterMap_snapshotEntry_opened hw hv hh hs name]
    rfl

end

/-! ## Reproducing a snapshot -/

/-- A directory has the name and the type of a supply, and its snapshot the entries of a snapshot
of the supply, in the order of the registry. -/
structure Reproduces {τ σ : Type} [Disk (StateM σ)] (registry : Registry)
    (supply : Supply (StateM τ)) (t : τ) (snapshot : Snapshot) (directory : Directory) (s : σ)
    (copy : Snapshot) : Prop where
  name_eq : directory.declaration.name = supply.declaration.name
  type_eq : directory.declaration.type = supply.declaration.type
  snapshot_eq : ((directory.supply : Supply (StateM σ)).snapshot registry s).1 = .ok copy
  perm : copy.entries.Perm snapshot.entries
  entries_eq : copy.entries = ("NAME", supply.declaration.name) ::
    (supply.declaration.inOrder registry).filterMap (supply.snapshotEntry registry t)
  eq_of_sublist : supply.declaration.properties.Sublist
    (registry.descriptors.map Descriptor.id) → copy = snapshot

theorem reproduces_opened {τ σ : Type} [Disk (StateM σ)] [TreeDisk σ] {registry : Registry}
    {supply : Supply (StateM τ)} {t : τ} {s : σ} {path : Path} {snapshot : Snapshot}
    {type : Descriptor} (hw : registry.WellFormed) (ht : registry.IsType type)
    (hv : supply.declaration.Valid registry) (hs : supply.Steady t)
    (hsnap : (supply.snapshot registry t).1 = .ok snapshot)
    (hh : supply.HoldsAttributes registry t (TreeDisk.tree s) path) :
    Reproduces registry supply t snapshot
      (opened registry path supply.declaration.name (TreeDisk.tree s)) s
      ⟨("NAME", supply.declaration.name) ::
        (supply.declaration.inOrder registry).filterMap (supply.snapshotEntry registry t)⟩ := by
  have hentries : snapshot.entries = ("NAME", supply.declaration.name) ::
      supply.declaration.properties.filterMap (supply.snapshotEntry registry t) :=
    ((Supply.snapshot_eq_ok_iff hw hv hs).mp hsnap).2
  constructor
  case name_eq => rfl
  case type_eq =>
    obtain ⟨permissions, hf⟩ := hh.file "type" _ (Supply.showAttribute_type supply hw ht t)
    show typeOf ((TreeDisk.tree s).readText (path.join "type")) = _
    rw [Tree.readText_of_file hf, typeOf_label]
  case snapshot_eq => exact snapshot_opened hw hv hh hs _
  case perm =>
    rw [hentries]
    exact ((hv.inOrder_perm hw).filterMap _).cons _
  case entries_eq => rfl
  case eq_of_sublist =>
    intro hsub
    rw [hv.inOrder_eq hw hsub, ← hentries]

/-- **Copies.** Whatever supply fills a directory of its name with its attributes, the directory is
a supply of the same name and type, and its snapshot is the same, in the order of the registry. -/
theorem open_reproduces {additions : List Addition} {registry : Registry}
    (hb : Registry.build additions = .ok registry) {τ : Type} {supply : Supply (StateM τ)}
    (hv : supply.Validated registry) {t : τ} (hs : supply.Steady t)
    (hname : Path.IsComponent supply.declaration.name) {snapshot : Snapshot}
    (hsnap : (supply.snapshot registry t).1 = .ok snapshot) {σ : Type} [Disk (StateM σ)]
    [TreeDisk σ] {s : σ} {parent : Path}
    (hh : supply.HoldsAttributes registry t (TreeDisk.tree s)
      (parent.join supply.declaration.name)) :
    ∃ directory copy,
      (Directory.open registry (parent.join supply.declaration.name) : StateM σ _) s =
        (.ok directory, s) ∧
      Reproduces registry supply t snapshot directory s copy := by
  have hw := Registry.wellFormed_of_build hb
  obtain ⟨type, ht⟩ := Registry.exists_isType_of_build hb
  have hvalid := Supply.validated_iff.mp hv
  refine ⟨_, _, ?_, reproduces_opened hw ht hvalid hs hsnap hh⟩
  rw [open_eq hw, Path.fileName?_join hname]

end Directory

/-! ## Filling a directory -/

namespace Supply

theorem lookup_filterMap {α κ ν : Type} [BEq κ] [LawfulBEq κ] {key : α → κ} {value : α → Option ν}
    {as : List α} (hn : (as.map key).Nodup) {a : α} (ha : a ∈ as) :
    (as.filterMap fun a => (value a).map (key a, ·)).lookup (key a) = value a := by
  induction as with
  | nil => cases ha
  | cons b rest ih =>
    rw [List.map_cons, List.nodup_cons] at hn
    rcases List.mem_cons.mp ha with rfl | ha
    · cases hv : value a with
      | some v => simp [hv]
      | none =>
        have hrest : ∀ other ∈ rest, key a ≠ key other :=
          fun other hm he => hn.1 (he ▸ List.mem_map_of_mem hm)
        simp only [List.filterMap_cons, hv, Option.map_none, List.lookup_eq_none_iff,
          List.mem_filterMap, Option.map_eq_some_iff]
        rintro entry ⟨other, hm, v, -, rfl⟩
        exact bne_iff_ne.mpr (hrest other hm)
    · have hne : (key a == key b) = false :=
        beq_eq_false_iff_ne.mpr fun he => hn.1 (he ▸ List.mem_map_of_mem ha)
      cases hv : value b <;> simp [hv, List.lookup_cons, hne, ih hn.2 ha]

variable {τ : Type} (supply : Supply (StateM τ)) (registry : Registry) (t : τ)

/-- What a directory of a supply has under the name of a property. -/
def file? (d : Descriptor) : Option TreeNode :=
  (supply.showAttribute registry d.name t).1.toOption.map fun text => .file (.text text) 0o444

/-- A tree with nothing but a directory that is filled with the attributes of a supply. -/
def filledTree : Tree :=
  ⟨([supply.declaration.name], .directory) :: registry.descriptors.filterMap fun d =>
    (supply.file? registry t d).map ([d.name, supply.declaration.name], ·), []⟩

theorem get?_filledTree (hw : registry.WellFormed) {d : Descriptor}
    (hd : d ∈ registry.descriptors) :
    (supply.filledTree registry t).get? [d.name, supply.declaration.name] =
      supply.file? registry t d := by
  have hn : (registry.descriptors.map fun d => [d.name, supply.declaration.name]).Nodup := by
    have hinj : Function.Injective fun name : String => [name, supply.declaration.name] := by
      intro name other he
      exact List.head_eq_of_cons_eq he
    have hmap := hw.nodup.map hinj
    rwa [List.map_map] at hmap
  rw [Tree.get?, if_neg (by simp), filledTree, List.lookup_cons]
  simp only [lookup_filterMap hn hd]
  simp

theorem exists_file?_of_get? {name : String} {node : TreeNode}
    (h : (supply.filledTree registry t).get? [name, supply.declaration.name] = some node) :
    ∃ d ∈ registry.descriptors, d.name = name ∧ supply.file? registry t d = some node := by
  rw [Tree.get?, if_neg (by simp)] at h
  obtain ⟨before, after, he, -⟩ := List.lookup_eq_some_iff.mp h
  have hm : ([name, supply.declaration.name], node) ∈ (supply.filledTree registry t).nodes := by
    simp [he]
  rcases List.mem_cons.mp hm with heq | hm
  · cases heq
  · obtain ⟨d, hd, hnode⟩ := List.mem_filterMap.mp hm
    obtain ⟨found, hf, heq⟩ := Option.map_eq_some_iff.mp hnode
    cases heq
    exact ⟨d, hd, rfl, hf⟩

/-- Every supply whose name is a component has a directory of its attributes. -/
theorem holdsAttributes_filledTree (hw : registry.WellFormed)
    (hname : Path.IsComponent supply.declaration.name) :
    supply.HoldsAttributes registry t (supply.filledTree registry t)
      ((Path.ofString "/").join supply.declaration.name) := by
  have hroot : (supply.filledTree registry t).resolve (.ofString "/") = .ok [] := rfl
  have hplace := Tree.resolve_join hname hroot rfl
  have hdir : (supply.filledTree registry t).get? [supply.declaration.name] = some .directory := by
    simp [Tree.get?, filledTree]
  have hfind : ∀ name node, Path.IsComponent name →
      ((supply.filledTree registry t).find
          (((Path.ofString "/").join supply.declaration.name).join name) = .ok node ↔
        (supply.filledTree registry t).get? [name, supply.declaration.name] = some node) := by
    intro name node h
    rw [Tree.find_eq_ok_iff, Tree.resolve_join h hplace hdir]
    simp
  constructor
  case directory => exact Tree.find_eq_ok_iff.mpr ⟨_, hplace, hdir⟩
  case file =>
    intro name text hshow
    cases hl : registry.lookup? name with
    | none =>
      rw [showAttribute_of_unknown supply hl] at hshow
      cases hshow
    | some d =>
      obtain ⟨hd, rfl⟩ := hw.lookup?_eq_some_iff.mp hl
      refine ⟨0o444, (hfind _ _ (hw.isName d hd).isComponent).mpr ?_⟩
      rw [get?_filledTree supply registry t hw hd, file?, hshow]
      rfl
  case nothingElse =>
    intro name node h hf
    obtain ⟨d, hd, rfl, hfile⟩ :=
      exists_file?_of_get? supply registry t ((hfind name node h).mp hf)
    obtain ⟨text, ht, -⟩ := Option.map_eq_some_iff.mp hfile
    cases hshow : (supply.showAttribute registry d.name t).1 with
    | ok shown => exact ⟨shown, rfl⟩
    | error e =>
      rw [hshow] at ht
      cases ht

end Supply

namespace Directory

/-- A battery whose properties are not declared in the order of the registry, with a busy sensor and
a model name of several lines. -/
def labelledBattery : Supply (StateM Script) :=
  Script.supply ⟨"BAT0", .battery, [⟨68⟩, ⟨0⟩, ⟨46⟩]⟩ []

def labelledAnswers : Script :=
  ⟨⟨[(⟨0⟩, .ok (.ordinal 1)), (⟨46⟩, .error .busy), (⟨68⟩, .ok (.text "AB\n12\n\n"))]⟩, none⟩

def labelledSnapshot : Snapshot :=
  ⟨[("NAME", "BAT0"), ("MODEL_NAME", "AB"), ("STATUS", "Charging")]⟩

theorem open_reproduces_labelledBattery :
    Registry.build [] = .ok .standard ∧ labelledBattery.Validated .standard ∧
      labelledBattery.Steady labelledAnswers ∧ Path.IsComponent "BAT0" ∧
      (labelledBattery.snapshot .standard labelledAnswers).1 = .ok labelledSnapshot ∧
      labelledBattery.HoldsAttributes .standard labelledAnswers
        (labelledBattery.filledTree .standard labelledAnswers) ((Path.ofString "/").join "BAT0") ∧
      ∃ directory copy,
        (Directory.open .standard ((Path.ofString "/").join "BAT0") : StateM Tree _)
            (labelledBattery.filledTree .standard labelledAnswers) =
          (.ok directory, labelledBattery.filledTree .standard labelledAnswers) ∧
        Reproduces .standard labelledBattery labelledAnswers labelledSnapshot directory
          (labelledBattery.filledTree .standard labelledAnswers) copy := by
  have hv : labelledBattery.Validated .standard := ⟨"BAT0", .battery, [⟨68⟩, ⟨0⟩, ⟨46⟩], rfl⟩
  have hs : labelledBattery.Steady labelledAnswers := Script.steady _ _ _
  have hname : Path.IsComponent labelledBattery.declaration.name := by decide
  have hsnap : (labelledBattery.snapshot .standard labelledAnswers).1 = .ok labelledSnapshot := by
    decide +kernel
  have hh := labelledBattery.holdsAttributes_filledTree .standard labelledAnswers
    (Registry.wellFormed_of_build Registry.build_nil) hname
  exact ⟨Registry.build_nil, hv, hs, hname, hsnap, hh,
    open_reproduces Registry.build_nil hv hs hname hsnap hh⟩

end Directory
end PowerClass
