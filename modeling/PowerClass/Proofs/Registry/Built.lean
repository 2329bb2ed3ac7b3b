import Mathlib.Data.List.Nodup
import PowerClass.Proofs.Registry.Order
import PowerClass.Registry
import Std.Data.HashSet.Lemmas

/-!
# PowerClass.Proofs.Registry.Built

Which entries make a registry, and what every registry that was built has in common. Later modules
take a built registry through `WellFormed` alone.

* `build_eq_ok_iff`: a registry is built exactly from admissible entries.
* `wellFormed_of_build`: in it every identifier is a position and every name belongs to one
  property.
* `WellFormed.get?_eq_some_iff`, `WellFormed.lookup?_eq_some_iff`: its two ways of finding a
  property.
* `exists_isType_of_build`: one property is the type of the supply.
-/

namespace PowerClass
namespace Registry

def IsName (name : String) : Prop :=
  name ≠ "" ∧ ∀ c ∈ name.toList, isNameChar c = true

theorem isName_iff {name : String} :
    IsName name ↔ name.isEmpty = false ∧ name.toList.all isNameChar = true := by
  simp [IsName, String.isEmpty_iff, ← Bool.not_eq_true]

instance (name : String) : Decidable (IsName name) :=
  decidable_of_iff _ isName_iff.symm

theorem IsName.not_mem {name : String} (h : IsName name) {c : Char} (hc : isNameChar c = false) :
    c ∉ name.toList := by
  intro hm
  rw [h.2 c hm] at hc
  cases hc

structure Admissible (entries : List Entry) : Prop where
  length_le : entries.length ≤ capacity
  isName : ∀ entry ∈ entries, IsName entry.name
  nodup : (entries.map Entry.name).Nodup

theorem not_mem_insert_iff {entries : List Entry} {seen : Std.HashSet String} {name : String} :
    (∀ entry ∈ entries, entry.name ∉ seen.insert name) ↔
      (∀ entry ∈ entries, entry.name ∉ seen) ∧ name ∉ entries.map Entry.name := by
  simp only [Std.HashSet.mem_insert, beq_iff_eq, not_or, forall_and, List.mem_map, not_exists,
    not_and]
  constructor
  · rintro ⟨hn, hs⟩
    exact ⟨hs, fun entry he heq => hn entry he heq.symm⟩
  · rintro ⟨hs, hn⟩
    exact ⟨fun entry he heq => hn entry he heq.symm, hs⟩

theorem firstFault?_eq_none_iff {entries : List Entry} {seen : Std.HashSet String} :
    firstFault? seen entries = none ↔
      (∀ entry ∈ entries, IsName entry.name) ∧ (∀ entry ∈ entries, entry.name ∉ seen) ∧
        (entries.map Entry.name).Nodup := by
  induction entries generalizing seen with
  | nil => simp [firstFault?]
  | cons entry rest ih =>
    simp only [firstFault?, List.forall_mem_cons, List.map_cons, List.nodup_cons]
    split
    · next he => exact ⟨nofun, fun h => absurd (isName_iff.mp h.1.1).1 (by simp [he])⟩
    · next he =>
      split
      · next hc => exact ⟨nofun, fun h => absurd (isName_iff.mp h.1.1).2 (by simpa using hc)⟩
      · next hc =>
        have hn : IsName entry.name := isName_iff.mpr ⟨by simpa using he, by simpa using hc⟩
        split
        · next hs => exact ⟨nofun, fun h => absurd (Std.HashSet.contains_iff_mem.mp hs) h.2.1.1⟩
        · next hs =>
          -- The rest is checked against one name more, which is what `Nodup` says of this name.
          have hs : entry.name ∉ seen := fun hm => hs (Std.HashSet.contains_iff_mem.mpr hm)
          rw [ih, not_mem_insert_iff]
          constructor
          · rintro ⟨h, ⟨hr, hm⟩, hd⟩
            exact ⟨⟨hn, h⟩, ⟨hs, hr⟩, hm, hd⟩
          · rintro ⟨⟨-, h⟩, ⟨-, hr⟩, hm, hd⟩
            exact ⟨h, ⟨hr, hm⟩, hd⟩

theorem fault?_eq_none_iff {entries : List Entry} : fault? entries = none ↔ Admissible entries := by
  unfold fault?
  split
  · next hl => exact ⟨nofun, fun h => absurd h.length_le (by omega)⟩
  · next hl =>
    rw [firstFault?_eq_none_iff]
    constructor
    · rintro ⟨hn, -, hd⟩
      exact ⟨by omega, hn, hd⟩
    · intro h
      exact ⟨h.isName, fun _ _ => Std.HashSet.not_mem_empty, h.nodup⟩

def entriesWith (additions : List Addition) : List Entry :=
  standardEntries ++ additions.flatMap Addition.entries

theorem build_eq_ok_iff {additions : List Addition} {registry : Registry} :
    build additions = .ok registry ↔
      Admissible (entriesWith additions) ∧ registry = ofEntries (entriesWith additions) := by
  rw [← fault?_eq_none_iff]
  unfold build entriesWith
  simp only
  split
  · next fault h => simp [h]
  · next h => simp [h, eq_comm]

theorem admissible_standardEntries : Admissible standardEntries where
  length_le := by decide
  isName := by decide +kernel
  nodup := by decide +kernel

theorem Admissible.concat {entries : List Entry} (h : Admissible entries) {entry : Entry}
    (hl : entries.length < capacity) (hn : IsName entry.name)
    (hm : entry.name ∉ entries.map Entry.name) : Admissible (entries ++ [entry]) where
  length_le := by
    rw [List.length_append]
    exact hl
  isName other ho := by
    rcases List.mem_append.mp ho with ho | ho
    · exact h.isName other ho
    · rwa [List.mem_singleton.mp ho]
  nodup := by
    rw [List.map_append, List.map_singleton, ← List.concat_eq_append]
    exact h.nodup.concat hm

/-- The standard registry is the one that is built without additions. -/
theorem build_nil : build [] = .ok standard := by
  rw [build_eq_ok_iff, entriesWith, List.flatMap_nil, List.append_nil]
  exact ⟨admissible_standardEntries, rfl⟩

/-! ## Built registries -/

/-- What holds of every registry that was built. -/
structure WellFormed (registry : Registry) : Prop where
  length_le : registry.descriptors.length ≤ capacity
  id_eq : ∀ (i : Nat) (d : Descriptor), registry.descriptors[i]? = some d →
    d.id = ⟨UInt16.ofNat i⟩
  isName : ∀ d ∈ registry.descriptors, IsName d.name
  nodup : (registry.descriptors.map Descriptor.name).Nodup

theorem map_entry_ofEntries (entries : List Entry) :
    (ofEntries entries).descriptors.map (fun d => ⟨d.name, d.kind⟩) = entries := by
  apply List.ext_getElem?
  intro i
  simp [ofEntries, Function.comp_def]

theorem map_name_ofEntries (entries : List Entry) :
    (ofEntries entries).descriptors.map Descriptor.name = entries.map Entry.name := by
  conv => rhs; rw [← map_entry_ofEntries entries]
  rw [List.map_map]
  rfl

theorem entry_mem_of_mem {entries : List Entry} {d : Descriptor}
    (h : d ∈ (ofEntries entries).descriptors) : ⟨d.name, d.kind⟩ ∈ entries := by
  have hm := List.mem_map_of_mem (f := fun d : Descriptor => Entry.mk d.name d.kind) h
  rwa [map_entry_ofEntries] at hm

theorem exists_mem_of_entry_mem {entries : List Entry} {entry : Entry} (h : entry ∈ entries) :
    ∃ d ∈ (ofEntries entries).descriptors, d.name = entry.name ∧ d.kind = entry.kind := by
  rw [← map_entry_ofEntries entries] at h
  obtain ⟨d, hd, rfl⟩ := List.mem_map.mp h
  exact ⟨d, hd, rfl, rfl⟩

theorem wellFormed_ofEntries {entries : List Entry} (h : Admissible entries) :
    (ofEntries entries).WellFormed where
  length_le := by
    simpa [ofEntries] using h.length_le
  id_eq i d hd := by
    simp only [ofEntries, List.getElem?_mapIdx, Option.map_eq_some_iff] at hd
    obtain ⟨entry, -, rfl⟩ := hd
    rfl
  isName d hd := by
    exact h.isName _ (entry_mem_of_mem hd)
  nodup := by
    rw [map_name_ofEntries]
    exact h.nodup

theorem wellFormed_of_build {additions : List Addition} {registry : Registry}
    (h : build additions = .ok registry) : registry.WellFormed := by
  obtain ⟨ha, rfl⟩ := build_eq_ok_iff.mp h
  exact wellFormed_ofEntries ha

namespace WellFormed

variable {registry : Registry}

theorem index_toNat (h : registry.WellFormed) {i : Nat} {d : Descriptor}
    (hd : registry.descriptors[i]? = some d) : d.id.index.toNat = i := by
  obtain ⟨hi, -⟩ := List.getElem?_eq_some_iff.mp hd
  have := h.length_le
  rw [h.id_eq i d hd]
  exact UInt16.toNat_ofNat_of_lt' (by unfold capacity at this; unfold UInt16.size; omega)

theorem get?_eq_some_iff (h : registry.WellFormed) {id : PropertyId} {d : Descriptor} :
    registry.get? id = some d ↔ d ∈ registry.descriptors ∧ d.id = id := by
  unfold get?
  constructor
  · intro hd
    refine ⟨List.mem_of_getElem? hd, ?_⟩
    exact PropertyId.eq_of_toNat_eq (h.index_toNat hd)
  · rintro ⟨hm, rfl⟩
    obtain ⟨i, hi⟩ := List.mem_iff_getElem?.mp hm
    rw [h.index_toNat hi, hi]

/-- The descriptors are in the order of their identifiers. -/
theorem pairwise_index (h : registry.WellFormed) :
    registry.descriptors.Pairwise fun d d' => d.id.index.toNat < d'.id.index.toNat := by
  rw [List.pairwise_iff_getElem]
  intro i j hi hj hij
  have hd := h.index_toNat (List.getElem?_eq_getElem hi)
  have hd' := h.index_toNat (List.getElem?_eq_getElem hj)
  omega

theorem increasing_ids (h : registry.WellFormed) :
    PropertyId.Increasing (registry.descriptors.map Descriptor.id) :=
  List.pairwise_map.mpr h.pairwise_index

theorem nodup_ids (h : registry.WellFormed) : (registry.descriptors.map Descriptor.id).Nodup :=
  h.increasing_ids.nodup

theorem get?_id (h : registry.WellFormed) {d : Descriptor} (hd : d ∈ registry.descriptors) :
    registry.get? d.id = some d :=
  h.get?_eq_some_iff.mpr ⟨hd, rfl⟩

theorem lookup?_name (h : registry.WellFormed) {d : Descriptor} (hd : d ∈ registry.descriptors) :
    registry.lookup? d.name = some d := by
  obtain ⟨found, hf⟩ : ∃ found, registry.lookup? d.name = some found :=
    Option.isSome_iff_exists.mp (List.find?_isSome.mpr ⟨d, hd, beq_self_eq_true _⟩)
  have hname : found.name = d.name := by simpa using List.find?_some hf
  have hmem : found ∈ registry.descriptors := List.mem_of_find?_eq_some hf
  rw [hf, List.inj_on_of_nodup_map h.nodup hmem hd hname]

theorem lookup?_eq_some_iff (h : registry.WellFormed) {name : String} {d : Descriptor} :
    registry.lookup? name = some d ↔ d ∈ registry.descriptors ∧ d.name = name := by
  constructor
  · intro hl
    have hname : d.name = name := by simpa using List.find?_some hl
    exact ⟨List.mem_of_find?_eq_some hl, hname⟩
  · rintro ⟨hd, rfl⟩
    exact h.lookup?_name hd

theorem id_eq_iff (h : registry.WellFormed) {d d' : Descriptor} (hd : d ∈ registry.descriptors)
    (hd' : d' ∈ registry.descriptors) : d.id = d'.id ↔ d.name = d'.name := by
  constructor
  · intro hid
    have hg : registry.get? d.id = some d := h.get?_id hd
    have hg' : registry.get? d.id = some d' := h.get?_eq_some_iff.mpr ⟨hd', hid.symm⟩
    rw [hg] at hg'
    cases hg'
    rfl
  · intro hname
    rw [List.inj_on_of_nodup_map h.nodup hd hd' hname]

end WellFormed

/-! ## The type of the supply -/

/-- The one property of a registry that is the type of the supply. -/
structure IsType (registry : Registry) (t : Descriptor) : Prop where
  mem : t ∈ registry.descriptors
  name_eq : t.name = "type"
  kind_eq : t.kind = .deviceType
  eq_of_kind : ∀ d ∈ registry.descriptors, d.kind = .deviceType → d = t

theorem kind_ne_deviceType_of_addition {addition : Addition} {entry : Entry}
    (h : entry ∈ addition.entries) : entry.kind ≠ .deviceType := by
  cases addition with
  | known set =>
    obtain ⟨name, -, rfl⟩ := List.mem_map.mp h
    simp
  | single extension =>
    rw [List.mem_singleton.mp h]
    obtain ⟨name, kind⟩ := extension
    cases kind <;> simp [Extension.entry, ExtensionKind.kind]

theorem eq_type_of_kind {additions : List Addition} {entry : Entry}
    (h : entry ∈ entriesWith additions) (hk : entry.kind = .deviceType) :
    entry = ⟨"type", .deviceType⟩ := by
  rcases List.mem_append.mp h with hs | ha
  · have hone : ∀ entry ∈ standardEntries, entry.kind = .deviceType →
        entry = ⟨"type", .deviceType⟩ := by decide
    exact hone entry hs hk
  · obtain ⟨addition, -, hm⟩ := List.mem_flatMap.mp ha
    exact absurd hk (kind_ne_deviceType_of_addition hm)

/-- Additions are never the type of the supply, so a built registry has it once. -/
theorem exists_isType_of_build {additions : List Addition} {registry : Registry}
    (h : build additions = .ok registry) : ∃ t, registry.IsType t := by
  have hw := wellFormed_of_build h
  obtain ⟨-, rfl⟩ := build_eq_ok_iff.mp h
  have hmem : (⟨"type", .deviceType⟩ : Entry) ∈ entriesWith additions :=
    List.mem_append_left _ (by decide)
  obtain ⟨t, ht, hname, hkind⟩ := exists_mem_of_entry_mem hmem
  refine ⟨t, ht, hname, hkind, fun d hd hk => ?_⟩
  have hentry := eq_type_of_kind (entry_mem_of_mem hd) hk
  have heq : d.name = t.name := by
    rw [hname]
    exact congrArg Entry.name hentry
  exact List.inj_on_of_nodup_map hw.nodup hd ht heq

end Registry
end PowerClass
