import PowerClass.Proofs.Registry.Construction
import PowerClass.Settings

/-!
# PowerClass.Proofs.Settings.Merged

Settings with what a command asks for. The sets of the settings stay in front, and a set that a flag
names is added behind them unless it is there, so that flags never repeat a set. The known sets
share no name with each other or with the standard properties, and whether the merged settings give
a registry depends on the settings' own list and on the single extensions alone.

* `merge_eq`: what merging adds, by one flag after the other.
* `nodup_flatMap_properties`, `properNames_iff_proper`: the names of a list of sets and of single
  extensions.
* `merge_combines`: the merged sets, the settings that give a registry, and flags that change
  nothing.
-/

namespace PowerClass

/-! ## The names of the known sets -/

namespace ExtensionSet

open Registry

theorem mem_all (set : ExtensionSet) : set ∈ all := by
  cases set <;> decide

theorem map_name_entries (set : ExtensionSet) : set.entries.map Entry.name = set.properties := by
  rw [entries, List.map_map]
  exact List.map_id _

theorem isName_of_mem_properties {set : ExtensionSet} {name : String}
    (h : name ∈ set.properties) : IsName name := by
  have hall : ∀ set ∈ all, ∀ name ∈ set.properties, IsName name := by decide +kernel
  exact hall set set.mem_all name h

/-- No name is standard and in a set, in two sets, or twice in one. -/
theorem nodup_known :
    (standardEntries.map Entry.name ++ all.flatMap properties).Nodup := by
  decide +kernel

theorem not_mem_properties_of_standard {name : String}
    (h : name ∈ standardEntries.map Entry.name) (set : ExtensionSet) : name ∉ set.properties :=
  fun hm => (List.nodup_append.mp nodup_known).2.2 name h name
    (List.mem_flatMap.mpr ⟨set, set.mem_all, hm⟩) rfl

theorem nodup_properties (set : ExtensionSet) : set.properties.Nodup := by
  have h := (List.nodup_append.mp nodup_known).2.1
  exact (List.nodup_flatMap.mp h).1 set set.mem_all

theorem disjoint_properties_iff {set other : ExtensionSet} :
    set.properties.Disjoint other.properties ↔ set ≠ other := by
  constructor
  · rintro h rfl
    obtain ⟨name, hm⟩ : ∃ name, name ∈ set.properties :=
      List.exists_mem_of_ne_nil _ (by cases set <;> exact List.cons_ne_nil _ _)
    exact h hm hm
  · intro hne
    have h := (List.nodup_flatMap.mp (List.nodup_append.mp nodup_known).2.1).2
    have hsymm : Std.Symm (Function.onFun List.Disjoint properties) := ⟨fun _ _ hd => hd.symm⟩
    exact h.forall set.mem_all other.mem_all hne

theorem nodup_flatMap_properties {sets : List ExtensionSet} :
    (sets.flatMap properties).Nodup ↔ sets.Nodup := by
  rw [List.nodup_flatMap]
  constructor
  · rintro ⟨-, h⟩
    exact h.imp disjoint_properties_iff.mp
  · intro h
    exact ⟨fun set _ => set.nodup_properties, h.imp disjoint_properties_iff.mpr⟩

end ExtensionSet

/-! ## The names of the additions -/

namespace Settings

open ExtensionSet Registry

variable {sets : List ExtensionSet} {extensions : List Extension}

/-- What sets and then single extensions add to the standard properties. -/
theorem flatMap_entries (sets : List ExtensionSet) (extensions : List Extension) :
    (sets.map Addition.known ++ extensions.map Addition.single).flatMap Addition.entries =
      sets.flatMap ExtensionSet.entries ++ extensions.map Extension.entry := by
  rw [List.flatMap_append, List.flatMap_map, List.flatMap_map, List.map_eq_flatMap]
  rfl

theorem map_name_flatMap_entries (sets : List ExtensionSet) :
    (sets.flatMap ExtensionSet.entries).map Entry.name = sets.flatMap properties := by
  rw [List.map_flatMap]
  exact congrArg (List.flatMap · sets) (funext map_name_entries)

theorem map_name_entry (extensions : List Extension) :
    (extensions.map Extension.entry).map Entry.name = extensions.map Extension.name := by
  rw [List.map_map]
  rfl

/-- The names of single extensions are proper, do not repeat, and none is standard or in a set. -/
structure Proper (sets : List ExtensionSet) (extensions : List Extension) : Prop where
  ne_empty : ∀ e ∈ extensions, e.name ≠ ""
  inAlphabet : ∀ e ∈ extensions, InAlphabet e.name
  nodup : (extensions.map Extension.name).Nodup
  not_standard : ∀ e ∈ extensions, ∀ entry ∈ standardEntries, entry.name ≠ e.name
  not_member : ∀ e ∈ extensions, ∀ set ∈ sets, e.name ∉ set.properties

theorem Proper.congr {others : List ExtensionSet} (h : ∀ set, set ∈ sets ↔ set ∈ others) :
    Proper sets extensions ↔ Proper others extensions := by
  constructor <;> rintro ⟨hne, ha, hd, hs, hm⟩
  · exact ⟨hne, ha, hd, hs, fun e he set ho => hm e he set ((h set).mpr ho)⟩
  · exact ⟨hne, ha, hd, hs, fun e he set ho => hm e he set ((h set).mp ho)⟩

theorem properNames_iff_proper :
    ProperNames (standardEntries ++
        (sets.flatMap ExtensionSet.entries ++ extensions.map Extension.entry)) ↔
      sets.Nodup ∧ Proper sets extensions := by
  rw [properNames_iff, List.map_append, List.map_append, map_name_flatMap_entries, map_name_entry,
    List.nodup_append, List.nodup_append, nodup_flatMap_properties]
  constructor
  · rintro ⟨hname, -, ⟨hsets, hnodup, hmember⟩, hstandard⟩
    have hproper : ∀ e ∈ extensions, IsName e.name := fun e he =>
      hname e.entry (List.mem_append_right _ (List.mem_append_right _ (List.mem_map_of_mem he)))
    refine ⟨hsets, ?_⟩
    constructor
    case ne_empty => exact fun e he => (hproper e he).1
    case inAlphabet => exact fun e he c hc => isNameChar_iff.mp ((hproper e he).2 c hc)
    case nodup => exact hnodup
    case not_standard =>
      exact fun e he entry hs => hstandard entry.name (List.mem_map_of_mem hs) e.name
        (List.mem_append_right _ (List.mem_map_of_mem he))
    case not_member =>
      exact fun e he set hset hm => hmember e.name (List.mem_flatMap.mpr ⟨set, hset, hm⟩) e.name
        (List.mem_map_of_mem he) rfl
  · rintro ⟨hsets, hp⟩
    refine ⟨fun entry hm => ?_, admissible_standardEntries.nodup,
      ⟨hsets, hp.nodup, fun name hname other hother => ?_⟩, fun name hname other hother => ?_⟩
    · rcases List.mem_append.mp hm with hs | hm
      · exact admissible_standardEntries.isName entry hs
      rcases List.mem_append.mp hm with hs | hx
      · obtain ⟨set, -, hentry⟩ := List.mem_flatMap.mp hs
        obtain ⟨name, hmember, rfl⟩ := List.mem_map.mp hentry
        exact isName_of_mem_properties hmember
      · obtain ⟨e, he, rfl⟩ := List.mem_map.mp hx
        exact ⟨hp.ne_empty e he, fun c hc => isNameChar_iff.mpr (hp.inAlphabet e he c hc)⟩
    · obtain ⟨set, hset, hmember⟩ := List.mem_flatMap.mp hname
      obtain ⟨e, he, rfl⟩ := List.mem_map.mp hother
      rintro rfl
      exact hp.not_member e he set hset hmember
    · rintro rfl
      rcases List.mem_append.mp hother with hs | he
      · obtain ⟨set, -, hmember⟩ := List.mem_flatMap.mp hs
        exact not_mem_properties_of_standard hname set hmember
      · obtain ⟨entry, hs, rfl⟩ := List.mem_map.mp hname
        obtain ⟨e, he, heq⟩ := List.mem_map.mp he
        exact hp.not_standard e he entry hs heq.symm

/-! ## Merging -/

variable {s : Settings} {set : ExtensionSet} {flags added : List ExtensionSet} {root : Option Path}

theorem enable_of_mem (h : set ∈ s.sets) : s.enable set = s :=
  if_pos (List.contains_iff_mem.mpr h)

theorem enable_of_not_mem (h : set ∉ s.sets) :
    s.enable set = { s with sets := s.sets ++ [set] } :=
  if_neg fun hc => h (List.contains_iff_mem.mp hc)

theorem merge_append (s : Settings) (root : Option Path) (flags others : List ExtensionSet) :
    s.merge root (flags ++ others) = others.foldl enable (s.merge root flags) :=
  List.foldl_append

/-- What flags add to sets: each set that they name and that was not there, once, in the order in
which they first name it. -/
structure Adds (sets flags added : List ExtensionSet) : Prop where
  nodup : added.Nodup
  mem_iff : ∀ set, set ∈ added ↔ set ∈ flags ∧ set ∉ sets
  ordered : added.Pairwise fun set other => flags.idxOf set < flags.idxOf other

namespace Adds

theorem mem_append_iff (h : Adds sets flags added) (set : ExtensionSet) :
    set ∈ sets ++ added ↔ set ∈ sets ∨ set ∈ flags := by
  rw [List.mem_append, h.mem_iff]
  by_cases hs : set ∈ sets <;> simp [hs]

/-- The order of first appearance does not change when a flag comes after the others. -/
theorem ordered_concat (h : Adds sets flags added) (set : ExtensionSet) :
    added.Pairwise fun a b => (flags ++ [set]).idxOf a < (flags ++ [set]).idxOf b := by
  refine h.ordered.imp_of_mem fun ha hb hlt => ?_
  rwa [List.idxOf_append_of_mem ((h.mem_iff _).mp ha).1,
    List.idxOf_append_of_mem ((h.mem_iff _).mp hb).1]

theorem concat_of_mem (h : Adds sets flags added) (hs : set ∈ sets ++ added) :
    Adds sets (flags ++ [set]) added where
  nodup := h.nodup
  mem_iff other := by
    rw [h.mem_iff, List.mem_append, List.mem_singleton]
    constructor
    · rintro ⟨hf, hn⟩
      exact ⟨.inl hf, hn⟩
    · rintro ⟨hf | rfl, hn⟩
      · exact ⟨hf, hn⟩
      · exact ⟨((h.mem_append_iff other).mp hs).resolve_left hn, hn⟩
  ordered := h.ordered_concat set

theorem concat (h : Adds sets flags added) (hs : set ∉ sets ++ added) :
    Adds sets (flags ++ [set]) (added ++ [set]) where
  nodup := by
    rw [← List.concat_eq_append]
    exact h.nodup.concat fun hm => hs (List.mem_append_right _ hm)
  mem_iff other := by
    rw [List.mem_append, List.mem_append, List.mem_singleton, h.mem_iff]
    constructor
    · rintro (⟨hf, hn⟩ | rfl)
      · exact ⟨.inl hf, hn⟩
      · exact ⟨.inr rfl, fun hm => hs (List.mem_append_left _ hm)⟩
    · rintro ⟨hf | rfl, hn⟩
      · exact .inl ⟨hf, hn⟩
      · exact .inr rfl
  ordered := by
    refine List.pairwise_append.mpr ⟨h.ordered_concat set, List.pairwise_singleton _ _, ?_⟩
    intro other hm last hl
    obtain rfl : last = set := List.mem_singleton.mp hl
    have hf : other ∈ flags := ((h.mem_iff other).mp hm).1
    have hn : last ∉ flags := fun hf => hs ((h.mem_append_iff last).mpr (.inr hf))
    rw [List.idxOf_append_of_mem hf, List.idxOf_append_of_notMem hn]
    exact Nat.lt_of_lt_of_le (List.idxOf_lt_length_of_mem hf) (Nat.le_add_right _ _)

end Adds

theorem merge_eq (s : Settings) (root : Option Path) (flags : List ExtensionSet) :
    ∃ added, Adds s.sets flags added ∧
      s.merge root flags = { s with root := root.getD s.root, sets := s.sets ++ added } := by
  induction flags using List.reverseRecOn with
  | nil => exact ⟨[], ⟨List.nodup_nil, by simp, .nil⟩, by rw [List.append_nil]; rfl⟩
  | append_singleton flags set ih =>
    obtain ⟨added, ha, he⟩ := ih
    rw [merge_append, he, List.foldl_cons, List.foldl_nil]
    by_cases hs : set ∈ s.sets ++ added
    · exact ⟨added, ha.concat_of_mem hs, enable_of_mem hs⟩
    · refine ⟨added ++ [set], ha.concat hs, ?_⟩
      rw [enable_of_not_mem hs, List.append_assoc]

theorem mem_sets_merge_iff (s : Settings) (root : Option Path) (flags : List ExtensionSet)
    (set : ExtensionSet) : set ∈ (s.merge root flags).sets ↔ set ∈ s.sets ∨ set ∈ flags := by
  obtain ⟨added, ha, he⟩ := merge_eq s root flags
  rw [he]
  exact ha.mem_append_iff set

theorem nodup_sets_merge_iff (s : Settings) (root : Option Path) (flags : List ExtensionSet) :
    (s.merge root flags).sets.Nodup ↔ s.sets.Nodup := by
  obtain ⟨added, ha, he⟩ := merge_eq s root flags
  rw [he, List.nodup_append]
  refine ⟨And.left, fun h => ⟨h, ha.nodup, ?_⟩⟩
  rintro set hs other ho rfl
  exact ((ha.mem_iff set).mp ho).2 hs

/-- Flags that only name sets of the settings add nothing. -/
theorem merge_of_enabled (h : ∀ set ∈ flags, set ∈ s.sets) :
    s.merge root flags = { s with root := root.getD s.root } := by
  obtain ⟨added, ha, he⟩ := merge_eq s root flags
  have hnil : added = [] := by
    refine List.eq_nil_iff_forall_not_mem.mpr fun set hm => ?_
    obtain ⟨hf, hn⟩ := (ha.mem_iff set).mp hm
    exact hn (h set hf)
  rw [he, hnil, List.append_nil]

theorem root_merge (s : Settings) (root : Option Path) (flags : List ExtensionSet) :
    (s.merge root flags).root = root.getD s.root := by
  obtain ⟨added, -, he⟩ := merge_eq s root flags
  rw [he]

theorem extensions_merge (s : Settings) (root : Option Path) (flags : List ExtensionSet) :
    (s.merge root flags).extensions = s.extensions := by
  obtain ⟨added, -, he⟩ := merge_eq s root flags
  rw [he]

theorem merge_merge (s : Settings) (root : Option Path) (flags : List ExtensionSet) :
    (s.merge root flags).merge root flags = s.merge root flags := by
  rw [merge_of_enabled fun set hf => (mem_sets_merge_iff s root flags set).mpr (.inr hf)]
  have hroot : root.getD (s.merge root flags).root = (s.merge root flags).root := by
    rw [root_merge]
    cases root <;> rfl
  rw [hroot]

/-- A flag that the settings or an earlier flag enable can be left out. -/
theorem merge_redundant {before after : List ExtensionSet} (h : set ∈ s.sets ∨ set ∈ before) :
    s.merge root (before ++ set :: after) = s.merge root (before ++ after) := by
  have hm : set ∈ (s.merge root before).sets := (mem_sets_merge_iff s root before set).mpr h
  rw [merge_append, merge_append, List.foldl_cons, enable_of_mem hm]

/-! ## Registries of merged settings -/

theorem registry_eq (s : Settings) :
    s.registry = build (s.sets.map .known ++ s.extensions.map .single) := rfl

theorem exists_registry_iff (s : Settings) :
    (∃ registry, s.registry = .ok registry) ↔
      s.sets.Nodup ∧ Proper s.sets s.extensions ∧
        standardEntries.length + (s.sets.flatMap ExtensionSet.properties).length +
          s.extensions.length ≤ capacity := by
  have hlen : (s.sets.flatMap ExtensionSet.entries).length =
      (s.sets.flatMap ExtensionSet.properties).length := by
    rw [← map_name_flatMap_entries, List.length_map]
  simp only [registry_eq, build_eq_ok_iff, exists_and_left, exists_eq, and_true, admissible_iff,
    entriesWith, flatMap_entries, properNames_iff_proper, List.length_append, List.length_map, hlen,
    ← Nat.add_assoc]
  constructor
  · rintro ⟨hl, hs, hp⟩
    exact ⟨hs, hp, hl⟩
  · rintro ⟨hs, hp, hl⟩
    exact ⟨hl, hs, hp⟩

/-- The sets that the settings or the flags enable, each once. -/
def enabled (s : Settings) (flags : List ExtensionSet) : List ExtensionSet :=
  ExtensionSet.all.filter fun set => set ∈ s.sets ∨ set ∈ flags

theorem sets_merge_perm (h : s.sets.Nodup) (root : Option Path) (flags : List ExtensionSet) :
    (s.merge root flags).sets.Perm (s.enabled flags) := by
  have hall : ExtensionSet.all.Nodup := by decide
  refine (List.perm_ext_iff_of_nodup ((nodup_sets_merge_iff s root flags).mpr h)
    (hall.filter _)).mpr fun set => ?_
  rw [mem_sets_merge_iff, List.mem_filter, decide_eq_true_iff]
  exact (and_iff_right set.mem_all).symm

/-- Settings and flags that give a registry: the settings list no set twice, the single extensions
are proper beside every set that is enabled, and there are at most 65535 properties. -/
structure Combinable (s : Settings) (flags : List ExtensionSet) : Prop where
  nodup : s.sets.Nodup
  proper : Proper (s.sets ++ flags) s.extensions
  size_le : standardEntries.length + ((s.enabled flags).flatMap ExtensionSet.properties).length +
    s.extensions.length ≤ 65535

theorem exists_registry_merge_iff (s : Settings) (root : Option Path)
    (flags : List ExtensionSet) :
    (∃ registry, (s.merge root flags).registry = .ok registry) ↔ Combinable s flags := by
  have hproper : Proper (s.merge root flags).sets s.extensions ↔
      Proper (s.sets ++ flags) s.extensions :=
    Proper.congr fun set => by rw [mem_sets_merge_iff, List.mem_append]
  have hsize : s.sets.Nodup →
      ((s.merge root flags).sets.flatMap ExtensionSet.properties).length =
        ((s.enabled flags).flatMap ExtensionSet.properties).length :=
    fun h => ((sets_merge_perm h root flags).flatMap_right _).length_eq
  rw [exists_registry_iff, extensions_merge, nodup_sets_merge_iff, hproper]
  constructor
  · rintro ⟨hs, hp, hl⟩
    rw [hsize hs] at hl
    exact ⟨hs, hp, hl⟩
  · rintro ⟨hs, hp, hl⟩
    refine ⟨hs, hp, ?_⟩
    rw [hsize hs]
    exact hl

/-- What becomes of settings and flags: the sets of the settings in front and what the flags add
behind them, a registry exactly from settings and flags that can be combined, and the same registry
whether or not a flag names a set that is enabled without it. -/
structure Combines (s : Settings) (root : Option Path) (flags : List ExtensionSet) : Prop where
  merge_eq : ∃ added, Adds s.sets flags added ∧
    s.merge root flags = { s with root := root.getD s.root, sets := s.sets ++ added }
  merge_merge : (s.merge root flags).merge root flags = s.merge root flags
  registry_iff : (∃ registry, (s.merge root flags).registry = .ok registry) ↔ Combinable s flags
  registry_of_redundant : ∀ before set after, flags = before ++ set :: after →
    set ∈ s.sets ∨ set ∈ before →
      (s.merge root flags).registry = (s.merge root (before ++ after)).registry
  registry_of_enabled : (∀ set ∈ flags, set ∈ s.sets) → (s.merge root flags).registry = s.registry

/-- **Settings and flags.** Merging keeps the sets of the settings first and adds those that the
flags name besides, each once and in the order of first appearance, so that merging the same flags
again changes nothing. The merged settings give a registry exactly when the settings list no set
twice, the single extensions have proper names that are neither repeated, nor standard, nor in a
set that is enabled, and all properties fit. A flag that repeats a set changes nothing in that. -/
theorem merge_combines (s : Settings) (root : Option Path) (flags : List ExtensionSet) :
    Combines s root flags := by
  constructor
  case merge_eq => exact merge_eq s root flags
  case merge_merge => exact merge_merge s root flags
  case registry_iff => exact exists_registry_merge_iff s root flags
  case registry_of_redundant =>
    rintro before set after rfl h
    rw [merge_redundant h]
  case registry_of_enabled =>
    intro h
    rw [merge_of_enabled h]
    rfl

example : ((Settings.default.enable .oppo).merge none [.mtkGauge, .oppo, .mtkGauge]).sets =
    [.oppo, .mtkGauge] := by
  decide

end Settings
end PowerClass
