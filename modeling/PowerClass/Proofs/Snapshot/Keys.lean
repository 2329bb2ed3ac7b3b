import PowerClass.Proofs.Registry.Capitals
import PowerClass.Proofs.Snapshot.Surface

/-!
# PowerClass.Proofs.Snapshot.Keys

The keys of a snapshot. A registry keeps the names of its properties apart, but a key is a name in
capitals, beside the `NAME` of the supply, and a registry does not look at these: `temp` and `TEMP`
are two attributes with one key.

* `Snapshot.Unambiguous`: every entry is found by its key, and an object of the entries has all of
  them.
* `distinctKeys_iff`: the snapshots of a registry are unambiguous exactly when its keys differ.
* `distinctKeys_of_lowercase`: the keys differ when the names have no capitals and none is `name`,
  as in the standard registry.
-/

namespace PowerClass

namespace Snapshot

/-- No key of the snapshot stands for two entries. -/
structure Unambiguous (snapshot : Snapshot) : Prop where
  nodup : (snapshot.entries.map Prod.fst).Nodup
  get?_eq : ∀ key value, (key, value) ∈ snapshot.entries → snapshot.get? key = some value
  toObject_eq : snapshot.toObject =
    .obj (snapshot.entries.map fun (key, value) => (key, .str value))

theorem get?_of_mem {snapshot : Snapshot} (hn : (snapshot.entries.map Prod.fst).Nodup)
    {key value : String} (h : (key, value) ∈ snapshot.entries) :
    snapshot.get? key = some value := by
  obtain ⟨before, after, he⟩ := List.append_of_mem h
  refine List.lookup_eq_some_iff.mpr ⟨before, after, he, fun entry hm => ?_⟩
  rw [he, List.map_append, List.map_cons, List.nodup_append] at hn
  exact bne_iff_ne.mpr (hn.2.2 entry.1 (List.mem_map_of_mem hm) key List.mem_cons_self).symm

theorem unambiguous_of_nodup {snapshot : Snapshot}
    (hn : (snapshot.entries.map Prod.fst).Nodup) : snapshot.Unambiguous where
  nodup := hn
  get?_eq _ _ := get?_of_mem hn
  toObject_eq := by
    refine Json.ofFields_of_nodup ?_
    rw [List.map_map]
    exact hn

end Snapshot

namespace Registry

def key? (registry : Registry) (id : PropertyId) : Option String :=
  (registry.get? id).map fun d => d.name.toUpper

def declarable (registry : Registry) : List Descriptor :=
  registry.descriptors.filter fun d => d.kind ≠ .deviceType

/-- The keys that a snapshot may have. -/
def keys (registry : Registry) : List String :=
  "NAME" :: registry.declarable.map fun d => d.name.toUpper

/-- No two properties that a supply may declare have the same name but for the case of its letters,
and none has the name `name`. -/
def DistinctKeys (registry : Registry) : Prop :=
  registry.keys.Nodup

variable {registry : Registry}

theorem mem_declarable {d : Descriptor} :
    d ∈ registry.declarable ↔ d ∈ registry.descriptors ∧ d.kind ≠ .deviceType := by
  simp [declarable]

theorem nodup_declarable (hw : registry.WellFormed) : registry.declarable.Nodup :=
  (hw.nodup.of_map _).filter _

/-! ## Registries whose keys differ -/

theorem keys_sublist (readings : List Reading) :
    ((readings.filterMap (Snapshot.entryOf? registry)).map Prod.fst).Sublist
      ((readings.map Reading.id).filterMap registry.key?) := by
  induction readings with
  | nil => exact .slnil
  | cons reading rest ih =>
    rw [List.filterMap_cons, List.map_cons, List.filterMap_cons]
    cases hr : Snapshot.entryOf? registry reading with
    | none =>
      -- A reading that failed has a key all the same.
      cases registry.key? reading.id with
      | none => exact ih
      | some key => exact ih.cons key
    | some entry =>
      have hk : registry.key? reading.id = some entry.1 := by
        unfold Snapshot.entryOf? at hr
        split at hr
        · next d text hd _ => cases hr; simp [key?, hd]
        · cases hr
      rw [hk]
      exact ih.cons_cons _

theorem DistinctKeys.nodup (hk : registry.DistinctKeys) (hw : registry.WellFormed)
    {declaration : Declaration} (hv : declaration.Valid registry) :
    ("NAME" :: declaration.properties.filterMap registry.key?).Nodup := by
  obtain ⟨hn, hk⟩ := List.nodup_cons.mp hk
  have key : ∀ id ∈ declaration.properties, ∀ k, registry.key? id = some k →
      ∃ d ∈ registry.declarable, d.id = id ∧ d.name.toUpper = k := by
    intro id hi k h
    obtain ⟨d, hm, rfl, hd⟩ := hv.exists_mem hw hi
    rw [key?, hw.get?_id hm] at h
    cases h
    exact ⟨d, mem_declarable.mpr ⟨hm, hd⟩, rfl, rfl⟩
  refine List.nodup_cons.mpr ⟨fun hm => ?_, ?_⟩
  · obtain ⟨id, hi, h⟩ := List.mem_filterMap.mp hm
    obtain ⟨d, hd, -, hu⟩ := key id hi _ h
    exact hn (List.mem_map.mpr ⟨d, hd, hu⟩)
  · refine List.pairwise_filterMap.mpr (hv.nodup.imp_of_mem fun {a b} ha hb hne => ?_)
    rintro k hka l hlb rfl
    obtain ⟨d, hd, rfl, hu⟩ := key a ha _ hka
    obtain ⟨d', hd', rfl, hu'⟩ := key b hb _ hlb
    exact hne (congrArg _ (List.inj_on_of_nodup_map hk hd hd' (hu.trans hu'.symm)))

theorem DistinctKeys.unambiguous (hk : registry.DistinctKeys) (hw : registry.WellFormed)
    {σ : Type} {supply : Supply (StateM σ)} (hv : supply.declaration.Valid registry) {s : σ}
    {snapshot : Snapshot} (h : (supply.snapshot registry s).1 = .ok snapshot) :
    snapshot.Unambiguous := by
  refine Snapshot.unambiguous_of_nodup ?_
  rw [Supply.entries_of_snapshot h]
  have hs := (keys_sublist (supply.readAll registry supply.declaration.properties s).1).trans
    ((Supply.map_id_readAll_prefix _ s).sublist.filterMap registry.key?)
  exact (hs.cons_cons "NAME").nodup (hk.nodup hw hv)

theorem distinctKeys_of_lowercase (hw : registry.WellFormed)
    (h : ∀ d ∈ registry.descriptors, d.name ≠ "name" ∧ d.name.toList.any Char.isUpper = false) :
    registry.DistinctKeys := by
  refine List.nodup_cons.mpr ⟨fun hm => ?_, (nodup_declarable hw).map_on ?_⟩
  · obtain ⟨d, hd, hu⟩ := List.mem_map.mp hm
    obtain ⟨hne, hc⟩ := h d (mem_declarable.mp hd).1
    have hname : "name".toUpper = "NAME" := by
      rw [← String.toList_inj, toList_toUpper]
      decide
    exact hne (toUpper_inj hc (by decide) (hu.trans hname.symm))
  · intro d hd d' hd' hu
    have hm := (mem_declarable.mp hd).1
    have hm' := (mem_declarable.mp hd').1
    exact List.inj_on_of_nodup_map hw.nodup hm hm' (toUpper_inj (h d hm).2 (h d' hm').2 hu)

theorem distinctKeys_standard : standard.DistinctKeys := by
  refine distinctKeys_of_lowercase (wellFormed_ofEntries admissible_standardEntries) fun d hd => ?_
  have hl : ∀ entry ∈ standardEntries, entry.name ≠ "name" ∧
      entry.name.toList.any Char.isUpper = false := by decide +kernel
  exact hl _ (entry_mem_of_mem hd)

/-! ## A supply that declares everything -/

def sampleValue (kind : Kind) : Value :=
  match kind.variant with
  | .int => .int 0
  | .int64 => .int64 0
  | .ordinal => .ordinal 0
  | .text => .text ""

theorem variant_sampleValue (kind : Kind) : (sampleValue kind).variant = kind.variant := by
  cases kind <;> rfl

/-- A supply that declares and answers every property that it may. -/
def fullSupply (registry : Registry) : Supply (StateM Unit) :=
  .readOnly ⟨"", .unknown, registry.declarable.map Descriptor.id⟩ fun id =>
    pure (match registry.get? id with
      | some d => .ok (sampleValue d.kind)
      | none => .error .noData)

theorem valid_fullSupply (hw : registry.WellFormed) :
    registry.fullSupply.declaration.Valid registry where
  canDeclare id hi := by
    obtain ⟨d, hd, rfl⟩ := List.mem_map.mp hi
    obtain ⟨hm, hk⟩ := mem_declarable.mp hd
    exact ⟨d, hw.get?_id hm, hk⟩
  nodup := hw.nodup_ids.sublist (List.filter_sublist.map _)

theorem steady_fullSupply : registry.fullSupply.Steady () :=
  Supply.Quiet.steady ⟨fun _ _ => rfl, fun _ _ => rfl⟩ ()

theorem exists_shown_fullSupply (hw : registry.WellFormed) {d : Descriptor}
    (hd : d ∈ registry.declarable) :
    ∃ text, registry.fullSupply.shown registry () d.id = .ok text := by
  obtain ⟨hm, hk⟩ := mem_declarable.mp hd
  have hg := hw.get?_id hm
  obtain ⟨text, -, ht⟩ := Supply.exists_textOf (variant_sampleValue d.kind)
  rw [Supply.shown_eq_read hw (valid_fullSupply hw) steady_fullSupply .refl
    (List.mem_map_of_mem hd), Supply.read_eq, hg]
  simp only
  rw [Supply.fetch_of_ne_deviceType _ hk]
  refine ⟨text, ?_⟩
  show Supply.textOf d.kind (match registry.get? d.id with
    | some d => .ok (sampleValue d.kind)
    | none => .error .noData) = _
  rw [hg]
  exact ht

/-- Every key occurs in one snapshot. -/
theorem exists_snapshot_fullSupply (hw : registry.WellFormed) :
    ∃ snapshot, (registry.fullSupply.snapshot registry ()).1 = .ok snapshot ∧
      snapshot.entries.map Prod.fst = registry.keys := by
  refine ⟨⟨_⟩,
    (Supply.snapshot_eq_ok_iff hw (valid_fullSupply hw) steady_fullSupply).mpr ⟨?_, rfl⟩, ?_⟩
  · intro id hi e he
    obtain ⟨d, hd, rfl⟩ := List.mem_map.mp hi
    obtain ⟨text, ht⟩ := exists_shown_fullSupply hw hd
    rw [ht] at he
    cases he
  · have key : ∀ d ∈ registry.declarable,
        (Snapshot.entryOf? registry ⟨d.id, registry.fullSupply.shown registry () d.id⟩).map Prod.fst =
          some d.name.toUpper := by
      intro d hd
      obtain ⟨text, ht⟩ := exists_shown_fullSupply hw hd
      have hg := hw.get?_id (mem_declarable.mp hd).1
      simp [Snapshot.entryOf?, hg, ht]
    have hp : registry.fullSupply.declaration.properties = registry.declarable.map Descriptor.id :=
      rfl
    rw [List.map_cons, hp, List.filterMap_map, List.map_filterMap, keys,
      ← List.filterMap_eq_map]
    exact congrArg (List.cons _) (List.filterMap_congr key)

/-- **Keys of snapshots.** The snapshots that a built registry gives are all unambiguous exactly
when its keys differ. -/
theorem distinctKeys_iff {additions : List Addition} {registry : Registry}
    (hb : build additions = .ok registry) :
    registry.DistinctKeys ↔ ∀ (σ : Type) (supply : Supply (StateM σ)) (s : σ)
      (snapshot : Snapshot), supply.Validated registry →
        (supply.snapshot registry s).1 = .ok snapshot → snapshot.Unambiguous := by
  have hw := wellFormed_of_build hb
  constructor
  · intro hk σ supply s snapshot hv h
    exact hk.unambiguous hw (Supply.validated_iff.mp hv) h
  · intro h
    obtain ⟨snapshot, hs, hkeys⟩ := exists_snapshot_fullSupply hw
    have hv := Supply.validated_iff.mpr (valid_fullSupply hw)
    have := (h Unit registry.fullSupply () snapshot hv hs).nodup
    rwa [hkeys] at this

theorem distinctKeys_iff_standard :
    build [] = .ok standard ∧ standard.DistinctKeys ∧
      ∀ (σ : Type) (supply : Supply (StateM σ)) (s : σ) (snapshot : Snapshot),
        supply.Validated standard → (supply.snapshot standard s).1 = .ok snapshot →
          snapshot.Unambiguous :=
  ⟨build_nil, distinctKeys_standard, (distinctKeys_iff build_nil).mp distinctKeys_standard⟩

/-- The standard registry with one more temperature, whose name differs in case only. -/
def twoTemperatures : Registry :=
  ofEntries (standardEntries ++ [⟨"TEMP", .int32⟩])

/-- A battery that has both temperatures. -/
def warmBattery : Supply (StateM Script) :=
  Script.supply ⟨"BAT0", .battery, [⟨46⟩, ⟨71⟩]⟩ []

def warmAnswers : Script :=
  ⟨⟨[(⟨46⟩, .ok (.int 250)), (⟨71⟩, .ok (.int 260))]⟩, none⟩

/-- The two temperatures have one key, under which only the first is found, and an object of the
entries has the second in its place. -/
theorem ambiguous_twoTemperatures :
    build [.single ⟨"TEMP", .int⟩] = .ok twoTemperatures ∧ warmBattery.Validated twoTemperatures ∧
      ∃ snapshot, (warmBattery.snapshot twoTemperatures warmAnswers).1 = .ok snapshot ∧
        snapshot.entries = [("NAME", "BAT0"), ("TEMP", "250"), ("TEMP", "260")] ∧
        ¬ (snapshot.entries.map Prod.fst).Nodup ∧ snapshot.get? "TEMP" = some "250" ∧
        snapshot.toObject = .obj [("NAME", .str "BAT0"), ("TEMP", .str "260")] := by
  have hb : build [.single ⟨"TEMP", .int⟩] = .ok twoTemperatures := by
    refine build_eq_ok_iff.mpr ⟨?_, rfl⟩
    exact admissible_standardEntries.concat (by decide) (by decide) (by decide)
  refine ⟨hb, ⟨"BAT0", .battery, [⟨46⟩, ⟨71⟩], rfl⟩,
    ⟨[("NAME", "BAT0"), ("TEMP", "250"), ("TEMP", "260")]⟩, ?_, rfl, by decide, by decide, rfl⟩
  decide +kernel

end Registry
end PowerClass
