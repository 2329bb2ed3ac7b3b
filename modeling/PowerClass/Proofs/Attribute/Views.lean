import PowerClass.Proofs.Attribute.Access
import PowerClass.Proofs.Result
import PowerClass.Supply.Scripted

/-!
# PowerClass.Proofs.Attribute.Views

The list of the attributes, the mode of one of them, showing it and storing in it: four ways to the
same surface. The list goes through the registry, the others look a name up.

* `exposure`: the mode of a property under a fixed answer of the device to what may be written.
* `attributes_eq`, `mem_listed_iff`: the list holds the exposed properties, in the order of the
  registry.
* `viewsAgree`: what is listed is what can be shown and stored, and nothing else is.
-/

namespace PowerClass
namespace Supply

variable {σ : Type}

/-- The states that a device reaches while it is only asked which properties may be written. -/
inductive Asked (supply : Supply (StateM σ)) (s : σ) : σ → Prop where
  | refl : Asked supply s s
  | isWritable {s' : σ} (id : PropertyId) :
      Asked supply s s' → Asked supply s (supply.isWritable id s').2

/-- The properties that a device lets be written, as long as it is only asked for them. -/
def Writable (supply : Supply (StateM σ)) (s : σ) (writable : PropertyId → Bool) : Prop :=
  ∀ s', supply.Asked s s' → ∀ id, (supply.isWritable id s').1 = writable id

/-- The mode of a property of a device that lets some properties be written. -/
def exposure (supply : Supply (StateM σ)) (writable : PropertyId → Bool) (d : Descriptor) : Mode :=
  if d.kind = .deviceType then .readOnly
  else if d.id ∈ supply.declaration.properties then
    if writable d.id then .readWrite else .readOnly
  else .hidden

variable {supply : Supply (StateM σ)} {registry : Registry} {s s' : σ}
  {writable : PropertyId → Bool}

/-- A device whose answer is always the same. -/
theorem writable_of_forall (h : ∀ id s, (supply.isWritable id s).1 = writable id) (s : σ) :
    supply.Writable s writable :=
  fun s' _ id => h id s'

theorem Asked.mode (h : supply.Asked s s') (d : Descriptor) :
    supply.Asked s (supply.mode d s').2 := by
  unfold Supply.mode
  by_cases hk : d.kind = .deviceType
  · rw [if_pos hk]
    exact h
  · rw [if_neg hk]
    by_cases hd : supply.declaration.declares d.id = true
    · rw [if_pos hd]
      exact h.isWritable d.id
    · rw [if_neg hd]
      exact h

theorem Writable.mode_eq (hp : supply.Writable s writable) (h : supply.Asked s s')
    (d : Descriptor) : (supply.mode d s').1 = supply.exposure writable d := by
  unfold Supply.mode exposure
  by_cases hk : d.kind = .deviceType
  · rw [if_pos hk, if_pos hk]
    rfl
  · rw [if_neg hk, if_neg hk]
    by_cases hd : d.id ∈ supply.declaration.properties
    · have hdec : supply.declaration.declares d.id = true := by
        simpa [Declaration.declares] using hd
      rw [if_pos hdec, if_pos hd, ← hp s' h d.id]
      rfl
    · have hdec : ¬ supply.declaration.declares d.id = true := by
        simpa [Declaration.declares] using hd
      rw [if_neg hdec, if_neg hd]
      rfl

theorem Writable.mapM_mode_eq (hp : supply.Writable s writable) (ds : List Descriptor)
    (h : supply.Asked s s') :
    (ds.mapM (fun d => (Attribute.mk d ·) <$> supply.mode d) s').1 =
      ds.map fun d => ⟨d, supply.exposure writable d⟩ := by
  induction ds generalizing s' with
  | nil => rfl
  | cons d rest ih =>
    have hrest := ih (h.mode d)
    rw [List.mapM_cons, List.map_cons, ← hrest, ← hp.mode_eq h d]
    rfl

theorem Writable.attributes_eq (hp : supply.Writable s writable) (registry : Registry) :
    (supply.attributes registry s).1 =
      (registry.descriptors.map fun d => ⟨d, supply.exposure writable d⟩).filter
        fun a => a.mode.isVisible := by
  rw [← hp.mapM_mode_eq registry.descriptors .refl]
  rfl

theorem Writable.mem_attributes_iff (hp : supply.Writable s writable) {d : Descriptor}
    {mode : Mode} :
    ⟨d, mode⟩ ∈ (supply.attributes registry s).1 ↔
      d ∈ registry.descriptors ∧ mode = supply.exposure writable d ∧ mode ≠ .hidden := by
  rw [hp.attributes_eq, List.mem_filter, List.mem_map]
  constructor
  · rintro ⟨⟨d', hd, heq⟩, hv⟩
    cases heq
    exact ⟨hd, rfl, by simpa [Mode.isVisible] using hv⟩
  · rintro ⟨hd, rfl, hv⟩
    exact ⟨⟨d, hd, rfl⟩, by simp [Mode.isVisible, hv]⟩

theorem exposure_ne_hidden_iff {d : Descriptor} :
    supply.exposure writable d ≠ .hidden ↔
      d.kind = .deviceType ∨ d.id ∈ supply.declaration.properties := by
  unfold exposure
  by_cases hk : d.kind = .deviceType
  · simp [hk]
  · by_cases hd : d.id ∈ supply.declaration.properties
    · by_cases hp : writable d.id = true <;> simp [hk, hd, hp]
    · simp [hk, hd]

theorem exposure_of_declared {d : Descriptor} (hk : d.kind ≠ .deviceType)
    (hd : d.id ∈ supply.declaration.properties) :
    supply.exposure writable d = if writable d.id then .readWrite else .readOnly := by
  rw [exposure, if_neg hk, if_pos hd]

/-! ## What is listed -/

section

variable {t : Descriptor} (hw : registry.WellFormed) (ht : registry.IsType t)
  (hv : supply.declaration.Valid registry) (hp : supply.Writable s writable)

include hp in
theorem pairwise_attributes (hw : registry.WellFormed) :
    (supply.attributes registry s).1.Pairwise fun a b =>
      a.descriptor.id.index.toNat < b.descriptor.id.index.toNat := by
  rw [hp.attributes_eq]
  refine List.Pairwise.filter _ ?_
  rw [List.pairwise_map]
  exact hw.pairwise_index

include hw ht hv hp in
theorem mem_listed_iff {d : Descriptor} {mode : Mode} :
    ⟨d, mode⟩ ∈ (supply.attributes registry s).1 ↔
      d ∈ registry.descriptors ∧ (d.name = "type" ∧ mode = .readOnly ∨
        d.id ∈ supply.declaration.properties ∧
          mode = if writable d.id then .readWrite else .readOnly) := by
  rw [hp.mem_attributes_iff]
  refine and_congr_right fun hd => ?_
  constructor
  · rintro ⟨rfl, hvis⟩
    rcases exposure_ne_hidden_iff.mp hvis with hk | hi
    · refine .inl ⟨?_, by rw [exposure, if_pos hk]⟩
      rw [ht.eq_of_kind d hd hk]
      exact ht.name_eq
    · have hk := hv.kind_ne_deviceType hw hd hi
      exact .inr ⟨hi, exposure_of_declared hk hi⟩
  · rintro (⟨hname, rfl⟩ | ⟨hi, rfl⟩)
    · have heq : d = t :=
        List.inj_on_of_nodup_map hw.nodup hd ht.mem (hname.trans ht.name_eq.symm)
      rw [heq, exposure, if_pos ht.kind_eq]
      simp
    · have hk := hv.kind_ne_deviceType hw hd hi
      rw [← exposure_of_declared hk hi]
      exact ⟨rfl, exposure_ne_hidden_iff.mpr (.inr hi)⟩

include hw ht hv hp in
/-- The identifiers in the list are that of the type and those that are declared. -/
theorem listed_ids_perm :
    ((supply.attributes registry s).1.map fun a => a.descriptor.id).Perm
      (t.id :: supply.declaration.properties) := by
  have hlisted : ((supply.attributes registry s).1.map fun a => a.descriptor.id).Nodup :=
    PropertyId.Increasing.nodup (List.pairwise_map.mpr (pairwise_attributes hp hw))
  have htype : t.id ∉ supply.declaration.properties := fun hi =>
    hv.kind_ne_deviceType hw ht.mem hi ht.kind_eq
  refine (List.perm_ext_iff_of_nodup hlisted (List.nodup_cons.mpr ⟨htype, hv.nodup⟩)).mpr ?_
  intro id
  rw [List.mem_map, List.mem_cons]
  constructor
  · rintro ⟨⟨d, mode⟩, ha, rfl⟩
    obtain ⟨hd, hname, -⟩ | ⟨hd, hi, -⟩ :=
      and_or_left.mp ((mem_listed_iff hw ht hv hp).mp ha)
    · have heq : d = t :=
        List.inj_on_of_nodup_map hw.nodup hd ht.mem (hname.trans ht.name_eq.symm)
      exact .inl (by rw [heq])
    · exact .inr hi
  · rintro (rfl | hi)
    · exact ⟨⟨t, .readOnly⟩,
        (mem_listed_iff hw ht hv hp).mpr ⟨ht.mem, .inl ⟨ht.name_eq, rfl⟩⟩, rfl⟩
    · obtain ⟨d, hd, rfl, -⟩ := hv.exists_mem hw hi
      exact ⟨⟨d, _⟩, (mem_listed_iff hw ht hv hp).mpr ⟨hd, .inr ⟨hi, rfl⟩⟩, rfl⟩

include hw hp in
theorem lookup?_of_listed {a : Attribute} (ha : a ∈ (supply.attributes registry s).1) :
    registry.lookup? a.descriptor.name = some a.descriptor ∧
      (supply.mode a.descriptor s).1 = a.mode ∧ a.mode ≠ .hidden := by
  obtain ⟨d, mode⟩ := a
  obtain ⟨hd, rfl, hvis⟩ := hp.mem_attributes_iff.mp ha
  exact ⟨hw.lookup?_name hd, hp.mode_eq .refl d, hvis⟩

include hw hp in
/-- A name that is not listed is that of no property, or of a hidden one. -/
theorem hidden_of_not_listed {name : String}
    (h : ∀ a ∈ (supply.attributes registry s).1, a.descriptor.name ≠ name) :
    registry.lookup? name = none ∨
      ∃ d, registry.lookup? name = some d ∧ (supply.mode d s).1 = .hidden := by
  cases hl : registry.lookup? name with
  | none => exact .inl rfl
  | some d =>
    obtain ⟨hd, hname⟩ := hw.lookup?_eq_some_iff.mp hl
    refine .inr ⟨d, rfl, ?_⟩
    by_contra hvis
    have ha : ⟨d, supply.exposure writable d⟩ ∈ (supply.attributes registry s).1 := by
      rw [hp.mode_eq .refl d] at hvis
      exact hp.mem_attributes_iff.mpr ⟨hd, rfl, hvis⟩
    exact h _ ha hname

include hw hp in
theorem showAttribute_of_listed {a : Attribute} (ha : a ∈ (supply.attributes registry s).1) :
    supply.showAttribute registry a.descriptor.name s =
      supply.read registry a.descriptor.id (supply.mode a.descriptor s).2 := by
  obtain ⟨hl, hm, hvis⟩ := lookup?_of_listed hw hp ha
  exact showAttribute_of_visible supply hl (by rwa [hm])

include hw hp in
theorem showAttribute_eq_unknown_iff {name : String} :
    (supply.showAttribute registry name s).1 = .error (.unknownAttribute name) ↔
      ∀ a ∈ (supply.attributes registry s).1, a.descriptor.name ≠ name := by
  constructor
  · rintro h a ha rfl
    rw [showAttribute_of_listed hw hp ha] at h
    exact read_ne_unknownAttribute supply a.descriptor.id _ a.descriptor.name h
  · intro hnot
    rcases hidden_of_not_listed hw hp hnot with hl | ⟨d, hl, hm⟩
    · rw [showAttribute_of_unknown supply hl]
    · rw [showAttribute_of_hidden supply hl hm]

include hw hp in
theorem storeAttribute_of_listed_writable {a : Attribute}
    (ha : a ∈ (supply.attributes registry s).1) (hm : a.mode = .readWrite) (text : String) :
    supply.storeAttribute registry a.descriptor.name text s =
      let (result, s') := supply.write registry a.descriptor.id text (supply.mode a.descriptor s).2
      (result.map fun () => text.utf8ByteSize, s') := by
  obtain ⟨hl, hmode, -⟩ := lookup?_of_listed hw hp ha
  exact storeAttribute_of_writable supply hl text (hmode.trans hm)

include hw hp in
theorem storeAttribute_of_listed_readOnly {a : Attribute}
    (ha : a ∈ (supply.attributes registry s).1) (hm : a.mode = .readOnly) (text : String) :
    (supply.storeAttribute registry a.descriptor.name text s).1 =
      .error (.readOnly a.descriptor.name) := by
  obtain ⟨hl, hmode, -⟩ := lookup?_of_listed hw hp ha
  rw [storeAttribute_of_readOnly supply hl text (hmode.trans hm)]

include hw hp in
theorem storeAttribute_of_not_listed {name : String}
    (h : ∀ a ∈ (supply.attributes registry s).1, a.descriptor.name ≠ name) (text : String) :
    (supply.storeAttribute registry name text s).1 = .error (.unknownAttribute name) := by
  rcases hidden_of_not_listed hw hp h with hl | ⟨d, hl, hm⟩
  · rw [storeAttribute_of_unknown supply hl]
  · rw [storeAttribute_of_hidden supply hl text hm]

include hw hp in
/-- What a store into a writable attribute answers comes from the device or from the text. -/
theorem error_of_storeAttribute_of_listed_writable {a : Attribute}
    (ha : a ∈ (supply.attributes registry s).1) (hm : a.mode = .readWrite) {text : String}
    {e : AccessError}
    (h : (supply.storeAttribute registry a.descriptor.name text s).1 = .error e)
    (other : String) : e ≠ .unknownAttribute other ∧ e ≠ .readOnly other := by
  obtain ⟨hl, hmode, -⟩ := lookup?_of_listed hw hp ha
  rw [storeAttribute_of_writable supply hl text (hmode.trans hm)] at h
  exact error_of_write supply (Result.map_eq_error.mp h) other

include hw hp in
theorem storeAttribute_eq_unknown_iff {name text : String} :
    (supply.storeAttribute registry name text s).1 = .error (.unknownAttribute name) ↔
      ∀ a ∈ (supply.attributes registry s).1, a.descriptor.name ≠ name := by
  refine ⟨?_, fun h => storeAttribute_of_not_listed hw hp h text⟩
  rintro h a ha rfl
  cases hm : a.mode with
  | hidden => exact (lookup?_of_listed hw hp ha).2.2 hm
  | readOnly =>
    rw [storeAttribute_of_listed_readOnly hw hp ha hm] at h
    cases h
  | readWrite =>
    have hne := error_of_storeAttribute_of_listed_writable hw hp ha hm h a.descriptor.name
    exact hne.1 rfl

include hw hp in
theorem storeAttribute_eq_readOnly_iff {name text : String} :
    (supply.storeAttribute registry name text s).1 = .error (.readOnly name) ↔
      ∃ a ∈ (supply.attributes registry s).1, a.descriptor.name = name ∧ a.mode = .readOnly := by
  constructor
  · intro h
    by_cases hlisted : ∃ a ∈ (supply.attributes registry s).1, a.descriptor.name = name
    · obtain ⟨a, ha, rfl⟩ := hlisted
      refine ⟨a, ha, rfl, ?_⟩
      cases hm : a.mode with
      | hidden => exact absurd hm (lookup?_of_listed hw hp ha).2.2
      | readOnly => rfl
      | readWrite =>
        have hne := error_of_storeAttribute_of_listed_writable hw hp ha hm h a.descriptor.name
        exact absurd rfl hne.2
    · have hnot : ∀ a ∈ (supply.attributes registry s).1, a.descriptor.name ≠ name :=
        fun a ha hname => hlisted ⟨a, ha, hname⟩
      rw [storeAttribute_of_not_listed hw hp hnot] at h
      cases h
  · rintro ⟨a, ha, rfl, hm⟩
    exact storeAttribute_of_listed_readOnly hw hp ha hm text

end

/-! ## Four ways to the same attributes -/

/-- A list of attributes says what the other ways to them answer. A device is asked whether an
attribute may be written before it is read or written. -/
structure ViewsAgree (supply : Supply (StateM σ)) (registry : Registry) (s : σ)
    (writable : PropertyId → Bool) (listed : List Attribute) : Prop where
  increasing : listed.Pairwise fun a b =>
    a.descriptor.id.index.toNat < b.descriptor.id.index.toNat
  mem_iff : ∀ d mode, ⟨d, mode⟩ ∈ listed ↔
    d ∈ registry.descriptors ∧ (d.name = "type" ∧ mode = .readOnly ∨
      d.id ∈ supply.declaration.properties ∧
        mode = if writable d.id then .readWrite else .readOnly)
  length_eq : listed.length = supply.declaration.properties.length + 1
  mode_eq : ∀ a ∈ listed, (supply.attributeMode registry a.descriptor.name s).1 = a.mode
  mode_eq_hidden : ∀ name, (∀ a ∈ listed, a.descriptor.name ≠ name) →
    (supply.attributeMode registry name s).1 = .hidden
  show_unknown_iff : ∀ name,
    (supply.showAttribute registry name s).1 = .error (.unknownAttribute name) ↔
      ∀ a ∈ listed, a.descriptor.name ≠ name
  store_unknown_iff : ∀ name text,
    (supply.storeAttribute registry name text s).1 = .error (.unknownAttribute name) ↔
      ∀ a ∈ listed, a.descriptor.name ≠ name
  store_readOnly_iff : ∀ name text,
    (supply.storeAttribute registry name text s).1 = .error (.readOnly name) ↔
      ∃ a ∈ listed, a.descriptor.name = name ∧ a.mode = .readOnly
  show_eq : ∀ a ∈ listed, supply.showAttribute registry a.descriptor.name s =
    supply.read registry a.descriptor.id (supply.mode a.descriptor s).2
  store_eq : ∀ a ∈ listed, a.mode = .readWrite → ∀ text,
    supply.storeAttribute registry a.descriptor.name text s =
      let (result, s') := supply.write registry a.descriptor.id text (supply.mode a.descriptor s).2
      (result.map fun () => text.utf8ByteSize, s')

/-- **Views of the attributes.** In the standard registry and in every built one, the list of the
attributes of a supply with a validated declaration has the type and what is declared, and agrees
with the modes, the texts and the stores by name. -/
theorem viewsAgree {registry : Registry}
    (hb : registry = .standard ∨ ∃ additions, Registry.build additions = .ok registry)
    {supply : Supply (StateM σ)} (hvalidated : supply.Validated registry) {s : σ}
    {writable : PropertyId → Bool} (hp : supply.Writable s writable) :
    supply.ViewsAgree registry s writable (supply.attributes registry s).1 := by
  obtain ⟨additions, hb⟩ : ∃ additions, Registry.build additions = .ok registry := by
    rcases hb with rfl | hb
    · exact ⟨[], Registry.build_nil⟩
    · exact hb
  have hw := Registry.wellFormed_of_build hb
  obtain ⟨t, ht⟩ := Registry.exists_isType_of_build hb
  have hv := validated_iff.mp hvalidated
  constructor
  case increasing => exact pairwise_attributes hp hw
  case mem_iff => exact fun d mode => mem_listed_iff hw ht hv hp
  case length_eq =>
    have hlen := (listed_ids_perm hw ht hv hp).length_eq
    rwa [List.length_map, List.length_cons] at hlen
  case mode_eq =>
    intro a ha
    obtain ⟨hl, hm, -⟩ := lookup?_of_listed hw hp ha
    rw [attributeMode, hl]
    exact hm
  case mode_eq_hidden =>
    intro name hnot
    rcases hidden_of_not_listed hw hp hnot with hl | ⟨d, hl, hm⟩
    · rw [attributeMode, hl]
      rfl
    · rw [attributeMode, hl]
      exact hm
  case show_unknown_iff => exact fun name => showAttribute_eq_unknown_iff hw hp
  case store_unknown_iff => exact fun name text => storeAttribute_eq_unknown_iff hw hp
  case store_readOnly_iff => exact fun name text => storeAttribute_eq_readOnly_iff hw hp
  case show_eq => exact fun a ha => showAttribute_of_listed hw hp ha
  case store_eq =>
    exact fun a ha hm text => storeAttribute_of_listed_writable hw hp ha hm text

/-- A battery that lets its status be written, and claims the same of its type. -/
def chargedBattery : Supply (StateM Script) :=
  Script.supply ⟨"BAT0", .battery, [⟨68⟩, ⟨0⟩]⟩ [⟨0⟩, ⟨58⟩]

theorem viewsAgree_chargedBattery :
    Registry.build [] = .ok .standard ∧ chargedBattery.Validated .standard ∧
      chargedBattery.Writable ⟨⟨[]⟩, none⟩ (fun id => [⟨0⟩, ⟨58⟩].contains id) ∧
      (chargedBattery.attributes .standard ⟨⟨[]⟩, none⟩).1.length = 3 ∧
      ⟨⟨⟨58⟩, "type", .deviceType⟩, .readOnly⟩ ∈
        (chargedBattery.attributes .standard ⟨⟨[]⟩, none⟩).1 := by
  have hv : chargedBattery.Validated .standard := ⟨"BAT0", .battery, [⟨68⟩, ⟨0⟩], rfl⟩
  have hp : chargedBattery.Writable ⟨⟨[]⟩, none⟩ (fun id => [⟨0⟩, ⟨58⟩].contains id) :=
    writable_of_forall (fun _ _ => rfl) _
  have hagree := viewsAgree (.inr ⟨[], Registry.build_nil⟩) hv hp
  refine ⟨Registry.build_nil, hv, hp, hagree.length_eq, ?_⟩
  exact (hagree.mem_iff _ _).mpr ⟨by decide +kernel, .inl ⟨rfl, rfl⟩⟩

end Supply
end PowerClass
