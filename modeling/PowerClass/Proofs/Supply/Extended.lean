import PowerClass.Proofs.Registry.Extended
import PowerClass.Proofs.Snapshot.Entries
import PowerClass.Proofs.Supply.Loading
import PowerClass.Supply.Scripted
import PowerClass.Uevent

/-!
# PowerClass.Proofs.Supply.Extended

What a supply exposes does not change when properties are added to the registry.

* `mode_of_new`: a property that was added is hidden, and the device is not asked about it.
* `map_readAll_congr`: the readings of registered properties are of those properties, in any monad.
* `SameThrough`: the functions by name, the snapshot and the uevent are the same computations, so
  they give the same answers and make the same calls to the device.
* `Simulated.Loaded.extends`: a fixture that is accepted makes the same supply.
* `sameThrough_of_build`: both hold of every two registries of which one has the entries of the
  other and then more.
-/

namespace PowerClass

open Registry

namespace Supply

variable {m : Type → Type} [Monad m] {larger registry : Registry} {supply : Supply m}
  (h : larger.Extends registry)
include h

theorem readOnto_extends {id : PropertyId} {d : Descriptor} (hg : registry.get? id = some d)
    (buffer : String) : supply.readOnto larger id buffer = supply.readOnto registry id buffer := by
  rw [readOnto, readOnto, h.get?_of_get? hg, hg]

theorem read_extends {id : PropertyId} {d : Descriptor} (hg : registry.get? id = some d) :
    supply.read larger id = supply.read registry id := by
  rw [read, read, readOnto_extends h hg]

theorem write_extends {id : PropertyId} {d : Descriptor} (hg : registry.get? id = some d)
    (text : String) : supply.write larger id text = supply.write registry id text := by
  rw [write, write, h.get?_of_get? hg, hg]

theorem readAllOnto_extends {ids : List PropertyId}
    (hi : ∀ id ∈ ids, ∃ d, registry.get? id = some d) (scratch : String) :
    supply.readAllOnto larger scratch ids = supply.readAllOnto registry scratch ids := by
  induction ids generalizing scratch with
  | nil => rfl
  | cons id rest ih =>
    rw [List.forall_mem_cons] at hi
    obtain ⟨⟨d, hg⟩, hrest⟩ := hi
    simp only [readAllOnto, readOnto_extends h hg, ih hrest]

variable (hv : supply.declaration.Valid registry)

section

include hv

theorem mode_of_new {d : Descriptor} (hd : d ∈ larger.descriptors)
    (hn : d ∉ registry.descriptors) : supply.mode d = pure .hidden := by
  refine mode_of_undeclared supply (h.kind_ne d hd hn) fun hi => ?_
  obtain ⟨found, hg, -⟩ := hv.canDeclare d.id hi
  rw [h.get?_eq_none_of_new hd hn] at hg
  cases hg

theorem attributeMode_extends (name : String) :
    supply.attributeMode larger name = supply.attributeMode registry name := by
  unfold attributeMode
  cases hn : registry.lookup? name with
  | some d => rw [h.lookup?_of_lookup? hn]
  | none =>
    cases hl : larger.lookup? name with
    | none => rfl
    | some d =>
      obtain ⟨hd, hnew⟩ := h.new_of_lookup? hl hn
      exact mode_of_new h hv hd hnew

end

variable [LawfulMonad m]

section

include hv

theorem mapM_mode_of_new {added : List Descriptor}
    (ha : ∀ d ∈ added, d ∈ larger.descriptors ∧ d ∉ registry.descriptors) :
    (added.mapM fun d => (Attribute.mk d ·) <$> supply.mode d) =
      pure (added.map fun d => ⟨d, .hidden⟩) := by
  induction added with
  | nil => rw [List.mapM_nil, List.map_nil]
  | cons d rest ih =>
    rw [List.forall_mem_cons] at ha
    rw [List.mapM_cons, ih ha.2, mode_of_new h hv ha.1.1 ha.1.2]
    simp

theorem attributes_extends : supply.attributes larger = supply.attributes registry := by
  obtain ⟨added, heq, hadded⟩ := h.exists_added
  have hhidden : (added.map fun d => (⟨d, .hidden⟩ : Attribute)).filter (·.mode.isVisible) = [] := by
    simp [Mode.isVisible]
  unfold attributes
  rw [heq, List.mapM_append, mapM_mode_of_new h hv hadded]
  simp [hhidden]

/-- What is done with an attribute that was looked up can only differ for a property that the
smaller registry has: for the supply, the names of the others are unknown in both. -/
theorem findAttribute_bind_extends {β : Type} {name : String}
    {f g : Except AccessError Attribute → m β} (herror : ∀ e, f (.error e) = g (.error e))
    (hok : ∀ d ∈ registry.descriptors, ∀ mode, f (.ok ⟨d, mode⟩) = g (.ok ⟨d, mode⟩)) :
    supply.findAttribute larger name >>= f = supply.findAttribute registry name >>= g := by
  unfold findAttribute
  cases hn : registry.lookup? name with
  | none =>
    rw [pure_bind, ← herror]
    cases hl : larger.lookup? name with
    | none => rw [pure_bind]
    | some d =>
      obtain ⟨hd, hnew⟩ := h.new_of_lookup? hl hn
      simp [mode_of_new h hv hd hnew, Mode.isVisible]
  | some d =>
    simp only [h.lookup?_of_lookup? hn, bind_map_left]
    refine bind_congr fun mode => ?_
    by_cases hm : mode.isVisible = true
    · simp only [if_pos hm]
      exact hok d (h.wellFormed.lookup?_eq_some_iff.mp hn).1 mode
    · simp only [if_neg hm]
      exact herror _

theorem showAttribute_extends (name : String) :
    supply.showAttribute larger name = supply.showAttribute registry name :=
  findAttribute_bind_extends h hv (fun _ => rfl) fun _ hd _ =>
    read_extends h (h.wellFormed.get?_id hd)

theorem storeAttribute_extends (name text : String) :
    supply.storeAttribute larger name text = supply.storeAttribute registry name text := by
  refine findAttribute_bind_extends h hv (fun _ => rfl) fun d hd mode => ?_
  simp only [write_extends h (h.wellFormed.get?_id hd)]

end

/-! ## Snapshots -/

omit h in
/-- Readings of given properties are of those properties, whatever the effects of the device. -/
theorem map_readAll_congr {β : Type} {ids : List PropertyId} {f g : List Reading → β}
    (hfg : ∀ readings : List Reading, (∀ reading ∈ readings, reading.id ∈ ids) →
      f readings = g readings) :
    f <$> supply.readAll registry ids = g <$> supply.readAll registry ids := by
  induction ids generalizing f g with
  | nil => simp only [readAll_nil, map_pure, hfg [] nofun]
  | cons id rest ih =>
    simp only [readAll_cons_eq, map_bind]
    refine bind_congr fun result => ?_
    by_cases hf : Reading.isFatal ⟨id, result⟩ = true
    · have hone : f [⟨id, result⟩] = g [⟨id, result⟩] := hfg _ (by simp)
      simp only [if_pos hf, map_pure, hone]
    · simp only [if_neg hf, Functor.map_map]
      refine ih fun readings hr => hfg _ ?_
      rw [List.forall_mem_cons]
      exact ⟨List.mem_cons_self, fun reading hm => List.mem_cons_of_mem _ (hr reading hm)⟩

theorem entriesOf_extends {readings : List Reading}
    (hr : ∀ reading ∈ readings, ∃ d, registry.get? reading.id = some d) :
    Snapshot.entriesOf larger readings = Snapshot.entriesOf registry readings := by
  induction readings with
  | nil => rfl
  | cons reading rest ih =>
    rw [List.forall_mem_cons] at hr
    obtain ⟨⟨d, hg⟩, hrest⟩ := hr
    obtain ⟨id, result⟩ := reading
    cases result with
    | ok text => simp only [Snapshot.entriesOf, Snapshot.key, h.get?_of_get? hg, hg, ih hrest]
    | error e => simp only [Snapshot.entriesOf, ih hrest]

include hv in
theorem snapshot_extends :
    supply.snapshot larger = supply.snapshot registry := by
  have hi : ∀ id ∈ supply.declaration.properties, ∃ d, registry.get? id = some d := by
    intro id hm
    obtain ⟨d, hg, -⟩ := hv.canDeclare id hm
    exact ⟨d, hg⟩
  unfold snapshot
  rw [readAll, readAllOnto_extends h hi]
  refine map_readAll_congr fun readings hr => ?_
  rw [Snapshot.ofReadings, Snapshot.ofReadings,
    entriesOf_extends h fun reading hm => hi _ (hr reading hm)]

omit h

/-! ## Supplies -/

/-- A supply of one registry can be asked through another, and does the same then. -/
structure SameThrough (supply : Supply m) (registry larger : Registry) : Prop where
  validated : supply.Validated larger
  attributes_eq : supply.attributes larger = supply.attributes registry
  attributeMode_eq : ∀ name,
    supply.attributeMode larger name = supply.attributeMode registry name
  showAttribute_eq : ∀ name,
    supply.showAttribute larger name = supply.showAttribute registry name
  storeAttribute_eq : ∀ name text,
    supply.storeAttribute larger name text = supply.storeAttribute registry name text
  snapshot_eq : supply.snapshot larger = supply.snapshot registry
  uevent_eq : supply.uevent larger = supply.uevent registry

include h hv in
theorem sameThrough_extends :
    supply.SameThrough registry larger where
  validated := validated_iff.mpr (hv.extends h)
  attributes_eq := attributes_extends h hv
  attributeMode_eq := attributeMode_extends h hv
  showAttribute_eq := showAttribute_extends h hv
  storeAttribute_eq := storeAttribute_extends h hv
  snapshot_eq := snapshot_extends h hv
  uevent_eq := by rw [uevent, uevent, snapshot_extends h hv]

end Supply

/-! ## Fixtures -/

namespace Simulated

variable {larger registry : Registry} (h : larger.Extends registry) {name : String}

include h

theorem addValues_extends {map result : PropertyMap Value} {values : List (String × Toml)}
    (ha : addValues registry name map values = .ok result) :
    addValues larger name map values = .ok result := by
  induction values generalizing map with
  | nil => exact ha
  | cons entry rest ih =>
    obtain ⟨key, raw⟩ := entry
    obtain ⟨d, v, hl, hv, hrest⟩ := addValues_cons.mp ha
    exact addValues_cons.mpr ⟨d, v, h.lookup?_of_lookup? hl, hv, ih hrest⟩

theorem addFaults_extends {map result : PropertyMap Fault} {faults : List (String × Fault)}
    (ha : addFaults registry name map faults = .ok result) :
    addFaults larger name map faults = .ok result := by
  induction faults generalizing map with
  | nil => exact ha
  | cons entry rest ih =>
    obtain ⟨key, fault⟩ := entry
    obtain ⟨d, hl, hrest⟩ := addFaults_cons.mp ha
    exact addFaults_cons.mpr ⟨d, h.lookup?_of_lookup? hl, ih hrest⟩

theorem lookupAll_extends {names : List String} {ids : List PropertyId}
    (hl : lookupAll registry name names = .ok ids) : lookupAll larger name names = .ok ids := by
  refine lookupAll_eq_ok.mpr ((lookupAll_eq_ok.mp hl).imp ?_)
  rintro name id ⟨d, hd, hid⟩
  exact ⟨d, h.lookup?_of_lookup? hd, hid⟩

/-- No value and no fault is kept for a property that was added. -/
theorem mentioned_extends {state : SimulatedState} (hv : Registered registry state.values)
    (hf : Registered registry state.faults) : mentioned larger state = mentioned registry state := by
  obtain ⟨added, heq, hadded⟩ := h.exists_added
  have hnone : ∀ {α : Type} {map : PropertyMap α}, Registered registry map → ∀ d ∈ added,
      map.get? d.id = none := by
    intro α map hm d hd
    cases hg : map.get? d.id with
    | none => rfl
    | some a =>
      obtain ⟨found, hfound⟩ := hm d.id a hg
      rw [h.get?_eq_none_of_new (hadded d hd).1 (hadded d hd).2] at hfound
      cases hfound
  have hadd : (added.map Descriptor.id).filter (fun id =>
      (state.values.get? id).isSome || (state.faults.get? id).isSome) = [] := by
    rw [List.filter_eq_nil_iff]
    intro id hid
    obtain ⟨d, hd, rfl⟩ := List.mem_map.mp hid
    simp [hnone hv d hd, hnone hf d hd]
  rw [mentioned, mentioned, heq, List.map_append, List.filter_append, hadd, List.append_nil]

theorem namesOf_extends {ids : List PropertyId}
    (hi : ∀ id ∈ ids, ∃ d, registry.get? id = some d) : namesOf larger ids = namesOf registry ids := by
  unfold namesOf
  congr 1
  refine List.filterMap_congr fun id hm => ?_
  obtain ⟨d, hg⟩ := hi id hm
  rw [h.get?_of_get? hg, hg]

theorem Loaded.extends {fixture : Fixture} {simulated : Simulated} {state : SimulatedState}
    (hl : Loaded registry fixture simulated state) : Loaded larger fixture simulated state := by
  have hv := registered_empty.addValues h.wellFormed hl.values_eq
  have hf := registered_empty.addFaults h.wellFormed hl.faults_eq
  constructor
  case values_eq => exact addValues_extends h hl.values_eq
  case faults_eq => exact addFaults_extends h hl.faults_eq
  case declared_eq =>
    have hd := hl.declared_eq
    unfold declared at hd ⊢
    cases hp : fixture.properties with
    | some names =>
      simp only [hp] at hd ⊢
      exact lookupAll_extends h hd
    | none =>
      simp only [hp] at hd ⊢
      rw [mentioned_extends h hv hf]
      exact hd
  case writable_eq => exact lookupAll_extends h hl.writable_eq
  case name_eq => exact hl.name_eq
  case type_eq => exact hl.type_eq
  case valid => exact hl.valid.extends h
  case names_eq =>
    rw [hl.names_eq, namesOf_extends h]
    intro id hi
    obtain ⟨d, hg, -⟩ := hl.valid.canDeclare id hi
    exact ⟨d, hg⟩

theorem load_extends {text : String} {supplies : List (Simulated × SimulatedState)}
    (hl : load registry text = .ok supplies) : load larger text = .ok supplies := by
  obtain ⟨fixtures, hread, hall⟩ := load_eq_ok_iff.mp hl
  exact load_eq_ok_iff.mpr ⟨fixtures, hread, hall.imp fun _ _ hloaded => hloaded.extends h⟩

end Simulated

namespace Supply

/-- **Added extensions.** Let two registries be built, one from the entries of the other and more
after them. Every supply that was validated in the smaller one is valid in the larger one, and is
the same through both: whatever its device does, each function makes the same calls to it, in the
same order, and gives the same answers. Every fixture that the smaller one accepts makes the same
supplies in the larger one. -/
theorem sameThrough_of_build {additions others : List Addition} {registry larger : Registry}
    (hb : Registry.build additions = .ok registry) (hl : Registry.build others = .ok larger)
    (hp : additions.flatMap Addition.entries <+: others.flatMap Addition.entries) :
    (∀ {m : Type → Type} [Monad m] [LawfulMonad m] (supply : Supply m),
      supply.Validated registry →
        supply.SameThrough registry larger ∧ supply.logged.SameThrough registry larger) ∧
    ∀ text supplies, Simulated.load registry text = .ok supplies →
      Simulated.load larger text = .ok supplies := by
  have h : larger.Extends registry := extends_of_build hb hl hp
  refine ⟨fun supply hvalidated => ?_, fun text supplies => Simulated.load_extends h⟩
  have hv := validated_iff.mp hvalidated
  exact ⟨sameThrough_extends h hv, sameThrough_extends h hv⟩

/-- A registry with one property of a vendor. -/
def withTurbo : Registry :=
  Registry.ofEntries (standardEntries ++ [⟨"turbo", .int32⟩])

def modelBattery : Supply (StateM Script) :=
  Script.supply ⟨"BAT0", .battery, [⟨68⟩]⟩ []

/-- The description of a battery with a model name. -/
def modelDescription : String :=
  "[[supply]]\nname = \"BAT0\"\n[supply.values]\nmodel_name = \"A\"\n"

def simulatedModel : Simulated × SimulatedState :=
  (⟨⟨"BAT0", .unknown, [⟨68⟩]⟩, ⟨[(⟨68⟩, "model_name")]⟩, []⟩,
    ⟨⟨[(⟨68⟩, .text "A")]⟩, ⟨[]⟩⟩)

/-- The new name stays unknown for a battery of the standard registry. -/
theorem sameThrough_of_build_turbo :
    Registry.build [] = .ok .standard ∧
      Registry.build [.single ⟨"turbo", .int⟩] = .ok withTurbo ∧
      modelBattery.Validated .standard ∧ modelBattery.Validated withTurbo ∧
      modelBattery.showAttribute withTurbo "turbo" = pure (.error (.unknownAttribute "turbo")) ∧
      Simulated.load .standard modelDescription = .ok [simulatedModel] ∧
      Simulated.load withTurbo modelDescription = .ok [simulatedModel] := by
  have hb : Registry.build [.single ⟨"turbo", .int⟩] = .ok withTurbo := by
    refine build_eq_ok_iff.mpr ⟨?_, rfl⟩
    exact admissible_standardEntries.concat (by decide) (by decide) (by decide)
  have hv : modelBattery.Validated .standard := ⟨"BAT0", .battery, [⟨68⟩], rfl⟩
  have hload : Simulated.load .standard modelDescription = .ok [simulatedModel] := by
    decide +kernel
  obtain ⟨hsupplies, hfixtures⟩ := sameThrough_of_build build_nil hb (List.nil_prefix)
  obtain ⟨hsame, -⟩ := hsupplies modelBattery hv
  refine ⟨build_nil, hb, hv, hsame.validated, ?_, hload, hfixtures _ _ hload⟩
  rw [hsame.showAttribute_eq]
  rfl

end Supply
end PowerClass
