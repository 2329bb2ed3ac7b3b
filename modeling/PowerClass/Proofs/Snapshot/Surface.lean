import PowerClass.Proofs.Snapshot.Entries
import PowerClass.Proofs.Supply.Steady

/-!
# PowerClass.Proofs.Snapshot.Surface

A snapshot says what the attributes say. It reads its properties by identifier, up to the first
failure that ends it; the attributes are looked up by name and hidden when they are not declared.
For a steady device the two agree.

* `entriesOf_readAll`: reading on after a fatal failure would change nothing.
* `snapshot_agrees`: the error of a snapshot, and else its entries, are those that the attributes
  give.
-/

namespace PowerClass
namespace Supply

variable {σ : Type} {supply : Supply (StateM σ)} {registry : Registry} {s : σ}

theorem registered_read (supply : Supply (StateM σ)) (registry : Registry) (s : σ)
    (id : PropertyId) :
    (⟨id, (supply.read registry id s).1⟩ : Reading).Registered registry := by
  intro text ht
  cases hg : registry.get? id with
  | some d => exact ⟨d, rfl⟩
  | none =>
    rw [read_eq, hg] at ht
    cases ht

/-- The readings that a snapshot makes of a steady device count as much as one reading of each
property, all made at the start. -/
theorem entriesOf_readAll (hs : supply.Steady s) (registry : Registry) (ids : List PropertyId)
    {s' : σ} (h : supply.Reads s s') :
    Snapshot.entriesOf registry (supply.readAll registry ids s').1 =
      Snapshot.entriesOf registry (ids.map fun id => ⟨id, (supply.read registry id s).1⟩) := by
  induction ids generalizing s' with
  | nil => rfl
  | cons id rest ih =>
    -- The state may differ from one reading to the next, so the induction is over all that are
    -- reached by reading.
    rw [readAll_cons, List.map_cons, hs.read_eq h]
    simp only
    split
    · next hf => exact (Snapshot.entriesOf_cons_of_isFatal _ hf).symm
    · exact Snapshot.entriesOf_cons_congr (ih (h.read registry id))

/-- What the attribute of a registered property shows. -/
def shown (supply : Supply (StateM σ)) (registry : Registry) (s : σ) (id : PropertyId) :
    Except AccessError String :=
  match registry.get? id with
  | some d => (supply.showAttribute registry d.name s).1
  | none => .error (.unknownProperty id)

theorem shown_eq_read (hw : registry.WellFormed) (hv : supply.declaration.Valid registry)
    (hs : supply.Steady s) {s' : σ} (h : supply.Reads s s') {id : PropertyId}
    (hd : id ∈ supply.declaration.properties) :
    supply.shown registry s' id = (supply.read registry id s).1 := by
  obtain ⟨d, hr, rfl, hk⟩ := hv.exists_mem hw hd
  rw [shown, hw.get?_id hr]
  exact hs.showAttribute_eq h hw hr hk hd

/-- A snapshot of a supply agrees with the attributes of its declared properties, where a property
is left out when its attribute fails with a skippable error. -/
structure SnapshotAgrees (supply : Supply (StateM σ)) (registry : Registry) (s : σ) : Prop where
  /-- Every declared property has an attribute, which shows the same whenever it is read. -/
  shown_eq : ∀ id ∈ supply.declaration.properties, ∃ d, registry.get? id = some d ∧
    ∀ s', supply.Reads s s' →
      (supply.showAttribute registry d.name s').1 = supply.shown registry s id
  /-- The snapshot fails exactly when some attribute fails with an error that is not skippable. -/
  fails_iff : (∃ e, (supply.snapshot registry s).1 = .error e) ↔
    ∃ id ∈ supply.declaration.properties, ∃ e,
      supply.shown registry s id = .error e ∧ e.isSkippable = false
  /-- The error is that of the first such attribute. -/
  error_iff : ∀ e, (supply.snapshot registry s).1 = .error e ↔
    ∃ before id after, supply.declaration.properties = before ++ id :: after ∧
      (∀ other ∈ before, ∀ e', supply.shown registry s other = .error e' →
        e'.isSkippable = true) ∧
      supply.shown registry s id = .error e ∧ e.isSkippable = false
  error_ne : ∀ e, (supply.snapshot registry s).1 = .error e →
    e ≠ .noData ∧ e ≠ .temporarilyUnavailable
  /-- Otherwise the entries are the name of the supply and, in order, the key and the first line of
  each attribute that is shown. -/
  ok_iff : ∀ snapshot, (supply.snapshot registry s).1 = .ok snapshot ↔
    (∀ id ∈ supply.declaration.properties, ∀ e, supply.shown registry s id = .error e →
      e.isSkippable = true) ∧
    snapshot.entries = ("NAME", supply.declaration.name) ::
      supply.declaration.properties.filterMap fun id =>
        match registry.get? id, supply.shown registry s id with
        | some d, .ok text => some (d.name.toUpper, Text.firstLine text)
        | _, _ => none

section

variable (hw : registry.WellFormed) (hv : supply.declaration.Valid registry)
  (hs : supply.Steady s)
include hw hv hs

theorem snapshot_eq_shown :
    (supply.snapshot registry s).1 =
      match supply.declaration.properties.findSome? fun id =>
        Reading.fatal? ⟨id, supply.shown registry s id⟩ with
      | some e => .error e
      | none => .ok ⟨("NAME", supply.declaration.name) ::
          supply.declaration.properties.filterMap fun id =>
            Snapshot.entryOf? registry ⟨id, supply.shown registry s id⟩⟩ := by
  have hr : ∀ id ∈ supply.declaration.properties,
      (⟨id, (supply.read registry id s).1⟩ : Reading) = ⟨id, supply.shown registry s id⟩ := by
    intro id hd
    rw [shown_eq_read hw hv hs .refl hd]
  have hreg : ∀ reading ∈ supply.declaration.properties.map fun id =>
      (⟨id, (supply.read registry id s).1⟩ : Reading), reading.Registered registry := by
    intro reading hm
    obtain ⟨id, -, rfl⟩ := List.mem_map.mp hm
    exact registered_read supply registry s id
  show Snapshot.ofReadings registry supply.declaration.name
    (supply.readAll registry supply.declaration.properties s).1 = _
  rw [Snapshot.ofReadings, entriesOf_readAll hs registry _ .refl, Snapshot.entriesOf_eq hreg,
    List.map_congr_left hr, List.findSome?_map, List.filterMap_map]
  simp only [Function.comp_def]
  cases supply.declaration.properties.findSome? fun id =>
    Reading.fatal? ⟨id, supply.shown registry s id⟩ <;> rfl

theorem snapshot_eq_error_iff {e : AccessError} :
    (supply.snapshot registry s).1 = .error e ↔
      ∃ before id after, supply.declaration.properties = before ++ id :: after ∧
        (∀ other ∈ before, ∀ e', supply.shown registry s other = .error e' →
          e'.isSkippable = true) ∧
        supply.shown registry s id = .error e ∧ e.isSkippable = false := by
  have hf : (supply.snapshot registry s).1 = .error e ↔
      supply.declaration.properties.findSome? (fun id =>
        Reading.fatal? ⟨id, supply.shown registry s id⟩) = some e := by
    rw [snapshot_eq_shown hw hv hs]
    split <;> simp [*]
  rw [hf, List.findSome?_eq_some_iff]
  simp only [Reading.fatal?_eq_some_iff, Reading.fatal?_eq_none_iff]
  constructor
  · rintro ⟨before, id, after, hp, he, hb⟩
    exact ⟨before, id, after, hp, hb, he⟩
  · rintro ⟨before, id, after, hp, hb, he⟩
    exact ⟨before, id, after, hp, he, hb⟩

theorem snapshot_eq_ok_iff {snapshot : Snapshot} :
    (supply.snapshot registry s).1 = .ok snapshot ↔
      (∀ id ∈ supply.declaration.properties, ∀ e, supply.shown registry s id = .error e →
        e.isSkippable = true) ∧
      snapshot.entries = ("NAME", supply.declaration.name) ::
        supply.declaration.properties.filterMap fun id =>
          Snapshot.entryOf? registry ⟨id, supply.shown registry s id⟩ := by
  have hn : (∀ id ∈ supply.declaration.properties, ∀ e, supply.shown registry s id = .error e →
      e.isSkippable = true) ↔ supply.declaration.properties.findSome? (fun id =>
        Reading.fatal? ⟨id, supply.shown registry s id⟩) = none := by
    simp only [List.findSome?_eq_none_iff, Reading.fatal?_eq_none_iff]
  obtain ⟨entries⟩ := snapshot
  rw [hn, snapshot_eq_shown hw hv hs]
  split <;> simp [*, eq_comm]

theorem snapshot_fails_iff :
    (∃ e, (supply.snapshot registry s).1 = .error e) ↔
      ∃ id ∈ supply.declaration.properties, ∃ e,
        supply.shown registry s id = .error e ∧ e.isSkippable = false := by
  constructor
  · rintro ⟨e, he⟩
    obtain ⟨before, id, after, hp, -, he⟩ := (snapshot_eq_error_iff hw hv hs).mp he
    exact ⟨id, by simp [hp], e, he⟩
  · rintro ⟨id, hd, e, he, hskip⟩
    cases hr : (supply.snapshot registry s).1 with
    | error e => exact ⟨e, rfl⟩
    | ok snapshot =>
      have := ((snapshot_eq_ok_iff hw hv hs).mp hr).1 id hd e he
      rw [hskip] at this
      cases this

end

/-- **Snapshots and attributes.** In every built registry, the snapshot of a steady supply with a
validated declaration fails with the first fatal error among its attributes, and otherwise holds
exactly the attributes that are shown. -/
theorem snapshot_agrees {additions : List Addition} {registry : Registry}
    (hb : Registry.build additions = .ok registry) {σ : Type} {supply : Supply (StateM σ)}
    (hv : supply.Validated registry) {s : σ} (hs : supply.Steady s) :
    supply.SnapshotAgrees registry s := by
  have hw := Registry.wellFormed_of_build hb
  have hv := validated_iff.mp hv
  refine ⟨fun id hd => ?_, snapshot_fails_iff hw hv hs,
    fun e => snapshot_eq_error_iff hw hv hs, fun e he => ?_,
    fun snapshot => snapshot_eq_ok_iff hw hv hs⟩
  · obtain ⟨d, hg, -⟩ := hv.canDeclare id hd
    refine ⟨d, hg, fun s' h => ?_⟩
    have := shown_eq_read hw hv hs h hd
    rw [shown, hg] at this
    exact this.trans (shown_eq_read hw hv hs .refl hd).symm
  · obtain ⟨-, -, -, -, -, -, hskip⟩ := (snapshot_eq_error_iff hw hv hs).mp he
    constructor <;> rintro rfl <;> cases hskip

/-- A battery that is charging, whose temperature sensor is busy and whose model name has two
lines. -/
def busyBattery : Supply (StateM Script) :=
  Script.supply ⟨"BAT0", .battery, [⟨0⟩, ⟨46⟩, ⟨68⟩]⟩ []

def busyAnswers : Script :=
  ⟨⟨[(⟨0⟩, .ok (.ordinal 1)), (⟨46⟩, .error .busy), (⟨68⟩, .ok (.text "AB\n12"))]⟩, none⟩

theorem snapshot_agrees_busyBattery :
    Registry.build [] = .ok .standard ∧ busyBattery.Validated .standard ∧
      busyBattery.Steady busyAnswers ∧ busyBattery.SnapshotAgrees .standard busyAnswers := by
  have hv : busyBattery.Validated .standard := ⟨"BAT0", .battery, [⟨0⟩, ⟨46⟩, ⟨68⟩], rfl⟩
  have hs : busyBattery.Steady busyAnswers := Script.steady _ _ _
  exact ⟨Registry.build_nil, hv, hs, snapshot_agrees Registry.build_nil hv hs⟩

example : (busyBattery.snapshot .standard busyAnswers).1 =
    .ok ⟨[("NAME", "BAT0"), ("STATUS", "Charging"), ("MODEL_NAME", "AB")]⟩ := by cbv

end Supply
end PowerClass
