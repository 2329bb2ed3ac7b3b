import PowerClass.Proofs.Snapshot.Surface
import PowerClass.Proofs.Supply.Register

/-!
# PowerClass.Proofs.Supply.Fitting

The values of a simulated supply fit their properties. Loading a fixture accepts only values that
do, and what is stored was decoded for its property, so a reading never meets a value that it
cannot write down. What is left to fail are the faults of the fixture and missing values.

* `Fits`: every value that is kept is one of a registered property and has its variant. Loading
  establishes it (`Loaded.fits`), one step preserves it (`fits_perform`), so a run does
  (`fits_after`).
* `get?_faults_after`: the faults that are left after a run, by its steps.
* `load_staysFitting`: what every state of a supply that was loaded has in common.
-/

namespace PowerClass

/-! ## Values that fit -/

namespace PropertyMap

/-- Every value is one of a registered property and has the variant of its kind. -/
def Fits (registry : Registry) (values : PropertyMap Value) : Prop :=
  ∀ id value, values.get? id = some value →
    ∃ d, registry.get? id = some d ∧ value.variant = d.kind.variant

variable {registry : Registry} {values : PropertyMap Value}

theorem fits_empty : (empty : PropertyMap Value).Fits registry := by
  intro id value h
  cases h

theorem Fits.insert (h : values.Fits registry) {d : Descriptor} {value : Value}
    (hd : registry.get? d.id = some d) (hv : value.variant = d.kind.variant) :
    (values.insert d.id value).Fits registry := by
  intro id other hget
  rw [get?_insert] at hget
  split at hget
  · next hid =>
    cases hget
    rw [hid]
    exact ⟨d, hd, hv⟩
  · exact h id other hget

end PropertyMap

namespace AccessError

/-- The error of an answer, if it is one. -/
def of? {α : Type} : Except AccessError α → Option AccessError
  | .ok _ => none
  | .error e => some e

theorem of?_ne {α : Type} {answer : Except AccessError α} {e : AccessError}
    (h : answer ≠ .error e) : of? answer ≠ some e := by
  cases answer with
  | ok a => exact nofun
  | error other =>
    rintro ⟨⟩
    exact h rfl

end AccessError

/-- The error that a step answered. -/
def Step.error? : Step → Option AccessError
  | ⟨.attributes, _⟩ | ⟨.attributeMode _, _⟩ | ⟨.mode _, _⟩ => none
  | ⟨.showAttribute _, answer⟩ => AccessError.of? answer
  | ⟨.storeAttribute _ _, answer⟩ => AccessError.of? answer
  | ⟨.read _, answer⟩ => AccessError.of? answer
  | ⟨.readOnto _ _, answer⟩ => AccessError.of? answer.1
  | ⟨.write _ _, answer⟩ => AccessError.of? answer
  | ⟨.snapshot, answer⟩ => AccessError.of? answer

namespace Supply

/-- Adding to a buffer fails as writing down alone does. -/
theorem render_eq_error_iff {buffer : String} {kind : Kind} {answer : Except DeviceError Value}
    {e : AccessError} :
    (render buffer kind answer).1 = .error e ↔ textOf kind answer = .error e := by
  cases answer with
  | error fault => simp [render, textOf]
  | ok value =>
    simp only [render, textOf, Codec.encodeOnto_eq]
    cases Codec.line? kind value <;> simp

end Supply

namespace Simulated

open Supply

variable {registry : Registry} {fixture : Fixture} {simulated : Simulated} {s : SimulatedState}

/-! ## Every state -/

theorem fits_addValues (hw : registry.WellFormed) {supply : String}
    {map result : PropertyMap Value} {values : List (String × Toml)} (hmap : map.Fits registry)
    (h : addValues registry supply map values = .ok result) : result.Fits registry := by
  induction values generalizing map with
  | nil =>
    cases h
    exact hmap
  | cons entry rest ih =>
    obtain ⟨name, raw⟩ := entry
    obtain ⟨d, v, hl, hv, hrest⟩ := addValues_cons.mp h
    have hd : registry.get? d.id = some d :=
      hw.get?_id (hw.lookup?_eq_some_iff.mp hl).1
    exact ih (hmap.insert hd (variant_of_value hv)) hrest

theorem Loaded.fits (h : Loaded registry fixture simulated s) (hw : registry.WellFormed) :
    s.values.Fits registry :=
  fits_addValues hw PropertyMap.fits_empty h.values_eq

theorem fits_perform (hw : registry.WellFormed) (h : s.values.Fits registry) (op : Operation) :
    (simulated.supply.perform registry op s).2.values.Fits registry := by
  rcases simulated.perform_cases hw op with hkeep | ⟨d, hd, -, text, value, hv, hhold⟩
  · rw [(hkeep s).2]
    exact h
  · rw [(hhold s).2]
    exact h.insert (hw.get?_id hd) (Codec.variant_of_decode hv)

theorem fits_after (hw : registry.WellFormed) (h : s.values.Fits registry)
    (ops : List Operation) : (simulated.supply.after registry ops s).values.Fits registry := by
  induction ops generalizing s with
  | nil => exact h
  | cons op rest ih =>
    rw [after_cons]
    exact ih (fits_perform hw h op)

/-! ## Failures -/

/-- What the device answers: a fault, a value, or that it has neither. -/
theorem get_cases (simulated : Simulated) (id : PropertyId) (s : SimulatedState) :
    (∃ fault, s.faults.get? id = some fault ∧
        (simulated.supply.get id s).1 = .error (fault.error (simulated.propertyName id))) ∨
      s.faults.get? id = none ∧ (∃ value, s.values.get? id = some value ∧
        (simulated.supply.get id s).1 = .ok value) ∨
      s.faults.get? id = none ∧ s.values.get? id = none ∧
        (simulated.supply.get id s).1 = .error .noData := by
  have hget : (simulated.supply.get id s).1 = (simulated.get id s).1 := rfl
  rw [hget]
  unfold get
  cases s.faults.get? id with
  | some fault => exact .inl ⟨fault, rfl, rfl⟩
  | none =>
    cases s.values.get? id with
    | some value => exact .inr (.inl ⟨rfl, value, rfl, rfl⟩)
    | none => exact .inr (.inr ⟨rfl, rfl, rfl⟩)

theorem ofDevice_error_ne (fault : Fault) (name : String) (error : CodecError) :
    AccessError.ofDevice (fault.error name) ≠ .deviceFailure (.invalidValue error) := by
  cases fault <;> exact nofun

theorem isSkippable_ofDevice_error (fault : Fault) (name : String) :
    (AccessError.ofDevice (fault.error name)).isSkippable = false ↔ fault = .failure := by
  cases fault <;> simp [Fault.error, AccessError.ofDevice, AccessError.isSkippable]

section

variable (hw : registry.WellFormed) (hf : s.values.Fits registry)
include hw hf

theorem read_eq_error_iff {d : Descriptor} (hd : d ∈ registry.descriptors)
    (hk : d.kind ≠ .deviceType) {e : AccessError} :
    (simulated.supply.read registry d.id s).1 = .error e ↔
      (∃ fault, s.faults.get? d.id = some fault ∧
        e = .ofDevice (fault.error (simulated.propertyName d.id))) ∨
      s.faults.get? d.id = none ∧ s.values.get? d.id = none ∧ e = .noData := by
  rw [read_of_mem simulated.supply hw hd, fetch_of_ne_deviceType simulated.supply hk]
  rcases simulated.get_cases d.id s with
    ⟨fault, hfault, hget⟩ | ⟨hfault, value, hvalue, hget⟩ | ⟨hfault, hvalue, hget⟩
  · rw [hget, hfault]
    simp [textOf, eq_comm]
  · obtain ⟨d', hg, hvariant⟩ := hf d.id value hvalue
    rw [hw.get?_id hd] at hg
    cases hg
    obtain ⟨line, -, ht⟩ := exists_textOf hvariant
    rw [hget, ht, hfault, hvalue]
    simp
  · rw [hget, hfault, hvalue]
    simp [textOf, AccessError.ofDevice, eq_comm]

theorem read_ne_invalidValue {t : Descriptor} (ht : registry.IsType t) (id : PropertyId)
    (error : CodecError) :
    (simulated.supply.read registry id s).1 ≠ .error (.deviceFailure (.invalidValue error)) := by
  intro h
  cases hg : registry.get? id with
  | none =>
    rw [read_eq, hg] at h
    cases h
  | some d =>
    obtain ⟨hd, rfl⟩ := hw.get?_eq_some_iff.mp hg
    by_cases hk : d.kind = .deviceType
    · rw [ht.eq_of_kind d hd hk, read_type simulated.supply hw ht] at h
      cases h
    · rcases (read_eq_error_iff hw hf hd hk).mp h with ⟨fault, -, he⟩ | ⟨-, -, he⟩
      · exact ofDevice_error_ne fault _ error he.symm
      · cases he

theorem readOnto_ne_invalidValue {t : Descriptor} (ht : registry.IsType t) (id : PropertyId)
    (buffer : String) (error : CodecError) :
    (simulated.supply.readOnto registry id buffer s).1.1 ≠
      .error (.deviceFailure (.invalidValue error)) := by
  intro h
  have hread : (simulated.supply.read registry id s).1 =
      .error (.deviceFailure (.invalidValue error)) := by
    unfold readOnto at h
    rw [read_eq]
    cases hg : registry.get? id with
    | none =>
      rw [hg] at h
      cases h
    | some d =>
      rw [hg] at h
      exact render_eq_error_iff.mp h
  exact read_ne_invalidValue hw hf ht id error hread

theorem showAttribute_ne_invalidValue {t : Descriptor} (ht : registry.IsType t) (name : String)
    (error : CodecError) :
    (simulated.supply.showAttribute registry name s).1 ≠
      .error (.deviceFailure (.invalidValue error)) := by
  intro h
  cases hl : registry.lookup? name with
  | none =>
    rw [showAttribute_of_unknown _ hl] at h
    cases h
  | some d =>
    by_cases hm : (simulated.supply.mode d s).1 = .hidden
    · rw [showAttribute_of_hidden _ hl hm] at h
      cases h
    · rw [showAttribute_of_visible _ hl hm, mode_eq] at h
      exact read_ne_invalidValue hw hf ht d.id error h

end

theorem write_ne_invalidValue (simulated : Simulated) (registry : Registry) (id : PropertyId)
    (text : String) (s : SimulatedState) (error : CodecError) :
    (simulated.supply.write registry id text s).1 ≠
      .error (.deviceFailure (.invalidValue error)) := by
  unfold Supply.write
  cases registry.get? id with
  | none => exact nofun
  | some d =>
    simp only
    cases Codec.decode d.kind text with
    | error e => exact nofun
    | ok value =>
      show (simulated.set id value s).1.mapError AccessError.ofDevice ≠ _
      unfold set
      split <;> exact nofun

theorem storeAttribute_ne_invalidValue (simulated : Simulated) (registry : Registry)
    (name text : String) (s : SimulatedState) (error : CodecError) :
    (simulated.supply.storeAttribute registry name text s).1 ≠
      .error (.deviceFailure (.invalidValue error)) := by
  cases hl : registry.lookup? name with
  | none =>
    rw [storeAttribute_of_unknown _ hl]
    exact nofun
  | some d =>
    cases hm : (simulated.supply.mode d s).1 with
    | hidden =>
      rw [storeAttribute_of_hidden _ hl text hm]
      exact nofun
    | readOnly =>
      rw [storeAttribute_of_readOnly _ hl text hm]
      exact nofun
    | readWrite =>
      rw [storeAttribute_of_writable _ hl text hm]
      intro h
      exact write_ne_invalidValue simulated registry d.id text _ error (Result.map_eq_error.mp h)

/-- The snapshot fails exactly when a declared property has a fault that is a failure. -/
theorem snapshot_fails_iff (hw : registry.WellFormed) (hf : s.values.Fits registry)
    (hv : simulated.declaration.Valid registry) :
    (∃ e, (simulated.supply.snapshot registry s).1 = .error e) ↔
      ∃ d ∈ registry.descriptors, d.id ∈ simulated.declaration.properties ∧
        s.faults.get? d.id = some .failure := by
  have hs := simulated.quiet.steady s
  rw [Supply.snapshot_fails_iff hw hv hs]
  constructor
  · rintro ⟨id, hi, e, he, hskip⟩
    obtain ⟨d, hd, rfl, hk⟩ := hv.exists_mem hw hi
    rw [shown_eq_read hw hv hs .refl hi] at he
    refine ⟨d, hd, hi, ?_⟩
    rcases (read_eq_error_iff hw hf hd hk).mp he with ⟨fault, hfault, rfl⟩ | ⟨-, -, rfl⟩
    · rw [hfault, (isSkippable_ofDevice_error fault _).mp hskip]
    · cases hskip
  · rintro ⟨d, hd, hi, hfault⟩
    have hk := hv.kind_ne_deviceType hw hd hi
    have he : (simulated.supply.read registry d.id s).1 =
        .error (.ofDevice (Fault.failure.error (simulated.propertyName d.id))) :=
      (read_eq_error_iff hw hf hd hk).mpr (.inl ⟨.failure, hfault, rfl⟩)
    rw [← shown_eq_read hw hv hs .refl hi] at he
    exact ⟨d.id, hi, _, he, (isSkippable_ofDevice_error .failure _).mpr rfl⟩

theorem snapshot_ne_invalidValue (hw : registry.WellFormed) (hf : s.values.Fits registry)
    {t : Descriptor} (ht : registry.IsType t) (hv : simulated.declaration.Valid registry)
    (error : CodecError) :
    (simulated.supply.snapshot registry s).1 ≠ .error (.deviceFailure (.invalidValue error)) := by
  intro h
  have hs := simulated.quiet.steady s
  obtain ⟨before, id, after, hp, -, he, -⟩ := (snapshot_eq_error_iff hw hv hs).mp h
  have hi : id ∈ simulated.supply.declaration.properties := by simp [hp]
  rw [shown_eq_read hw hv hs .refl hi] at he
  exact read_ne_invalidValue hw hf ht id error he

/-- No operation meets a value that does not fit its property. -/
theorem error?_ne_invalidValue (hw : registry.WellFormed) (hf : s.values.Fits registry)
    {t : Descriptor} (ht : registry.IsType t) (hv : simulated.declaration.Valid registry)
    (op : Operation) (error : CodecError) :
    Step.error? ⟨op, (simulated.supply.perform registry op s).1⟩ ≠
      some (.deviceFailure (.invalidValue error)) := by
  cases op with
  | attributes => exact nofun
  | attributeMode name => exact nofun
  | mode d => exact nofun
  | showAttribute name =>
    exact AccessError.of?_ne (showAttribute_ne_invalidValue hw hf ht name error)
  | storeAttribute name text =>
    exact AccessError.of?_ne (storeAttribute_ne_invalidValue simulated registry name text s error)
  | read id => exact AccessError.of?_ne (read_ne_invalidValue hw hf ht id error)
  | readOnto id buffer =>
    exact AccessError.of?_ne (readOnto_ne_invalidValue hw hf ht id buffer error)
  | write id text =>
    exact AccessError.of?_ne (write_ne_invalidValue simulated registry id text s error)
  | snapshot => exact AccessError.of?_ne (snapshot_ne_invalidValue hw hf ht hv error)

end Simulated

/-! ## Faults that are left -/

theorem latest?_eq_none_iff {α : Type} {pairs : List (String × α)} {name : String} :
    latest? pairs name = none ↔ ∀ a, (name, a) ∉ pairs := by
  rw [latest?, List.lookup_eq_none_iff]
  simp only [List.mem_reverse, Prod.forall, bne_iff_ne, ne_eq]
  constructor
  · intro h a hm
    exact h name a hm rfl
  · rintro h key a hm rfl
    exact h a hm

/-- The fixture gives a property this fault, and no step has stored anything in the property. -/
def Fixture.FaultRemains (fixture : Fixture) (registry : Registry) (steps : List Step)
    (name : String) (fault : Fault) : Prop :=
  latest? fixture.errors name = some fault ∧
    ∀ step ∈ steps, ∀ text, step.stored? registry ≠ some (name, text)

theorem Fixture.faultRemains_iff {fixture : Fixture} {registry : Registry} {steps : List Step}
    {name : String} {fault : Fault} :
    fixture.FaultRemains registry steps name fault ↔
      (fixture.cell name).after registry name steps = .fault fault := by
  have hcell : fixture.cell name = .fault fault ↔ latest? fixture.errors name = some fault := by
    unfold cell
    cases latest? fixture.errors name with
    | some f => simp
    | none => cases latest? fixture.values name <;> simp
  have hnone : latest? (steps.filterMap (Step.stored? registry)) name = none ↔
      ∀ step ∈ steps, ∀ text, step.stored? registry ≠ some (name, text) := by
    rw [latest?_eq_none_iff]
    simp only [List.mem_filterMap, not_exists, not_and]
    exact ⟨fun h step hm text => h text step hm, fun h text step hm => h step hm text⟩
  rw [FaultRemains, ← hnone, ← hcell]
  unfold Cell.after
  cases latest? (steps.filterMap (Step.stored? registry)) name <;> simp

namespace Simulated

variable {registry : Registry} {fixture : Fixture} {simulated : Simulated} {s : SimulatedState}

theorem get?_faults_after (h : Loaded registry fixture simulated s) (hw : registry.WellFormed)
    (hfits : Fixture.EntriesFit fixture.values) {d : Descriptor} (hd : d ∈ registry.descriptors)
    (ops : List Operation) (fault : Fault) :
    (simulated.supply.after registry ops s).faults.get? d.id = some fault ↔
      fixture.FaultRemains registry (simulated.supply.performAll registry ops s).1 d.name
        fault := by
  rw [Fixture.faultRemains_iff]
  have hr : ((fixture.cell d.name).after registry d.name
      (simulated.supply.performAll registry ops s).1).Represents d
        (simulated.supply.after registry ops s) :=
    represents_after hw hd ops (represents_cell h hw hfits hd)
  revert hr
  cases (fixture.cell d.name).after registry d.name
      (simulated.supply.performAll registry ops s).1 with
  | fault f => exact fun hr => by rw [show _ = some f from hr]; simp
  | stored text => exact fun hr => by simp [hr.1]
  | value raw => exact fun hr => by simp [hr.1]
  | nothing => exact fun hr => by simp [hr.1]

end Simulated

/-! ## Supplies that were loaded -/

/-- What holds of a simulated supply after any operations: its values fit their properties, no
operation fails because one does not, and readings and snapshots fail by the faults that are left
alone. -/
structure StaysFitting (simulated : Simulated) (registry : Registry) (fixture : Fixture)
    (initial : SimulatedState) : Prop where
  fits : ∀ ops, (simulated.supply.after registry ops initial).values.Fits registry
  error?_ne : ∀ ops op error,
    Step.error? ⟨op, (simulated.supply.perform registry op
        (simulated.supply.after registry ops initial)).1⟩ ≠
      some (.deviceFailure (.invalidValue error))
  read_eq_error_iff : ∀ ops, ∀ d ∈ registry.descriptors, d.kind ≠ .deviceType → ∀ e,
    (simulated.supply.read registry d.id (simulated.supply.after registry ops initial)).1 =
        .error e ↔
      (∃ fault, fixture.FaultRemains registry
          (simulated.supply.performAll registry ops initial).1 d.name fault ∧
        e = .ofDevice (fault.error (simulated.propertyName d.id))) ∨
      (∀ fault, ¬ fixture.FaultRemains registry
          (simulated.supply.performAll registry ops initial).1 d.name fault) ∧
        (simulated.supply.after registry ops initial).values.get? d.id = none ∧ e = .noData
  snapshot_fails_iff : ∀ ops,
    (∃ e, (simulated.supply.snapshot registry
        (simulated.supply.after registry ops initial)).1 = .error e) ↔
      ∃ d ∈ registry.descriptors, d.id ∈ simulated.declaration.properties ∧
        fixture.FaultRemains registry (simulated.supply.performAll registry ops initial).1 d.name
          .failure

namespace Simulated

variable {registry : Registry} {fixture : Fixture} {simulated : Simulated} {s : SimulatedState}

theorem Loaded.staysFitting (h : Loaded registry fixture simulated s) (hw : registry.WellFormed)
    (hfits : Fixture.EntriesFit fixture.values) {t : Descriptor} (ht : registry.IsType t) :
    StaysFitting simulated registry fixture s := by
  have hf : ∀ ops, (simulated.supply.after registry ops s).values.Fits registry :=
    fits_after hw (h.fits hw)
  constructor
  case fits => exact hf
  case error?_ne => exact fun ops op error => error?_ne_invalidValue hw (hf ops) ht h.valid op error
  case read_eq_error_iff =>
    intro ops d hd hk e
    rw [Simulated.read_eq_error_iff hw (hf ops) hd hk, Option.eq_none_iff_forall_ne_some]
    simp only [get?_faults_after h hw hfits hd ops, ne_eq]
  case snapshot_fails_iff =>
    intro ops
    rw [Simulated.snapshot_fails_iff hw (hf ops) h.valid]
    refine exists_congr fun d => and_congr_right fun hd => and_congr_right fun _ => ?_
    exact get?_faults_after h hw hfits hd ops .failure

/-- **Values fit.** Whatever is done with the supplies of a fixture that was loaded, their values
fit their properties, so that readings fail by the faults that nobody stored over, and for want of
a value, and snapshots by failures among those faults. -/
theorem load_staysFitting {additions : List Addition} {registry : Registry}
    (hb : Registry.build additions = .ok registry) {text : String}
    {supplies : List (Simulated × SimulatedState)} (hl : load registry text = .ok supplies) :
    ∃ fixtures, Fixture.read? text = some fixtures ∧
      List.Forall₂ (fun fixture (simulated, s) => StaysFitting simulated registry fixture s)
        fixtures supplies := by
  have hw := Registry.wellFormed_of_build hb
  obtain ⟨t, ht⟩ := Registry.exists_isType_of_build hb
  obtain ⟨fixtures, hread, hall⟩ := exists_loaded_of_load hl
  exact ⟨fixtures, hread, hall.imp fun _ _ ⟨hfits, h⟩ => h.staysFitting hw hfits ht⟩

/-- The description of a battery whose temperature cannot be read until one is stored. -/
def failedSensor : String :=
  "[[supply]]\nname = \"BAT0\"\ntype = \"Battery\"\nwriteable = [\"temp\"]\n" ++
    "[supply.values]\nstatus = \"Full\"\n[supply.errors]\ntemp = \"failure\"\n"

def failedBattery : Simulated :=
  ⟨⟨"BAT0", .battery, [⟨0⟩, ⟨46⟩]⟩, ⟨[(⟨0⟩, "status"), (⟨46⟩, "temp")]⟩, [⟨46⟩]⟩

def failedBatteryState : SimulatedState :=
  ⟨⟨[(⟨0⟩, .ordinal 4)]⟩, ⟨[(⟨46⟩, .failure)]⟩⟩

theorem load_staysFitting_failedSensor :
    Registry.build [] = .ok .standard ∧
      load .standard failedSensor = .ok [(failedBattery, failedBatteryState)] ∧
      ∃ fixture, Fixture.read? failedSensor = some [fixture] ∧
        StaysFitting failedBattery .standard fixture failedBatteryState := by
  have hl : load .standard failedSensor = .ok [(failedBattery, failedBatteryState)] := by
    decide +kernel
  obtain ⟨fixtures, hread, hall⟩ := load_staysFitting Registry.build_nil hl
  obtain ⟨fixture, rest, h, hrest, rfl⟩ := List.forall₂_cons_right_iff.mp hall
  obtain rfl := List.forall₂_nil_right_iff.mp hrest
  exact ⟨Registry.build_nil, hl, fixture, hread, h⟩

example :
    (failedBattery.supply.snapshot .standard failedBatteryState).1 =
        .error (.deviceFailure (.other "simulated failure reading temp")) ∧
      (failedBattery.supply.snapshot .standard (failedBattery.supply.after .standard
        [.storeAttribute "temp" "250"] failedBatteryState)).1 =
        .ok ⟨[("NAME", "BAT0"), ("STATUS", "Full"), ("TEMP", "250")]⟩ := by
  decide +kernel

end Simulated
end PowerClass
