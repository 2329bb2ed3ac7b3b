import PowerClass.Proofs.Supply.Converting
import PowerClass.Proofs.Supply.Simulated

/-!
# PowerClass.Proofs.Supply.Register

A simulated supply is a register for each property, in which the last write wins. What a property
holds after a run is the text that was last stored in it, and before that what the fixture says.

* `Cell.Shows`: what is shown of a property that holds something.
* `Cell.Represents`: how a supply keeps it. One step preserves this (`represents_perform`), so a
  run does (`represents_after`).
* `load_lastWriteWins`: every supply of a fixture that was loaded is such a register.
-/

namespace PowerClass

/-- What a property holds. -/
inductive Cell where
  | stored (text : String)
  | fault (fault : Fault)
  | value (raw : Toml)
  | nothing

namespace Cell

/-- The cell after steps: the text that was last stored under the name, if any. -/
def after (registry : Registry) (name : String) (steps : List Step) (cell : Cell) : Cell :=
  match latest? (steps.filterMap (Step.stored? registry)) name with
  | some text => .stored text
  | none => cell

/-- What showing a property answers, from what it holds. -/
inductive Shows (d : Descriptor) : Cell → Except AccessError String → Prop where
  | stored {text line : String} {value : Value} :
      Codec.decode d.kind text = .ok value → Codec.encode d.kind value = .ok line →
        Shows d (.stored text) (.ok line)
  | noData : Shows d (.fault .noData) (.error .noData)
  | notPresent : Shows d (.fault .notPresent) (.error .temporarilyUnavailable)
  | busy : Shows d (.fault .busy) (.error .temporarilyUnavailable)
  | failure :
      Shows d (.fault .failure)
        (.error (.deviceFailure (.other ("simulated failure reading " ++ d.name))))
  | value {raw : Toml} {line : String} {value : Value} :
      Simulated.Converts d.kind raw value → Codec.encode d.kind value = .ok line →
        Shows d (.value raw) (.ok line)
  | nothing : Shows d .nothing (.error .noData)

/-- The state keeps this for a property. -/
def Represents (d : Descriptor) (state : SimulatedState) : Cell → Prop
  | .stored text => state.faults.get? d.id = none ∧
      ∃ value, Codec.decode d.kind text = .ok value ∧ state.values.get? d.id = some value
  | .fault f => state.faults.get? d.id = some f
  | .value raw => state.faults.get? d.id = none ∧
      ∃ value, Simulated.Converts d.kind raw value ∧ state.values.get? d.id = some value
  | .nothing => state.faults.get? d.id = none ∧ state.values.get? d.id = none

variable {registry : Registry} {name : String}

theorem after_cons (step : Step) (rest : List Step) (cell : Cell) :
    cell.after registry name (step :: rest) =
      (cell.after registry name [step]).after registry name rest := by
  unfold after
  rw [← List.singleton_append, List.filterMap_append, latest?_append]
  cases latest? (rest.filterMap (Step.stored? registry)) name <;> rfl

theorem after_of_stored?_none {step : Step} (h : step.stored? registry = none)
    (cell : Cell) : cell.after registry name [step] = cell := by
  simp [after, h]

theorem after_of_stored? {step : Step} {key text : String}
    (h : step.stored? registry = some (key, text)) (cell : Cell) :
    cell.after registry name [step] = if name = key then .stored text else cell := by
  by_cases hname : name = key <;> simp [after, h, latest?_cons, hname]

end Cell

/-- What a fixture says of a property, a fault before a value. -/
def Fixture.cell (fixture : Fixture) (name : String) : Cell :=
  match latest? fixture.errors name, latest? fixture.values name with
  | some f, _ => .fault f
  | none, some raw => .value raw
  | none, none => .nothing

namespace Simulated

open Cell

variable {registry : Registry} {fixture : Fixture} {simulated : Simulated}
  {d : Descriptor} {s : SimulatedState}

/-! ## Runs -/

theorem represents_cell (h : Loaded registry fixture simulated s) (hw : registry.WellFormed)
    (hfits : Fixture.EntriesFit fixture.values) (hd : d ∈ registry.descriptors) :
    (fixture.cell d.name).Represents d s := by
  have hfault : s.faults.get? d.id = latest? fixture.errors d.name :=
    get?_addFaults_empty hw hd h.faults_eq
  unfold Fixture.cell
  cases hf : latest? fixture.errors d.name with
  | some f => exact hfault.trans hf
  | none =>
    rcases get?_addValues hw hd h.values_eq with ⟨raw, v, hraw, hv, hget⟩ | ⟨hnone, hget⟩
    · have hc : Converts d.kind raw v := (value_eq_ok_iff (hfits _ (mem_of_latest? hraw))).mp hv
      rw [hraw]
      exact ⟨hfault.trans hf, v, hc, hget⟩
    · rw [hnone]
      exact ⟨hfault.trans hf, hget⟩

theorem represents_perform (hw : registry.WellFormed) (hd : d ∈ registry.descriptors)
    {cell : Cell} (h : cell.Represents d s) (op : Operation) :
    (cell.after registry d.name [⟨op, (simulated.supply.perform registry op s).1⟩]).Represents d
      (simulated.supply.perform registry op s).2 := by
  rcases simulated.perform_cases hw op with hkeep | ⟨d', hd', -, text, value, hv, hhold⟩
  · rw [after_of_stored?_none (hkeep s).1, (hkeep s).2]
    exact h
  · rw [after_of_stored? (hhold s).1, (hhold s).2]
    -- The cell goes by the name and the state by the identifier: in a registry the two agree.
    by_cases hname : d.name = d'.name
    · obtain rfl : d = d' := List.inj_on_of_nodup_map hw.nodup hd hd' hname
      rw [if_pos rfl]
      exact ⟨by simp, value, hv, by simp⟩
    · have hid : d.id ≠ d'.id := fun hid => hname ((hw.id_eq_iff hd hd').mp hid)
      rw [if_neg hname]
      cases cell <;> simpa [Represents, hid] using h

theorem represents_after (hw : registry.WellFormed) (hd : d ∈ registry.descriptors)
    (ops : List Operation) {cell : Cell} (h : cell.Represents d s) :
    (cell.after registry d.name (simulated.supply.performAll registry ops s).1).Represents d
      (simulated.supply.after registry ops s) := by
  -- The rest of a run starts with the cell that its first step leaves.
  induction ops generalizing cell s with
  | nil => exact h
  | cons op rest ih =>
    rw [Supply.performAll_cons, Supply.after_cons, after_cons]
    exact ih (represents_perform hw hd h op)

/-! ## Answers -/

theorem shows_textOf (hname : simulated.propertyName d.id = d.name) {cell : Cell}
    (h : cell.Represents d s) :
    cell.Shows d (Supply.textOf d.kind (simulated.get d.id s).1) := by
  cases cell with
  | stored text =>
    obtain ⟨hf, value, hv, hget⟩ := h
    obtain ⟨line, he, ht⟩ := Supply.exists_textOf (Codec.variant_of_decode hv)
    simp only [get, hf, hget, ht]
    exact .stored hv he
  | fault f =>
    have hf : s.faults.get? d.id = some f := h
    simp only [get, hf]
    cases f with
    | noData => exact .noData
    | notPresent => exact .notPresent
    | busy => exact .busy
    | failure =>
      rw [hname]
      exact .failure
  | value raw =>
    obtain ⟨hf, value, hc, hget⟩ := h
    obtain ⟨line, he, ht⟩ := Supply.exists_textOf hc.variant_eq
    simp only [get, hf, hget, ht]
    exact .value hc he
  | nothing =>
    obtain ⟨hf, hget⟩ := h
    simp only [get, hf, hget]
    exact .nothing

theorem showAttribute_of_declared (hw : registry.WellFormed) (hd : d ∈ registry.descriptors)
    (hk : d.kind ≠ .deviceType) (hi : d.id ∈ simulated.declaration.properties)
    (s : SimulatedState) :
    (simulated.supply.showAttribute registry d.name s).1 =
      Supply.textOf d.kind (simulated.get d.id s).1 := by
  rw [Supply.showAttribute_of_declared simulated.supply hw hd hk hi]
  show (simulated.supply.read registry d.id s).1 = _
  rw [Supply.read_of_mem simulated.supply hw hd, Supply.fetch_of_ne_deviceType simulated.supply hk]
  rfl

end Simulated

/-! ## Registers -/

section

variable {σ : Type}

/-- A supply that behaves as a register for each declared property, with given contents at first.
The operations of a run are any, and so are those before and after one that is spoken of. -/
structure LastWriteWins (supply : Supply (StateM σ)) (registry : Registry)
    (cell : String → Cell) (type : SupplyType) (initial : σ) : Prop where
  shows : ∀ ops, ∀ d ∈ registry.descriptors, d.id ∈ supply.declaration.properties →
    ((cell d.name).after registry d.name (supply.performAll registry ops initial).1).Shows d
      (supply.showAttribute registry d.name (supply.after registry ops initial)).1
  shows_type : ∀ ops,
    (supply.showAttribute registry "type" (supply.after registry ops initial)).1 =
      .ok (type.label ++ "\n")
  of_failed : ∀ ops op later,
    Step.failed ⟨op, (supply.perform registry op (supply.after registry ops initial)).1⟩ = true →
      supply.performAll registry later (supply.after registry (ops ++ [op]) initial) =
        supply.performAll registry later (supply.after registry ops initial)
  of_other_name : ∀ ops op later asked name, asked.name? registry = some name →
    op.name? registry ≠ some name →
      (supply.perform registry asked (supply.after registry (ops ++ op :: later) initial)).1 =
        (supply.perform registry asked (supply.after registry (ops ++ later) initial)).1
  mode_eq : ∀ ops name,
    (supply.attributeMode registry name (supply.after registry ops initial)).1 =
      (supply.attributeMode registry name initial).1
  attributes_eq : ∀ ops,
    (supply.attributes registry (supply.after registry ops initial)).1 =
      (supply.attributes registry initial).1

end

namespace Simulated

variable {registry : Registry} {fixture : Fixture} {simulated : Simulated} {s : SimulatedState}

theorem Loaded.lastWriteWins (h : Loaded registry fixture simulated s) (hw : registry.WellFormed)
    (hfits : Fixture.EntriesFit fixture.values) {t : Descriptor} (ht : registry.IsType t) :
    LastWriteWins simulated.supply registry fixture.cell fixture.type s := by
  constructor
  case shows =>
    intro ops d hd hi
    have hk := h.valid.kind_ne_deviceType hw hd hi
    rw [showAttribute_of_declared hw hd hk hi]
    exact shows_textOf (h.propertyName_eq hw hd hi)
      (represents_after hw hd ops (represents_cell h hw hfits hd))
  case shows_type =>
    intro ops
    rw [Supply.showAttribute_type simulated.supply hw ht, ← h.type_eq]
    rfl
  case of_failed =>
    intro ops op later hf
    rw [Supply.after_append, Supply.after_cons, Supply.after_nil,
      simulated.perform_of_failed hw hf]
  case of_other_name =>
    intro ops op later asked name hasked hop
    rw [Supply.after_append, Supply.after_append, Supply.after_cons]
    refine simulated.answer_congr hw hasked fun d hd hname => ?_
    rw [← hname] at hop
    exact simulated.sameAt_after hw (simulated.sameAt_perform_of_ne hw hd hop _) later
  case mode_eq => exact fun ops name => simulated.attributeMode_fst_eq registry name _ s
  case attributes_eq => exact fun ops => simulated.attributes_fst_eq registry _ s

/-- **Last write wins.** Every supply of a fixture that was loaded shows, after any run, the text
that was last stored under a name, decoded and encoded again, and before that what the fixture says
of the name. -/
theorem load_lastWriteWins {additions : List Addition} {registry : Registry}
    (hb : Registry.build additions = .ok registry) {text : String}
    {supplies : List (Simulated × SimulatedState)} (hl : load registry text = .ok supplies) :
    ∃ fixtures, Fixture.read? text = some fixtures ∧
      List.Forall₂ (fun fixture (simulated, s) =>
        LastWriteWins simulated.supply registry fixture.cell fixture.type s)
        fixtures supplies := by
  have hw := Registry.wellFormed_of_build hb
  obtain ⟨t, ht⟩ := Registry.exists_isType_of_build hb
  obtain ⟨fixtures, hread, hall⟩ := exists_loaded_of_load hl
  exact ⟨fixtures, hread, hall.imp fun _ _ ⟨hfits, h⟩ => h.lastWriteWins hw hfits ht⟩

/-- The description of a battery that is full, whose sensor is busy, and whose status and
temperature can be stored. -/
def busySensor : String :=
  "[[supply]]\nname = \"BAT0\"\nwriteable = [\"status\", \"temp\"]\n" ++
    "[supply.values]\nstatus = \"Full\"\n[supply.errors]\ntemp = \"busy\"\n"

def busyBattery : Simulated :=
  ⟨⟨"BAT0", .unknown, [⟨0⟩, ⟨46⟩]⟩, ⟨[(⟨0⟩, "status"), (⟨46⟩, "temp")]⟩, [⟨0⟩, ⟨46⟩]⟩

def busyBatteryState : SimulatedState :=
  ⟨⟨[(⟨0⟩, .ordinal 4)]⟩, ⟨[(⟨46⟩, .busy)]⟩⟩

theorem cell_status_busySensor {fixture : Fixture}
    (h : Fixture.read? busySensor = some [fixture]) :
    fixture.cell "status" = .value (.string "Full") := by
  have hcell : (Fixture.read? busySensor).map (fun fixtures => fixtures.map fun fixture =>
      (latest? fixture.errors "status", (latest? fixture.values "status").bind Toml.text?)) =
      some [(none, some "Full")] := by
    decide +kernel
  obtain ⟨hfault, hvalue⟩ : latest? fixture.errors "status" = none ∧
      (latest? fixture.values "status").bind Toml.text? = some "Full" := by
    simpa [h] using hcell
  obtain ⟨raw, hl, ht⟩ := Option.bind_eq_some_iff.mp hvalue
  cases raw <;> cases ht
  rw [Fixture.cell, hfault, hl]

/-- The status is that of the description until it is stored. Of two stores of which the second
fails, the first is shown. -/
theorem load_lastWriteWins_busySensor :
    Registry.build [] = .ok .standard ∧
      load .standard busySensor = .ok [(busyBattery, busyBatteryState)] ∧
      (busyBattery.supply.showAttribute .standard "status" busyBatteryState).1 = .ok "Full\n" ∧
      (busyBattery.supply.showAttribute .standard "status"
        (busyBattery.supply.after .standard
          [.storeAttribute "status" " 1\n", .storeAttribute "status" "charging"]
          busyBatteryState)).1 = .ok "Charging\n" := by
  have hl : load .standard busySensor = .ok [(busyBattery, busyBatteryState)] := by
    decide +kernel
  obtain ⟨fixtures, hread, hall⟩ := load_lastWriteWins Registry.build_nil hl
  obtain ⟨fixture, rest, h, hrest, rfl⟩ := List.forall₂_cons_right_iff.mp hall
  obtain rfl := List.forall₂_nil_right_iff.mp hrest
  have hshows := fun ops =>
    h.shows ops ⟨⟨0⟩, "status", .enum .status⟩ (by decide +kernel) (by decide)
  refine ⟨Registry.build_nil, hl, ?_, ?_⟩
  · have hfirst := hshows []
    rw [cell_status_busySensor hread] at hfirst
    generalize (busyBattery.supply.showAttribute .standard "status" _).1 = answer at hfirst ⊢
    cases hfirst with
    | value hc he =>
      cases hc with
      | decoded _ hv =>
        cases hv
        cases he
        decide
  · have hlatest : latest? ((busyBattery.supply.performAll .standard
        [.storeAttribute "status" " 1\n", .storeAttribute "status" "charging"]
        busyBatteryState).1.filterMap (Step.stored? .standard)) "status" = some " 1\n" := by
      decide +kernel
    have hlast := hshows [.storeAttribute "status" " 1\n", .storeAttribute "status" "charging"]
    simp only [Cell.after, hlatest] at hlast
    generalize (busyBattery.supply.showAttribute .standard "status" _).1 = answer at hlast ⊢
    cases hlast with
    | stored hv he =>
      cases hv
      cases he
      decide

end Simulated
end PowerClass
