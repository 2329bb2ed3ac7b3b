import PowerClass.Proofs.Codec.RoundTrip
import PowerClass.Proofs.Supply.Declared
import PowerClass.Supply.Simulated

/-!
# PowerClass.Proofs.Supply.Loading

What a simulated supply keeps when its fixture was loaded. A fixture gives values and faults by
name; where a name is given twice the later entry counts.

* `ofFixture_eq_ok_iff`: a fixture that is accepted, part by part.
* `lookupAll_eq_ok`: the properties of a list of names, one for each name.
* `get?_addValues`, `get?_addFaults`: what is kept for a property, by the name of the property.
* `Loaded.mem_writable_iff`: the properties that may be written, by their names.
* `variant_of_value`: a value that is accepted fits its property.
-/

namespace PowerClass

/-- The last of the pairs with a name. -/
def latest? {α : Type} (pairs : List (String × α)) (name : String) : Option α :=
  pairs.reverse.lookup name

section

variable {α : Type}

@[simp] theorem latest?_nil (name : String) : latest? ([] : List (String × α)) name = none := rfl

theorem latest?_append (first rest : List (String × α)) (name : String) :
    latest? (first ++ rest) name = (latest? rest name).or (latest? first name) := by
  rw [latest?, List.reverse_append, List.lookup_append]
  rfl

theorem latest?_cons (key : String) (a : α) (rest : List (String × α)) (name : String) :
    latest? ((key, a) :: rest) name =
      (latest? rest name).or (if name = key then some a else none) := by
  rw [← List.singleton_append, latest?_append]
  by_cases h : name = key
  · simp [latest?, h]
  · have hb : (name == key) = false := beq_eq_false_iff_ne.mpr h
    simp [latest?, List.lookup_cons, h, hb]

theorem mem_of_latest? {pairs : List (String × α)} {name : String} {a : α}
    (h : latest? pairs name = some a) : (name, a) ∈ pairs := by
  obtain ⟨before, after, he, -⟩ := List.lookup_eq_some_iff.mp h
  rw [← List.mem_reverse, he]
  simp

end

namespace Simulated

variable {registry : Registry} {supply name : String}

theorem lookup_eq_ok {d : Descriptor} :
    lookup registry supply name = .ok d ↔ registry.lookup? name = some d := by
  unfold lookup
  cases registry.lookup? name <;> simp

theorem variant_of_value {kind : Kind} {raw : Toml} {v : Value} (h : value kind raw = .ok v) :
    v.variant = kind.variant := by
  unfold value at h
  split at h
  · cases h
    rfl
  · cases h
    rfl
  · obtain ⟨n, -, rfl⟩ := Result.map_eq_ok.mp h
    rfl
  · obtain ⟨n, -, rfl⟩ := Result.map_eq_ok.mp h
    rfl
  · obtain ⟨n, -, rfl⟩ := Result.map_eq_ok.mp h
    rfl
  · exact Codec.variant_of_decode (Result.mapError_eq_ok.mp h)
  · cases h

/-! ## The entries of a fixture -/

theorem addValues_cons {map result : PropertyMap Value} {raw : Toml}
    {rest : List (String × Toml)} :
    addValues registry supply map ((name, raw) :: rest) = .ok result ↔
      ∃ d v, registry.lookup? name = some d ∧ value d.kind raw = .ok v ∧
        addValues registry supply (map.insert d.id v) rest = .ok result := by
  rw [addValues, Result.bind_eq_ok]
  simp only [lookup_eq_ok]
  refine exists_congr fun d => ?_
  cases value d.kind raw <;> simp

theorem addFaults_cons {map result : PropertyMap Fault} {fault : Fault}
    {rest : List (String × Fault)} :
    addFaults registry supply map ((name, fault) :: rest) = .ok result ↔
      ∃ d, registry.lookup? name = some d ∧
        addFaults registry supply (map.insert d.id fault) rest = .ok result := by
  rw [addFaults, Result.bind_eq_ok]
  simp only [lookup_eq_ok]

/-- Names are looked up one by one, and all of them have to be there. -/
theorem lookupAll_eq_ok {names : List String} {ids : List PropertyId} :
    lookupAll registry supply names = .ok ids ↔
      List.Forall₂ (fun name id => ∃ d, registry.lookup? name = some d ∧ d.id = id) names ids := by
  induction names generalizing ids with
  | nil =>
    rw [lookupAll, List.forall₂_nil_left_iff, Except.ok.injEq]
    exact eq_comm
  | cons name rest ih =>
    simp only [lookupAll, Result.bind_eq_ok, lookup_eq_ok, List.forall₂_cons_left_iff, ih]
    constructor
    · rintro ⟨d, hd, others, ho, hids⟩
      cases hids
      exact ⟨d.id, others, ⟨d, hd, rfl⟩, ho, rfl⟩
    · rintro ⟨id, others, ⟨d, hd, rfl⟩, ho, rfl⟩
      exact ⟨d, hd, others, ho, rfl⟩

/-- In a registry a name and an identifier are of one property. -/
theorem biUnique_lookup? (hw : registry.WellFormed) :
    Relator.BiUnique fun name id => ∃ d, registry.lookup? name = some d ∧ d.id = id := by
  constructor
  · rintro name id other ⟨d, hl, rfl⟩ ⟨d', hl', hid⟩
    obtain ⟨hd, rfl⟩ := hw.lookup?_eq_some_iff.mp hl
    obtain ⟨hd', rfl⟩ := hw.lookup?_eq_some_iff.mp hl'
    exact ((hw.id_eq_iff hd' hd).mp hid).symm
  · rintro name id other ⟨d, hl, rfl⟩ ⟨d', hl', rfl⟩
    rw [hl] at hl'
    cases hl'
    rfl

/-! ## The properties of the entries -/

/-- A map knows only registered properties. -/
def Registered {α : Type} (registry : Registry) (map : PropertyMap α) : Prop :=
  ∀ id a, map.get? id = some a → ∃ d, registry.get? id = some d

theorem registered_empty {α : Type} : Registered registry (.empty : PropertyMap α) :=
  nofun

theorem Registered.insert {α : Type} {map : PropertyMap α} (hm : Registered registry map)
    (hw : registry.WellFormed) {d : Descriptor} (hl : registry.lookup? name = some d) (a : α) :
    Registered registry (map.insert d.id a) := by
  intro id found hf
  rw [PropertyMap.get?_insert] at hf
  by_cases hid : id = d.id
  · exact ⟨d, by rw [hid, hw.get?_id (hw.lookup?_eq_some_iff.mp hl).1]⟩
  · rw [if_neg hid] at hf
    exact hm id found hf

theorem Registered.addValues (hw : registry.WellFormed) {map result : PropertyMap Value}
    (hm : Registered registry map) {values : List (String × Toml)}
    (h : addValues registry supply map values = .ok result) : Registered registry result := by
  induction values generalizing map with
  | nil =>
    cases h
    exact hm
  | cons entry rest ih =>
    obtain ⟨name, raw⟩ := entry
    obtain ⟨d, v, hl, -, hrest⟩ := addValues_cons.mp h
    exact ih (hm.insert hw hl v) hrest

theorem Registered.addFaults (hw : registry.WellFormed) {map result : PropertyMap Fault}
    (hm : Registered registry map) {faults : List (String × Fault)}
    (h : addFaults registry supply map faults = .ok result) : Registered registry result := by
  induction faults generalizing map with
  | nil =>
    cases h
    exact hm
  | cons entry rest ih =>
    obtain ⟨name, fault⟩ := entry
    obtain ⟨d, hl, hrest⟩ := addFaults_cons.mp h
    exact ih (hm.insert hw hl fault) hrest

variable (hw : registry.WellFormed) {d : Descriptor} (hd : d ∈ registry.descriptors)
include hw hd

theorem get?_insert_of_lookup? {α : Type} {d' : Descriptor} (h : registry.lookup? name = some d')
    (map : PropertyMap α) (a : α) :
    (map.insert d'.id a).get? d.id = if d.name = name then some a else map.get? d.id := by
  obtain ⟨hd', rfl⟩ := hw.lookup?_eq_some_iff.mp h
  rw [PropertyMap.get?_insert]
  simp only [hw.id_eq_iff hd hd']

theorem get?_addFaults {map result : PropertyMap Fault} {faults : List (String × Fault)}
    (h : addFaults registry supply map faults = .ok result) :
    result.get? d.id = (latest? faults d.name).or (map.get? d.id) := by
  induction faults generalizing map with
  | nil =>
    cases h
    rfl
  | cons entry rest ih =>
    obtain ⟨name, fault⟩ := entry
    obtain ⟨d', hl, hrest⟩ := addFaults_cons.mp h
    rw [ih hrest, latest?_cons, get?_insert_of_lookup? hw hd hl, Option.or_assoc]
    by_cases hname : d.name = name <;> simp [hname]

theorem get?_addFaults_empty {map : PropertyMap Fault} {faults : List (String × Fault)}
    (h : addFaults registry supply .empty faults = .ok map) :
    map.get? d.id = latest? faults d.name := by
  rw [get?_addFaults hw hd h, PropertyMap.get?_empty, Option.or_none]

/-- Every value that is given was accepted, so the last one is there. -/
theorem get?_addValues {map result : PropertyMap Value} {values : List (String × Toml)}
    (h : addValues registry supply map values = .ok result) :
    (∃ raw v, latest? values d.name = some raw ∧ value d.kind raw = .ok v ∧
        result.get? d.id = some v) ∨
      latest? values d.name = none ∧ result.get? d.id = map.get? d.id := by
  induction values generalizing map with
  | nil =>
    cases h
    exact .inr ⟨rfl, rfl⟩
  | cons entry rest ih =>
    obtain ⟨name, raw⟩ := entry
    obtain ⟨d', v, hl, hv, hrest⟩ := addValues_cons.mp h
    rw [latest?_cons]
    rcases ih hrest with ⟨later, w, hlater, hw', hget⟩ | ⟨hnone, hget⟩
    · exact .inl ⟨later, w, by rw [hlater]; rfl, hw', hget⟩
    · rw [hnone, hget, get?_insert_of_lookup? hw hd hl]
      by_cases hname : d.name = name
      · rw [if_pos hname, if_pos hname]
        have hdd : d = d' := by
          rw [← hname, hw.lookup?_name hd] at hl
          exact Option.some.inj hl
        exact .inl ⟨raw, v, rfl, hdd ▸ hv, rfl⟩
      · rw [if_neg hname, if_neg hname]
        exact .inr ⟨rfl, rfl⟩

/-- The device knows a declared property by its name. -/
theorem get?_namesOf {ids : List PropertyId} (hi : d.id ∈ ids) :
    (namesOf registry ids).get? d.id = some d.name := by
  have hg : registry.get? d.id = some d := hw.get?_id hd
  unfold namesOf PropertyMap.get?
  induction ids with
  | nil => cases hi
  | cons id rest ih =>
    rw [List.filterMap_cons]
    by_cases hid : d.id = id
    · simp [← hid, hg]
    · have hrest := ih ((List.mem_cons.mp hi).resolve_left hid)
      cases registry.get? id with
      | none => exact hrest
      | some other =>
        have hb : (d.id == id) = false := beq_eq_false_iff_ne.mpr hid
        simpa [List.lookup_cons, hb] using hrest

omit hw hd

/-! ## Fixtures -/

/-- What a fixture declares, which without a list of properties is what it has entries for. -/
def declared (registry : Registry) (fixture : Fixture) (state : SimulatedState) :
    Except FixtureError (List PropertyId) :=
  match fixture.properties with
  | some names => lookupAll registry fixture.name names
  | none => .ok (mentioned registry state)

/-- The parts of a supply that was made of a fixture, and what it keeps at first. -/
structure Loaded (registry : Registry) (fixture : Fixture) (simulated : Simulated)
    (state : SimulatedState) : Prop where
  values_eq : addValues registry fixture.name .empty fixture.values = .ok state.values
  faults_eq : addFaults registry fixture.name .empty fixture.errors = .ok state.faults
  declared_eq : declared registry fixture state = .ok simulated.declaration.properties
  writable_eq : lookupAll registry fixture.name fixture.writable = .ok simulated.writable
  name_eq : simulated.declaration.name = fixture.name
  type_eq : simulated.declaration.type = fixture.type
  valid : simulated.declaration.Valid registry
  names_eq : simulated.names = namesOf registry simulated.declaration.properties

theorem ofFixture_eq (registry : Registry) (fixture : Fixture) :
    ofFixture registry fixture = (do
      let values ← addValues registry fixture.name .empty fixture.values
      let faults ← addFaults registry fixture.name .empty fixture.errors
      let properties ← declared registry fixture ⟨values, faults⟩
      let writable ← lookupAll registry fixture.name fixture.writable
      match Declaration.validate registry fixture.name fixture.type properties with
      | .error e => .error (.declaration e)
      | .ok declaration =>
        .ok (⟨declaration, namesOf registry properties, writable⟩, ⟨values, faults⟩)) := by
  unfold ofFixture declared
  cases fixture.properties <;> rfl

theorem ofFixture_eq_ok_iff {fixture : Fixture} {simulated : Simulated} {state : SimulatedState} :
    ofFixture registry fixture = .ok (simulated, state) ↔
      Loaded registry fixture simulated state := by
  rw [ofFixture_eq]
  simp only [Result.bind_eq_ok]
  constructor
  · rintro ⟨values, hvalues, faults, hfaults, ids, hids, writable, hwritable, h⟩
    split at h
    · cases h
    · next declaration hdeclaration =>
      cases h
      obtain ⟨rfl, hvalid⟩ := Declaration.validate_eq_ok_iff.mp hdeclaration
      exact ⟨hvalues, hfaults, hids, hwritable, rfl, rfl, hvalid, rfl⟩
  · intro h
    obtain ⟨⟨name, type, ids⟩, names, writable⟩ := simulated
    obtain ⟨hvalues, hfaults, hids, hwritable, hname, htype, hvalid, hnames⟩ := h
    simp only at hname htype hnames
    subst hname htype hnames
    refine ⟨_, hvalues, _, hfaults, _, hids, _, hwritable, ?_⟩
    rw [Declaration.validate_eq_ok_iff.mpr ⟨rfl, hvalid⟩]

theorem load_eq_ok_iff {text : String} {supplies : List (Simulated × SimulatedState)} :
    load registry text = .ok supplies ↔
      ∃ fixtures, Fixture.read? text = some fixtures ∧
        List.Forall₂ (fun fixture (simulated, state) => Loaded registry fixture simulated state)
          fixtures supplies := by
  unfold load
  cases Fixture.read? text with
  | none => simp
  | some fixtures =>
    have heq : ∀ fixture loaded, ofFixture registry fixture = .ok loaded ↔
        Loaded registry fixture loaded.1 loaded.2 :=
      fun _ _ => ofFixture_eq_ok_iff
    simp [ofFixtures, Result.mapM_eq_ok, heq]

/-- The properties that may be written are those that the fixture lists. -/
theorem Loaded.mem_writable_iff {fixture : Fixture} {simulated : Simulated}
    {state : SimulatedState} (h : Loaded registry fixture simulated state)
    (hw : registry.WellFormed) (hd : d ∈ registry.descriptors) :
    d.id ∈ simulated.writable ↔ d.name ∈ fixture.writable :=
  (List.rel_mem (biUnique_lookup? hw) ⟨d, hw.lookup?_name hd, rfl⟩
    (lookupAll_eq_ok.mp h.writable_eq)).symm

theorem Loaded.propertyName_eq {fixture : Fixture} {simulated : Simulated}
    {state : SimulatedState} (h : Loaded registry fixture simulated state)
    (hw : registry.WellFormed) (hd : d ∈ registry.descriptors)
    (hi : d.id ∈ simulated.declaration.properties) : simulated.propertyName d.id = d.name := by
  rw [propertyName, h.names_eq, get?_namesOf hw hd hi]
  rfl

end Simulated
end PowerClass
