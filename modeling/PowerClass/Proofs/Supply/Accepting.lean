import PowerClass.Proofs.Supply.Converting
import PowerClass.Proofs.Supply.Fitting
import PowerClass.Proofs.Supply.Validation

/-!
# PowerClass.Proofs.Supply.Accepting

Which fixtures are accepted, and what a supply then holds and declares. A fixture without a list
of properties declares those with an entry, each once and in increasing order, so it is only refused
at the end when the type of the supply is among them.

* `Declares`, `Accepted`, `Keeps`: what a fixture declares, all that it needs to be accepted, and
  what its supply then holds.
* `sortUnique_eq_mentioned`: the properties with an entry, found by sorting them from any order.
* `ofFixture_acceptsExactly`: the fixtures that are accepted, and what they declare.
-/

namespace PowerClass

theorem PropertyMap.mem_keys_iff {α : Type} {map : PropertyMap α} {id : PropertyId} :
    id ∈ map.keys ↔ (map.get? id).isSome = true := by
  rw [get?, List.lookup_isSome_iff, keys, List.mem_map]
  constructor
  · rintro ⟨pair, hp, rfl⟩
    exact ⟨pair, hp, beq_self_eq_true _⟩
  · rintro ⟨pair, hp, he⟩
    exact ⟨pair, hp, (eq_of_beq he).symm⟩

namespace Simulated

/-! ## The parts of a fixture -/

variable {registry : Registry} {supply : String}

theorem exists_addValues_iff {map : PropertyMap Value} {values : List (String × Toml)} :
    (∃ result, addValues registry supply map values = .ok result) ↔
      ∀ name raw, (name, raw) ∈ values →
        ∃ d, registry.lookup? name = some d ∧ ∃ v, value d.kind raw = .ok v := by
  induction values generalizing map with
  | nil => simp [addValues]
  | cons entry rest ih =>
    obtain ⟨name, raw⟩ := entry
    simp only [addValues_cons, List.mem_cons, Prod.mk.injEq]
    constructor
    · rintro ⟨result, d, v, hl, hv, hrest⟩ other raw' (⟨rfl, rfl⟩ | hm)
      · exact ⟨d, hl, v, hv⟩
      · exact ih.mp ⟨result, hrest⟩ other raw' hm
    · intro h
      obtain ⟨d, hl, v, hv⟩ := h name raw (.inl ⟨rfl, rfl⟩)
      obtain ⟨result, hrest⟩ : ∃ result,
          addValues registry supply (map.insert d.id v) rest = .ok result :=
        ih.mpr fun other raw' hm => h other raw' (.inr hm)
      exact ⟨result, d, v, hl, hv, hrest⟩

theorem exists_addFaults_iff {map : PropertyMap Fault} {faults : List (String × Fault)} :
    (∃ result, addFaults registry supply map faults = .ok result) ↔
      ∀ name fault, (name, fault) ∈ faults → ∃ d, registry.lookup? name = some d := by
  induction faults generalizing map with
  | nil => simp [addFaults]
  | cons entry rest ih =>
    obtain ⟨name, fault⟩ := entry
    simp only [addFaults_cons, List.mem_cons, Prod.mk.injEq]
    constructor
    · rintro ⟨result, d, hl, hrest⟩ other fault' (⟨rfl, rfl⟩ | hm)
      · exact ⟨d, hl⟩
      · exact ih.mp ⟨result, hrest⟩ other fault' hm
    · intro h
      obtain ⟨d, hl⟩ := h name fault (.inl ⟨rfl, rfl⟩)
      obtain ⟨result, hrest⟩ : ∃ result,
          addFaults registry supply (map.insert d.id fault) rest = .ok result :=
        ih.mpr fun other fault' hm => h other fault' (.inr hm)
      exact ⟨result, d, hl, hrest⟩

theorem exists_lookupAll_iff {names : List String} :
    (∃ ids, lookupAll registry supply names = .ok ids) ↔
      ∀ name ∈ names, ∃ d, registry.lookup? name = some d := by
  simp only [lookupAll_eq_ok]
  induction names with
  | nil => simp
  | cons name rest ih =>
    simp only [List.forall₂_cons_left_iff, List.forall_mem_cons, ← ih]
    constructor
    · rintro ⟨_, id, others, ⟨d, hd, -⟩, ho, -⟩
      exact ⟨⟨d, hd⟩, others, ho⟩
    · rintro ⟨⟨d, hd⟩, others, ho⟩
      exact ⟨_, d.id, others, ⟨d, hd, rfl⟩, ho, rfl⟩

theorem lookupAll_eq_ok_iff (hw : registry.WellFormed) {names : List String}
    {ids : List PropertyId} :
    lookupAll registry supply names = .ok ids ↔
      List.Forall₂ (fun name id => ∃ d ∈ registry.descriptors, d.name = name ∧ d.id = id)
        names ids := by
  simp only [lookupAll_eq_ok, hw.lookup?_eq_some_iff, and_assoc]

end Simulated

/-! ## What a fixture declares -/

namespace Fixture

open Simulated

variable {registry : Registry} {fixture : Fixture}

/-- A name with a value or a fault. -/
def Mentions (fixture : Fixture) (name : String) : Prop :=
  (∃ raw, (name, raw) ∈ fixture.values) ∨ ∃ fault, (name, fault) ∈ fixture.errors

/-- The properties that a fixture declares: those of its list, in the order of the list, and without
a list those that are mentioned, in increasing order. -/
inductive Declares (registry : Registry) (fixture : Fixture) : List PropertyId → Prop where
  | listed {names : List String} {ids : List PropertyId} : fixture.properties = some names →
      List.Forall₂ (fun name id => ∃ d ∈ registry.descriptors, d.name = name ∧ d.id = id)
        names ids → Declares registry fixture ids
  | mentioned {ids : List PropertyId} : fixture.properties = none →
      PropertyId.Increasing ids →
      (∀ id, id ∈ ids ↔ ∃ d ∈ registry.descriptors, d.id = id ∧ fixture.Mentions d.name) →
      Declares registry fixture ids

theorem declares_iff_of_some {names : List String} (hp : fixture.properties = some names)
    {ids : List PropertyId} :
    fixture.Declares registry ids ↔
      List.Forall₂ (fun name id => ∃ d ∈ registry.descriptors, d.name = name ∧ d.id = id)
        names ids := by
  refine ⟨fun h => ?_, .listed hp⟩
  cases h with
  | listed hp' hids =>
    rw [hp] at hp'
    cases hp'
    exact hids
  | mentioned hp' _ _ =>
    rw [hp] at hp'
    cases hp'

theorem declares_iff_of_none (hp : fixture.properties = none) {ids : List PropertyId} :
    fixture.Declares registry ids ↔ PropertyId.Increasing ids ∧
      ∀ id, id ∈ ids ↔ ∃ d ∈ registry.descriptors, d.id = id ∧ fixture.Mentions d.name := by
  refine ⟨fun h => ?_, fun h => .mentioned hp h.1 h.2⟩
  cases h with
  | listed hp' _ =>
    rw [hp] at hp'
    cases hp'
  | mentioned _ hids hm => exact ⟨hids, hm⟩

theorem Declares.unique (hw : registry.WellFormed) {ids others : List PropertyId}
    (h : fixture.Declares registry ids) (h' : fixture.Declares registry others) : ids = others := by
  cases hp : fixture.properties with
  | some names =>
    rw [declares_iff_of_some hp] at h h'
    -- Looking the names up is a function of them.
    have hlookup : lookupAll registry fixture.name names = .ok ids :=
      (lookupAll_eq_ok_iff hw).mpr h
    rw [(lookupAll_eq_ok_iff hw).mpr h'] at hlookup
    exact (Except.ok.inj hlookup).symm
  | none =>
    obtain ⟨hids, hm⟩ := (declares_iff_of_none hp).mp h
    obtain ⟨hothers, hm'⟩ := (declares_iff_of_none hp).mp h'
    exact hids.eq_of_mem_iff hothers fun id => (hm id).trans (hm' id).symm

theorem Declares.registered {ids : List PropertyId} (h : fixture.Declares registry ids) :
    ∀ id ∈ ids, ∃ d ∈ registry.descriptors, d.id = id := by
  intro id hi
  cases h with
  | listed _ hids =>
    obtain ⟨name, -, d, hd, -, hid⟩ := Result.exists_of_forall₂_of_mem hids hi
    exact ⟨d, hd, hid⟩
  | mentioned _ _ hm =>
    obtain ⟨d, hd, hid, -⟩ := (hm id).mp hi
    exact ⟨d, hd, hid⟩

/-- All that a fixture needs to be accepted: names that are registered, values that are converted,
and a declaration without repetitions and without the type of the supply. -/
structure Accepted (registry : Registry) (fixture : Fixture) : Prop where
  values : ∀ name raw, (name, raw) ∈ fixture.values →
    ∃ d ∈ registry.descriptors, d.name = name ∧ ∃ v, Converts d.kind raw v
  errors : ∀ name fault, (name, fault) ∈ fixture.errors →
    ∃ d ∈ registry.descriptors, d.name = name
  properties : ∀ names, fixture.properties = some names →
    ∀ name ∈ names, ∃ d ∈ registry.descriptors, d.name = name
  writable : ∀ name ∈ fixture.writable, ∃ d ∈ registry.descriptors, d.name = name
  declared : ∃ ids, Declares registry fixture ids ∧ ids.Nodup ∧
    ∀ d ∈ registry.descriptors, d.id ∈ ids → d.kind ≠ .deviceType

/-- What an accepted fixture puts in its supply: of a property the value that the last value of its
name is converted to, and the last fault of its name. A property may be written when its name is
listed, and of other properties nothing is kept. -/
structure Keeps (registry : Registry) (fixture : Fixture) (simulated : Simulated)
    (state : SimulatedState) : Prop where
  value_iff : ∀ d ∈ registry.descriptors, ∀ v, state.values.get? d.id = some v ↔
    ∃ raw, latest? fixture.values d.name = some raw ∧ Converts d.kind raw v
  fault_eq : ∀ d ∈ registry.descriptors, state.faults.get? d.id = latest? fixture.errors d.name
  writable_iff : ∀ d ∈ registry.descriptors,
    d.id ∈ simulated.writable ↔ d.name ∈ fixture.writable
  registered : ∀ id, id ∈ state.values.keys ∨ id ∈ state.faults.keys ∨ id ∈ simulated.writable →
    ∃ d ∈ registry.descriptors, d.id = id

end Fixture

namespace Simulated

variable {registry : Registry} {supply : String} {fixture : Fixture} {state : SimulatedState}

theorem increasing_mentioned (hw : registry.WellFormed) (state : SimulatedState) :
    PropertyId.Increasing (mentioned registry state) :=
  List.Pairwise.filter _ hw.increasing_ids

theorem Registered.exists_of_mem_keys {α : Type} {map : PropertyMap α}
    (hm : Registered registry map) (hw : registry.WellFormed) {id : PropertyId}
    (hi : id ∈ map.keys) : ∃ d ∈ registry.descriptors, d.id = id := by
  obtain ⟨a, ha⟩ := Option.isSome_iff_exists.mp (PropertyMap.mem_keys_iff.mp hi)
  obtain ⟨d, hg⟩ := hm id a ha
  exact ⟨d, hw.get?_eq_some_iff.mp hg⟩

/-- The keys of both maps, in any order, sorted and each left once. -/
theorem sortUnique_eq_mentioned (hw : registry.WellFormed) (hv : Registered registry state.values)
    (hf : Registered registry state.faults) {keys : List PropertyId}
    (hk : keys.Perm (state.values.keys ++ state.faults.keys)) :
    PropertyId.sortUnique keys = mentioned registry state := by
  refine (PropertyId.increasing_sortUnique keys).eq_of_mem_iff (increasing_mentioned hw state) ?_
  intro id
  rw [PropertyId.mem_sortUnique_iff, hk.mem_iff, List.mem_append, mentioned, List.mem_filter,
    Bool.or_eq_true, ← PropertyMap.mem_keys_iff, ← PropertyMap.mem_keys_iff, iff_and_self]
  intro h
  have hreg : ∃ d ∈ registry.descriptors, d.id = id := by
    rcases h with hi | hi
    · exact hv.exists_of_mem_keys hw hi
    · exact hf.exists_of_mem_keys hw hi
  obtain ⟨d, hd, rfl⟩ := hreg
  exact List.mem_map_of_mem hd

theorem latest?_isSome_iff {α : Type} {pairs : List (String × α)} {name : String} :
    (latest? pairs name).isSome = true ↔ ∃ a, (name, a) ∈ pairs := by
  rw [← not_iff_not, Bool.not_eq_true, Option.isSome_eq_false_iff, Option.isNone_iff_eq_none,
    latest?_eq_none_iff, not_exists]

section

variable {values : PropertyMap Value} {faults : PropertyMap Fault}
  (hw : registry.WellFormed)
  (hv : addValues registry supply .empty fixture.values = .ok values)
  (hf : addFaults registry supply .empty fixture.errors = .ok faults)
include hw hv hf

/-- What is mentioned are the names of the entries. -/
theorem mem_mentioned_iff {id : PropertyId} :
    id ∈ mentioned registry ⟨values, faults⟩ ↔
      ∃ d ∈ registry.descriptors, d.id = id ∧ fixture.Mentions d.name := by
  have hentry : ∀ d ∈ registry.descriptors,
      ((values.get? d.id).isSome || (faults.get? d.id).isSome) = true ↔
        fixture.Mentions d.name := by
    intro d hd
    have hvalue : (values.get? d.id).isSome = (latest? fixture.values d.name).isSome := by
      rcases get?_addValues hw hd hv with ⟨raw, v, hl, -, hget⟩ | ⟨hl, hget⟩
      · rw [hget, hl]
        rfl
      · rw [hget, hl]
        rfl
    have hfault : faults.get? d.id = latest? fixture.errors d.name :=
      get?_addFaults_empty hw hd hf
    rw [hvalue, hfault, Bool.or_eq_true, latest?_isSome_iff, latest?_isSome_iff]
    rfl
  rw [mentioned, List.mem_filter, List.mem_map]
  constructor
  · rintro ⟨⟨d, hd, rfl⟩, h⟩
    exact ⟨d, hd, rfl, (hentry d hd).mp h⟩
  · rintro ⟨d, hd, rfl, h⟩
    exact ⟨⟨d, hd, rfl⟩, (hentry d hd).mpr h⟩

theorem declared_eq_ok_iff {ids : List PropertyId} :
    declared registry fixture ⟨values, faults⟩ = .ok ids ↔ fixture.Declares registry ids := by
  unfold declared
  cases hp : fixture.properties with
  | some names =>
    rw [Fixture.declares_iff_of_some hp]
    exact lookupAll_eq_ok_iff hw
  | none =>
    have hmentioned : fixture.Declares registry (mentioned registry ⟨values, faults⟩) :=
      .mentioned hp (increasing_mentioned hw _) fun id => mem_mentioned_iff hw hv hf
    constructor
    · intro h
      cases h
      exact hmentioned
    · intro h
      rw [hmentioned.unique hw h]

end

/-! ## Refusals -/

section

variable {name : String} {e : DeclarationError}

theorem lookup_ne_declaration : lookup registry supply name ≠ .error (.declaration e) := by
  unfold lookup
  cases registry.lookup? name <;> exact nofun

theorem addValues_ne_declaration {map : PropertyMap Value} {values : List (String × Toml)} :
    addValues registry supply map values ≠ .error (.declaration e) := by
  induction values generalizing map with
  | nil => exact nofun
  | cons entry rest ih =>
    obtain ⟨name, raw⟩ := entry
    rw [addValues, Ne, Result.bind_eq_error, not_or]
    refine ⟨lookup_ne_declaration, ?_⟩
    rintro ⟨d, -, h⟩
    split at h
    · cases h
    · exact ih h

theorem addFaults_ne_declaration {map : PropertyMap Fault} {faults : List (String × Fault)} :
    addFaults registry supply map faults ≠ .error (.declaration e) := by
  induction faults generalizing map with
  | nil => exact nofun
  | cons entry rest ih =>
    obtain ⟨name, fault⟩ := entry
    rw [addFaults, Ne, Result.bind_eq_error, not_or]
    refine ⟨lookup_ne_declaration, ?_⟩
    rintro ⟨d, -, h⟩
    exact ih h

theorem lookupAll_ne_declaration {names : List String} :
    lookupAll registry supply names ≠ .error (.declaration e) := by
  induction names with
  | nil => exact nofun
  | cons name rest ih =>
    rw [lookupAll, Ne, Result.bind_eq_error, not_or]
    refine ⟨lookup_ne_declaration, ?_⟩
    rintro ⟨d, -, h⟩
    rcases Result.bind_eq_error.mp h with h | ⟨ids, -, h⟩
    · exact ih h
    · cases h

/-- A declaration is refused when all the rest of a fixture was accepted. -/
theorem exists_validate_of_ofFixture (h : ofFixture registry fixture = .error (.declaration e)) :
    ∃ values faults ids, addValues registry fixture.name .empty fixture.values = .ok values ∧
      addFaults registry fixture.name .empty fixture.errors = .ok faults ∧
      declared registry fixture ⟨values, faults⟩ = .ok ids ∧
      Declaration.validate registry fixture.name fixture.type ids = .error e := by
  rw [ofFixture_eq] at h
  rcases Result.bind_eq_error.mp h with h | ⟨values, hv, h⟩
  · exact absurd h addValues_ne_declaration
  rcases Result.bind_eq_error.mp h with h | ⟨faults, hf, h⟩
  · exact absurd h addFaults_ne_declaration
  rcases Result.bind_eq_error.mp h with h | ⟨ids, hids, h⟩
  · unfold declared at h
    split at h
    · exact absurd h lookupAll_ne_declaration
    · cases h
  rcases Result.bind_eq_error.mp h with h | ⟨writable, -, h⟩
  · exact absurd h lookupAll_ne_declaration
  refine ⟨values, faults, ids, hv, hf, hids, ?_⟩
  split at h
  · next he =>
    cases h
    exact he
  · cases h

/-- The properties that are mentioned are registered and none repeats, so only the type of the
supply can be wrong with them. -/
theorem type_of_validate_error {t : Descriptor} (hw : registry.WellFormed) (ht : registry.IsType t)
    {ids : List PropertyId} (hp : fixture.properties = none)
    (hd : fixture.Declares registry ids) {type : SupplyType}
    (h : Declaration.validate registry name type ids = .error e) :
    e = .deviceTypeDeclared "type" ∧ fixture.Mentions "type" := by
  obtain ⟨hincreasing, hm⟩ := (Fixture.declares_iff_of_none hp).mp hd
  obtain ⟨before, id, after, rfl, -, hfault⟩ := (Declaration.validate_eq_error_iff hw).mp h
  obtain ⟨d, hd, hid, hmention⟩ := (hm id).mp (by simp)
  cases hfault with
  | unknownProperty hn => exact absurd hid (hn d hd)
  | duplicate _ _ _ hb =>
    have hnodup := List.nodup_append.mp hincreasing.nodup
    exact absurd rfl (hnodup.2.2 id hb id List.mem_cons_self)
  | deviceTypeDeclared hd' hid' hk =>
    have hname := (hw.id_eq_iff hd hd').mp (hid.trans hid'.symm)
    rw [ht.eq_of_kind _ hd' hk, ht.name_eq] at hname ⊢
    rw [hname] at hmention
    exact ⟨rfl, hmention⟩

end

theorem Loaded.keeps {simulated : Simulated} (h : Loaded registry fixture simulated state)
    (hw : registry.WellFormed) (hfits : Fixture.EntriesFit fixture.values) :
    fixture.Keeps registry simulated state := by
  constructor
  case value_iff => exact fun d hd v => get?_addValues_iff hw hfits h.values_eq hd v
  case fault_eq => exact fun d hd => get?_addFaults_empty hw hd h.faults_eq
  case writable_iff => exact fun d hd => h.mem_writable_iff hw hd
  case registered =>
    rintro id (hi | hi | hi)
    · exact (registered_empty.addValues hw h.values_eq).exists_of_mem_keys hw hi
    · exact (registered_empty.addFaults hw h.faults_eq).exists_of_mem_keys hw hi
    · obtain ⟨name, -, d, hd, -, hid⟩ :=
        Result.exists_of_forall₂_of_mem ((lookupAll_eq_ok_iff hw).mp h.writable_eq) hi
      exact ⟨d, hd, hid⟩

theorem exists_ofFixture_iff (hw : registry.WellFormed)
    (hfits : Fixture.EntriesFit fixture.values) :
    (∃ loaded, ofFixture registry fixture = .ok loaded) ↔ fixture.Accepted registry := by
  have hknown : ∀ {name}, (∃ d, registry.lookup? name = some d) ↔
      ∃ d ∈ registry.descriptors, d.name = name := by
    intro name
    simp only [hw.lookup?_eq_some_iff]
  constructor
  · rintro ⟨⟨simulated, state⟩, h⟩
    have h := ofFixture_eq_ok_iff.mp h
    have hdeclares := (declared_eq_ok_iff hw h.values_eq h.faults_eq).mp h.declared_eq
    constructor
    case values =>
      intro name raw hm
      obtain ⟨d, hl, v, hv⟩ := exists_addValues_iff.mp ⟨_, h.values_eq⟩ name raw hm
      obtain ⟨hd, hname⟩ := hw.lookup?_eq_some_iff.mp hl
      exact ⟨d, hd, hname, v, (value_eq_ok_iff (hfits _ hm)).mp hv⟩
    case errors =>
      exact fun name fault hm => hknown.mp (exists_addFaults_iff.mp ⟨_, h.faults_eq⟩ name fault hm)
    case properties =>
      intro names hp name hm
      have hids := h.declared_eq
      rw [declared, hp] at hids
      exact hknown.mp (exists_lookupAll_iff.mp ⟨_, hids⟩ name hm)
    case writable =>
      exact fun name hm => hknown.mp (exists_lookupAll_iff.mp ⟨_, h.writable_eq⟩ name hm)
    case declared =>
      exact ⟨_, hdeclares, h.valid.nodup, fun d hd hi => h.valid.kind_ne_deviceType hw hd hi⟩
  · intro h
    obtain ⟨values, hvalues⟩ : ∃ values,
        addValues registry fixture.name .empty fixture.values = .ok values := by
      refine exists_addValues_iff.mpr fun name raw hm => ?_
      obtain ⟨d, hd, hname, v, hv⟩ := h.values name raw hm
      exact ⟨d, hw.lookup?_eq_some_iff.mpr ⟨hd, hname⟩, v, (value_eq_ok_iff (hfits _ hm)).mpr hv⟩
    obtain ⟨faults, hfaults⟩ : ∃ faults,
        addFaults registry fixture.name .empty fixture.errors = .ok faults :=
      exists_addFaults_iff.mpr fun name fault hm => hknown.mpr (h.errors name fault hm)
    obtain ⟨writable, hwritable⟩ : ∃ writable,
        lookupAll registry fixture.name fixture.writable = .ok writable :=
      exists_lookupAll_iff.mpr fun name hm => hknown.mpr (h.writable name hm)
    obtain ⟨ids, hdeclares, hnodup, hkind⟩ := h.declared
    have hvalid : (⟨fixture.name, fixture.type, ids⟩ : Declaration).Valid registry := by
      have hdeclarable : Declaration.Declarable registry ids :=
        ⟨hdeclares.registered, hkind, hnodup⟩
      obtain ⟨hcan, hnodup⟩ := (Declaration.declarable_iff hw).mp hdeclarable
      exact ⟨hcan, hnodup⟩
    exact ⟨(⟨⟨fixture.name, fixture.type, ids⟩, namesOf registry ids, writable⟩,
      ⟨values, faults⟩), ofFixture_eq_ok_iff.mpr
        ⟨hvalues, hfaults, (declared_eq_ok_iff hw hvalues hfaults).mpr hdeclares, hwritable, rfl,
          rfl, hvalid, rfl⟩⟩

/-- Which fixtures are accepted, what is kept of them, and what is declared: without a list of
properties what is left of the keys of both maps, whatever order they come in, and then only the
type of the supply can be refused. -/
structure AcceptsExactly (registry : Registry) (fixture : Fixture) : Prop where
  exists_iff : (∃ loaded, ofFixture registry fixture = .ok loaded) ↔ fixture.Accepted registry
  declares : ∀ simulated state, ofFixture registry fixture = .ok (simulated, state) →
    simulated.declaration.name = fixture.name ∧ simulated.declaration.type = fixture.type ∧
      fixture.Declares registry simulated.declaration.properties
  keeps : ∀ simulated state, ofFixture registry fixture = .ok (simulated, state) →
    fixture.Keeps registry simulated state
  unique : ∀ ids others, fixture.Declares registry ids → fixture.Declares registry others →
    ids = others
  mentioned_eq : ∀ values faults,
    addValues registry fixture.name .empty fixture.values = .ok values →
    addFaults registry fixture.name .empty fixture.errors = .ok faults →
    ∀ keys, keys.Perm (values.keys ++ faults.keys) →
      mentioned registry ⟨values, faults⟩ = PropertyId.sortUnique keys
  type_refused : fixture.properties = none → fixture.Mentions "type" →
    ∃ e, ofFixture registry fixture = .error e
  declaration_error : fixture.properties = none →
    ∀ e, ofFixture registry fixture = .error (.declaration e) →
      e = .deviceTypeDeclared "type" ∧ fixture.Mentions "type"

/-- **Fixtures.** In every built registry a supply whose table was parsed is accepted exactly when
its names are registered, its values are converted for their properties, and what it declares does
not repeat and is not the type of the supply. It keeps what the values are converted to, and it
declares its list of properties in the order of the list, or without a list those with a value or a
fault, each once and in increasing order. -/
theorem ofFixture_acceptsExactly {additions : List Addition}
    (hb : Registry.build additions = .ok registry) {table : Toml}
    (hp : Fixture.ofToml? table = some fixture) : AcceptsExactly registry fixture := by
  have hw := Registry.wellFormed_of_build hb
  obtain ⟨t, ht⟩ := Registry.exists_isType_of_build hb
  have hiff := exists_ofFixture_iff hw (Fixture.fits_of_ofToml? hp)
  constructor
  case exists_iff => exact hiff
  case declares =>
    intro simulated state h
    have h := ofFixture_eq_ok_iff.mp h
    exact ⟨h.name_eq, h.type_eq,
      (declared_eq_ok_iff hw h.values_eq h.faults_eq).mp h.declared_eq⟩
  case keeps =>
    exact fun _ _ h => (ofFixture_eq_ok_iff.mp h).keeps hw (Fixture.fits_of_ofToml? hp)
  case unique => exact fun ids others h h' => h.unique hw h'
  case mentioned_eq =>
    intro values faults hv hf keys hk
    exact (sortUnique_eq_mentioned hw (registered_empty.addValues hw hv)
      (registered_empty.addFaults hw hf) hk).symm
  case type_refused =>
    intro hnone hm
    cases h : ofFixture registry fixture with
    | error e => exact ⟨e, rfl⟩
    | ok loaded =>
      obtain ⟨ids, hdeclares, -, hkind⟩ := (hiff.mp ⟨loaded, h⟩).declared
      have hi : t.id ∈ ids := by
        rw [((Fixture.declares_iff_of_none hnone).mp hdeclares).2]
        exact ⟨t, ht.mem, rfl, by rwa [ht.name_eq]⟩
      exact absurd ht.kind_eq (hkind t ht.mem hi)
  case declaration_error =>
    intro hnone e h
    obtain ⟨values, faults, ids, hv, hf, hids, hvalidate⟩ := exists_validate_of_ofFixture h
    exact type_of_validate_error hw ht hnone ((declared_eq_ok_iff hw hv hf).mp hids) hvalidate

/-- The table of a battery whose temperature has both a value and a fault. -/
def busySensorTable : Toml :=
  .table [("name", .string "BAT0"), ("type", .string "Battery"),
    ("writeable", .array [.string "temp"]),
    ("values", .table [("temp", .integer 250), ("status", .string "Full")]),
    ("errors", .table [("temp", .string "busy")])]

theorem ofFixture_acceptsExactly_busySensor :
    Registry.build [] = .ok .standard ∧
      ∃ fixture, Fixture.ofToml? busySensorTable = some fixture ∧
        AcceptsExactly .standard fixture := by
  obtain ⟨fixture, hp⟩ : ∃ fixture, Fixture.ofToml? busySensorTable = some fixture :=
    Option.isSome_iff_exists.mp (by decide +kernel)
  exact ⟨Registry.build_nil, fixture, hp, ofFixture_acceptsExactly Registry.build_nil hp⟩

example :
    (ofFixture .standard ⟨"BAT0", .battery, none, [], [("temp", .integer 250),
        ("status", .string "Full")], [("temp", .busy)]⟩).toOption.map
      (fun loaded => loaded.1.declaration.properties) = some [⟨0⟩, ⟨46⟩] := by
  decide +kernel

end Simulated

end PowerClass
