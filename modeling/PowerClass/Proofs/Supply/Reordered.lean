import PowerClass.Proofs.Supply.Accepting
import PowerClass.Proofs.Toml.Distinct

/-!
# PowerClass.Proofs.Supply.Reordered

What the order of the faults of a fixture changes. The faults are a map and can be gone through in
any order. No name has two of them, so a supply keeps and declares the same in every order; but the
first name without a property ends the loading, and so the order picks the name that is reported.

* `Fixture.nodup_errors_of_ofToml?`: no name of a parsed fixture has two faults.
* `sameOutcome_assembled`: what follows once the faults were taken does not depend on their order.
* `ofFixture_cases_of_perm`: two orders have the same outcome, or report different names.
* `ofFixture_reportsByOrder`: when the order does not count, and what is reported when it does.
-/

namespace PowerClass

/-! ## Maps in another order -/

section

variable {α : Type} {pairs others : List (String × α)} {name : String}

theorem latest?_eq_some_iff (hn : (pairs.map Prod.fst).Nodup) {a : α} :
    latest? pairs name = some a ↔ (name, a) ∈ pairs := by
  induction pairs with
  | nil => simp
  | cons pair rest ih =>
    obtain ⟨key, b⟩ := pair
    obtain ⟨hkey, hrest⟩ := List.nodup_cons.mp hn
    rw [latest?_cons, List.mem_cons, Prod.mk.injEq, ← ih hrest]
    by_cases h : name = key
    · subst h
      have hnone : latest? rest name = none :=
        latest?_eq_none_iff.mpr fun b hm => hkey (List.mem_map.mpr ⟨_, hm, rfl⟩)
      simp [hnone, eq_comm]
    · simp [h]

theorem latest?_eq_of_perm (hp : pairs.Perm others) (hn : (pairs.map Prod.fst).Nodup)
    (name : String) : latest? pairs name = latest? others name := by
  have hn' : (others.map Prod.fst).Nodup := (hp.map Prod.fst).nodup_iff.mp hn
  refine Option.ext fun a => ?_
  rw [latest?_eq_some_iff hn, latest?_eq_some_iff hn', hp.mem_iff]

end

theorem Registry.WellFormed.lookup?_eq_none_iff {registry : Registry} (hw : registry.WellFormed)
    {name : String} : registry.lookup? name = none ↔ ∀ d ∈ registry.descriptors, d.name ≠ name := by
  rw [Option.eq_none_iff_forall_ne_some]
  simp only [ne_eq, hw.lookup?_eq_some_iff, not_and]

/-! ## The faults of a parsed fixture -/

namespace Fixture

theorem nodup_of_errors? {value : Toml} {entries : List (String × Fault)} (hd : value.Distinct)
    (h : errors? value = some entries) : (entries.map Prod.fst).Nodup := by
  simp only [errors?, Option.bind_eq_bind, Option.bind_eq_some_iff] at h
  obtain ⟨fields, hf, h⟩ := h
  obtain rfl : value = .table fields := by
    cases value <;> cases hf
    rfl
  -- A fault keeps the name of its field.
  have hnames : List.Forall₂ (· = ·) (fields.map Prod.fst) (entries.map Prod.fst) := by
    rw [List.forall₂_map_left_iff, List.forall₂_map_right_iff]
    refine (Result.mapM_eq_some.mp h).imp fun field entry he => ?_
    obtain ⟨fault, -, rfl⟩ := Option.map_eq_some_iff.mp he
    rfl
  rw [List.forall₂_eq_eq_eq] at hnames
  rw [← hnames]
  exact hd.nodup

theorem nodup_of_fieldOr {fields : List (String × Toml)} {name : String}
    {entries : List (String × Fault)} (hd : (Toml.table fields).Distinct)
    (h : Toml.fieldOr fields name [] errors? = some entries) : (entries.map Prod.fst).Nodup := by
  unfold Toml.fieldOr at h
  split at h
  · cases h
    exact List.nodup_nil
  · next hl => exact nodup_of_errors? (hd.of_lookup hl) h

theorem nodup_of_itemOr {items : List Toml} {i : Nat} {entries : List (String × Fault)}
    (hd : ∀ item ∈ items, item.Distinct) (h : Toml.itemOr items i [] errors? = some entries) :
    (entries.map Prod.fst).Nodup := by
  unfold Toml.itemOr at h
  split at h
  · cases h
    exact List.nodup_nil
  · next hi => exact nodup_of_errors? (hd _ (List.mem_of_getElem? hi)) h

theorem nodup_errors_of_ofToml? {table : Toml} {fixture : Fixture} (hd : table.Distinct)
    (h : ofToml? table = some fixture) : (fixture.errors.map Prod.fst).Nodup := by
  unfold ofToml? at h
  split at h
  · simp only [Option.bind_eq_bind, Option.bind_eq_some_iff] at h
    obtain ⟨_, -, _, -, _, -, _, -, _, -, errors, herrors, he⟩ := h
    cases he
    exact nodup_of_fieldOr hd herrors
  · simp only [Option.bind_eq_bind, Option.bind_eq_some_iff] at h
    obtain ⟨_, -, _, -, _, -, _, -, _, -, errors, herrors, he⟩ := h
    cases he
    have hitems := hd.of_mem
    simp only [List.forall_mem_cons] at hitems
    exact nodup_of_itemOr hitems.2.2.2 herrors
  · cases h

/-- The fixtures of a document are read from tables, and no table names a field twice. -/
theorem exists_table_of_read? {text : String} {fixtures : List Fixture} {fixture : Fixture}
    (h : read? text = some fixtures) (hm : fixture ∈ fixtures) :
    ∃ table : Toml, table.Distinct ∧ ofToml? table = some fixture := by
  simp only [read?, Option.bind_eq_bind, Option.bind_eq_some_iff] at h
  obtain ⟨document, hdocument, supplies, hsupplies, h⟩ := h
  have hd : ∀ table ∈ supplies, table.Distinct := by
    unfold Toml.fieldOr at hsupplies
    split at hsupplies
    · cases hsupplies
      intro table hm
      cases hm
    · next value hl =>
      have hvalue := (Toml.distinct_of_read? hdocument).of_lookup hl
      cases value <;> cases hsupplies
      exact hvalue.of_mem
  obtain ⟨table, hm, ht⟩ := Result.exists_of_forall₂_of_mem (Result.mapM_eq_some.mp h) hm
  exact ⟨table, hd table hm, ht⟩

end Fixture

/-! ## Faults in another order -/

namespace Fixture

/-- The fixture with other faults. -/
def withErrors (fixture : Fixture) (errors : List (String × Fault)) : Fixture :=
  { fixture with errors }

/-- A name that has a fault and no property. -/
def Unknown (registry : Registry) (fixture : Fixture) (name : String) : Prop :=
  (∃ fault, (name, fault) ∈ fixture.errors) ∧ ∀ d ∈ registry.descriptors, d.name ≠ name

/-- Every value has a property, and is converted for it. -/
def ValuesConvert (registry : Registry) (fixture : Fixture) : Prop :=
  ∀ name raw, (name, raw) ∈ fixture.values →
    ∃ d ∈ registry.descriptors, d.name = name ∧ ∃ v, Simulated.Converts d.kind raw v

end Fixture

namespace Simulated

variable {registry : Registry} {supply : String} {fixture : Fixture}

theorem exists_unknown_of_addFaults {map : PropertyMap Fault} {errors : List (String × Fault)}
    {e : FixtureError} (h : addFaults registry supply map errors = .error e) :
    ∃ name fault, (name, fault) ∈ errors ∧ registry.lookup? name = none ∧
      e = .unknownProperty supply name := by
  induction errors generalizing map with
  | nil => cases h
  | cons entry rest ih =>
    obtain ⟨key, fault⟩ := entry
    rw [addFaults, lookup] at h
    cases hl : registry.lookup? key with
    | none =>
      rw [hl] at h
      cases h
      exact ⟨key, fault, List.mem_cons_self, hl, rfl⟩
    | some d =>
      rw [hl] at h
      obtain ⟨name, other, hm, hrest⟩ := ih h
      exact ⟨name, other, List.mem_cons_of_mem _ hm, hrest⟩

theorem addFaults_cons_unknown {map : PropertyMap Fault} {name : String} {fault : Fault}
    {rest : List (String × Fault)} (h : registry.lookup? name = none) :
    addFaults registry supply map ((name, fault) :: rest) =
      .error (.unknownProperty supply name) := by
  rw [addFaults, lookup, h]
  rfl

theorem Registered.get?_eq_none {α : Type} {map : PropertyMap α} (hm : Registered registry map)
    {id : PropertyId} (hg : registry.get? id = none) : map.get? id = none := by
  refine Option.eq_none_iff_forall_ne_some.mpr fun a ha => ?_
  obtain ⟨d, hd⟩ := hm id a ha
  rw [hg] at hd
  cases hd

/-- A property has the fault of its name, and no name has two. -/
theorem get?_addFaults_of_perm (hw : registry.WellFormed) {errors order : List (String × Fault)}
    (hn : (errors.map Prod.fst).Nodup) (hp : errors.Perm order) {faults others : PropertyMap Fault}
    (hf : addFaults registry supply .empty errors = .ok faults)
    (ho : addFaults registry supply .empty order = .ok others) (id : PropertyId) :
    faults.get? id = others.get? id := by
  cases hg : registry.get? id with
  | none =>
    rw [(registered_empty.addFaults hw hf).get?_eq_none hg,
      (registered_empty.addFaults hw ho).get?_eq_none hg]
  | some d =>
    obtain ⟨hd, rfl⟩ := hw.get?_eq_some_iff.mp hg
    rw [get?_addFaults hw hd hf, get?_addFaults hw hd ho, latest?_eq_of_perm hp hn]

/-! ## Outcomes -/

/-- The same refusal, or the same supply with the same values and the same fault of every
property. -/
inductive SameOutcome : Except FixtureError (Simulated × SimulatedState) →
    Except FixtureError (Simulated × SimulatedState) → Prop where
  | refused (e : FixtureError) : SameOutcome (.error e) (.error e)
  | loaded (simulated : Simulated) (values : PropertyMap Value)
      {faults others : PropertyMap Fault} : (∀ id, faults.get? id = others.get? id) →
      SameOutcome (.ok (simulated, ⟨values, faults⟩)) (.ok (simulated, ⟨values, others⟩))

theorem SameOutcome.error_eq {e e' : FixtureError} (h : SameOutcome (.error e) (.error e')) :
    e = e' := by
  cases h
  rfl

theorem SameOutcome.bind {α : Type} (x : Except FixtureError α)
    {f g : α → Except FixtureError (Simulated × SimulatedState)}
    (h : ∀ a, SameOutcome (f a) (g a)) : SameOutcome (x >>= f) (x >>= g) := by
  cases x with
  | error e => exact .refused e
  | ok a => exact h a

/-- What is made of a fixture when its values and its faults were taken. -/
def assembled (registry : Registry) (fixture : Fixture) (state : SimulatedState) :
    Except FixtureError (Simulated × SimulatedState) := do
  let properties ← declared registry fixture state
  let writable ← lookupAll registry fixture.name fixture.writable
  match Declaration.validate registry fixture.name fixture.type properties with
  | .error e => .error (.declaration e)
  | .ok declaration => .ok (⟨declaration, namesOf registry properties, writable⟩, state)

theorem ofFixture_withErrors (registry : Registry) (fixture : Fixture)
    (order : List (String × Fault)) :
    ofFixture registry (fixture.withErrors order) = (do
      let values ← addValues registry fixture.name .empty fixture.values
      let faults ← addFaults registry fixture.name .empty order
      assembled registry fixture ⟨values, faults⟩) :=
  ofFixture_eq registry (fixture.withErrors order)

theorem declared_congr {values : PropertyMap Value} {faults others : PropertyMap Fault}
    (h : ∀ id, faults.get? id = others.get? id) :
    declared registry fixture ⟨values, faults⟩ = declared registry fixture ⟨values, others⟩ := by
  simp only [declared, mentioned, h]

theorem sameOutcome_assembled {values : PropertyMap Value} {faults others : PropertyMap Fault}
    (h : ∀ id, faults.get? id = others.get? id) :
    SameOutcome (assembled registry fixture ⟨values, faults⟩)
      (assembled registry fixture ⟨values, others⟩) := by
  unfold assembled
  rw [declared_congr h]
  refine .bind _ fun properties => .bind _ fun writable => ?_
  cases Declaration.validate registry fixture.name fixture.type properties with
  | error e => exact .refused _
  | ok declaration => exact .loaded _ values h

/-! ## Refusals -/

section

variable (hw : registry.WellFormed)
include hw

theorem exists_addValues_iff_converts (hfits : Fixture.EntriesFit fixture.values) :
    (∃ values, addValues registry supply .empty fixture.values = .ok values) ↔
      fixture.ValuesConvert registry := by
  rw [exists_addValues_iff]
  refine forall₃_congr fun name raw hm => ?_
  simp only [hw.lookup?_eq_some_iff, value_eq_ok_iff (hfits _ hm), and_assoc]

/-- Faults in any order are all taken when every name has a property. Otherwise one of the names
that have none is reported. -/
theorem addFaults_cases (supply : String) {order : List (String × Fault)}
    (hp : order.Perm fixture.errors) :
    (∃ faults, addFaults registry supply .empty order = .ok faults ∧
        ∀ name, ¬ fixture.Unknown registry name) ∨
      ∃ name, fixture.Unknown registry name ∧
        addFaults registry supply .empty order = .error (.unknownProperty supply name) := by
  cases h : addFaults registry supply .empty order with
  | error e =>
    obtain ⟨name, fault, hm, hl, rfl⟩ := exists_unknown_of_addFaults h
    exact .inr ⟨name, ⟨⟨fault, hp.mem_iff.mp hm⟩, hw.lookup?_eq_none_iff.mp hl⟩, rfl⟩
  | ok faults =>
    refine .inl ⟨faults, rfl, ?_⟩
    rintro name ⟨⟨fault, hm⟩, hn⟩
    obtain ⟨d, hl⟩ := exists_addFaults_iff.mp ⟨faults, h⟩ name fault (hp.mem_iff.mpr hm)
    rw [hw.lookup?_eq_none_iff.mpr hn] at hl
    cases hl

/-- Any name without a property can come first. -/
theorem exists_order_of_unknown (supply : String) {name : String}
    (hu : fixture.Unknown registry name) :
    ∃ order, order.Perm fixture.errors ∧
      addFaults registry supply .empty order = .error (.unknownProperty supply name) := by
  obtain ⟨⟨fault, hm⟩, hn⟩ := hu
  exact ⟨(name, fault) :: fixture.errors.erase (name, fault), (List.perm_cons_erase hm).symm,
    addFaults_cons_unknown (hw.lookup?_eq_none_iff.mpr hn)⟩

end

theorem ofFixture_of_addFaults {values : PropertyMap Value}
    (hv : addValues registry fixture.name .empty fixture.values = .ok values)
    {order : List (String × Fault)} {e : FixtureError}
    (ho : addFaults registry fixture.name .empty order = .error e) :
    ofFixture registry (fixture.withErrors order) = .error e := by
  rw [ofFixture_withErrors, hv, Result.bind_eq_error]
  exact .inr ⟨values, rfl, Result.bind_eq_error.mpr (.inl ho)⟩

theorem causes_unknownProperty_inj {name different : String}
    (h : (FixtureError.unknownProperty supply name).causes =
      (FixtureError.unknownProperty supply different).causes) : name = different := by
  simpa [FixtureError.causes, String.append_left_inj, String.append_right_inj] using h

section

variable (hw : registry.WellFormed) (hfits : Fixture.EntriesFit fixture.values)
include hw hfits

/-- Two orders have the same outcome, or the values were converted and each order reports a name of
its own. -/
theorem ofFixture_cases_of_perm (hn : (fixture.errors.map Prod.fst).Nodup)
    {order other : List (String × Fault)} (hp : order.Perm fixture.errors)
    (hp' : other.Perm fixture.errors) :
    SameOutcome (ofFixture registry (fixture.withErrors order))
        (ofFixture registry (fixture.withErrors other)) ∨
      fixture.ValuesConvert registry ∧ ∃ name different, name ≠ different ∧
        fixture.Unknown registry name ∧ fixture.Unknown registry different ∧
        ofFixture registry (fixture.withErrors order) =
          .error (.unknownProperty fixture.name name) ∧
        ofFixture registry (fixture.withErrors other) =
          .error (.unknownProperty fixture.name different) := by
  cases hv : addValues registry fixture.name .empty fixture.values with
  | error e =>
    rw [ofFixture_withErrors, ofFixture_withErrors, hv]
    exact .inl (.refused e)
  | ok values =>
    -- Whether all faults are taken is the same in both orders, so only two of the cases remain.
    rcases addFaults_cases hw fixture.name hp with ⟨faults, hf, hknown⟩ | ⟨name, hu, hf⟩
    · rcases addFaults_cases hw fixture.name hp' with ⟨others, ho, -⟩ | ⟨different, hu', -⟩
      · have hnodup : (order.map Prod.fst).Nodup := (hp.map Prod.fst).nodup_iff.mpr hn
        have hsame : ∀ id, faults.get? id = others.get? id :=
          get?_addFaults_of_perm hw hnodup (hp.trans hp'.symm) hf ho
        rw [ofFixture_withErrors, ofFixture_withErrors, hv]
        refine .inl (.bind _ fun values => ?_)
        rw [hf, ho]
        exact sameOutcome_assembled hsame
      · exact absurd hu' (hknown different)
    · rcases addFaults_cases hw fixture.name hp' with ⟨-, -, hknown⟩ | ⟨different, hu', ho⟩
      · exact absurd hu (hknown name)
      · have hfirst := ofFixture_of_addFaults hv hf
        have hsecond := ofFixture_of_addFaults hv ho
        by_cases he : name = different
        · rw [hfirst, hsecond, he]
          exact .inl (.refused _)
        · have hconvert := (exists_addValues_iff_converts hw hfits).mp ⟨values, hv⟩
          exact .inr ⟨hconvert, name, different, he, hu, hu', hfirst, hsecond⟩

/-- When values are converted and a name has no property, what can be reported is such a name, and
each of them can. -/
theorem exists_order_iff_of_unknown (hc : fixture.ValuesConvert registry)
    (hu : ∃ name, fixture.Unknown registry name)
    (result : Except FixtureError (Simulated × SimulatedState)) :
    (∃ order, order.Perm fixture.errors ∧
        ofFixture registry (fixture.withErrors order) = result) ↔
      ∃ name, fixture.Unknown registry name ∧
        result = .error (.unknownProperty fixture.name name) := by
  obtain ⟨values, hv⟩ := (exists_addValues_iff_converts hw hfits).mpr hc
  constructor
  · rintro ⟨order, hp, rfl⟩
    rcases addFaults_cases hw fixture.name hp with ⟨-, -, hknown⟩ | ⟨name, hname, hf⟩
    · obtain ⟨name, hname⟩ := hu
      exact absurd hname (hknown name)
    · exact ⟨name, hname, ofFixture_of_addFaults hv hf⟩
  · rintro ⟨name, hname, rfl⟩
    obtain ⟨order, hp, hf⟩ := exists_order_of_unknown hw fixture.name hname
    exact ⟨order, hp, ofFixture_of_addFaults hv hf⟩

end

/-- Every two orders of the faults have the same outcome. -/
def IgnoresOrder (registry : Registry) (fixture : Fixture) : Prop :=
  ∀ order other, order.Perm fixture.errors → other.Perm fixture.errors →
    SameOutcome (ofFixture registry (fixture.withErrors order))
      (ofFixture registry (fixture.withErrors other))

/-- When the order of the faults does not count, and what it picks when it does: a name to report,
and with it the message. -/
structure ReportsByOrder (registry : Registry) (fixture : Fixture) : Prop where
  ignoresOrder_iff : IgnoresOrder registry fixture ↔
    (fixture.ValuesConvert registry → ∀ name different,
      fixture.Unknown registry name → fixture.Unknown registry different → name = different)
  sameOutcome_or : ∀ order other, order.Perm fixture.errors → other.Perm fixture.errors →
    SameOutcome (ofFixture registry (fixture.withErrors order))
        (ofFixture registry (fixture.withErrors other)) ∨
      ∃ name different, name ≠ different ∧
        ofFixture registry (fixture.withErrors order) =
          .error (.unknownProperty fixture.name name) ∧
        ofFixture registry (fixture.withErrors other) =
          .error (.unknownProperty fixture.name different)
  exists_order_iff : fixture.ValuesConvert registry → (∃ name, fixture.Unknown registry name) →
    ∀ result, (∃ order, order.Perm fixture.errors ∧
        ofFixture registry (fixture.withErrors order) = result) ↔
      ∃ name, fixture.Unknown registry name ∧
        result = .error (.unknownProperty fixture.name name)
  causes_inj : ∀ name different, (FixtureError.unknownProperty fixture.name name).causes =
    (FixtureError.unknownProperty fixture.name different).causes → name = different

/-- **Faults in any order.** In every built registry the order in which the faults of a parsed
fixture are gone through does not count exactly when a value is refused before them or at most one
of their names has no property. It never decides whether a fixture is accepted, or what an accepted
supply keeps; but of several names without a property it reports the first. -/
theorem ofFixture_reportsByOrder {additions : List Addition}
    (hb : Registry.build additions = .ok registry) {text : String} {fixtures : List Fixture}
    (hr : Fixture.read? text = some fixtures) (hm : fixture ∈ fixtures) :
    ReportsByOrder registry fixture := by
  have hw := Registry.wellFormed_of_build hb
  obtain ⟨table, hd, ht⟩ := Fixture.exists_table_of_read? hr hm
  have hn := Fixture.nodup_errors_of_ofToml? hd ht
  have hfits := Fixture.fits_of_ofToml? ht
  constructor
  case ignoresOrder_iff =>
    constructor
    · intro h hc name different hu hu'
      obtain ⟨order, hp, ho⟩ := (exists_order_iff_of_unknown hw hfits hc ⟨name, hu⟩ _).mpr
        ⟨name, hu, rfl⟩
      obtain ⟨other, hp', ho'⟩ := (exists_order_iff_of_unknown hw hfits hc ⟨name, hu⟩ _).mpr
        ⟨different, hu', rfl⟩
      have hsame := h order other hp hp'
      rw [ho, ho'] at hsame
      exact (FixtureError.unknownProperty.inj hsame.error_eq).2
    · intro h order other hp hp'
      rcases ofFixture_cases_of_perm hw hfits hn hp hp' with
        hsame | ⟨hc, name, different, hne, hu, hu', -, -⟩
      · exact hsame
      · exact absurd (h hc name different hu hu') hne
  case sameOutcome_or =>
    intro order other hp hp'
    rcases ofFixture_cases_of_perm hw hfits hn hp hp' with
      hsame | ⟨-, name, different, hne, -, -, ho, ho'⟩
    · exact .inl hsame
    · exact .inr ⟨name, different, hne, ho, ho'⟩
  case exists_order_iff => exact exists_order_iff_of_unknown hw hfits
  case causes_inj => exact fun _ _ => causes_unknownProperty_inj

/-- Two names that no property has. -/
def twoMistyped : String :=
  "[[supply]]\nname = \"BAT0\"\n\n[supply.errors]\nstatsu = \"busy\"\nchrage = \"no_data\"\n"

theorem ofFixture_reportsByOrder_twoMistyped :
    Registry.build [] = .ok .standard ∧
      ∃ fixture, Fixture.read? twoMistyped = some [fixture] ∧
        ReportsByOrder .standard fixture := by
  obtain ⟨fixtures, hr, hl⟩ : ∃ fixtures, Fixture.read? twoMistyped = some fixtures ∧
      fixtures.length = 1 :=
    Option.map_eq_some_iff.mp (by decide +kernel)
  obtain ⟨fixture, rfl⟩ := List.length_eq_one_iff.mp hl
  exact ⟨Registry.build_nil, fixture, hr,
    ofFixture_reportsByOrder Registry.build_nil hr List.mem_cons_self⟩

/-- The same two faults, in both orders. -/
theorem ofFixture_differs_twoMistyped :
    Registry.build [] = .ok .standard ∧
      ∃ fixture order, Fixture.read? twoMistyped = some [fixture] ∧ order.Perm fixture.errors ∧
        ofFixture .standard fixture = .error (.unknownProperty "BAT0" "statsu") ∧
        ofFixture .standard (fixture.withErrors order) =
          .error (.unknownProperty "BAT0" "chrage") ∧
        ¬ IgnoresOrder .standard fixture := by
  obtain ⟨fixtures, hr, hresults⟩ : ∃ fixtures, Fixture.read? twoMistyped = some fixtures ∧
      fixtures.map (fun fixture => (ofFixture .standard fixture,
        ofFixture .standard (fixture.withErrors fixture.errors.reverse))) =
      [(.error (.unknownProperty "BAT0" "statsu"), .error (.unknownProperty "BAT0" "chrage"))] :=
    Option.map_eq_some_iff.mp (by decide +kernel)
  obtain ⟨fixture, rfl, hboth⟩ := List.map_eq_singleton_iff.mp hresults
  obtain ⟨hfirst, hsecond⟩ := Prod.mk.inj hboth
  refine ⟨Registry.build_nil, fixture, fixture.errors.reverse, hr, List.reverse_perm _, hfirst,
    hsecond, fun h => ?_⟩
  have hsame := h fixture.errors fixture.errors.reverse (.refl _) (List.reverse_perm _)
  rw [hsecond, show fixture.withErrors fixture.errors = fixture from rfl, hfirst] at hsame
  exact absurd hsame.error_eq (by decide)

end Simulated
end PowerClass
