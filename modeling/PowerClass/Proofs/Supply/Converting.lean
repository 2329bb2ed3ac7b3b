import PowerClass.Proofs.Supply.Loading

/-!
# PowerClass.Proofs.Supply.Converting

The values of a fixture and what they are converted to. An integer is taken as it is when it fits
the property; a fixture that was parsed has none that does not fit 64 bits.

* `EntriesFit`, `fits_of_ofToml?`: the values of a parsed fixture.
* `value_eq_ok_iff`: the conversion, as a relation.
* `get?_addValues_iff`: the values that a supply keeps, said with that relation.
-/

namespace PowerClass

/-! ## Integers of a fixture -/

namespace Fixture

/-- The integers of these entries are of 64 bits, at every depth. -/
def EntriesFit (entries : List (String × Toml)) : Prop :=
  ∀ entry ∈ entries, fits entry.2 = true

theorem fits_of_fieldsFit {fields : List (String × Toml)} (h : fieldsFit fields = true) :
    EntriesFit fields := by
  induction fields with
  | nil => exact nofun
  | cons entry rest ih =>
    obtain ⟨name, raw⟩ := entry
    rw [fieldsFit, Bool.and_eq_true] at h
    exact List.forall_mem_cons.mpr ⟨h.1, ih h.2⟩

theorem fits_of_values? {table : Toml} {entries : List (String × Toml)}
    (h : values? table = some entries) : EntriesFit entries := by
  simp only [values?, Option.bind_eq_bind, Option.bind_eq_some_iff] at h
  obtain ⟨fields, -, _, hguard, he⟩ := h
  have hfit : fieldsFit fields = true := by
    by_contra hn
    rw [guard, if_neg hn] at hguard
    cases hguard
  cases he
  exact fun entry hm => fits_of_fieldsFit hfit entry (List.mem_mergeSort.mp hm)

theorem fits_of_fieldOr {fields entries : List (String × Toml)} {name : String}
    (h : Toml.fieldOr fields name [] values? = some entries) : EntriesFit entries := by
  unfold Toml.fieldOr at h
  split at h
  · cases h
    exact nofun
  · exact fits_of_values? h

theorem fits_of_itemOr {items : List Toml} {i : Nat} {entries : List (String × Toml)}
    (h : Toml.itemOr items i [] values? = some entries) : EntriesFit entries := by
  unfold Toml.itemOr at h
  split at h
  · cases h
    exact nofun
  · exact fits_of_values? h

/-- The integers among the values of a fixture that was parsed are those of 64 bits. -/
theorem fits_of_ofToml? {table : Toml} {fixture : Fixture} (h : ofToml? table = some fixture) :
    EntriesFit fixture.values := by
  unfold ofToml? at h
  split at h
  · simp only [Option.bind_eq_bind, Option.bind_eq_some_iff] at h
    obtain ⟨_, -, _, -, _, -, _, -, values, hvalues, _, -, he⟩ := h
    cases he
    exact fits_of_fieldOr hvalues
  · simp only [Option.bind_eq_bind, Option.bind_eq_some_iff] at h
    obtain ⟨_, -, _, -, _, -, _, -, values, hvalues, _, -, he⟩ := h
    cases he
    exact fits_of_itemOr hvalues
  · cases h

theorem fits_of_read? {text : String} {fixtures : List Fixture} (h : read? text = some fixtures) :
    ∀ fixture ∈ fixtures, EntriesFit fixture.values := by
  simp only [read?, Option.bind_eq_bind, Option.bind_eq_some_iff] at h
  obtain ⟨document, -, supplies, -, h⟩ := h
  intro fixture hm
  obtain ⟨table, -, ht⟩ := Result.exists_of_forall₂_of_mem (Result.mapM_eq_some.mp h) hm
  exact fits_of_ofToml? ht

end Fixture

/-! ## Values of a fixture -/

namespace Simulated

/-- What a value of a fixture is converted to for a property of a kind. -/
inductive Converts : Kind → Toml → Value → Prop where
  | text (s : String) : Converts .text (.string s) (.text s)
  | int32 (n : Int32) : Converts .int32 (.integer n.toInt) (.int n)
  | int64 (n : Int64) : Converts .int64 (.integer n.toInt) (.int64 n)
  | ordinal {kind : Kind} (n : Int32) : kind.variant = .ordinal →
      Converts kind (.integer n.toInt) (.ordinal n)
  | decoded {kind : Kind} {s : String} {v : Value} : kind ≠ .text →
      Codec.decode kind s = .ok v → Converts kind (.string s) v

theorem Converts.variant_eq {kind : Kind} {raw : Toml} {v : Value} (h : Converts kind raw v) :
    v.variant = kind.variant := by
  cases h with
  | text s => rfl
  | int32 n => rfl
  | int64 n => rfl
  | ordinal n hk => exact hk.symm
  | decoded _ hv => exact Codec.variant_of_decode hv

theorem int32_eq_ok_iff {n : Int} {m : Int32} : int32 n = .ok m ↔ m.toInt = n := by
  unfold int32
  constructor
  · intro h
    split at h
    · cases h
    · split at h
      · cases h
      · cases h
        exact Int32.toInt_ofInt_of_le (by omega) (by omega)
  · rintro rfl
    have hlow := m.le_toInt
    have hhigh := m.toInt_lt
    rw [if_neg (by omega), if_neg (by omega), Int32.ofInt_toInt]

theorem value_eq_ok_iff {kind : Kind} {raw : Toml} {v : Value} (hf : Fixture.fits raw = true) :
    value kind raw = .ok v ↔ Converts kind raw v := by
  constructor
  · intro h
    unfold value at h
    split at h
    · cases h
      exact .text _
    · next n =>
      cases h
      simp only [Fixture.fits, Bool.and_eq_true, decide_eq_true_eq] at hf
      have hn : (Int64.ofInt n).toInt = n := Int64.toInt_ofInt_of_le (by omega) (by omega)
      have hc := Converts.int64 (Int64.ofInt n)
      rwa [hn] at hc
    · obtain ⟨m, hm, rfl⟩ := Result.map_eq_ok.mp h
      rw [← int32_eq_ok_iff.mp hm]
      exact .int32 m
    · obtain ⟨m, hm, rfl⟩ := Result.map_eq_ok.mp h
      rw [← int32_eq_ok_iff.mp hm]
      exact .ordinal m rfl
    · obtain ⟨m, hm, rfl⟩ := Result.map_eq_ok.mp h
      rw [← int32_eq_ok_iff.mp hm]
      exact .ordinal m rfl
    · next hk => exact .decoded hk (Result.mapError_eq_ok.mp h)
    · cases h
  · intro h
    cases h with
    | text s => rfl
    | int32 n => exact Result.map_eq_ok.mpr ⟨n, int32_eq_ok_iff.mpr rfl, rfl⟩
    | int64 n => rw [value, Int64.ofInt_toInt]
    | ordinal n hk =>
      have hn : (int32 n.toInt).map Value.ordinal = .ok (.ordinal n) :=
        Result.map_eq_ok.mpr ⟨n, int32_eq_ok_iff.mpr rfl, rfl⟩
      cases kind <;> first | exact hn | cases hk
    | decoded hk hv =>
      have hd : ∀ s, value kind (.string s) = (Codec.decode kind s).mapError .codec := by
        intro s
        cases kind <;> first | rfl | exact absurd rfl hk
      rw [hd]
      exact Result.mapError_eq_ok.mpr hv

/-! ## Supplies of a fixture -/

variable {registry : Registry} {supply : String} {fixture : Fixture} {map : PropertyMap Value}

/-- What is kept for a property is what the last value of its name is converted to. -/
theorem get?_addValues_iff (hw : registry.WellFormed)
    (hfits : Fixture.EntriesFit fixture.values)
    (h : addValues registry supply .empty fixture.values = .ok map) {d : Descriptor}
    (hd : d ∈ registry.descriptors) (v : Value) :
    map.get? d.id = some v ↔
      ∃ raw, latest? fixture.values d.name = some raw ∧ Converts d.kind raw v := by
  rcases get?_addValues hw hd h with ⟨raw, kept, hl, hv, hget⟩ | ⟨hl, hget⟩
  · have hraw := hfits _ (mem_of_latest? hl)
    rw [hget, hl, Option.some.injEq]
    constructor
    · rintro rfl
      exact ⟨raw, rfl, (value_eq_ok_iff hraw).mp hv⟩
    · rintro ⟨other, ho, hc⟩
      cases ho
      rw [(value_eq_ok_iff hraw).mpr hc] at hv
      exact (Except.ok.inj hv).symm
  · rw [hget, hl, PropertyMap.get?_empty]
    constructor
    · exact nofun
    · rintro ⟨raw, hraw, -⟩
      cases hraw

/-- The supplies of a document that was loaded, with their fixtures, whose integers fit. -/
theorem exists_loaded_of_load {text : String} {supplies : List (Simulated × SimulatedState)}
    (h : load registry text = .ok supplies) :
    ∃ fixtures, Fixture.read? text = some fixtures ∧
      List.Forall₂ (fun fixture (simulated, state) =>
        Fixture.EntriesFit fixture.values ∧ Loaded registry fixture simulated state)
        fixtures supplies := by
  obtain ⟨fixtures, hread, hall⟩ := load_eq_ok_iff.mp h
  exact ⟨fixtures, hread, (List.forall₂_and_left _ _).mpr ⟨Fixture.fits_of_read? hread, hall⟩⟩

end Simulated
end PowerClass
