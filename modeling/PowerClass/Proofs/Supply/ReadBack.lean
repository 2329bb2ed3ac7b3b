import PowerClass.Proofs.Supply.Register

/-!
# PowerClass.Proofs.Supply.ReadBack

Writing a property of a simulated supply by its identifier and reading it right after. Neither looks
at what the supply declared, so this is about every registered property. A write that succeeds is
read back, with one exception: the type of a supply is read off its declaration, which no write
changes.

* `write_eq_ok_iff`: the writes that succeed.
* `load_readsWritten`: what is read after such a write.
-/

namespace PowerClass

/-- The reading right after a write gives the text that was written, decoded and encoded again. -/
def Supply.ReadsBack {σ : Type} (supply : Supply (StateM σ)) (registry : Registry)
    (d : Descriptor) (text : String) (s : σ) : Prop :=
  ∃ value line, Codec.decode d.kind text = .ok value ∧ Codec.encode d.kind value = .ok line ∧
    (supply.read registry d.id (supply.write registry d.id text s).2).1 = .ok line

/-- Which writes to the supply of a fixture succeed, and what is read right after them, whatever the
supply keeps. -/
structure ReadsWritten (simulated : Simulated) (registry : Registry) (fixture : Fixture) :
    Prop where
  write_eq_ok_iff : ∀ s, ∀ d ∈ registry.descriptors, ∀ text,
    (simulated.supply.write registry d.id text s).1 = .ok () ↔
      d.name ∈ fixture.writable ∧ ∃ value, Codec.decode d.kind text = .ok value
  readsBack : ∀ s, ∀ d ∈ registry.descriptors, d.kind ≠ .deviceType → ∀ text,
    (simulated.supply.write registry d.id text s).1 = .ok () →
      simulated.supply.ReadsBack registry d text s
  read_type : ∀ s, ∀ d ∈ registry.descriptors, d.kind = .deviceType →
    (simulated.supply.read registry d.id s).1 = .ok (fixture.type.label ++ "\n")
  readsBack_type_iff : ∀ s, ∀ d ∈ registry.descriptors, d.kind = .deviceType → ∀ text,
    simulated.supply.ReadsBack registry d text s ↔
      Codec.decode .deviceType text = .ok (.ordinal (Int32.ofNat fixture.type.ordinal))

namespace Codec

/-- Only the ordinal of a type is written as its label. -/
theorem encode_deviceType_eq_label_iff {value : Value} {type : SupplyType} :
    encode .deviceType value = .ok (type.label ++ "\n") ↔
      value = .ordinal (Int32.ofNat type.ordinal) := by
  have hdecode : decode .deviceType (type.label ++ "\n") =
      .ok (.ordinal (Int32.ofNat type.ordinal)) := by
    cases type <;> rfl
  constructor
  · intro h
    rw [encode_eq] at h
    split at h
    · next line hl =>
      have hback := decode_line (by decide) hl
      rw [Except.ok.inj h, hdecode] at hback
      exact (Except.ok.inj hback).symm
    · cases h
  · rintro rfl
    cases type <;> rfl

end Codec

namespace Simulated

open Supply

variable {registry : Registry} {fixture : Fixture} {simulated : Simulated} {s : SimulatedState}
  {d : Descriptor} {text : String}

/-- A write that succeeds puts the value of the text in the property. -/
theorem exists_hold_of_write (hw : registry.WellFormed) (hd : d ∈ registry.descriptors)
    (h : (simulated.supply.write registry d.id text s).1 = .ok ()) :
    ∃ value, Codec.decode d.kind text = .ok value ∧
      (simulated.supply.write registry d.id text s).2 = s.hold d.id value := by
  rcases simulated.write_cases hw d.id text with ⟨e, he⟩ | ⟨d', hd', hid, value, hv, hok⟩
  · rw [he] at h
    cases h
  · obtain rfl : d' = d :=
      List.inj_on_of_nodup_map hw.nodup hd' hd ((hw.id_eq_iff hd' hd).mp hid)
    exact ⟨value, hv, by rw [hok]⟩

theorem write_eq_ok_iff (hw : registry.WellFormed) (hd : d ∈ registry.descriptors) :
    (simulated.supply.write registry d.id text s).1 = .ok () ↔
      d.id ∈ simulated.writable ∧ ∃ value, Codec.decode d.kind text = .ok value := by
  have hwrite : ∀ value, Codec.decode d.kind text = .ok value →
      ((simulated.supply.write registry d.id text s).1 = .ok () ↔
        (simulated.set d.id value s).1 = .ok ()) := by
    intro value hv
    unfold Supply.write
    rw [hw.get?_id hd]
    simp only [hv]
    exact Result.mapError_eq_ok
  have hset : ∀ value, (simulated.set d.id value s).1 = .ok () ↔ d.id ∈ simulated.writable := by
    intro value
    unfold set
    by_cases hp : d.id ∈ simulated.writable <;> simp [hp]
  constructor
  · intro h
    obtain ⟨value, hv, -⟩ := exists_hold_of_write hw hd h
    exact ⟨(hset value).mp ((hwrite value hv).mp h), value, hv⟩
  · rintro ⟨hp, value, hv⟩
    exact (hwrite value hv).mpr ((hset value).mpr hp)

theorem get_hold (simulated : Simulated) (id : PropertyId) (value : Value) (s : SimulatedState) :
    (simulated.supply.get id (s.hold id value)).1 = .ok value := by
  show (simulated.get id (s.hold id value)).1 = .ok value
  simp [get]

theorem readsBack_of_write (hw : registry.WellFormed) (hd : d ∈ registry.descriptors)
    (hk : d.kind ≠ .deviceType) (h : (simulated.supply.write registry d.id text s).1 = .ok ()) :
    simulated.supply.ReadsBack registry d text s := by
  obtain ⟨value, hv, hs⟩ := exists_hold_of_write hw hd h
  obtain ⟨line, he, ht⟩ := exists_textOf (Codec.variant_of_decode hv)
  refine ⟨value, line, hv, he, ?_⟩
  rw [hs, read_of_mem simulated.supply hw hd, fetch_of_ne_deviceType simulated.supply hk, get_hold,
    ht]

theorem readsBack_type_iff (hw : registry.WellFormed) (ht : registry.IsType d) :
    simulated.supply.ReadsBack registry d text s ↔
      Codec.decode .deviceType text =
        .ok (.ordinal (Int32.ofNat simulated.declaration.type.ordinal)) := by
  have hread : (simulated.supply.read registry d.id
      (simulated.supply.write registry d.id text s).2).1 =
        .ok (simulated.declaration.type.label ++ "\n") :=
    read_type simulated.supply hw ht _
  unfold ReadsBack
  rw [hread, ht.kind_eq]
  constructor
  · rintro ⟨value, line, hv, he, hline⟩
    cases hline
    rw [hv, Codec.encode_deviceType_eq_label_iff.mp he]
  · intro hv
    exact ⟨_, _, hv, Codec.encode_deviceType_eq_label_iff.mpr rfl, rfl⟩

theorem Loaded.readsWritten (h : Loaded registry fixture simulated s) (hw : registry.WellFormed)
    {t : Descriptor} (ht : registry.IsType t) : ReadsWritten simulated registry fixture := by
  constructor
  case write_eq_ok_iff =>
    intro s d hd text
    rw [Simulated.write_eq_ok_iff hw hd, h.mem_writable_iff hw hd]
  case readsBack => exact fun s d hd hk text hok => readsBack_of_write hw hd hk hok
  case read_type =>
    intro s d hd hk
    obtain rfl := ht.eq_of_kind d hd hk
    rw [← h.type_eq]
    exact Supply.read_type simulated.supply hw ht s
  case readsBack_type_iff =>
    intro s d hd hk text
    obtain rfl := ht.eq_of_kind d hd hk
    rw [← h.type_eq]
    exact Simulated.readsBack_type_iff hw ht

/-- **Reading back.** In any state of a supply that was loaded, a write succeeds exactly when its
fixture lists the property as writable and the text is decoded, and it is read back right after,
unless it is one of the type. The type that is read is the one of the fixture, whatever was written,
so a write of the type is read back only where it says the same. -/
theorem load_readsWritten {additions : List Addition} {registry : Registry}
    (hb : Registry.build additions = .ok registry) {text : String}
    {supplies : List (Simulated × SimulatedState)} (hl : load registry text = .ok supplies) :
    ∃ fixtures, Fixture.read? text = some fixtures ∧
      List.Forall₂ (fun fixture (simulated, _) =>
        ReadsWritten simulated registry fixture) fixtures supplies := by
  have hw := Registry.wellFormed_of_build hb
  obtain ⟨t, ht⟩ := Registry.exists_isType_of_build hb
  obtain ⟨fixtures, hread, hall⟩ := load_eq_ok_iff.mp hl
  exact ⟨fixtures, hread, hall.imp fun _ _ h => h.readsWritten hw ht⟩

/-- The description of a battery whose temperature can be stored though it is not declared, and
that is busy until then. -/
def hiddenSensor : String :=
  "[[supply]]\nname = \"BAT0\"\nproperties = [\"status\"]\nwriteable = [\"temp\"]\n" ++
    "[supply.errors]\ntemp = \"busy\"\n"

def hiddenBattery : Simulated :=
  ⟨⟨"BAT0", .unknown, [⟨0⟩]⟩, ⟨[(⟨0⟩, "status")]⟩, [⟨46⟩]⟩

def hiddenBatteryState : SimulatedState :=
  ⟨⟨[]⟩, ⟨[(⟨46⟩, .busy)]⟩⟩

theorem load_readsWritten_hiddenSensor :
    Registry.build [] = .ok .standard ∧
      load .standard hiddenSensor = .ok [(hiddenBattery, hiddenBatteryState)] ∧
      (hiddenBattery.supply.write .standard ⟨46⟩ " 250\n" hiddenBatteryState).1 = .ok () ∧
      hiddenBattery.supply.ReadsBack .standard ⟨⟨46⟩, "temp", .int32⟩ " 250\n"
        hiddenBatteryState := by
  have hl : load .standard hiddenSensor = .ok [(hiddenBattery, hiddenBatteryState)] := by
    decide +kernel
  obtain ⟨fixtures, hread, hall⟩ := load_readsWritten Registry.build_nil hl
  obtain ⟨fixture, rest, h, hrest, rfl⟩ := List.forall₂_cons_right_iff.mp hall
  obtain rfl := List.forall₂_nil_right_iff.mp hrest
  have hwritable : fixture.writable = ["temp"] := by
    have hall : (Fixture.read? hiddenSensor).map (·.map Fixture.writable) = some [["temp"]] := by
      decide +kernel
    simpa [hread] using hall
  have hd : ⟨⟨46⟩, "temp", .int32⟩ ∈ Registry.standard.descriptors := by decide +kernel
  have hok := (h.write_eq_ok_iff hiddenBatteryState _ hd " 250\n").mpr
    ⟨by simp [hwritable], .int 250, by decide +kernel⟩
  exact ⟨Registry.build_nil, hl, hok, h.readsBack hiddenBatteryState _ hd (by decide) _ hok⟩

/-- The description of a supply whose type may be written. -/
def writableType : String :=
  "[[supply]]\nname = \"BAT0\"\nwriteable = [\"type\"]\n"

/-- A write of the type is acknowledged and then not read. -/
theorem write_type_lost :
    Registry.build [] = .ok .standard ∧
    ∃ simulated state, load .standard writableType = .ok [(simulated, state)] ∧
      ∃ t ∈ Registry.standard.descriptors,
        (simulated.supply.write .standard t.id "Mains" state).1 = .ok () ∧
        Codec.decode t.kind "Mains" = .ok (.ordinal 3) ∧
        Codec.encode t.kind (.ordinal 3) = .ok "Mains\n" ∧
        (simulated.supply.read .standard t.id
          (simulated.supply.write .standard t.id "Mains" state).2).1 = .ok "Unknown\n" ∧
        ¬ simulated.supply.ReadsBack .standard t "Mains" state := by
  refine ⟨Registry.build_nil, ⟨⟨"BAT0", .unknown, []⟩, ⟨[]⟩, [⟨58⟩]⟩, ⟨⟨[]⟩, ⟨[]⟩⟩,
    by decide +kernel, ⟨⟨58⟩, "type", .deviceType⟩, by decide +kernel, by decide +kernel, rfl, rfl,
    by decide +kernel, ?_⟩
  rintro ⟨value, line, hv, he, hread⟩
  cases hv
  cases he
  revert hread
  decide +kernel

end Simulated
end PowerClass
