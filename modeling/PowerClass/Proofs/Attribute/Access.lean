import PowerClass.Attribute
import PowerClass.Proofs.Codec.Line
import PowerClass.Proofs.Supply.Declared

/-!
# PowerClass.Proofs.Attribute.Access

Readings of one property, by its identifier and by its name.

* `read_eq`: a reading asks the device once and turns its answer into text.
* `showAttribute_of_declared`: the attribute of a declared property shows that reading.
-/

namespace PowerClass
namespace Supply

/-- What a reading makes of the device's answer. -/
def textOf (kind : Kind) : Except DeviceError Value → Except AccessError String
  | .error e => .error (.ofDevice e)
  | .ok value =>
    match Codec.line? kind value with
    | some line => .ok (line.push '\n')
    | none => .error (.deviceFailure (.invalidValue (.kindMismatch kind value.variant)))

theorem map_render (kind : Kind) (answer : Except DeviceError Value) :
    (render "" kind answer).1.map (fun () => (render "" kind answer).2) = textOf kind answer := by
  cases answer with
  | error e => rfl
  | ok value =>
    simp only [render, textOf, Codec.encodeOnto_eq]
    cases Codec.line? kind value with
    | some line => simp only [String.empty_append, Except.map]
    | none => rfl

/-- The line that a reading of text is made of. -/
theorem exists_line?_of_textOf {kind : Kind} {answer : Except DeviceError Value} {text : String}
    (h : textOf kind answer = .ok text) :
    ∃ value line, Codec.line? kind value = some line ∧ text = line.push '\n' := by
  unfold textOf at h
  split at h
  · cases h
  · next value =>
    split at h
    · next line hl => cases h; exact ⟨value, line, hl, rfl⟩
    · cases h

theorem error_of_textOf {kind : Kind} {answer : Except DeviceError Value} {e : AccessError}
    (h : textOf kind answer = .error e) : ∃ fault, e = .ofDevice fault := by
  unfold textOf at h
  split at h
  · next fault =>
    cases h
    exact ⟨fault, rfl⟩
  · split at h
    · cases h
    · cases h
      exact ⟨.invalidValue _, rfl⟩

/-- A value that fits its kind is always shown. -/
theorem exists_textOf {kind : Kind} {value : Value} (hv : value.variant = kind.variant) :
    ∃ line, Codec.encode kind value = .ok line ∧ textOf kind (.ok value) = .ok line := by
  obtain ⟨line, hl⟩ := Codec.exists_line?.mpr hv
  refine ⟨line.push '\n', ?_, ?_⟩
  · rw [Codec.encode_eq, hl]
  · rw [textOf, hl]

variable {m : Type → Type} [Monad m] {registry : Registry} {d : Descriptor}

theorem fetch_of_deviceType (supply : Supply m) (hk : d.kind = .deviceType) :
    supply.fetch d = pure (.ok (.ordinal (Int32.ofNat supply.declaration.type.ordinal))) := by
  unfold fetch
  rw [hk]

theorem fetch_of_ne_deviceType (supply : Supply m) (hk : d.kind ≠ .deviceType) :
    supply.fetch d = supply.get d.id := by
  unfold fetch
  split
  · next h => exact absurd h hk
  · rfl

theorem mode_of_deviceType (supply : Supply m) (hk : d.kind = .deviceType) :
    supply.mode d = pure .readOnly := by
  rw [mode, if_pos hk]

theorem mode_of_undeclared (supply : Supply m) (hk : d.kind ≠ .deviceType)
    (hd : d.id ∉ supply.declaration.properties) : supply.mode d = pure .hidden := by
  rw [mode, if_neg hk, if_neg (by simpa [Declaration.declares] using hd)]

theorem mode_of_declared (supply : Supply m) (hk : d.kind ≠ .deviceType)
    (hd : d.id ∈ supply.declaration.properties) :
    supply.mode d =
      (fun writable => if writable then .readWrite else .readOnly) <$> supply.isWritable d.id := by
  rw [mode, if_neg hk, if_pos (by simpa [Declaration.declares] using hd)]

variable [LawfulMonad m]

theorem read_eq (supply : Supply m) (registry : Registry) (id : PropertyId) :
    supply.read registry id =
      match registry.get? id with
      | none => pure (.error (.unknownProperty id))
      | some d => textOf d.kind <$> supply.fetch d := by
  unfold read readOnto
  cases registry.get? id with
  | none => simp only [map_pure]; rfl
  | some d =>
    simp only [Functor.map_map]
    exact congrArg (· <$> supply.fetch d) (funext fun answer => map_render d.kind answer)

/-- The attribute of a declared property is visible, and shows the reading of the property. The
device is asked before whether the property is writable. -/
theorem showAttribute_of_declared (supply : Supply m) (hw : registry.WellFormed)
    (hr : d ∈ registry.descriptors) (hk : d.kind ≠ .deviceType)
    (hd : d.id ∈ supply.declaration.properties) :
    supply.showAttribute registry d.name =
      (do let _ ← supply.isWritable d.id; supply.read registry d.id) := by
  unfold showAttribute findAttribute
  rw [hw.lookup?_name hr]
  simp only [mode_of_declared supply hk hd, map_eq_pure_bind, bind_assoc,
    pure_bind]
  refine bind_congr fun writable => ?_
  cases writable <;> rfl

/-! ## Attributes by name, in a device that keeps a state -/

section

variable {σ : Type} (supply : Supply (StateM σ)) {registry : Registry} {name : String}

theorem read_of_mem (hw : registry.WellFormed) {d : Descriptor} (hd : d ∈ registry.descriptors)
    (s : σ) : (supply.read registry d.id s).1 = textOf d.kind (supply.fetch d s).1 := by
  rw [read_eq, hw.get?_id hd]
  rfl

theorem findAttribute_of_unknown (hl : registry.lookup? name = none) (s : σ) :
    supply.findAttribute registry name s = (.error (.unknownAttribute name), s) := by
  rw [findAttribute, hl]
  rfl

theorem findAttribute_of_known {d : Descriptor} (hl : registry.lookup? name = some d) (s : σ) :
    supply.findAttribute registry name s =
      (if (supply.mode d s).1.isVisible then .ok ⟨d, (supply.mode d s).1⟩
        else .error (.unknownAttribute name), (supply.mode d s).2) := by
  rw [findAttribute, hl]
  rfl

theorem showAttribute_of_unknown (hl : registry.lookup? name = none) (s : σ) :
    supply.showAttribute registry name s = (.error (.unknownAttribute name), s) := by
  have hf := findAttribute_of_unknown supply hl s
  simp only [showAttribute, bind, StateT.bind, hf]
  rfl

theorem showAttribute_of_hidden {d : Descriptor} (hl : registry.lookup? name = some d) {s : σ}
    (hm : (supply.mode d s).1 = .hidden) :
    supply.showAttribute registry name s =
      (.error (.unknownAttribute name), (supply.mode d s).2) := by
  have hf := findAttribute_of_known supply hl s
  rw [hm] at hf
  simp only [showAttribute, bind, StateT.bind, hf]
  rfl

theorem showAttribute_of_visible {d : Descriptor} (hl : registry.lookup? name = some d) {s : σ}
    (hm : (supply.mode d s).1 ≠ .hidden) :
    supply.showAttribute registry name s = supply.read registry d.id (supply.mode d s).2 := by
  have hf := findAttribute_of_known supply hl s
  have hv : (supply.mode d s).1.isVisible = true := by simp [Mode.isVisible, hm]
  rw [if_pos hv] at hf
  simp only [showAttribute, bind, StateT.bind, hf]

theorem storeAttribute_of_unknown (hl : registry.lookup? name = none) (text : String) (s : σ) :
    supply.storeAttribute registry name text s = (.error (.unknownAttribute name), s) := by
  have hf := findAttribute_of_unknown supply hl s
  simp only [storeAttribute, bind, StateT.bind, hf]
  rfl

theorem storeAttribute_of_hidden {d : Descriptor} (hl : registry.lookup? name = some d)
    (text : String) {s : σ} (hm : (supply.mode d s).1 = .hidden) :
    supply.storeAttribute registry name text s =
      (.error (.unknownAttribute name), (supply.mode d s).2) := by
  have hf := findAttribute_of_known supply hl s
  rw [hm] at hf
  simp only [storeAttribute, bind, StateT.bind, hf]
  rfl

theorem storeAttribute_of_readOnly {d : Descriptor} (hl : registry.lookup? name = some d)
    (text : String) {s : σ} (hm : (supply.mode d s).1 = .readOnly) :
    supply.storeAttribute registry name text s =
      (.error (.readOnly name), (supply.mode d s).2) := by
  have hf := findAttribute_of_known supply hl s
  rw [hm] at hf
  simp only [storeAttribute, bind, StateT.bind, hf]
  rfl

theorem storeAttribute_of_writable {d : Descriptor} (hl : registry.lookup? name = some d)
    (text : String) {s : σ} (hm : (supply.mode d s).1 = .readWrite) :
    supply.storeAttribute registry name text s =
      ((supply.write registry d.id text (supply.mode d s).2).1.map fun () => text.utf8ByteSize,
        (supply.write registry d.id text (supply.mode d s).2).2) := by
  have hf := findAttribute_of_known supply hl s
  rw [hm] at hf
  simp only [storeAttribute, bind, StateT.bind, hf]
  rfl

/-! ## The type of the supply -/

theorem read_type {t : Descriptor} (hw : registry.WellFormed) (ht : registry.IsType t) (s : σ) :
    (supply.read registry t.id s).1 = .ok (supply.declaration.type.label ++ "\n") := by
  have hlabel : ∀ type : SupplyType,
      textOf .deviceType (.ok (.ordinal (Int32.ofNat type.ordinal))) =
        .ok (type.label ++ "\n") := by
    intro type
    cases type <;> decide
  rw [read_of_mem supply hw ht.mem, fetch_of_deviceType supply ht.kind_eq, ht.kind_eq]
  exact hlabel supply.declaration.type

theorem showAttribute_type {t : Descriptor} (hw : registry.WellFormed) (ht : registry.IsType t)
    (s : σ) :
    (supply.showAttribute registry "type" s).1 = .ok (supply.declaration.type.label ++ "\n") := by
  have hl : registry.lookup? "type" = some t :=
    hw.lookup?_eq_some_iff.mpr ⟨ht.mem, ht.name_eq⟩
  have hm : supply.mode t s = (.readOnly, s) := by
    rw [mode_of_deviceType supply ht.kind_eq]
    rfl
  have hvisible : (supply.mode t s).1 ≠ .hidden := by simp [hm]
  rw [showAttribute_of_visible supply hl hvisible, hm]
  exact read_type supply hw ht s

/-! ## Errors

Only looking an attribute up by its name answers that there is none, or that it is read-only. -/

theorem read_ne_unknownAttribute (id : PropertyId) (s : σ) (other : String) :
    (supply.read registry id s).1 ≠ .error (.unknownAttribute other) := by
  rw [read_eq]
  cases registry.get? id with
  | none => exact nofun
  | some d =>
    show textOf d.kind (supply.fetch d s).1 ≠ _
    intro h
    obtain ⟨fault, he⟩ := error_of_textOf h
    cases fault <;> cases he

theorem error_of_write {id : PropertyId} {text : String} {s : σ} {e : AccessError}
    (h : (supply.write registry id text s).1 = .error e) (other : String) :
    e ≠ .unknownAttribute other ∧ e ≠ .readOnly other := by
  unfold write at h
  cases hg : registry.get? id with
  | none =>
    rw [hg] at h
    cases h
    simp
  | some d =>
    rw [hg] at h
    simp only at h
    cases hd : Codec.decode d.kind text with
    | error fault =>
      rw [hd] at h
      cases h
      simp
    | ok value =>
      rw [hd] at h
      have hset : (supply.set id value s).1.mapError AccessError.ofDevice = .error e := h
      cases hr : (supply.set id value s).1 with
      | ok u => rw [hr] at hset; cases hset
      | error fault =>
        rw [hr] at hset
        cases hset
        cases fault <;> simp [AccessError.ofDevice]

end

end Supply
end PowerClass
