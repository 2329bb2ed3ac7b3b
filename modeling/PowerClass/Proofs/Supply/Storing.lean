import PowerClass.Proofs.Codec.RoundTrip
import PowerClass.Proofs.Supply.Directory
import PowerClass.Proofs.Supply.Steady
import PowerClass.Proofs.Text.Ends

/-!
# PowerClass.Proofs.Supply.Storing

Storing an attribute of a directory. The text goes through the mode of the attribute, which is read
off the file as it is now, then through the codec, and then to the file, and a failure at any of
these leaves the disk as it was.

* `Takes`: all that a store needs; `storeAttribute_cases`: a store has it, or fails without effect.
* `open_storesExactly`: when a store succeeds, what it changes, and that it changes nothing else.
-/

namespace PowerClass

namespace Codec

theorem dropNewlines_of_line? {kind : Kind} {value : Value} {line : String} (hk : kind ≠ .text)
    (h : line? kind value = some line) : Text.dropNewlines line = line :=
  Text.dropNewlines_of_not_mem (newline_not_mem_of_line? hk h)

theorem decode_of_line? {kind : Kind} {value : Value} {line : String} (hk : kind ≠ .text)
    (h : line? kind value = some line) : decode kind line = .ok value := by
  rw [← decode_line hk h]
  unfold decode
  rw [Text.trim_push_newline]

theorem encode_eq_push_iff {kind : Kind} {value : Value} {line : String} :
    encode kind value = .ok (line.push '\n') ↔ line? kind value = some line := by
  rw [encode_eq]
  cases line? kind value with
  | none => simp
  | some written =>
    rw [Except.ok.injEq, Option.some.injEq]
    refine ⟨fun h => ?_, congrArg (String.push · '\n')⟩
    have hcs := congrArg String.toList h
    rw [String.toList_push, String.toList_push] at hcs
    exact String.toList_inj.mp (List.append_cancel_right hcs)

theorem ne_text_of_decode {kind : Kind} {text : String} {value : Value}
    (h : decode kind text = .ok value) : kind ≠ .text := by
  rintro rfl
  cases h

end Codec

namespace Directory

variable {σ : Type} [Disk (StateM σ)] {registry : Registry} {directory : Directory}

/-! ## The writing of one property -/

namespace Opened

section

variable (h : Opened registry directory) (hw : registry.WellFormed) {d : Descriptor}
include h hw

/-- The file of a property gets the line of the value, without the newlines at its end. -/
theorem set_of_line? (hd : d ∈ directory.descriptors) {value : Value} {line : String}
    (hl : Codec.line? d.kind value = some line) (s : σ) :
    (directory.supply : Supply (StateM σ)).set d.id value s =
      let written := (Disk.writeText (directory.path.join d.name) (Text.dropNewlines line) :
        StateM σ _) s
      (written.1.mapError .ofFile, written.2) := by
  show (directory.set d.id value : StateM σ _) s = _
  unfold Directory.set
  rw [h.descriptor?_of_mem hw hd]
  simp only [Codec.encode_eq_push_iff.mpr hl, Text.dropNewlines_push]
  rfl

/-- The file of a property gets the line of the value, without its newline. -/
theorem set_eq (hd : d ∈ directory.descriptors) {value : Value} {line : String}
    (hk : d.kind ≠ .text) (hl : Codec.line? d.kind value = some line) (s : σ) :
    (directory.supply : Supply (StateM σ)).set d.id value s =
      (((Disk.writeText (directory.path.join d.name) line : StateM σ _) s).1.mapError .ofFile,
        ((Disk.writeText (directory.path.join d.name) line : StateM σ _) s).2) := by
  rw [h.set_of_line? hw hd hl, Codec.dropNewlines_of_line? hk hl]

theorem write_of_decode (hd : d ∈ directory.descriptors) {text : String} {value : Value}
    {line : String} (hv : Codec.decode d.kind text = .ok value)
    (hl : Codec.line? d.kind value = some line) (s : σ) :
    (directory.supply : Supply (StateM σ)).write registry d.id text s =
      ((((Disk.writeText (directory.path.join d.name) line : StateM σ _) s).1.mapError
          .ofFile).mapError .ofDevice,
        ((Disk.writeText (directory.path.join d.name) line : StateM σ _) s).2) := by
  have hg : registry.get? d.id = some d :=
    hw.get?_id (h.sublist.subset hd)
  unfold Supply.write
  simp only [hg, hv, map_apply, h.set_eq hw hd (Codec.ne_text_of_decode hv) hl]

theorem write_of_decode_error (hd : d ∈ directory.descriptors) {text : String} {e : CodecError}
    (he : Codec.decode d.kind text = .error e) (s : σ) :
    (directory.supply : Supply (StateM σ)).write registry d.id text s =
      (.error (.invalidInput e), s) := by
  have hg : registry.get? d.id = some d :=
    hw.get?_id (h.sublist.subset hd)
  unfold Supply.write
  simp only [hg, he]
  rfl

/-- A property without a file when the directory was opened has no attribute, and the type of the
supply is only shown. -/
theorem storeAttribute_of_not_mem {name : String} (hn : ∀ d ∈ directory.descriptors, d.name ≠ name)
    (text : String) (s : σ) :
    ∃ e, (directory.supply : Supply (StateM σ)).storeAttribute registry name text s =
      (.error e, s) := by
  cases hl : registry.lookup? name with
  | none => exact ⟨_, Supply.storeAttribute_of_unknown _ hl text s⟩
  | some d =>
    obtain ⟨hd, rfl⟩ := hw.lookup?_eq_some_iff.mp hl
    by_cases hk : d.kind = .deviceType
    · have hm : ((directory.supply : Supply (StateM σ)).mode d s) = (.readOnly, s) := by
        rw [Supply.mode_of_deviceType _ hk]
        rfl
      refine ⟨.readOnly d.name, ?_⟩
      rw [Supply.storeAttribute_of_readOnly _ hl text (congrArg Prod.fst hm), hm]
    · have hi : d.id ∉ directory.declaration.properties := by
        rw [h.mem_properties_iff hw hd]
        exact fun hm => hn d hm rfl
      have hm : (directory.supply : Supply (StateM σ)).mode d s = (.hidden, s) := by
        rw [Supply.mode_of_undeclared _ hk hi]
        rfl
      refine ⟨.unknownAttribute d.name, ?_⟩
      rw [Supply.storeAttribute_of_hidden _ hl text (congrArg Prod.fst hm), hm]

end

/-! ## The store of an attribute -/

variable [TreeDisk σ]

open TreeDisk (tree)

variable (h : Opened registry directory) (hw : registry.WellFormed) {d : Descriptor}
include h hw

theorem mode_eq (hd : d ∈ directory.descriptors) (s : σ) :
    (directory.supply : Supply (StateM σ)).mode d s =
      (if (tree s).isWritable (directory.path.join d.name) then .readWrite else .readOnly, s) := by
  have hi := (h.mem_properties_iff hw (h.sublist.subset hd)).mpr hd
  rw [Supply.mode_of_declared _ (h.kind_ne_deviceType hw hd) hi, map_apply, h.isWritable_eq hw hd]

theorem storeAttribute_of_mem (hd : d ∈ directory.descriptors) (text : String) (s : σ) :
    (directory.supply : Supply (StateM σ)).storeAttribute registry d.name text s =
      let written := (directory.supply : Supply (StateM σ)).write registry d.id text s
      if (tree s).isWritable (directory.path.join d.name) then
        (written.1.map fun () => text.utf8ByteSize, written.2)
      else (.error (.readOnly d.name), s) := by
  have hl := hw.lookup?_name (h.sublist.subset hd)
  have hm := h.mode_eq hw hd s
  by_cases hp : (tree s).isWritable (directory.path.join d.name) = true
  · rw [if_pos hp] at hm ⊢
    rw [Supply.storeAttribute_of_writable _ hl text (congrArg Prod.fst hm), hm]
  · rw [if_neg hp] at hm ⊢
    rw [Supply.storeAttribute_of_readOnly _ hl text (congrArg Prod.fst hm), hm]

end Opened

/-! ## Storing exactly -/

variable [TreeDisk σ]

open TreeDisk (tree)

/-- All that a store needs: a property that was declared when the directory was opened, its file,
there and writable, a text that is decoded, and a disk that takes the line of the value. -/
structure Takes (directory : Directory) (d : Descriptor) (text : String) (value : Value)
    (line : String) (s s' : σ) : Prop where
  declared : d.id ∈ directory.declaration.properties
  file : ∃ content permissions,
    (tree s).find (directory.path.join d.name) = .ok (.file content permissions) ∧
      Tree.allowsWriting permissions = true
  decode_eq : Codec.decode d.kind text = .ok value
  encode_eq : Codec.encode d.kind value = .ok (line.push '\n')
  write_eq : (Disk.writeText (directory.path.join d.name) line : StateM σ _) s = (.ok (), s')

theorem Takes.rewrites {d : Descriptor} {text : String} {value : Value} {line : String} {s s' : σ}
    (ht : Takes directory d text value line s s') :
    (tree s).Rewrites (tree s') (directory.path.join d.name) line := by
  obtain ⟨content, permissions, hf, -⟩ := ht.file
  exact Tree.rewrites_of_writeText hf (TreeDisk.writeText_of_ok ht.write_eq)

section

variable (h : Opened registry directory) (hw : registry.WellFormed) {d : Descriptor}
  {text : String} {s s' : σ}
include h hw

theorem Takes.storeAttribute_eq {value : Value} {line : String}
    (ht : Takes directory d text value line s s') (hd : d ∈ registry.descriptors) :
    (directory.supply : Supply (StateM σ)).storeAttribute registry d.name text s =
      (.ok text.utf8ByteSize, s') := by
  have hm := (h.mem_properties_iff hw hd).mp ht.declared
  obtain ⟨content, permissions, hf, hp⟩ := ht.file
  rw [h.storeAttribute_of_mem hw hm, Tree.isWritable_of_file hf, if_pos hp,
    h.write_of_decode hw hm ht.decode_eq (Codec.encode_eq_push_iff.mp ht.encode_eq), ht.write_eq]
  rfl

/-- A store fails and leaves the disk, or has all that it needs. -/
theorem storeAttribute_cases (name text : String) (s : σ) :
    (∃ e, (directory.supply : Supply (StateM σ)).storeAttribute registry name text s =
        (.error e, s)) ∨
      ∃ d ∈ directory.descriptors, d.name = name ∧
        ∃ value line s', Takes directory d text value line s s' := by
  by_cases hn : ∃ d ∈ directory.descriptors, d.name = name
  case neg =>
    push Not at hn
    exact .inl (h.storeAttribute_of_not_mem hw hn text s)
  obtain ⟨d, hd, rfl⟩ := hn
  have hs := h.storeAttribute_of_mem hw hd text s
  by_cases hp : (tree s).isWritable (directory.path.join d.name) = true
  case neg =>
    rw [if_neg hp] at hs
    exact .inl ⟨_, hs⟩
  rw [if_pos hp] at hs
  cases hv : Codec.decode d.kind text with
  | error e =>
    rw [h.write_of_decode_error hw hd hv] at hs
    exact .inl ⟨_, hs⟩
  | ok value =>
    obtain ⟨line, hl⟩ := Codec.exists_line?.mpr (Codec.variant_of_decode hv)
    rw [h.write_of_decode hw hd hv hl] at hs
    rcases TreeDisk.writeText_cases (directory.path.join d.name) line s with
      ⟨e, he⟩ | ⟨s', he, hafter⟩
    · rw [he] at hs
      exact .inl ⟨_, hs⟩
    · exact .inr ⟨d, hd, rfl, value, line, s',
        (h.mem_properties_iff hw (h.sublist.subset hd)).mpr hd,
        Tree.exists_file_of_writeText hp hafter, hv, Codec.encode_eq_push_iff.mpr hl, he⟩

/-- What was stored is what the attribute shows next. -/
theorem Takes.showAttribute_eq {value : Value} {line : String}
    (ht : Takes directory d text value line s s') (hd : d ∈ registry.descriptors) :
    ((directory.supply : Supply (StateM σ)).showAttribute registry d.name s').1 =
      .ok (line.push '\n') := by
  have hm := (h.mem_properties_iff hw hd).mp ht.declared
  have hk := Codec.ne_text_of_decode ht.decode_eq
  have hl := Codec.encode_eq_push_iff.mp ht.encode_eq
  obtain ⟨_, _, -, hafter⟩ := ht.rewrites.file
  have hg : ((directory.supply : Supply (StateM σ)).get d.id s').1 = .ok value := by
    rw [h.get_eq hw hm, Tree.readText_of_file hafter]
    simp only [decode_of_ne_text hk, Codec.decode_of_line? hk hl]
    rfl
  have hne := h.kind_ne_deviceType hw hm
  rw [((quiet directory).steady s').showAttribute_eq .refl hw hd hne ht.declared,
    Supply.read_of_mem _ hw hd, Supply.fetch_of_ne_deviceType _ hne, hg, Supply.textOf, hl]

end

/-- What storing a text in an attribute of a directory does, in a state of the disk: when it
succeeds, what it changes, and that it changes nothing else. -/
structure StoresExactly (registry : Registry) (directory : Directory) (s : σ)
    (name text : String) : Prop where
  ok_iff : ∀ n s',
    (directory.supply : Supply (StateM σ)).storeAttribute registry name text s = (.ok n, s') ↔
      n = text.utf8ByteSize ∧ ∃ d ∈ registry.descriptors, d.name = name ∧
        ∃ value line, Takes directory d text value line s s'
  of_takes : ∀ d ∈ registry.descriptors, d.name = name → ∀ value line s',
    Takes directory d text value line s s' →
      (tree s).Rewrites (tree s') (directory.path.join name) line ∧
        ((directory.supply : Supply (StateM σ)).showAttribute registry name s').1 =
          .ok (line.push '\n')
  of_error : ∀ e s',
    (directory.supply : Supply (StateM σ)).storeAttribute registry name text s = (.error e, s') →
      s' = s
  creates_nothing : ∀ other e, (tree s).find other = .error e →
    (tree ((directory.supply : Supply (StateM σ)).storeAttribute registry name text s).2).find
      other = .error e

theorem Opened.storesExactly (h : Opened registry directory) (hw : registry.WellFormed) (s : σ)
    (name text : String) : StoresExactly registry directory s name text := by
  have hcases := storeAttribute_cases h hw name text s
  constructor
  case ok_iff =>
    intro n s'
    constructor
    · intro hs
      rcases hcases with ⟨e, he⟩ | ⟨d, hd, rfl, value, line, after, ht⟩
      · rw [he] at hs
        cases hs
      · rw [ht.storeAttribute_eq h hw (h.sublist.subset hd)] at hs
        cases hs
        exact ⟨rfl, d, h.sublist.subset hd, rfl, value, line, ht⟩
    · rintro ⟨rfl, d, hd, rfl, value, line, ht⟩
      exact ht.storeAttribute_eq h hw hd
  case of_takes =>
    rintro d hd rfl value line s' ht
    exact ⟨ht.rewrites, ht.showAttribute_eq h hw hd⟩
  case of_error =>
    intro e s' hs
    rcases hcases with ⟨e', he⟩ | ⟨d, hd, rfl, value, line, after, ht⟩
    · rw [he] at hs
      cases hs
      rfl
    · rw [ht.storeAttribute_eq h hw (h.sublist.subset hd)] at hs
      cases hs
  case creates_nothing =>
    intro other e ho
    rcases hcases with ⟨e', he⟩ | ⟨d, hd, rfl, value, line, after, ht⟩
    · rw [he]
      exact ho
    · rw [ht.storeAttribute_eq h hw (h.sublist.subset hd)]
      exact ht.rewrites.find_eq_error ho

/-- **Storing is exact.** A directory that was opened stores a text exactly when the property was
declared then, its file is still there and may be written, the text is decoded and the disk takes
the line. The file then holds that line and the attribute shows it. A store that fails leaves the
disk as it was, and none makes a file. -/
theorem open_storesExactly {additions : List Addition}
    (hb : Registry.build additions = .ok registry) {path : Path} {initial : σ}
    (ho : ((Directory.open registry path : StateM σ _) initial).1 = .ok directory) (s : σ)
    (name text : String) : StoresExactly registry directory s name text := by
  have hw := Registry.wellFormed_of_build hb
  exact (opened_of_open hw ho).storesExactly hw s name text

/-- A tree with a battery whose charge limit may be written, and its temperature may not. -/
def limitedTree : Tree :=
  ⟨[(["BAT0"], .directory), (["charge_control_limit", "BAT0"], .file (.text "100\n") 0o644),
    (["temp", "BAT0"], .file (.text "250\n") 0o444)], []⟩

def limitedBattery : Directory :=
  opened .standard (.ofString "BAT0") "BAT0" limitedTree

/-- The same tree later, with another limit and without the temperature. -/
def coldTree : Tree :=
  ⟨[(["BAT0"], .directory), (["charge_control_limit", "BAT0"], .file (.text "80") 0o600)], []⟩

theorem open_storesExactly_limit :
    Registry.build [] = .ok .standard ∧
      ((Directory.open .standard (.ofString "BAT0") : StateM Tree _) limitedTree).1 =
        .ok limitedBattery ∧
      StoresExactly .standard limitedBattery coldTree "charge_control_limit" " +60\n" ∧
      StoresExactly .standard limitedBattery coldTree "temp" "260" := by
  have ho : ((Directory.open .standard (.ofString "BAT0") : StateM Tree _) limitedTree).1 =
      .ok limitedBattery :=
    (open_eq_ok_iff (Registry.wellFormed_of_build Registry.build_nil)).mpr ⟨"BAT0", by decide, rfl⟩
  have hstore := open_storesExactly Registry.build_nil ho coldTree
  exact ⟨Registry.build_nil, ho, hstore "charge_control_limit" " +60\n", hstore "temp" "260"⟩

example :
    ((limitedBattery.supply : Supply (StateM Tree)).storeAttribute .standard
        "charge_control_limit" " +60\n" coldTree).2 =
      coldTree.put ["charge_control_limit", "BAT0"] (.file (.text "60") 0o600) := by
  decide +kernel

end Directory
end PowerClass
