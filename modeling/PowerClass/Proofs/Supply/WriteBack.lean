import PowerClass.Proofs.Attribute.Terminator
import PowerClass.Proofs.Codec.Page
import PowerClass.Proofs.Supply.Storing
import PowerClass.Proofs.Text.Trimmed

/-!
# PowerClass.Proofs.Supply.WriteBack

Setting a property of a directory and getting it back. What is written loses its newlines, and so
does what is read; a text is cut to a page before that, which can leave newlines at its end that
were in the middle. What is read is therefore not always what was set, but setting it again writes
the same text.

* `ReadsAs`: what comes back for a value.
* `exists_readsAs`: the line of a value is read as such a value, whose line it is.
* `open_setsAndGets`: setting a value of a declared property, and what stands in its file then.
-/

namespace PowerClass

namespace Text

/-- The inner text is all of a text but the newlines at its end. -/
structure WithoutNewlines (text inner : String) : Prop where
  split : ∃ newlines, text = inner ++ newlines ∧ ∀ c ∈ newlines.toList, c = '\n'
  not_endsWithNewline : ¬ EndsWithNewline inner

theorem not_endsWithNewline_dropNewlines (s : String) : ¬ EndsWithNewline (dropNewlines s) := by
  intro h
  rw [EndsWithNewline, dropNewlines, String.toList_ofList] at h
  have hlast := last_dropTail _ h
  simp at hlast

theorem withoutNewlines_dropNewlines (s : String) : WithoutNewlines s (dropNewlines s) where
  split := by
    refine ⟨_, eq_dropNewlines_append s, fun c hc => ?_⟩
    rw [String.toList_ofList, List.mem_reverse] at hc
    simpa using List.all_eq_true.mp List.all_takeWhile c hc
  not_endsWithNewline := not_endsWithNewline_dropNewlines s

theorem dropNewlines_of_not_endsWithNewline {s : String} (h : ¬ EndsWithNewline s) :
    dropNewlines s = s := by
  rw [dropNewlines, dropTail_eq_self_of_last, String.ofList_toList]
  intro c hc
  rw [beq_eq_false_iff_ne]
  rintro rfl
  exact h hc

theorem dropNewlines_dropNewlines (s : String) : dropNewlines (dropNewlines s) = dropNewlines s :=
  dropNewlines_of_not_endsWithNewline (not_endsWithNewline_dropNewlines s)

end Text

namespace Directory

/-- What a directory reads after a value was set: a number or an ordinal as it was, of a text what
is on its page, without the newlines at the end. -/
inductive ReadsAs : Value → Value → Prop where
  | int (n : Int32) : ReadsAs (.int n) (.int n)
  | int64 (n : Int64) : ReadsAs (.int64 n) (.int64 n)
  | ordinal (n : Int32) : ReadsAs (.ordinal n) (.ordinal n)
  | text {t front inner : String} : Text.LongestPrefix 4095 t front →
      Text.WithoutNewlines front inner → ReadsAs (.text t) (.text inner)

theorem readsAs_self {value : Value} (h : value.variant ≠ .text) : ReadsAs value value := by
  cases value with
  | int n => exact .int n
  | int64 n => exact .int64 n
  | ordinal n => exact .ordinal n
  | text t => exact absurd rfl h

/-- What is written for a value is read as another value, for which the same is written. -/
theorem exists_readsAs {kind : Kind} {value : Value} {line : String}
    (h : Codec.line? kind value = some line) :
    ∃ back line', decode kind (Text.dropNewlines line) = .ok back ∧ ReadsAs value back ∧
      Codec.line? kind back = some line' ∧ Text.dropNewlines line' = Text.dropNewlines line := by
  by_cases hk : kind = .text
  · subst hk
    obtain ⟨t, rfl⟩ : ∃ t, value = .text t := by
      cases value with
      | text t => exact ⟨t, rfl⟩
      | _ => cases h
    obtain rfl : Text.cut 4095 t = line := Option.some.inj h
    have hread : decode .text (Text.dropNewlines (Text.cut 4095 t)) =
        .ok (.text (Text.dropNewlines (Text.cut 4095 t))) := by
      rw [decode, Text.dropNewlines_dropNewlines]
    refine ⟨_, _, hread, ?_, rfl, ?_⟩
    · exact .text (Text.longestPrefix_cut 4095 t) (Text.withoutNewlines_dropNewlines _)
    · -- What is left of a page fits on it.
      show Text.dropNewlines (Text.cut 4095 (Text.dropNewlines (Text.cut 4095 t))) = _
      rw [Text.cut_dropNewlines_cut, Text.dropNewlines_dropNewlines]
  · refine ⟨value, line, ?_, ?_, h, rfl⟩
    · rw [Codec.dropNewlines_of_line? hk h, decode_of_ne_text hk, Codec.decode_of_line? hk h]
      rfl
    · have hv := Codec.exists_line?.mp ⟨line, h⟩
      refine readsAs_self fun ht => hk ?_
      rw [hv] at ht
      cases kind <;> first | rfl | cases ht

variable {σ : Type} [Disk (StateM σ)] {registry : Registry} {directory : Directory}
  {d : Descriptor} {value : Value} {s s' : σ}

theorem Opened.set_of_mismatch (h : Opened registry directory) (hw : registry.WellFormed)
    (hd : d ∈ directory.descriptors) (hv : value.variant ≠ d.kind.variant) (s : σ) :
    (directory.supply : Supply (StateM σ)).set d.id value s =
      (.error (.invalidValue (.kindMismatch d.kind value.variant)), s) := by
  have hnone : Codec.line? d.kind value = none :=
    Option.eq_none_iff_forall_ne_some.mpr fun line hl => hv (Codec.exists_line?.mp ⟨line, hl⟩)
  have hencode : Codec.encode d.kind value = .error (.kindMismatch d.kind value.variant) := by
    rw [Codec.encode_eq, hnone]
  show (directory.set d.id value : StateM σ _) s = _
  unfold Directory.set
  rw [h.descriptor?_of_mem hw hd]
  simp only [hencode]
  rfl

variable [TreeDisk σ]

open TreeDisk (tree)

/-- The file of a property holds a text that is read as a value, and setting this value writes the
same text, which leaves every file as it is. -/
structure Settled (directory : Directory) (d : Descriptor) (text : String) (back : Value) (s : σ) :
    Prop where
  readText_eq : (tree s).readText (directory.path.join d.name) = .ok text
  get_eq : (directory.supply : Supply (StateM σ)).get d.id s = (.ok back, s)
  set_eq : (directory.supply : Supply (StateM σ)).set d.id back s =
    let written := (Disk.writeText (directory.path.join d.name) text : StateM σ _) s
    (written.1.mapError .ofFile, written.2)
  find_set : ∀ path,
    (tree ((directory.supply : Supply (StateM σ)).set d.id back s).2).find path =
      (tree s).find path

/-- What setting a value of a property does: it is refused for its variant, or its text is written,
and once the disk has taken that text it is settled. -/
structure SetsAndGets (directory : Directory) (d : Descriptor) (value : Value) (s : σ) : Prop where
  mismatch : value.variant ≠ d.kind.variant →
    (directory.supply : Supply (StateM σ)).set d.id value s =
      (.error (.invalidValue (.kindMismatch d.kind value.variant)), s)
  fits : value.variant = d.kind.variant → ∃ text back, ReadsAs value back ∧
    (∀ e s', (Disk.writeText (directory.path.join d.name) text : StateM σ _) s = (.error e, s') →
      (directory.supply : Supply (StateM σ)).set d.id value s = (.error (.ofFile e), s')) ∧
    ∀ s', (Disk.writeText (directory.path.join d.name) text : StateM σ _) s = (.ok (), s') →
      (directory.supply : Supply (StateM σ)).set d.id value s = (.ok (), s') ∧
        Settled directory d text back s'

theorem Opened.settled (h : Opened registry directory) (hw : registry.WellFormed)
    (hd : d ∈ directory.descriptors) {back : Value} {text line : String}
    (hr : (tree s).readText (directory.path.join d.name) = .ok text)
    (hv : decode d.kind text = .ok back) (hl : Codec.line? d.kind back = some line)
    (ht : Text.dropNewlines line = text) : Settled directory d text back s := by
  have hset := h.set_of_line? hw hd hl s
  rw [ht] at hset
  constructor
  case readText_eq => exact hr
  case get_eq =>
    rw [h.get_eq hw hd, hr]
    simp only [hv]
  case set_eq => exact hset
  case find_set =>
    intro path
    rw [hset]
    exact TreeDisk.find_of_writeText_self hr path

theorem Opened.setsAndGets (h : Opened registry directory) (hw : registry.WellFormed)
    (hd : d ∈ directory.descriptors) (value : Value) (s : σ) :
    SetsAndGets directory d value s where
  mismatch hv := h.set_of_mismatch hw hd hv s
  fits hv := by
    obtain ⟨line, hl⟩ := Codec.exists_line?.mpr hv
    obtain ⟨back, line', hread, hback, hl', hsame⟩ := exists_readsAs hl
    have hset := h.set_of_line? hw hd hl s
    refine ⟨Text.dropNewlines line, back, hback, fun e s' hwrite => ?_, fun s' hwrite => ?_⟩
    · rw [hset, hwrite]
      rfl
    · refine ⟨?_, h.settled hw hd (TreeDisk.readText_of_writeText hwrite) hread hl' hsame⟩
      rw [hset, hwrite]
      rfl

/-- **Setting and getting.** In an opened directory a value that does not fit a declared property is
refused and the disk stays as it is. Any other value is written to the file of the property. If the
disk takes it, the property reads as the value was, a text without what is not on its page and
without the newlines at its end; and setting what was read leaves every file as it is, byte for
byte. -/
theorem open_setsAndGets {additions : List Addition}
    (hb : Registry.build additions = .ok registry) {path : Path} {initial : σ}
    (ho : ((Directory.open registry path : StateM σ _) initial).1 = .ok directory)
    (hd : d ∈ registry.descriptors) (hi : d.id ∈ directory.declaration.properties)
    (value : Value) (s : σ) : SetsAndGets directory d value s := by
  have hw := Registry.wellFormed_of_build hb
  have h := opened_of_open hw ho
  exact h.setsAndGets hw ((h.mem_properties_iff hw hd).mp hi) value s

/-- A battery whose model was written by hand. -/
def modelTree : Tree :=
  ⟨[(["BAT0"], .directory), (["model_name", "BAT0"], .file (.text "A\n") 0o644)], []⟩

def modelName : Descriptor :=
  ⟨⟨68⟩, "model_name", .text⟩

theorem open_setsAndGets_model :
    Registry.build [] = .ok .standard ∧
      ((Directory.open .standard (.ofString "BAT0") : StateM Tree _) modelTree).1 =
        .ok (opened .standard (.ofString "BAT0") "BAT0" modelTree) ∧
      modelName ∈ Registry.standard.descriptors ∧
      modelName.id ∈
        (opened .standard (.ofString "BAT0") "BAT0" modelTree).declaration.properties ∧
      SetsAndGets (opened .standard (.ofString "BAT0") "BAT0" modelTree) modelName
        (.text "B\n\n") modelTree := by
  have hw := Registry.wellFormed_of_build Registry.build_nil
  have ho : ((Directory.open .standard (.ofString "BAT0") : StateM Tree _) modelTree).1 =
      .ok (opened .standard (.ofString "BAT0") "BAT0" modelTree) :=
    (open_eq_ok_iff hw).mpr ⟨"BAT0", by decide, rfl⟩
  have hd : modelName ∈ Registry.standard.descriptors := by decide +kernel
  have hi : modelName.id ∈
      (opened .standard (.ofString "BAT0") "BAT0" modelTree).declaration.properties :=
    (mem_properties_opened_iff hw hd _ _ _).mpr (by decide)
  exact ⟨Registry.build_nil, ho, hd, hi, open_setsAndGets Registry.build_nil ho hd hi _ modelTree⟩

end Directory
end PowerClass
