import PowerClass.Proofs.Attribute.Access

/-!
# PowerClass.Proofs.Attribute.Terminator

The newline at the end of what is shown. Numbers and the texts of tables have no newline of their
own. A text property keeps the ones that its value ends with, if they are on the page, so that its
own newline is one more.

* `textOf_eq_ok_iff`: a reading that succeeds is the encoding of what the device answered.
* `showAttribute_terminated`: what is written, and so what is shown, ends with exactly one newline
  unless it is a text whose part on the page ends with one.
-/

namespace PowerClass
namespace Text

def EndsWithNewline (text : String) : Prop :=
  text.toList.getLast? = some '\n'

instance (text : String) : Decidable (EndsWithNewline text) :=
  inferInstanceAs (Decidable (_ = _))

/-- The text is a newline after something that does not end with another. -/
def EndsOnce (text : String) : Prop :=
  ∃ line, text = line.push '\n' ∧ ¬ EndsWithNewline line

theorem endsWithNewline_push (line : String) : EndsWithNewline (line.push '\n') := by
  simp [EndsWithNewline, String.toList_push]

theorem endsOnce_push_iff {line : String} : EndsOnce (line.push '\n') ↔ ¬ EndsWithNewline line := by
  constructor
  · rintro ⟨other, he, hn⟩
    have hl : line.toList ++ ['\n'] = other.toList ++ ['\n'] := by
      rw [← String.toList_push, ← String.toList_push, he]
    rwa [String.toList_inj.mp (List.append_cancel_right hl)]
  · exact fun hn => ⟨line, rfl, hn⟩

/-- How text that a value was written as ends: with one newline, unless the value is a text of which
the part that fits on a page ends with a newline itself. -/
structure Terminated (value : Value) (text : String) : Prop where
  endsWithNewline : EndsWithNewline text
  endsOnce_iff : EndsOnce text ↔ ∀ s, value = .text s → ¬ EndsWithNewline (cut 4095 s)

end Text

namespace Codec

theorem not_endsWithNewline_of_line? {kind : Kind} {value : Value} {line : String}
    (hk : kind ≠ .text) (h : line? kind value = some line) : ¬ Text.EndsWithNewline line :=
  fun hn => newline_not_mem_of_line? hk h (List.mem_of_getLast? hn)

theorem endsOnce_iff_of_line? {kind : Kind} {value : Value} {line : String}
    (h : line? kind value = some line) :
    Text.EndsOnce (line.push '\n') ↔
      ∀ s, value = .text s → ¬ Text.EndsWithNewline (Text.cut 4095 s) := by
  rw [Text.endsOnce_push_iff]
  by_cases hk : kind = .text
  · subst hk
    cases value with
    | text s =>
      obtain rfl : Text.cut 4095 s = line := Option.some.inj h
      exact ⟨fun hn other he => Value.text.inj he ▸ hn, fun hn => hn s rfl⟩
    | int n => cases h
    | int64 n => cases h
    | ordinal n => cases h
  · refine iff_of_true (not_endsWithNewline_of_line? hk h) ?_
    rintro s rfl
    cases kind <;> first | exact absurd rfl hk | cases h

theorem terminated_of_encode {kind : Kind} {value : Value} {text : String}
    (h : encode kind value = .ok text) : Text.Terminated value text := by
  rw [encode_eq] at h
  split at h
  · next line hl =>
    cases h
    exact ⟨Text.endsWithNewline_push line, endsOnce_iff_of_line? hl⟩
  · cases h

end Codec

namespace Supply

theorem textOf_eq_ok_iff {kind : Kind} {answer : Except DeviceError Value} {text : String} :
    textOf kind answer = .ok text ↔
      ∃ value, answer = .ok value ∧ Codec.encode kind value = .ok text := by
  cases answer with
  | error e => simp [textOf]
  | ok value =>
    simp only [textOf, Codec.encode_eq, Except.ok.injEq, exists_eq_left']
    cases Codec.line? kind value <;> simp

section

variable {registry : Registry} {σ : Type} {supply : Supply (StateM σ)} {s : σ}

/-- What an attribute shows is the encoding of what was fetched for its property. -/
theorem exists_encode_of_showAttribute (hw : registry.WellFormed) {name text : String}
    (h : (supply.showAttribute registry name s).1 = .ok text) :
    ∃ d ∈ registry.descriptors, d.name = name ∧ ∃ s' value, (supply.fetch d s').1 = .ok value ∧
      Codec.encode d.kind value = .ok text := by
  cases hl : registry.lookup? name with
  | none =>
    rw [showAttribute_of_unknown supply hl] at h
    cases h
  | some d =>
    by_cases hm : (supply.mode d s).1 = .hidden
    · rw [showAttribute_of_hidden supply hl hm] at h
      cases h
    · obtain ⟨hd, hname⟩ := hw.lookup?_eq_some_iff.mp hl
      rw [showAttribute_of_visible supply hl hm, read_of_mem supply hw hd] at h
      obtain ⟨value, hv, he⟩ := textOf_eq_ok_iff.mp h
      exact ⟨d, hd, hname, _, value, hv, he⟩

end

/-- **Terminators.** Whatever is written ends with a newline, and with exactly one unless the value
is a text of which the part that fits on a page ends with a newline itself. What an attribute shows
was written for a value that its supply gave, so it ends in the same way. -/
theorem showAttribute_terminated {additions : List Addition} {registry : Registry}
    (hb : Registry.build additions = .ok registry) :
    (∀ kind value text, Codec.encode kind value = .ok text → Text.Terminated value text) ∧
    ∀ (σ : Type) (supply : Supply (StateM σ)) (s : σ) name text,
      (supply.showAttribute registry name s).1 = .ok text →
        ∃ d ∈ registry.descriptors, d.name = name ∧ ∃ s' value,
          (supply.fetch d s').1 = .ok value ∧ Codec.encode d.kind value = .ok text ∧
            Text.Terminated value text := by
  refine ⟨fun _ _ _ => Codec.terminated_of_encode, fun σ supply s name text h => ?_⟩
  have hw := Registry.wellFormed_of_build hb
  obtain ⟨d, hd, hname, s', value, hv, he⟩ := exists_encode_of_showAttribute hw h
  exact ⟨d, hd, hname, s', value, hv, he, Codec.terminated_of_encode he⟩

/-- A battery with nothing but a model name, which never changes. -/
def labelled (text : String) : Supply (StateM Unit) :=
  readOnly ⟨"BAT0", .battery, [⟨68⟩]⟩ fun _ => pure (.ok (.text text))

theorem showAttribute_terminated_labelled :
    Codec.encode .text (.text "A\nB") = .ok "A\nB\n" ∧ Text.EndsOnce "A\nB\n" ∧
      Registry.build [] = .ok .standard ∧
      ((labelled "A\nB").showAttribute .standard "model_name" ()).1 = .ok "A\nB\n" ∧
      ∃ d ∈ Registry.standard.descriptors, d.name = "model_name" ∧ ∃ s' value,
        ((labelled "A\nB").fetch d s').1 = .ok value ∧
          Codec.encode d.kind value = .ok "A\nB\n" ∧ Text.Terminated value "A\nB\n" := by
  have he : Codec.encode .text (.text "A\nB") = .ok "A\nB\n" := rfl
  have hs : ((labelled "A\nB").showAttribute .standard "model_name" ()).1 = .ok "A\nB\n" := by
    decide +kernel
  obtain ⟨written, shown⟩ := showAttribute_terminated Registry.build_nil
  refine ⟨he, (written _ _ _ he).endsOnce_iff.mpr ?_, Registry.build_nil, hs,
    shown _ _ _ _ _ hs⟩
  rintro s ⟨⟩
  decide

/-- A text that ends with a newline is shown with two. -/
theorem showAttribute_twoNewlines :
    Codec.encode .text (.text "A\n") = .ok "A\n\n" ∧
      Registry.build [] = .ok .standard ∧
      ((labelled "A\n").showAttribute .standard "model_name" ()).1 = .ok "A\n\n" ∧
      ¬ Text.EndsOnce "A\n\n" :=
  ⟨rfl, Registry.build_nil, by decide +kernel,
    fun h : Text.EndsOnce ("A\n".push '\n') => Text.endsOnce_push_iff.mp h (by decide)⟩

end Supply
end PowerClass
