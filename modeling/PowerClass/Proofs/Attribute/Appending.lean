import PowerClass.Proofs.Attribute.Access
import PowerClass.Supply.Scripted

/-!
# PowerClass.Proofs.Attribute.Appending

Readings onto a buffer of the caller. A caller may keep one buffer for many properties: what the
buffer holds is never changed, and a reading that fails adds nothing to it.

* `Result.appendTo`: a text at the end of a buffer, or a failure that leaves the buffer alone.
* `encodeOnto_eq_appendTo`, `render_eq_appendTo`: the codec and the device's answer.
* `readOnto_appends`: a reading onto a buffer makes the calls of a reading and appends its result.
-/

namespace PowerClass

/-- What a caller is told and what the buffer holds, when a result is appended to it. -/
def Result.appendTo {ε : Type} (buffer : String) : Except ε String → Except ε Unit × String
  | .ok text => (.ok (), buffer ++ text)
  | .error e => (.error e, buffer)

theorem Text.push_append (buffer line : String) (c : Char) :
    (buffer ++ line).push c = buffer ++ line.push c := by
  rw [String.push_eq_append, String.push_eq_append, String.append_assoc]

namespace Codec

theorem encodeOnto_eq_appendTo (buffer : String) (kind : Kind) (value : Value) :
    encodeOnto buffer kind value = Result.appendTo buffer (encode kind value) := by
  rw [encodeOnto_eq, encode_eq]
  cases line? kind value with
  | some line => simp only [Result.appendTo, Text.push_append]
  | none => rfl

end Codec

namespace Supply

/-- The text of an answer goes after what the buffer holds, and no error of the device or of the
codec leaves a part of a text behind. -/
theorem render_eq_appendTo (buffer : String) (kind : Kind) (answer : Except DeviceError Value) :
    render buffer kind answer = Result.appendTo buffer (textOf kind answer) := by
  cases answer with
  | error e => rfl
  | ok value =>
    simp only [render, textOf, Codec.encodeOnto_eq]
    cases Codec.line? kind value with
    | some line => simp only [Result.appendTo, Text.push_append]
    | none => rfl

variable {m : Type → Type} [Monad m] [LawfulMonad m]

theorem readOnto_eq_appendTo (supply : Supply m) (registry : Registry) (id : PropertyId)
    (buffer : String) :
    supply.readOnto registry id buffer =
      Result.appendTo buffer <$> supply.read registry id := by
  rw [read_eq, readOnto]
  cases registry.get? id with
  | none => simp only [map_pure, Result.appendTo]
  | some d =>
    simp only [Functor.map_map]
    exact congrArg (· <$> supply.fetch d) (funext fun answer =>
      render_eq_appendTo buffer d.kind answer)

/-- **Appending.** Whatever a device does, a reading onto a buffer asks it as a reading does and
appends the result: a text goes after what the buffer holds, and a reading that fails, for whatever
reason, fails with the same error and leaves the buffer as it was. So does an encoding onto a
buffer, of any value, whether it fits the kind or not. -/
theorem readOnto_appends (supply : Supply m) (registry : Registry) :
    (∀ id buffer, supply.readOnto registry id buffer =
      Result.appendTo buffer <$> supply.read registry id) ∧
    ∀ kind value buffer, Codec.encodeOnto buffer kind value =
      Result.appendTo buffer (Codec.encode kind value) :=
  ⟨readOnto_eq_appendTo supply registry, fun kind value buffer =>
    Codec.encodeOnto_eq_appendTo buffer kind value⟩

/-- A battery that has a temperature, and a text where its health should be. -/
def gauge : Supply (StateM Script) :=
  Script.supply ⟨"BAT0", .battery, [⟨2⟩, ⟨46⟩]⟩ []

def gaugeAnswers : Script :=
  ⟨⟨[(⟨46⟩, .ok (.int 253)), (⟨2⟩, .ok (.text "Good"))]⟩, none⟩

/-- Only the temperature is appended: the health does not fit, the status has no data, and nobody
knows the last property. -/
theorem readOnto_appends_gauge :
    LawfulMonad (StateM Script) ∧
      (gauge.readOnto .standard ⟨46⟩ "BAT0\n" gaugeAnswers).1 = (.ok (), "BAT0\n253\n") ∧
      (gauge.readOnto .standard ⟨2⟩ "BAT0\n" gaugeAnswers).1 =
        (.error (.deviceFailure (.invalidValue (.kindMismatch (.enum .health) .text))),
          "BAT0\n") ∧
      (gauge.readOnto .standard ⟨0⟩ "BAT0\n" gaugeAnswers).1 = (.error .noData, "BAT0\n") ∧
      (gauge.readOnto .standard ⟨9999⟩ "BAT0\n" gaugeAnswers).1 =
        (.error (.unknownProperty ⟨9999⟩), "BAT0\n") ∧
      Codec.encodeOnto "BAT0\n" .text (.int 1) =
        (.error (.kindMismatch .text .int), "BAT0\n") := by
  obtain ⟨reading, encoding⟩ := readOnto_appends gauge .standard
  refine ⟨inferInstance, ?_, ?_, ?_, ?_, encoding _ _ _⟩ <;> rw [reading] <;> decide +kernel

end Supply
end PowerClass
