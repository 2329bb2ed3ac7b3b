import PowerClass.Proofs.Registry.Built

/-!
# PowerClass.Proofs.Registry.Capitals

Names in capitals, which are the keys of snapshots.

* `toNat_toUpper`: what a capital is as a code point.
* `IsName.toUpper`: in capitals, a name is still one.
* `toUpper_inj`: among names without capitals, no two become the same.
-/

namespace PowerClass
namespace Registry

theorem toNat_toUpper (c : Char) :
    c.toUpper.toNat = if 97 ≤ c.toNat ∧ c.toNat ≤ 122 then c.toNat - 32 else c.toNat := by
  unfold Char.toUpper
  split
  · next h =>
    have hl : 97 ≤ c.toNat ∧ c.toNat ≤ 122 := h
    rw [if_pos hl, Char.toNat_mk, UInt32.toNat_add]
    show (c.toNat + 4294967264) % 4294967296 = c.toNat - 32
    omega
  · next h =>
    exact (if_neg h).symm

theorem isUpper_iff_toNat {c : Char} : c.isUpper = true ↔ 65 ≤ c.toNat ∧ c.toNat ≤ 90 :=
  decide_eq_true_iff

theorem isLower_iff_toNat {c : Char} : c.isLower = true ↔ 97 ≤ c.toNat ∧ c.toNat ≤ 122 := by
  have hl : c.isLower = (decide ('a'.val ≤ c.val) && decide (c.val ≤ 'z'.val)) := rfl
  rw [hl, Bool.and_eq_true, decide_eq_true_iff, decide_eq_true_iff]
  rfl

theorem isNameChar_iff_toNat {c : Char} :
    isNameChar c = true ↔ 65 ≤ c.toNat ∧ c.toNat ≤ 90 ∨ 97 ≤ c.toNat ∧ c.toNat ≤ 122 ∨
      48 ≤ c.toNat ∧ c.toNat ≤ 57 ∨ c.toNat = 95 := by
  have ha : c.isAlphanum = (c.isUpper || c.isLower || c.isDigit) := rfl
  have hd : c.isDigit = true ↔ 48 ≤ c.toNat ∧ c.toNat ≤ 57 := Char.isDigit_iff_toNat
  have hu : c = '_' ↔ c.toNat = 95 := Char.toNat_inj.symm
  simp only [isNameChar, ha, Bool.or_eq_true, isUpper_iff_toNat, isLower_iff_toNat, hd,
    beq_iff_eq, hu, or_assoc]

theorem isNameChar_toUpper {c : Char} (h : isNameChar c = true) :
    isNameChar c.toUpper = true := by
  rw [isNameChar_iff_toNat] at h ⊢
  rw [toNat_toUpper]
  split <;> omega

theorem toList_toUpper (name : String) : name.toUpper.toList = name.toList.map Char.toUpper :=
  String.toList_map

theorem IsName.toUpper {name : String} (h : IsName name) : IsName name.toUpper := by
  obtain ⟨hne, hc⟩ := h
  refine ⟨fun he => hne ?_, fun c hm => ?_⟩
  · rw [← String.toList_inj, toList_toUpper] at he
    exact String.toList_inj.mp (List.map_eq_nil_iff.mp he)
  · rw [toList_toUpper] at hm
    obtain ⟨d, hd, rfl⟩ := List.mem_map.mp hm
    exact isNameChar_toUpper (hc d hd)

theorem toUpper_char_inj {c d : Char} (hc : c.isUpper = false) (hd : d.isUpper = false)
    (h : c.toUpper = d.toUpper) : c = d := by
  rw [Bool.eq_false_iff, ne_eq, isUpper_iff_toNat] at hc hd
  rw [← Char.toNat_inj, toNat_toUpper, toNat_toUpper] at h
  rw [← Char.toNat_inj]
  split at h <;> split at h <;> omega

theorem toUpper_inj {a b : String} (ha : a.toList.any Char.isUpper = false)
    (hb : b.toList.any Char.isUpper = false) (h : a.toUpper = b.toUpper) : a = b := by
  rw [← String.toList_inj, toList_toUpper, toList_toUpper] at h
  rw [← String.toList_inj]
  generalize a.toList = cs at ha h
  generalize b.toList = ds at hb h
  induction cs generalizing ds with
  | nil => exact (List.map_eq_nil_iff.mp h.symm).symm
  | cons c cs ih =>
    cases ds with
    | nil => cases h
    | cons d ds =>
      rw [List.map_cons, List.map_cons, List.cons.injEq] at h
      rw [List.any_cons, Bool.or_eq_false_iff] at ha hb
      rw [toUpper_char_inj ha.1 hb.1 h.1, ih ha.2 ds hb.2 h.2]

end Registry
end PowerClass
