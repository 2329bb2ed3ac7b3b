/-!
# PowerClass.Text.Blank

White space, in the sense of Unicode's `White_Space` property, and text without the white space
at its two ends. Attribute text is trimmed this way before it is read as a value.

* `trimChars_eq_infix`: trimming only takes white space away, and only at the ends.
* `trim_push_newline` and `trim_eq_self`: one line, trimmed, is its contents when these hold no
  white space.
-/

namespace PowerClass
namespace Text

/-- The characters of Unicode's `White_Space` property. -/
def isBlank (c : Char) : Bool :=
  let n := c.toNat
  (9 ≤ n && n ≤ 13) || n == 0x20 || n == 0x85 || n == 0xA0 || n == 0x1680 ||
    (0x2000 ≤ n && n ≤ 0x200A) || n == 0x2028 || n == 0x2029 || n == 0x202F || n == 0x205F ||
    n == 0x3000

/-- Characters without those in the class at the end. -/
def dropTail (p : Char → Bool) (cs : List Char) : List Char :=
  (cs.reverse.dropWhile p).reverse

/-- Characters without the white space at either end. -/
def trimChars (cs : List Char) : List Char :=
  dropTail isBlank (cs.dropWhile isBlank)

/-- Text without the white space at either end. -/
def trim (s : String) : String :=
  String.ofList (trimChars s.toList)

/-- Text without the newlines at its end. -/
def dropNewlines (s : String) : String :=
  String.ofList (dropTail (· == '\n') s.toList)

/-- Text up to its first newline, all of it when there is none. -/
def firstLine (s : String) : String :=
  String.ofList (s.toList.takeWhile (· != '\n'))

theorem dropTail_append_takeWhile (p : Char → Bool) (cs : List Char) :
    dropTail p cs ++ (cs.reverse.takeWhile p).reverse = cs := by
  rw [dropTail, ← List.reverse_append, List.takeWhile_append_dropWhile, List.reverse_reverse]

/-- Trimming only takes white space away, and only at the ends. -/
theorem trimChars_eq_infix (cs : List Char) :
    ∃ front back, (∀ c ∈ front, isBlank c = true) ∧ (∀ c ∈ back, isBlank c = true) ∧
      cs = front ++ trimChars cs ++ back := by
  refine ⟨cs.takeWhile isBlank, ((cs.dropWhile isBlank).reverse.takeWhile isBlank).reverse,
    fun c h => ?_, fun c h => ?_, ?_⟩
  · have := List.all_takeWhile (l := cs) (p := isBlank)
    exact List.all_eq_true.mp this c h
  · have := List.all_takeWhile (l := (cs.dropWhile isBlank).reverse) (p := isBlank)
    exact List.all_eq_true.mp this c (List.mem_reverse.mp h)
  · rw [trimChars, List.append_assoc, dropTail_append_takeWhile, List.takeWhile_append_dropWhile]

theorem trimChars_append_blank (cs : List Char) {c : Char} (h : isBlank c = true) :
    trimChars (cs ++ [c]) = trimChars cs := by
  rw [trimChars, trimChars, List.dropWhile_append]
  split
  · next hd => simp [h, dropTail, List.isEmpty_iff.mp hd]
  · simp [dropTail, h]

/-- A newline at the end does not survive trimming. -/
theorem trim_push_newline (s : String) : trim (s.push '\n') = trim s := by
  rw [trim, trim, String.toList_push, trimChars_append_blank _ (by decide)]

theorem trimChars_eq_self {cs : List Char} (h : ∀ c ∈ cs, isBlank c = false) :
    trimChars cs = cs := by
  have hn : ∀ blanks : List Char, (∀ c ∈ blanks, isBlank c = true) → (∀ c ∈ blanks, c ∈ cs) →
      blanks = [] := by
    intro blanks hb hs
    refine List.eq_nil_iff_forall_not_mem.mpr fun c hc => ?_
    have := hb c hc
    rw [h c (hs c hc)] at this
    cases this
  obtain ⟨front, back, hf, hb, he⟩ := trimChars_eq_infix cs
  have hfront : front = [] := hn front hf fun c hc => by rw [he]; simp [hc]
  have hback : back = [] := hn back hb fun c hc => by rw [he]; simp [hc]
  rw [hfront, hback, List.nil_append, List.append_nil] at he
  exact he.symm

/-- Text without white space is trimmed already. -/
theorem trim_eq_self {s : String} (h : ∀ c ∈ s.toList, isBlank c = false) : trim s = s := by
  rw [trim, trimChars_eq_self h, String.ofList_toList]

end Text
end PowerClass
