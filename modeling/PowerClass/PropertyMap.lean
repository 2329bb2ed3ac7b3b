import PowerClass.Property

/-!
# PowerClass.PropertyMap

Maps from properties to values, as devices keep them.

* `get?_insert` and `get?_erase`: the two changes through look-up.
-/

namespace PowerClass

/-- Pairs of a property and what it holds. The first pair of a property counts. -/
structure PropertyMap (α : Type) where
  pairs : List (PropertyId × α)
  deriving DecidableEq

namespace PropertyMap

variable {α : Type}

/-- The map of nothing. -/
def empty : PropertyMap α := ⟨[]⟩

def get? (map : PropertyMap α) (id : PropertyId) : Option α :=
  map.pairs.lookup id

/-- The map without a property. -/
def erase (map : PropertyMap α) (id : PropertyId) : PropertyMap α :=
  ⟨map.pairs.filter fun pair => pair.1 != id⟩

def insert (map : PropertyMap α) (id : PropertyId) (value : α) : PropertyMap α :=
  ⟨(id, value) :: (map.erase id).pairs⟩

def keys (map : PropertyMap α) : List PropertyId :=
  map.pairs.map Prod.fst

@[simp] theorem get?_empty (id : PropertyId) : (empty : PropertyMap α).get? id = none := rfl

theorem get?_erase (map : PropertyMap α) (id other : PropertyId) :
    (map.erase id).get? other = if other = id then none else map.get? other := by
  obtain ⟨pairs⟩ := map
  simp only [erase, get?]
  induction pairs with
  | nil => simp
  | cons pair rest ih =>
    obtain ⟨k, v⟩ := pair
    by_cases ho : other = k
    · subst ho
      by_cases hk : other = id
      · subst hk; simpa using ih
      · simp [hk]
    · have hb : (other == k) = false := beq_eq_false_iff_ne.mpr ho
      by_cases hk : k = id
      · subst hk; simpa [List.lookup_cons, hb] using ih
      · simpa [List.lookup_cons, hk, hb] using ih

theorem get?_insert (map : PropertyMap α) (id other : PropertyId) (value : α) :
    (map.insert id value).get? other = if other = id then some value else map.get? other := by
  by_cases ho : other = id
  · subst ho; simp [insert, get?]
  · have hb : (other == id) = false := beq_eq_false_iff_ne.mpr ho
    have h := get?_erase map id other
    rw [if_neg ho] at h ⊢
    rw [← h]
    simp [insert, get?, List.lookup_cons, hb]

end PropertyMap
end PowerClass
