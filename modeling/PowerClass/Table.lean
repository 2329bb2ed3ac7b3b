import PowerClass.Json

/-!
# PowerClass.Table

The enumerated properties take their texts from fixed tables. The ordinal of a value is its
position in its table; both drivers and readers of attributes depend on that numbering.

* `text?_position?` and `position?_text?`: position and text are inverse to each other.
-/

namespace PowerClass

/-- A table of texts. -/
inductive Table where
  | status
  | chargeType
  | health
  | technology
  | capacityLevel
  | type
  | scope
  deriving DecidableEq

namespace Table

def all : List Table :=
  [.status, .chargeType, .health, .technology, .capacityLevel, .type, .scope]

def entries : Table → List String
  | .status =>
    ["Unknown", "Charging", "Discharging", "Not charging", "Full", "Cmd discharging"]
  | .chargeType => ["Unknown", "N/A", "Trickle", "Fast"]
  | .health =>
    ["Unknown", "Good", "Overheat", "Dead", "Over voltage", "Unspecified failure", "Cold",
      "Watchdog timer expire", "Safety timer expire"]
  | .technology => ["Unknown", "NiMH", "Li-ion", "Li-poly", "LiFe", "NiCd", "LiMn"]
  | .capacityLevel => ["Unknown", "Critical", "Low", "Normal", "High", "Full"]
  | .type =>
    ["Unknown", "Battery", "UPS", "Mains", "USB", "USB_DCP", "USB_CDP", "USB_ACA", "Wireless",
      "USB_C", "USB_PD", "USB_PD_DRP", "BrickID"]
  | .scope => ["Unknown", "System", "Device"]

def label : Table → String
  | .status => "status"
  | .chargeType => "charge_type"
  | .health => "health"
  | .technology => "technology"
  | .capacityLevel => "capacity_level"
  | .type => "type"
  | .scope => "scope"

/-- The text of an ordinal, none outside the table. -/
def text? (table : Table) (ordinal : Int) : Option String :=
  if 0 ≤ ordinal then table.entries[ordinal.toNat]? else none

/-- The ordinal of a text. Case counts. -/
def position? (table : Table) (text : String) : Option Nat :=
  table.entries.idxOf? text

def toJson (table : Table) : Json :=
  .str table.label

def ofJson? : Json → Option Table :=
  Json.variant? (all.map fun table => (table.label, table))

theorem nodup_entries (table : Table) : table.entries.Nodup := by
  cases table <;> decide

/-- The text at a position is the text that was looked up. -/
theorem text?_position? {table : Table} {text : String} {i : Nat}
    (h : table.position? text = some i) : table.text? i = some text := by
  rw [position?, List.idxOf?, List.findIdx?_eq_some_iff_getElem] at h
  obtain ⟨hi, he, -⟩ := h
  rw [text?, if_pos (Int.natCast_nonneg i), Int.toNat_natCast, List.getElem?_eq_getElem hi]
  exact congrArg some (eq_of_beq he)

theorem mem_entries_of_text? {table : Table} {n : Int} {text : String}
    (h : table.text? n = some text) : text ∈ table.entries := by
  rw [text?] at h
  split at h
  · exact List.mem_of_getElem? h
  · cases h

/-- The position of the text at an ordinal is that ordinal. -/
theorem position?_text? {table : Table} {n : Int} {text : String}
    (h : table.text? n = some text) : 0 ≤ n ∧ table.position? text = some n.toNat := by
  rw [text?] at h
  split at h
  · next hn =>
    obtain ⟨hi, he⟩ := List.getElem?_eq_some_iff.mp h
    refine ⟨hn, List.idxOf?_eq_some_iff.mpr ⟨hi, he, fun j hj hej => ?_⟩⟩
    have : j = n.toNat := (List.getElem_inj table.nodup_entries).mp (hej.trans he.symm)
    omega
  · cases h

end Table
end PowerClass
