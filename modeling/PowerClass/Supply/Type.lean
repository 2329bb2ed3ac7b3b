import PowerClass.Table
import PowerClass.Text.Blank

/-!
# PowerClass.Supply.Type

The types of power supply. The ordinal of a type is its position in the table of types, whose text
is the label of the type.

* `ofOrdinal?_ordinal`: a type is found again by its ordinal.
-/

namespace PowerClass

/-- A type of power supply. -/
inductive SupplyType where
  | unknown
  | battery
  | ups
  | mains
  | usb
  | usbDcp
  | usbCdp
  | usbAca
  | wireless
  | usbC
  | usbPd
  | usbPdDrp
  | brickId
  deriving DecidableEq

namespace SupplyType

def all : List SupplyType :=
  [.unknown, .battery, .ups, .mains, .usb, .usbDcp, .usbCdp, .usbAca, .wireless, .usbC, .usbPd,
    .usbPdDrp, .brickId]

def ordinal : SupplyType → Nat
  | .unknown => 0
  | .battery => 1
  | .ups => 2
  | .mains => 3
  | .usb => 4
  | .usbDcp => 5
  | .usbCdp => 6
  | .usbAca => 7
  | .wireless => 8
  | .usbC => 9
  | .usbPd => 10
  | .usbPdDrp => 11
  | .brickId => 12

def ofOrdinal? (n : Int) : Option SupplyType :=
  if 0 ≤ n then all[n.toNat]? else none

def label (t : SupplyType) : String :=
  (Table.type.text? t.ordinal).getD "Unknown"

/-- The type that the text of a `type` attribute names. -/
def ofLabel? (text : String) : Option SupplyType :=
  (Table.type.position? (Text.trim text)).bind fun i => all[i]?

def variants : List (String × SupplyType) :=
  all.map fun t => (t.label, t)

def toJson (t : SupplyType) : Json :=
  .str t.label

def ofJson? : Json → Option SupplyType :=
  Json.variant? variants

theorem ofOrdinal?_ordinal (t : SupplyType) : ofOrdinal? t.ordinal = some t := by
  cases t <;> rfl

end SupplyType
end PowerClass
