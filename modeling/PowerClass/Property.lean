import PowerClass.Value

/-!
# PowerClass.Property

A property is known by a small number, its identifier, and described by a name and a kind. The
standard properties come first in every registry, so their identifiers are the same everywhere.
-/

namespace PowerClass

/-- The identifier of a property: its position in a registry. -/
structure PropertyId where
  index : UInt16
  deriving DecidableEq

namespace PropertyId

def display (id : PropertyId) : String :=
  "#" ++ Decimal.ofNat id.index.toNat

def toJson (id : PropertyId) : Json :=
  .int id.index.toNat

/-- The identifier that JSON holds, none for anything but a whole number of 16 bits. -/
def ofJson? : Json → Option PropertyId
  | .number n 0 => if 0 ≤ n ∧ n < 0x10000 then some ⟨UInt16.ofNat n.toNat⟩ else none
  | _ => none

def le (a b : PropertyId) : Bool :=
  a.index.toNat ≤ b.index.toNat

end PropertyId

/-- What a registry is built from: a name and a kind. -/
structure Entry where
  name : String
  kind : Kind
  deriving DecidableEq

/-- A registered property. The name is that of its attribute; in capitals it is its key in a
snapshot. -/
structure Descriptor where
  id : PropertyId
  name : String
  kind : Kind
  deriving DecidableEq

namespace Descriptor

def toJson (d : Descriptor) : Json :=
  .obj [("id", d.id.toJson), ("name", .str d.name), ("kind", d.kind.toJson)]

end Descriptor

/-- The standard properties, in the order of their identifiers. -/
def standardEntries : List Entry :=
  List.map (fun (name, kind) => ⟨name, kind⟩)
  [("status", .enum .status), ("charge_type", .enum .chargeType), ("health", .enum .health),
    ("present", .int32), ("online", .int32), ("authentic", .int32),
    ("technology", .enum .technology), ("cycle_count", .int32), ("voltage_max", .int32),
    ("voltage_min", .int32), ("voltage_max_design", .int32), ("voltage_min_design", .int32),
    ("voltage_now", .int32), ("voltage_avg", .int32), ("voltage_ocv", .int32),
    ("voltage_boot", .int32), ("current_max", .int32), ("current_now", .int32),
    ("current_avg", .int32), ("current_boot", .int32), ("power_now", .int32),
    ("power_avg", .int32), ("charge_full_design", .int32), ("charge_empty_design", .int32),
    ("charge_full", .int32), ("charge_empty", .int32), ("charge_now", .int32),
    ("charge_avg", .int32), ("charge_counter", .int32), ("constant_charge_current", .int32),
    ("constant_charge_current_max", .int32), ("constant_charge_voltage", .int32),
    ("constant_charge_voltage_max", .int32), ("charge_control_limit", .int32),
    ("charge_control_limit_max", .int32), ("input_current_limit", .int32),
    ("energy_full_design", .int32), ("energy_empty_design", .int32), ("energy_full", .int32),
    ("energy_empty", .int32), ("energy_now", .int32), ("energy_avg", .int32),
    ("capacity", .int32), ("capacity_alert_min", .int32), ("capacity_alert_max", .int32),
    ("capacity_level", .enum .capacityLevel), ("temp", .int32), ("temp_max", .int32),
    ("temp_min", .int32), ("temp_alert_min", .int32), ("temp_alert_max", .int32),
    ("temp_ambient", .int32), ("temp_ambient_alert_min", .int32),
    ("temp_ambient_alert_max", .int32), ("time_to_empty_now", .int32),
    ("time_to_empty_avg", .int32), ("time_to_full_now", .int32), ("time_to_full_avg", .int32),
    ("type", .deviceType), ("scope", .enum .scope), ("precharge_current", .int32),
    ("charge_term_current", .int32), ("calibrate", .int32), ("usb_hc", .int32),
    ("usb_otg", .int32), ("charge_enabled", .int32), ("charge_counter_ext", .int64),
    ("flashlight_temp", .int32), ("model_name", .text), ("manufacturer", .text),
    ("serial_number", .text)]

end PowerClass
