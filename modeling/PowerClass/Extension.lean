import PowerClass.Property

/-!
# PowerClass.Extension

Properties of vendors, appended to the standard ones. They are plain data: three sets that are
known by name, whose entries are all `int` properties, and single properties that a configuration
gives.
-/

namespace PowerClass

/-- A known set of vendor properties. -/
inductive ExtensionSet where
  | mtkGauge
  | oppo
  | oppoShortUserspace
  deriving DecidableEq

namespace ExtensionSet

def all : List ExtensionSet := [.mtkGauge, .oppo, .oppoShortUserspace]

def name : ExtensionSet → String
  | .mtkGauge => "mtk-gauge"
  | .oppo => "oppo"
  | .oppoShortUserspace => "oppo-short-userspace"

def properties : ExtensionSet → List String
  | .mtkGauge =>
    ["batt_vol", "batt_temp", "TemperatureR", "TempBattVoltage", "InstatVolt",
      "BatteryAverageCurrent", "BatterySenseVoltage", "ISenseVoltage", "ChargerVoltage",
      "status_smb", "capacity_smb", "present_smb", "adjust_power"]
  | .oppo =>
    ["authenticate", "charge_timeout", "battery_request_poweroff", "charge_technology",
      "fastcharger", "mmi_charging_enable", "stop_charging_enable", "otg_switch", "otg_online",
      "batt_fcc", "batt_soh", "batt_cc", "batt_rm", "notify_code", "cool_down", "charger_ic",
      "hmac", "adapter_fw_update", "internal_capacity", "chargerid_volt", "voocchg_ing",
      "primal_type", "call_mode", "ship_mode", "short_c_batt_update_change",
      "short_c_batt_in_idle", "short_c_batt_cv_status", "short_c_hw_feature",
      "short_c_hw_status", "short_ic_otp_status", "short_ic_volt_thresh", "short_ic_otp_value",
      "fast2normal_chg", "chip_soc", "smooth_soc", "typec_cc_orientation", "usb_status",
      "usbtemp_volt_l", "usbtemp_volt_r", "typec_sbu_voltage", "water_detect_feature",
      "fast_chg_type"]
  | .oppoShortUserspace =>
    ["short_c_batt_limit_chg", "short_c_batt_limit_rechg", "input_current_settled"]

/-- The set with a name. Case counts. -/
def ofName? (name : String) : Option ExtensionSet :=
  all.find? fun set => set.name == name

def entries (set : ExtensionSet) : List Entry :=
  set.properties.map fun name => ⟨name, .int32⟩

def variants : List (String × ExtensionSet) :=
  all.map fun set => (set.name, set)

def toJson (set : ExtensionSet) : Json :=
  .str set.name

def ofJson? : Json → Option ExtensionSet :=
  Json.variant? variants

end ExtensionSet

/-- The kinds that a configured property may have. -/
inductive ExtensionKind where
  | int
  | int64
  | text
  deriving DecidableEq

namespace ExtensionKind

def label : ExtensionKind → String
  | .int => "int"
  | .int64 => "int64"
  | .text => "text"

def variants : List (String × ExtensionKind) :=
  [("int", .int), ("int64", .int64), ("text", .text)]

def kind : ExtensionKind → Kind
  | .int => .int32
  | .int64 => .int64
  | .text => .text

def toJson (kind : ExtensionKind) : Json :=
  .str kind.label

def ofJson? : Json → Option ExtensionKind :=
  Json.variant? variants

end ExtensionKind

/-- A single vendor property. -/
structure Extension where
  name : String
  kind : ExtensionKind := .int
  deriving DecidableEq

namespace Extension

def entry (e : Extension) : Entry :=
  ⟨e.name, e.kind.kind⟩

def toJson (e : Extension) : Json :=
  .obj [("name", .str e.name), ("kind", e.kind.toJson)]

/-- The property that JSON describes: an object whose other fields count for nothing, or an array
of name and kind. The kind may be left out. -/
def ofJson? : Json → Option Extension
  | .obj fields =>
    match (fields.lookup "name").bind Json.text?, fields.lookup "kind" with
    | some name, none => some ⟨name, .int⟩
    | some name, some kind => (ExtensionKind.ofJson? kind).map (⟨name, ·⟩)
    | none, _ => none
  | .arr [.str name] => some ⟨name, .int⟩
  | .arr [.str name, kind] => (ExtensionKind.ofJson? kind).map (⟨name, ·⟩)
  | _ => none

end Extension
end PowerClass
