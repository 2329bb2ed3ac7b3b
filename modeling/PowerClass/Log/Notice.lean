import PowerClass.Log.Event
import PowerClass.Source
import PowerClass.Uevent

/-!
# PowerClass.Log.Notice

What the program logs, and how each notice reads as a log line. Names and paths stand in quotes.
-/

namespace PowerClass

/-- Something worth a log line. -/
inductive Notice where
  | registryBuilt (size : Nat)
  | registryReady (source : Source) (size : Nat)
  | opened (declaration : Declaration)
  | skipped (path : Path) (error : Directory.OpenError)
  | noData (supply property : String)
  | readingFailed (supply property : String) (error : AccessError) (suppressed : Nat)
  | storing (supply property : String) (value : Value)
  | stored (supply property : String) (size : Nat)
  | refused (var : String) (refusal : Uevent.Refusal)
  | snapshotFailed (supply : String) (error : AccessError)

namespace Notice

def mark (property : String) : String :=
  "`" ++ property ++ "` property"

def event : Notice → Event
  | .registryBuilt size =>
    ⟨.debug, "supplyfs_property::registry", "property registry built",
      [("properties", Decimal.ofNat size)]⟩
  | .registryReady source size =>
    ⟨.debug, "supplyfs::commands", "registry ready",
      [("source", source.display), ("properties", Decimal.ofNat size)]⟩
  | .opened d =>
    ⟨.debug, "supplyfs_platform::sysfs", "opened sysfs supply",
      [("supply", Text.quote d.name), ("supply_type", d.type.label),
        ("properties", Decimal.ofNat d.properties.length)]⟩
  | .skipped path error =>
    ⟨.debug, "supplyfs_platform::sysfs", "skipping supply",
      [("path", path.text), ("error", error.causes.headD "")]⟩
  | .noData supply property =>
    ⟨.debug, "supplyfs_property::accessor", "driver has no data for " ++ mark property,
      [("supply", Text.quote supply)]⟩
  | .readingFailed supply property error suppressed =>
    ⟨.error, "supplyfs_property::accessor",
      "driver failed to report " ++ mark property ++ ": " ++ error.message,
      [("supply", Text.quote supply), ("suppressed", Decimal.ofNat suppressed)]⟩
  | .storing supply property value =>
    ⟨.debug, "supplyfs_property::accessor", "storing property",
      [("supply", Text.quote supply), ("property", property), ("value", value.display)]⟩
  | .stored supply property size =>
    ⟨.info, "supplyfs::commands::attr", "attribute stored",
      [("device", Text.quote supply), ("property", Text.quote property),
        ("written", Decimal.ofNat size)]⟩
  | .refused var refusal =>
    ⟨.warn, "supplyfs_property::snapshot", refusal.message, [("var", Text.quote var)]⟩
  | .snapshotFailed supply error =>
    ⟨.warn, "supplyfs::commands::watch", "snapshot failed",
      [("device", Text.quote supply), ("error", error.message)]⟩

end Notice
end PowerClass
