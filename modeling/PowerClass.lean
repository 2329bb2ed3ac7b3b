import PowerClass.Host.Recorded
import PowerClass.Main
import PowerClass.Proofs.Attribute.Appending
import PowerClass.Proofs.Attribute.Terminator
import PowerClass.Proofs.Attribute.Views
import PowerClass.Proofs.Codec.Grammar
import PowerClass.Proofs.Codec.Page
import PowerClass.Proofs.RateLimit.Accounting
import PowerClass.Proofs.RateLimit.Pace
import PowerClass.Proofs.Registry.Construction
import PowerClass.Proofs.Settings.Merged
import PowerClass.Proofs.Snapshot.Keys
import PowerClass.Proofs.Supply.Accepting
import PowerClass.Proofs.Supply.Calls
import PowerClass.Proofs.Supply.Confined
import PowerClass.Proofs.Supply.Copy
import PowerClass.Proofs.Supply.Discovery
import PowerClass.Proofs.Supply.Extended
import PowerClass.Proofs.Supply.Fitting
import PowerClass.Proofs.Supply.Opening
import PowerClass.Proofs.Supply.ReadBack
import PowerClass.Proofs.Supply.Register
import PowerClass.Proofs.Supply.Reordered
import PowerClass.Proofs.Supply.WriteBack
import PowerClass.Proofs.Uevent.Capacity
import PowerClass.Proofs.Uevent.Limits
import PowerClass.Proofs.Uevent.Lines
