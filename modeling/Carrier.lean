import Carrier.Config.Directory
import Carrier.Main
import Carrier.Proofs.Config.Duplicates
import Carrier.Proofs.Config.Environment
import Carrier.Proofs.Config.References
import Carrier.Proofs.Config.Soundness
import Carrier.Proofs.Dial.Entries
import Carrier.Proofs.Dial.Flaws
import Carrier.Proofs.Dial.Identity
import Carrier.Proofs.Forwarder.Accounting
import Carrier.Proofs.Forwarder.Isolation
import Carrier.Proofs.Forwarder.Lifetime
import Carrier.Proofs.Forwarder.Shutdown
import Carrier.Proofs.Header.Assembly
import Carrier.Proofs.Override.Destination
import Carrier.Proofs.Override.Effects
import Carrier.Proofs.Override.Grammar
import Carrier.Proofs.Program.Announcement
import Carrier.Proofs.Program.Draining
import Carrier.Proofs.Program.Exit
import Carrier.Proofs.Program.Secrecy
import Carrier.Proofs.Program.Startup
import Carrier.Proofs.Program.Validation
import Carrier.Proofs.Relay.Attribution
import Carrier.Proofs.Relay.Departure
import Carrier.Proofs.Relay.Inbound
import Carrier.Proofs.Relay.Independence
import Carrier.Proofs.Relay.Interludes
import Carrier.Proofs.Relay.Segmentation
import Carrier.Proofs.Stdio.Refinement
import Carrier.Proofs.Upgrade.Composition
import Carrier.Proofs.Upgrade.Presented
import Carrier.Proofs.Dial.Outcome
import Carrier.Proofs.Url.Listener
