import Switchboard.Files.Tree
import Switchboard.Main
import Switchboard.Proofs.Config.Document
import Switchboard.Proofs.Config.Precedence
import Switchboard.Proofs.Config.Sources
import Switchboard.Proofs.Dispatch.Cut
import Switchboard.Proofs.Dispatch.Names
import Switchboard.Proofs.Dispatch.Series
import Switchboard.Proofs.Dispatch.Snapshot
import Switchboard.Proofs.Host.Disabled
import Switchboard.Proofs.Host.Order
import Switchboard.Proofs.Registry.Gap
import Switchboard.Proofs.Registry.Refused
import Switchboard.Proofs.Selector.Grammar
import Switchboard.Proofs.Toml.Tidy
import Switchboard.Proofs.Wiring.Account
import Switchboard.Proofs.Wiring.Checked
import Switchboard.Session.Basic
import Switchboard.Value.Reader
import Switchboard.Proofs.Selector.Matching
import Switchboard.Proofs.Dispatch.Course
import Switchboard.Proofs.OfferDesk.Errand
import Switchboard.Proofs.OfferDesk.Service
import Switchboard.Proofs.Error.Causes
import Switchboard.Proofs.Dispatch.Notices
import Switchboard.Proofs.Config.Omitted
import Switchboard.Proofs.Config.RoundTrip
import Switchboard.Proofs.Config.Files
import Switchboard.Proofs.Registry.Merging
import Switchboard.Proofs.Selector.Search
