import Proximity.Discovery.Encoding
import Proximity.Proofs.ConfigText
import Proximity.Proofs.Derivation
import Proximity.Proofs.Gate
import Proximity.Proofs.IdentityText
import Proximity.Proofs.Leaks
import Proximity.Proofs.Lifetimes
import Proximity.Proofs.Limits
import Proximity.Proofs.LiveTable
import Proximity.Proofs.Outcomes
import Proximity.Proofs.Overtaking
import Proximity.Proofs.Race
import Proximity.Proofs.Receiving
import Proximity.Proofs.SpecifierReading
import Proximity.Proofs.Teardown
import Proximity.Proofs.TextEnds
import Proximity.Run.Tick
import Proximity.Proofs.Waking
