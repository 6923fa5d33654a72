import SoftRouter.Link
import SoftRouter.Main
import SoftRouter.Network
import SoftRouter.Proofs.Steps
import SoftRouter.Session
import SoftRouter.Wire.Placed
import SoftRouter.Proofs.Journal
import SoftRouter.Proofs.Resolution
import SoftRouter.Proofs.Waiting
import SoftRouter.Proofs.Advertisement
import SoftRouter.Proofs.Corruption
import SoftRouter.Proofs.Egress
import SoftRouter.Proofs.Custody
import SoftRouter.Proofs.Errands
import SoftRouter.Proofs.Order
import SoftRouter.Proofs.Pace
import SoftRouter.Proofs.History
import SoftRouter.Proofs.Holding
import SoftRouter.Proofs.Questions
import SoftRouter.Proofs.Buffer.Access
import SoftRouter.Proofs.Buffer.Arp
import SoftRouter.Proofs.Buffer.Pipeline
import SoftRouter.Proofs.Buffer.Safety
import SoftRouter.Proofs.Surrender
import SoftRouter.Proofs.Drain
import SoftRouter.Proofs.Chains
import SoftRouter.Proofs.Distance
import SoftRouter.Proofs.Dispatch
import SoftRouter.Proofs.Notices
import SoftRouter.Proofs.Truncation
import SoftRouter.Proofs.Rank
import SoftRouter.Proofs.Causes
import SoftRouter.Proofs.Telling
import SoftRouter.Proofs.Relaying
import SoftRouter.Proofs.Adverts
import SoftRouter.Proofs.Mode
import SoftRouter.Proofs.Standing
import SoftRouter.Proofs.Interchange
import SoftRouter.Proofs.Trailer
import SoftRouter.Proofs.Lookup
import SoftRouter.Proofs.Soundness
import SoftRouter.Proofs.Starting
import SoftRouter.Proofs.Strict
import SoftRouter.Proofs.Occasions
import SoftRouter.Proofs.Restraint
import SoftRouter.Proofs.Confinement
import SoftRouter.Proofs.Exchange
import SoftRouter.Proofs.Buffer.Edits
import SoftRouter.Proofs.OnesComplement
import SoftRouter.Proofs.Buffer.Integrity
import SoftRouter.Proofs.Buffer.Wording
import SoftRouter.Proofs.Owing
import SoftRouter.Proofs.Regrets
import SoftRouter.Proofs.Buffer.Encapsulation
import SoftRouter.Proofs.Versions
import SoftRouter.Proofs.Loading
import SoftRouter.Proofs.Buffer.Slots
import SoftRouter.Proofs.MacText
import SoftRouter.Proofs.Buffer.Setters
