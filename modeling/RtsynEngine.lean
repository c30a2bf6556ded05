import RtsynEngine.Proof.Coherence
import RtsynEngine.Proof.Conservation
import RtsynEngine.Proof.Lifecycle
import RtsynEngine.Proof.Lifetime
import RtsynEngine.Proof.Rejection
import RtsynEngine.Proof.Replies
import RtsynEngine.Proof.Subscriptions
import RtsynEngine.Proof.Decoding
import RtsynEngine.Proof.Reconciliation
import RtsynEngine.Proof.Descriptor
import RtsynEngine.Proof.Naming
import RtsynEngine.Interleaving
import RtsynEngine.Proof.Effects
import RtsynEngine.Proof.Emission
import RtsynEngine.Proof.Stopping
import RtsynEngine.Proof.Consumption
import RtsynEngine.Proof.Clock
import RtsynEngine.Lib.Pacing
import RtsynEngine.Proof.Pacing
import RtsynEngine.Proof.Joining
import RtsynEngine.Host
import RtsynEngine.Proof.Host
import RtsynEngine.Lib.Framing
import RtsynEngine.Proof.Frames
import RtsynEngine.Proof.Framing
import RtsynEngine.Proof.Sampling
import RtsynEngine.Proof.Loading
import RtsynEngine.Proof.Copying
import RtsynEngine.Proof.Params
import RtsynEngine.Proof.Cycles
import RtsynEngine.Lib.Grid
import RtsynEngine.Proof.Grid
import RtsynEngine.Proof.Pausing
import RtsynEngine.Proof.Rejoining
import RtsynEngine.Proof.Termination
import RtsynEngine.Proof.Exit
import RtsynEngine.Lib.Ledger
import RtsynEngine.Resources
import RtsynEngine.Proof.Resources
import RtsynEngine.Proof.Process
import RtsynEngine.Proof.Loaders
import RtsynEngine.Lib.Simulation
import RtsynEngine.Proof.Observation
import RtsynEngine.Lib.Reduction
import RtsynEngine.Sequential
import RtsynEngine.Proof.Sharing
import RtsynEngine.Proof.Atomicity
import RtsynEngine.Proof.Serving
import RtsynEngine.Lib.Lateness
import RtsynEngine.Proof.Lateness
import RtsynEngine.Proof.Replica
import RtsynEngine.Proof.Graph
import RtsynEngine.Lib.Independence
import RtsynEngine.Proof.Unseen
import RtsynEngine.Proof.Independence
import RtsynEngine.Lib.Catalogue
import RtsynEngine.Proof.Catalogue
import RtsynEngine.Lib.Exchange
import RtsynEngine.Proof.Exchange
