import SelfIsolation.Address.Endpoint
import SelfIsolation.Main
import SelfIsolation.Proofs.Capability.Inclusion
import SelfIsolation.Proofs.Lifecycle.Triple
import SelfIsolation.Proofs.Simulation.Standing
import SelfIsolation.Proofs.Lifecycle.Accounting
import SelfIsolation.Proofs.Lifecycle.Narrowing
import SelfIsolation.Proofs.Lifecycle.Advance
import SelfIsolation.Proofs.Lifecycle.Run
import SelfIsolation.Proofs.Simulation.Submission
import SelfIsolation.Proofs.Lifecycle.Plan
import SelfIsolation.Proofs.Lifecycle.Script
import SelfIsolation.Proofs.Lifecycle.Guarantee
import SelfIsolation.Proofs.Address.RoundTrip
import SelfIsolation.Proofs.Address.Block
import SelfIsolation.Proofs.Address.Nesting
import SelfIsolation.Proofs.Address.Family
import SelfIsolation.Proofs.Control.Rehearsal
import SelfIsolation.Proofs.Host.Bounding
import SelfIsolation.Proofs.Lifecycle.Settled
import SelfIsolation.Proofs.Control.Isolate
import SelfIsolation.Proofs.Simulation.Change
import SelfIsolation.Proofs.Simulation.Run
import SelfIsolation.Proofs.Lifecycle.Irreversible
import SelfIsolation.Proofs.Control.DryRun
import SelfIsolation.Proofs.Document.Spelling
import SelfIsolation.Proofs.Document.Layout
import SelfIsolation.Proofs.Configuration.Document
import SelfIsolation.Proofs.Address.Matching
import SelfIsolation.Proofs.Address.Tagged
import SelfIsolation.Proofs.Lifecycle.Restriction
import SelfIsolation.Proofs.Descriptor.Designation
import SelfIsolation.Proofs.Host.Sweep
import SelfIsolation.Proofs.Simulation.Atomicity
import SelfIsolation.Proofs.Lifecycle.Clamping
import SelfIsolation.Proofs.Address.Conversion
import SelfIsolation.Proofs.Filter.Exactness
import SelfIsolation.Proofs.Control.Configured
import SelfIsolation.Proofs.Descriptor.Startup
import SelfIsolation.Proofs.Capability.Text
import SelfIsolation.Proofs.Host.Exchange
