import BuildController.Api.Client
import BuildController.ControlPlane.Session
import BuildController.Json.Document
import BuildController.Json.Printer
import BuildController.Resync
import BuildController.Proofs.Bindings
import BuildController.Proofs.Execution
import BuildController.Proofs.Advance
import BuildController.Proofs.Admission
import BuildController.Proofs.Recovery
import BuildController.Proofs.System
import BuildController.Proofs.Coherence
import BuildController.Proofs.Lifecycle
import BuildController.Proofs.Loop
import BuildController.Proofs.Schedule
import BuildController.Proofs.Lookups
import BuildController.Proofs.Discipline
import BuildController.Proofs.Ownership
import BuildController.Proofs.Registration
import BuildController.Proofs.Review
import BuildController.Proofs.Launching
import BuildController.Proofs.Progression
import BuildController.Proofs.Round
import BuildController.Proofs.Provenance
import BuildController.Proofs.Convergence
import BuildController.Proofs.Agreement
import BuildController.Proofs.Concurrency
import BuildController.Proofs.Demands
import BuildController.Proofs.Acceptance
import BuildController.Proofs.Leftovers
import BuildController.Proofs.Parameters
import BuildController.Proofs.Inlining
import BuildController.Proofs.Faults
import BuildController.Proofs.RoundTrip
import BuildController.Proofs.Isolation
import BuildController.Proofs.Updates
import BuildController.Proofs.Sharing
import BuildController.Proofs.Footprint
import BuildController.Proofs.Merging
import BuildController.Proofs.Recorded
import BuildController.Proofs.Timeline
import BuildController.Proofs.Precedence
import BuildController.Proofs.Retention
import BuildController.Proofs.Outputs
import BuildController.Proofs.Template
import BuildController.Proofs.Segments
import BuildController.Proofs.Roots
import BuildController.Proofs.Addressing
import BuildController.Proofs.Downloads
import BuildController.Proofs.Paths
import BuildController.Proofs.Containment
import BuildController.Proofs.Patterns
import BuildController.Proofs.Extraction
import BuildController.Proofs.Repetition
import BuildController.Proofs.Labelling
import BuildController.Proofs.Transitions
import BuildController.Proofs.Overriding
