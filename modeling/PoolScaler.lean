import PoolScaler.Main
import PoolScaler.Proofs.Demand.Renewal
import PoolScaler.Proofs.Demand.Window
import PoolScaler.Proofs.Listener.Claims
import PoolScaler.Proofs.Listener.Course
import PoolScaler.Proofs.Listener.Delivery
import PoolScaler.Proofs.Listener.Lease
import PoolScaler.Proofs.Listener.Order
import PoolScaler.Proofs.Listener.Refusals
import PoolScaler.Proofs.Listener.Renewal
import PoolScaler.Proofs.Listener.Setup
import PoolScaler.Proofs.Reconcile.Absence
import PoolScaler.Proofs.Reconcile.BrokenOff
import PoolScaler.Proofs.Reconcile.Convergence
import PoolScaler.Proofs.Reconcile.Evidence
import PoolScaler.Proofs.Reconcile.Grounds
import PoolScaler.Proofs.Reconcile.Hysteresis
import PoolScaler.Proofs.Reconcile.Idempotence
import PoolScaler.Proofs.Reconcile.Isolation
import PoolScaler.Proofs.Reconcile.Keeper
import PoolScaler.Proofs.Reconcile.Selection
import PoolScaler.Proofs.Reconcile.Status
import PoolScaler.Proofs.Settings.Preference
import PoolScaler.Proofs.Source.Lookup
import PoolScaler.Proofs.Source.Margin
import PoolScaler.Proofs.Source.Refusals
import PoolScaler.Proofs.Store.Ledger
import PoolScaler.Proofs.Store.Refinement
import PoolScaler.Simulation.Clock
import PoolScaler.Simulation.Keeper
import PoolScaler.Simulation.Sessions
import PoolScaler.Proofs.Source.Pruning
import PoolScaler.Proofs.Store.Creation
import PoolScaler.Proofs.Store.Registration
import PoolScaler.Proofs.Json.Changes
import PoolScaler.Proofs.Json.Tolerance
import PoolScaler.Proofs.Reconcile.Comparison
import PoolScaler.Proofs.Time.Spelling
import PoolScaler.Proofs.Pool.Scope
import PoolScaler.Proofs.Source.Keys
import PoolScaler.Proofs.Source.Paths
