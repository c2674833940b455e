import FloatingIp.Log.Filter
import FloatingIp.Main
import FloatingIp.Proofs.Cell.History
import FloatingIp.Proofs.Consul.KeyUrl
import FloatingIp.Proofs.Consul.Naming
import FloatingIp.Proofs.Consul.OrdinaryKey
import FloatingIp.Proofs.Convergence.Accounts
import FloatingIp.Proofs.Convergence.Causes
import FloatingIp.Proofs.Convergence.Claiming
import FloatingIp.Proofs.Convergence.Healing
import FloatingIp.Proofs.Convergence.Passes
import FloatingIp.Proofs.Convergence.Schedule
import FloatingIp.Proofs.Convergence.Shutdown
import FloatingIp.Proofs.Convergence.Snapshot
import FloatingIp.Proofs.Host.AddressSet
import FloatingIp.Proofs.Host.Probe
import FloatingIp.Proofs.Manager.Site
import FloatingIp.Proofs.MemoryStore.Waiting
import FloatingIp.Proofs.Rehearsal.Plays
import FloatingIp.Proofs.Settings.Blame
import FloatingIp.Proofs.Settings.Running
import FloatingIp.Proofs.Settings.Tree
import FloatingIp.Proofs.Vigil.Freshness
import FloatingIp.Proofs.Watch.Delivery
import FloatingIp.Proofs.Watch.Pacing
import FloatingIp.Settings.Tree
