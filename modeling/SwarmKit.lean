import SwarmKit.Lib.Lts
import SwarmKit.Store.Object
import SwarmKit.Store.Tx
import SwarmKit.Store.Memory
import SwarmKit.Store.Watch
import SwarmKit.Store.Proofs.Batch
import SwarmKit.Store.Proofs.LostUpdate
import SwarmKit.Raft.Node
import SwarmKit.Raft.Watch
import SwarmKit.Raft.Proofs.ExactlyOnce
import SwarmKit.Raft.Proofs.Resume
import SwarmKit.Raft.Rotation
import SwarmKit.Raft.Proofs.Rotation
import SwarmKit.Raft.Membership
import SwarmKit.Raft.Join
import SwarmKit.Raft.Proofs.Membership
import SwarmKit.Raft.ForceNewCluster
import SwarmKit.Raft.Proofs.ForceNewCluster
import SwarmKit.Raft.Storage
import SwarmKit.Raft.Proofs.Storage
import SwarmKit.Lib.Protobuf
import SwarmKit.Raft.Transport
import SwarmKit.Raft.Proofs.Transport
import SwarmKit.Ca.KeyReadWriter
import SwarmKit.Ca.Proofs.KeyReadWriter
import SwarmKit.Raft.Deks
import SwarmKit.Raft.Proofs.Deks
import SwarmKit.Keymanager.KeyRing
import SwarmKit.Keymanager.Proofs.KeyRing
import SwarmKit.Watch.LimitQueue
import SwarmKit.Watch.Proofs.LimitQueue
import SwarmKit.Volumequeue.Queue
import SwarmKit.Volumequeue.Proofs.Queue
import SwarmKit.Watchapi.Server
import SwarmKit.Watchapi.Proofs.Versions
import SwarmKit.Scheduler.Scheduler
import SwarmKit.Scheduler.Proofs.Decisions
import SwarmKit.Lib.AListTotal
import SwarmKit.Api.GenericResource
import SwarmKit.Scheduler.NodeInfo
import SwarmKit.Scheduler.Proofs.NodeInfo
import SwarmKit.Scheduler.Pipeline
import SwarmKit.Scheduler.Proofs.Pipeline
import SwarmKit.Orchestrator.Task
import SwarmKit.Orchestrator.Restart
import SwarmKit.Orchestrator.Jobs
import SwarmKit.Orchestrator.Proofs.JobRestarts
import SwarmKit.Orchestrator.Proofs.RestartWindow
import SwarmKit.Orchestrator.TaskReaper
import SwarmKit.Orchestrator.Proofs.TaskReaper
import SwarmKit.Orchestrator.UpdateLock
import SwarmKit.Orchestrator.Proofs.Deadlock
import SwarmKit.Orchestrator.Replicated
import SwarmKit.Orchestrator.Proofs.Convergence
import SwarmKit.Csi.Volumes
import SwarmKit.Csi.Proofs.Volumes
import SwarmKit.Dispatcher.Nodes
import SwarmKit.Dispatcher.Proofs.Heartbeat
import SwarmKit.Ca.Signer
import SwarmKit.Ca.Proofs.Signer
import SwarmKit.Ca.Reconciler
import SwarmKit.Ca.Proofs.Reconciler
import SwarmKit.Dispatcher.Assignments
import SwarmKit.Dispatcher.Proofs.Assignments
import SwarmKit.Dispatcher.Updates
import SwarmKit.Dispatcher.Proofs.Updates
import SwarmKit.Logbroker.Subscription
import SwarmKit.Logbroker.Proofs.Subscription
import SwarmKit.Lib.MemTable
import SwarmKit.Store.Restore
import SwarmKit.Store.Proofs.Restore
import SwarmKit.Store.Forward
import SwarmKit.Store.Proofs.Forward
import SwarmKit.Lib.NonInterference
import SwarmKit.Controlapi.Secrets
import SwarmKit.Controlapi.Proofs.Secrets
import SwarmKit.Controlapi.Services
import SwarmKit.Controlapi.Proofs.Services
import SwarmKit.Lib.Idm
import SwarmKit.Allocator.Ports
import SwarmKit.Allocator.Proofs.Ports
import SwarmKit.Allocator.Service
import SwarmKit.Allocator.Proofs.Service
import SwarmKit.Allocator.Task
import SwarmKit.Allocator.Proofs.Task
import SwarmKit.Orchestrator.Dirty
import SwarmKit.Orchestrator.Proofs.Dirty
import SwarmKit.Agent.Reporter
import SwarmKit.Agent.Proofs.Reporter
import SwarmKit.Agent.Task
import SwarmKit.Agent.Proofs.Task
import SwarmKit.Agent.Worker
import SwarmKit.Agent.Proofs.Worker
import SwarmKit.Orchestrator.Proofs.Slots
import SwarmKit.Orchestrator.Proofs.Reconcile
import SwarmKit.Allocator.Proofs.Sticky
import SwarmKit.Allocator.Vip
import SwarmKit.Allocator.Proofs.Vip
import SwarmKit.Allocator.Node
import SwarmKit.Allocator.Proofs.Node
import SwarmKit.Orchestrator.TaskInit
import SwarmKit.Orchestrator.Proofs.TaskInit
import SwarmKit.Orchestrator.Update
import SwarmKit.Orchestrator.Proofs.Update
import SwarmKit.Orchestrator.Proofs.JobBounds
import SwarmKit.Orchestrator.Global
import SwarmKit.Orchestrator.Proofs.Global
import SwarmKit.Orchestrator.ConstraintEnforcer
import SwarmKit.Orchestrator.Proofs.ConstraintEnforcer
import SwarmKit.Scheduler.Volumes
import SwarmKit.Scheduler.Proofs.Volumes
import SwarmKit.Lib.ContainerHeap
import SwarmKit.Lib.ContainerHeapSpec
import SwarmKit.Scheduler.DecisionTree
import SwarmKit.Scheduler.Proofs.Subtree
import SwarmKit.Scheduler.Proofs.DecisionTree
import SwarmKit.Design.Tasks
import SwarmKit.Agent.Exec
import SwarmKit.Agent.Proofs.Exec
import SwarmKit.Lib.Text
import SwarmKit.Placement.Constraint
import SwarmKit.Placement.Proofs.Constraint
import SwarmKit.Lib.Checked
import SwarmKit.Controlapi.Validation
import SwarmKit.Controlapi.Proofs.Validation
import SwarmKit.Manager.Roles
import SwarmKit.Manager.Proofs.Roles
