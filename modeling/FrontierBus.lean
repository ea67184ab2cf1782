import FrontierBus.Main
import FrontierBus.Broker.Tripwire
import FrontierBus.ClientFailure
import FrontierBus.ClientProperties
import FrontierBus.FileTree
import FrontierBus.Script
import FrontierBus.Proofs.Broker.Checkpoints
import FrontierBus.Proofs.Broker.Setbacks
import FrontierBus.Proofs.Consumer.Calls
import FrontierBus.Proofs.Producer.Calls
import FrontierBus.Proofs.Topic.Batches
import FrontierBus.Proofs.Broker.Handover
import FrontierBus.Proofs.Producer.KeyOrder
import FrontierBus.Proofs.Broker.Deliveries
import FrontierBus.Proofs.Bus.Opening
import FrontierBus.Proofs.Broker.Laying
import FrontierBus.Proofs.Producer.Draining
import FrontierBus.Proofs.Bus.Sending
import FrontierBus.Proofs.Group.Renaming
import FrontierBus.Proofs.Topic.Groups
import FrontierBus.Proofs.Broker.Likeness
import FrontierBus.Proofs.Broker.Independence
import FrontierBus.Proofs.Broker.Bounds
import FrontierBus.Proofs.Producer.Budget
import FrontierBus.Proofs.Broker.Arrivals
import FrontierBus.Proofs.Broker.Steadiness
import FrontierBus.Proofs.Admission.Lookups
import FrontierBus.Proofs.Timeline.Looks
import FrontierBus.Proofs.Admission.Snapshots
import FrontierBus.Proofs.Broker.Log
import FrontierBus.Proofs.Bus.Sessions
import FrontierBus.Proofs.Bus.Isolation
import FrontierBus.Proofs.Broker.Stretches
import FrontierBus.Proofs.Broker.Refusals
import FrontierBus.Proofs.Broker.Outages
import FrontierBus.Proofs.Broker.Attendance
import FrontierBus.Proofs.Bus.Presence
import FrontierBus.Proofs.Producer.Pacing
import FrontierBus.Proofs.Broker.Returns
import FrontierBus.Proofs.Producer.GivingUp
import FrontierBus.Proofs.Routing.Hosts
import FrontierBus.Proofs.Backoff.Waits
import FrontierBus.Proofs.Backoff.Attempts
import FrontierBus.Proofs.Timeline.Ahead
import FrontierBus.Proofs.Broker.Bystanders
import FrontierBus.Proofs.Broker.Waking
import FrontierBus.Proofs.Broker.Positions
import FrontierBus.Proofs.Routing.Fingerprints
import FrontierBus.Proofs.Settings.Passwords
import FrontierBus.Proofs.Topic.Turns
import FrontierBus.Proofs.Broker.Evenness
import FrontierBus.Proofs.Producer.Promptness
import FrontierBus.Proofs.Command.Sending
import FrontierBus.Proofs.Settings.Endpoints
import FrontierBus.Proofs.Settings.Padding
