import TupleWire.Map.Dict
import TupleWire.Packet.Frame
import TupleWire.Packet.Greeting
import TupleWire.Request.Body
import TupleWire.Request.Response
import TupleWire.Client.Error
import TupleWire.Client.Managed
import TupleWire.Config.Text
import TupleWire.Heartbeat.History
import TupleWire.Metrics.Basic
import TupleWire.Schema.Tracker
import TupleWire.Watch.Queue
import TupleWire.Balancer.Policy
import TupleWire.Instance.Space
import TupleWire.Connection.Attempt
import TupleWire.Connection.Basic
import TupleWire.Instance.Dispatch
import TupleWire.Tls.Trust
import TupleWire.Connection.Endpoint
import TupleWire.Connection.Fleet
import TupleWire.Connection.History
import TupleWire.Schema.Concurrent
import TupleWire.Pool.Supervision
import TupleWire.Pool.Threads
import TupleWire.Client.Connect
import TupleWire.Client.Threads
import TupleWire.Instance.Exchange
import TupleWire.Proofs.Connection.Settlement
import TupleWire.Proofs.Connection.Stages
import TupleWire.Proofs.Packet.Chunks
import TupleWire.Proofs.Packet.RoundTrip
import TupleWire.Proofs.Schema.Resolution
import TupleWire.Proofs.Schema.Timeline
import TupleWire.Proofs.Pool.Selection
import TupleWire.Proofs.Instance.Delivery
import TupleWire.Proofs.Instance.Views
import TupleWire.Proofs.Instance.Storing
import TupleWire.Proofs.Client.Dispatch
import TupleWire.Proofs.Connection.Inbound
import TupleWire.Proofs.Connection.Queue
import TupleWire.Proofs.Pool.Rewatching
import TupleWire.Proofs.Client.Closing
import TupleWire.Proofs.Client.Overtaking
import TupleWire.Proofs.Client.Uninterrupted
import TupleWire.Proofs.Connection.Capability
import TupleWire.Proofs.Connection.Fleet
import TupleWire.Proofs.Connection.Asking
import TupleWire.Proofs.Connection.Attempt
import TupleWire.Proofs.Schema.SingleFlight
import TupleWire.Proofs.Client.Attachment
import TupleWire.Proofs.Client.Stories
import TupleWire.Proofs.Client.Gauge
import TupleWire.Proofs.Instance.Naming
import TupleWire.Proofs.Instance.Transparency
import TupleWire.Proofs.Instance.Answering
import TupleWire.Proofs.Instance.Dialogue
import TupleWire.Proofs.Instance.Notifying
import TupleWire.Proofs.MsgPack.Agreement
import TupleWire.Proofs.Instance.Assigning
import TupleWire.Proofs.Instance.PrimaryKey
import TupleWire.Proofs.Instance.RowMap
import TupleWire.Proofs.Heartbeat.Blocks
import TupleWire.Proofs.Heartbeat.Detection
import TupleWire.Proofs.Balancer.Proportion
import TupleWire.Proofs.Balancer.Rotation
import TupleWire.Proofs.Schema.Fetching
import TupleWire.Proofs.Schema.Sending
import TupleWire.Proofs.Schema.Rows
import TupleWire.Proofs.Packet.NormalForm
import TupleWire.Proofs.Packet.Skipping
import TupleWire.Proofs.Packet.Overflow
import TupleWire.Proofs.Packet.Greeting
import TupleWire.Proofs.Instance.Authentication
import TupleWire.Proofs.Heartbeat.DetectionTime
import TupleWire.Proofs.Config.Validation
import TupleWire.Proofs.Config.RoundTrip
import TupleWire.Proofs.Config.Address
import TupleWire.Proofs.Metrics.Buckets
