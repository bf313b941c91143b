import PeatSapient.Lib.Execution
import PeatSapient.Lib.HashMap
import PeatSapient.Lib.Channel
import PeatSapient.Lib.Lists
import PeatSapient.Lib.Incremental
import PeatSapient.Error
import PeatSapient.Connection
import PeatSapient.Connection.Backoff
import PeatSapient.TaskQueue
import PeatSapient.TaskQueue.Ledger
import PeatSapient.TaskQueue.Accounting
import PeatSapient.TaskQueue.Depth
import PeatSapient.Codec
import PeatSapient.Codec.Framing
import PeatSapient.Numeric
import PeatSapient.Proto
import PeatSapient.Schema
import PeatSapient.Transform.Attributes
import PeatSapient.Transform.Registration
import PeatSapient.Transform.CapabilityIds
import PeatSapient.Transform.Status
import PeatSapient.Transform.Detection
import PeatSapient.Transform.Alert
import PeatSapient.Registry
import PeatSapient.RateLimit
import PeatSapient.Route
import PeatSapient.Bridge
import PeatSapient.Bridge.Moves
import PeatSapient.Bridge.Correlation
import PeatSapient.Bridge.Delivery
import PeatSapient.Bridge.Isolation
import PeatSapient.Bridge.Acknowledgement
import PeatSapient.Bridge.Registration
import PeatSapient.Bridge.Reconnect
import PeatSapient.Watchdog
import PeatSapient.Watchdog.Freshness
import PeatSapient.Lib.Transducer
import PeatSapient.MeshFields
import PeatSapient.Translator
import PeatSapient.Publication
import PeatSapient.Bridge.Emission
import PeatSapient.Ingestion
import PeatSapient.Transport
import PeatSapient.Transport.Dlmm
import PeatSapient.Transport.Dlmm.Moves
import PeatSapient.Transport.Dlmm.Outbound
import PeatSapient.Transport.Dlmm.Disconnect
import PeatSapient.Transport.Dlmm.Stop
import PeatSapient.Transport.Dlmm.Bookkeeping
import PeatSapient.Transport.Hldmm
import PeatSapient.Transport.Hldmm.Moves
import PeatSapient.Transport.Hldmm.Stop
import PeatSapient.Transport.Hldmm.Bookkeeping
import PeatSapient.Transport.Restart
import PeatSapient.Lib.FieldMerge
import PeatSapient.MergedDocument
import PeatSapient.MergedDocument.Health
import PeatSapient.MergedDocument.Position
import PeatSapient.Numeric.Exact
import PeatSapient.Translator.History
import PeatSapient.Lib.TokenBucket
import PeatSapient.RateLimit.Windows
import PeatSapient.Bridge.Membership
import PeatSapient.Bridge.Greeting
import PeatSapient.Lib.Turns
import PeatSapient.Bridge.TaskOrder
import PeatSapient.Bridge.OwnTask
import PeatSapient.Codec.Limits
import PeatSapient.Transform.UtmZone
import PeatSapient.Numeric.Reals
import PeatSapient.Transform.Utm
import PeatSapient.Transform.Placement
import PeatSapient.Transform.Units
import PeatSapient.Transform.Agreement
import PeatSapient.Transform.Task
import PeatSapient.Transform.Timestamps
import PeatSapient.Translator.Outbound
import PeatSapient.Translator.Relay
import PeatSapient.Translator.Chain
import PeatSapient.Proto.Mandatory
import PeatSapient.Bridge.Contention
import PeatSapient.Bridge.Capabilities
import PeatSapient.Lib.Quiescence
import PeatSapient.Bridge.Quiescence
import PeatSapient.Bridge.Conversation
import PeatSapient.Bridge.Addressing
import PeatSapient.Bridge.Duplicates
import PeatSapient.Bridge.Throttle
import PeatSapient.TaskQueue.Causes
import PeatSapient.Bridge.Settlement
import PeatSapient.Lib.Fanout
import PeatSapient.Transport.Subscribers
import PeatSapient.Transport.Health
import PeatSapient.Transport.Dlmm.Health
import PeatSapient.Transport.Hldmm.Latest
import PeatSapient.Transport.Hldmm.Health
import PeatSapient.Transport.Hldmm.Published
import PeatSapient.Transport.Dlmm.Quiescence
import PeatSapient.Transport.Hldmm.Quiescence
import PeatSapient.Lib.Framed
import PeatSapient.Transport.Link
import PeatSapient.Transport.Link.Sending
import PeatSapient.Transport.Link.Delivery
import PeatSapient.Transport.Link.Tracks
import PeatSapient.Watchdog.Sweep
import PeatSapient.Watchdog.Reports
import PeatSapient.Monitored
import PeatSapient.Monitored.Liveness
import PeatSapient.Monitored.Removals
import PeatSapient.Bridge.Mirror
