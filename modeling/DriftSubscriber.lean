import DriftSubscriber.Unicode
import DriftSubscriber.Dict
import DriftSubscriber.Frame
import DriftSubscriber.Keys
import DriftSubscriber.Registry
import DriftSubscriber.Registration
import DriftSubscriber.ReadLoop
import DriftSubscriber.EventLoop
import DriftSubscriber.Resubscribe
import DriftSubscriber.Duplicates
import DriftSubscriber.FanOut
import DriftSubscriber.FakeMsg
import DriftSubscriber.Removal
import DriftSubscriber.Snapshot
import DriftSubscriber.Steps
import DriftSubscriber.Freshness
import DriftSubscriber.Unsubscribe
import DriftSubscriber.AddRemove
import DriftSubscriber.Routing
import DriftSubscriber.Invariants
import DriftSubscriber.CachedData
import DriftSubscriber.Forgetting
import DriftSubscriber.UpdateData
import DriftSubscriber.OracleLoad
import DriftSubscriber.MarketConfig
import DriftSubscriber.AddAccount
import DriftSubscriber.KeyOwnership
import DriftSubscriber.RequestIds
import DriftSubscriber.Margin
import DriftSubscriber.DLOBSubscriber
import DriftSubscriber.OrderBook
