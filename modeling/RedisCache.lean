import RedisCache.AsciiText
import RedisCache.ByteOrder
import RedisCache.XxHash
import RedisCache.Checked
import RedisCache.GoText
import RedisCache.Transition
import RedisCache.Versions
import RedisCache.SingleFlight
import RedisCache.Go
import RedisCache.Message
import RedisCache.Deps
import RedisCache.Instance
import RedisCache.Ttl
import RedisCache.Cacheable
import RedisCache.Keyer
import RedisCache.RequestMatch
import RedisCache.Serialization
import RedisCache.Setup
import RedisCache.SetupBounds
import RedisCache.ReadPath
import RedisCache.ResponseWriter
import RedisCache.TtlLaw
import RedisCache.StoredReply
import RedisCache.Handler
import RedisCache.World
import RedisCache.Reads
import RedisCache.StoreInvariant
import RedisCache.ServedTtl
import RedisCache.SelfHeal
import RedisCache.CdIsolation
import RedisCache.CnameChain
import RedisCache.AnswerOrder
import RedisCache.Edns
import RedisCache.Opcodes
import RedisCache.SetupSteps
import RedisCache.Topology
import RedisCache.BoundsOrder
import RedisCache.ReplyKinds
import RedisCache.Outage
import RedisCache.Addresses
import RedisCache.Zones
import RedisCache.ParseTtl
import RedisCache.TtlRange
import RedisCache.AnswerCache
import RedisCache.Freshness
import RedisCache.Flights
import RedisCache.Tenants
import RedisCache.Healing
import RedisCache.Accounting
import RedisCache.WriteAccounting
import RedisCache.Sometimes
import RedisCache.ErrorLog
import RedisCache.Slices
import RedisCache.Records
import RedisCache.Reorder
import RedisCache.DirectiveOrder
import RedisCache.Tls
import RedisCache.Decimal
import RedisCache.Numbers
import RedisCache.Targets
import RedisCache.Limits
import RedisCache.Wiring
import RedisCache.Lifecycle
