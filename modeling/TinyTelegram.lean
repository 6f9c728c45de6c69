import TinyTelegram.Lib.Keyset
import TinyTelegram.MessageService.Counters
import TinyTelegram.MessageService.Failover
import TinyTelegram.MessageService.Pool
import TinyTelegram.MessageService.Equiv.Answers
import TinyTelegram.MessageService.Equiv.Conversation
import TinyTelegram.MessageService.Equiv.Cursor
import TinyTelegram.MessageService.Equiv.DbCheck
import TinyTelegram.MessageService.Equiv.Discovery
import TinyTelegram.MessageService.Equiv.Failover
import TinyTelegram.MessageService.Equiv.GetDiff
import TinyTelegram.MessageService.Equiv.Holes
import TinyTelegram.MessageService.Equiv.Migrations
import TinyTelegram.MessageService.Equiv.Pool
import TinyTelegram.MessageService.Equiv.Retry
import TinyTelegram.MessageService.Equiv.Statuses
import TinyTelegram.Gateway.Main
import TinyTelegram.Gateway.Query
import TinyTelegram.Gateway.Equiv.Acks
import TinyTelegram.Gateway.Equiv.Closes
import TinyTelegram.Gateway.Equiv.Delivery
import TinyTelegram.Gateway.Equiv.Devices
import TinyTelegram.Gateway.Equiv.Heartbeats
import TinyTelegram.Gateway.Equiv.Identity
import TinyTelegram.Gateway.Equiv.Incoming
import TinyTelegram.Gateway.Equiv.Ownership
import TinyTelegram.Gateway.Equiv.Panics
import TinyTelegram.Gateway.Equiv.Peer
import TinyTelegram.Gateway.Equiv.Presence
import TinyTelegram.Gateway.Equiv.Replayed
import TinyTelegram.Gateway.Equiv.Writers
import TinyTelegram.WebClient.Login
import TinyTelegram.WebClient.Equiv.Acks
import TinyTelegram.WebClient.Equiv.Browser
import TinyTelegram.WebClient.Equiv.Deliveries
import TinyTelegram.WebClient.Equiv.Gaps
import TinyTelegram.WebClient.Equiv.Login
import TinyTelegram.WebClient.Equiv.Page
import TinyTelegram.WebClient.Equiv.Reconnect
import TinyTelegram.WebClient.Equiv.Replay
import TinyTelegram.WebClient.Equiv.Restored
import TinyTelegram.WebClient.Equiv.Sockets
import TinyTelegram.WebClient.Equiv.Storage
import TinyTelegram.RDB
import TinyTelegram.Equiv.RDB
import TinyTelegram.Scripts.Equiv.ConsistencyTest
