import Remme.Lib.Dict
import Remme.Lib.Run
import Remme.Lib.StoreM
import Remme.Lib.Text
import Remme.Protos
import Remme.Shared.Utils
import Remme.Shared.Forms
import Remme.Tp.Context
import Remme.Tp.Basic
import Remme.Settings
import Remme.Clients.BlockInfo
import Remme.Tp.Account
import Remme.Tp.AtomicSwap
import Remme.Tp.PubKey
import Remme.Tp.Apply
import Remme.Tp.Ledger
import Remme.Tp.Proofs.Addresses
import Remme.Tp.Proofs.Specs
import Remme.Tp.Proofs.Writes
import Remme.Tp.Proofs.Placement
import Remme.Tp.Proofs.ThirdParty
import Remme.Tp.Proofs.SwapRecord
import Remme.Tp.Proofs.SwapPayout
import Remme.Tp.Proofs.Conservation
import Remme.Tp.Proofs.Registry
import Remme.Tp.Proofs.KeyIndex
import Remme.Tp.Script
import Remme.RpcApi.Transaction
import Remme.Tp.Proofs.LocalTime
import Remme.RpcApi.Proofs.Gate
import Remme.Lib.Double
import Remme.Lib.Value
import Remme.Lib.IntLiteral
import Remme.Lib.Fresh
import Remme.Tp.Event
import Remme.RpcApi.Event
import Remme.RpcApi.Proofs.TransferEvents
import Remme.Tp.Proofs.Genesis
import Remme.Tp.Proofs.StoreAndPay
import Remme.Tp.Handler
import Remme.Tp.Proofs.Dispatch
import Remme.Clients.Proofs.Declared
import Remme.Tp.Proofs.Exceptions
import Remme.Tp.Proofs.PayloadForms
import Remme.RpcApi.Proofs.SwapEvents
import Remme.RpcApi.Consumers
import Remme.RpcApi.Proofs.Consumers
import Remme.RpcApi.Proofs.Sessions
import Remme.Shared.Messaging
import Remme.Shared.Proofs.Messaging
import Remme.RpcApi.Producers
import Remme.RpcApi.Proofs.Producers
import Remme.Tp.Proofs.SwapInit
import Remme.Shared.Proofs.SendEnds
import Remme.RpcApi.Identifiers
import Remme.RpcApi.Proofs.Identifiers
import Remme.Tp.Proofs.SwapSecret
import Remme.Settings.Proofs.Keys
import Remme.Lib.NestedDict
import Remme.Settings.Default
import Remme.Settings.Proofs.MergeDeep
import Remme.Clients.BlockPages
import Remme.Clients.Proofs.BlockPages
import Remme.Lib.ReadCache
import Remme.Tp.CacheContext
import Remme.Tp.Proofs.CacheContext
import Remme.Tp.Proofs.CorruptState
import Remme.Clients.Proofs.Schedule
import Remme.RpcApi.Proofs.Subscriptions
import Remme.Tp.Proofs.Replay
import Remme.Tp.Proofs.Withdrawal
import Remme.Clients.Proofs.GrowingPages
import Remme.RpcApi.Proofs.Reads
import Remme.Shared.Proofs.Router
import Remme.Tp.Proofs.Book
import Remme.RpcApi.Proofs.Submissions
import Remme.RpcApi.Proofs.BatchReports
import Remme.RpcApi.Proofs.ConsumerNotes
import Remme.RpcApi.Proofs.BatchStatus
import Remme.Shared.Proofs.Exchange
import Remme.Tp.Proofs.Audit
import Remme.RpcApi.Params
import Remme.RpcApi.Proofs.Calls
import Remme.RpcApi.Proofs.Params
