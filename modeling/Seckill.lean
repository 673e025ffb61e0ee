import Seckill.Lib.CString
import Seckill.Lib.CallTree
import Seckill.Lib.Threads
import Seckill.Model.Redis
import Seckill.Model.Mysql
import Seckill.Model.Server
import Seckill.Model.Worker
import Seckill.Verified.Protocol
import Seckill.Verified.Conformance
import Seckill.Lib.Leases
import Seckill.Verified.Rules
import Seckill.Verified.Holding
import Seckill.Verified.OptimisticLocking
import Seckill.Verified.History
import Seckill.Verified.Ledger
import Seckill.Verified.Lifecycle
import Seckill.Verified.Requests
import Seckill.Verified.Commands
import Seckill.Verified.OneUnitPerUser
import Seckill.Verified.Failover
import Seckill.Verified.FailureCount
import Seckill.Verified.Commits
import Seckill.Verified.Books
import Seckill.Verified.StockConservation
import Seckill.Lib.Loans
import Seckill.Verified.MysqlPool
import Seckill.Verified.RedisPool
import Seckill.Lib.Transaction
import Seckill.Verified.Sale
import Seckill.Verified.SaleOutcomes
import Seckill.Verified.CleanSessions
import Seckill.Verified.Parts
import Seckill.Verified.CleanContexts
import Seckill.Verified.Reservations
import Seckill.Lib.SqlText
import Seckill.Model.Statements
import Seckill.Verified.Texts
import Seckill.Model.Prepare
import Seckill.Verified.Preparation
import Seckill.Lib.Stages
import Seckill.Verified.Errands
import Seckill.Verified.WorkerLives
import Seckill.Verified.Admission
import Seckill.Verified.TwoPaths
import Seckill.Lib.OrdMap
import Seckill.Model.Audit
import Seckill.Verified.Transposition
import Seckill.Verified.Audit
import Seckill.Verified.Truth
import Seckill.Lib.Transcript
import Seckill.Verified.OneAnswer
import Seckill.Model.LibraryCalls
import Seckill.Verified.LibraryCalls
import Seckill.Verified.BufferSizes
import Seckill.Verified.Misreadings
import Seckill.Verified.OrderBooks
import Seckill.Verified.FaultFree
import Seckill.Verified.AtomicSale
import Seckill.Lib.BlockHash
import Seckill.Lib.Rfc1321
import Seckill.Lib.Sine
import Seckill.Model.Md5
import Seckill.Verified.Md5
import Seckill.Verified.Vouchers
import Seckill.Verified.TextRuns
import Seckill.Verified.NoOverselling
import Seckill.Verified.Authorization
import Seckill.Verified.Strangers
import Seckill.Lib.Progress
import Seckill.Verified.Turns
import Seckill.Verified.PoolSizes
import Seckill.Verified.LockOrder
import Seckill.Verified.Progress
import Seckill.Lib.Refinement
import Seckill.Verified.Market
import Seckill.Verified.HonestAudit
import Seckill.Model.Client
import Seckill.Verified.Client
import Seckill.Verified.WholeTest
import Seckill.Verified.Contention
import Seckill.Verified.TestUsers
