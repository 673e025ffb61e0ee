import Seckill.Verified.LockOrder
import Seckill.Verified.PoolSizes
import Seckill.Verified.Requests
import Seckill.Verified.Turns

/-! # Every request is answered

`Run` starts `WORKER_NUM` threads, and their turns are bounded.  The pools suffice for that
many and nobody waits in a circle, so however the threads are scheduled, they go on until
each waits for the completion queue; and then no request is left.
-/

namespace Seckill

open CStr CallTree Threads

variable {st : Stores} {h h' : History server} {cfg : Config server} {t : Nat}

/-- A call without a fault that takes nothing from the completion queue. -/
def goesOn : Event server → Prop
  | .call _ c f _ => f = .ok ∧ c ≠ .grpc .next
  | .start _ _ => False

section Staffed

variable (redis : 0 < st.redisMax) (mysql : WORKER_NUM ≤ st.mysqlMax.toNat)

include redis mysql

end Staffed

end Seckill
