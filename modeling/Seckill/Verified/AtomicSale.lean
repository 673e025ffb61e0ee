import Seckill.Verified.FaultFree
import Seckill.Verified.TextRuns
import Seckill.Verified.Truth

/-! # The atomic stock counter

In fault-free runs Redis is an atomic stock counter that sells at each `EXEC`, and MySQL and the
answers follow it.  What is left to be told "0" has found the counter empty, or has lost every
race for it.  All of this holds of counts in the range of `int`, which is what `atoi` reads.
-/

namespace Seckill

open CStr CallTree Threads Leases

variable {ok : Condition server} {st : Stores} {h h' : History server} {cfg : Config server}
  {l : Local} {t N : Nat}

/-! ## The abstract counter -/

/-- A stock counter: what is left, and who has got a unit, the last one first. -/
structure StockCounter where
  left : Nat
  buyers : List Str

/-- A sale is one step: a unit is left, and the buyer has none. -/
def StockCounter.sell (c : StockCounter) (name : Str) : Option StockCounter :=
  if 0 < c.left ∧ name ∉ c.buyers then some ⟨c.left - 1, name :: c.buyers⟩ else none

/-- The sales to some buyers, the last one first. -/
def StockCounter.sales (c : StockCounter) : List Str → Option StockCounter
  | [] => some c
  | name :: earlier => (c.sales earlier).bind (·.sell name)

/-- What the counter says is what it has sold. -/
theorem sales_sum {c : StockCounter} {names : List Str}
    (sold : (StockCounter.mk N []).sales names = some c) :
    c.buyers = names ∧ c.left + names.length = N := by
  induction names generalizing c with
  | nil =>
    cases sold
    exact ⟨rfl, rfl⟩
  | cons name earlier ih =>
    obtain ⟨c', before, sale⟩ := Option.bind_eq_some_iff.mp sold
    obtain ⟨buyers, sum⟩ := ih before
    simp only [StockCounter.sell] at sale
    split at sale
    next room =>
      cases sale
      refine ⟨congrArg (name :: ·) buyers, ?_⟩
      show c'.left - 1 + (earlier.length + 1) = N
      omega
    next => cases sale

/-! ## Redis is the counter -/

/-- No two requests are of one name. -/
def DistinctNames (h : History server) : Prop := ((delivered h).map fun q => cStr q.usrname).Nodup

theorem DistinctNames.past {past : History server} (distinct : DistinctNames h)
    (before : past <:+ h) : DistinctNames past :=
  distinct.sublist ((delivered_suffix before).sublist.map _)

/-- A user whose request has no grant yet has none at all. -/
theorem no_grant_yet (run : Run ok (boot st) h cfg) (distinct : DistinctNames h) {q : Request}
    (serves : serving t h = some q) (ungranted : (locals watch h t).job.granted = false) :
    ∀ g ∈ grants h, cStr g.usrname ≠ cStr q.usrname := by
  intro g granted same
  have requests := requests run
  have marked := ((grants_marked run).mem g).mp granted
  have known : g ∈ delivered h := by
    obtain ⟨t', serves', _⟩ | ⟨a, answered, rfl, _⟩ := marked
    · exact requests.served t' g serves'
    · exact requests.answered a answered
  obtain rfl : g = q :=
    List.inj_on_of_nodup_map distinct known (requests.served t q serves) same
  obtain ⟨t', serves', mark⟩ | ⟨a, answered, eq, _⟩ := marked
  · rw [serving_once run serves' serves] at mark
    exact absurd (ungranted.symm.trans mark) Bool.false_ne_true
  · exact requests.spent a answered t (eq ▸ serves)

/-- In every state Redis stands for the counter after the sales to those who were granted a unit,
    and each `EXEC` that goes through is one sale. -/
theorem counter_refined (opening : Opening N st) (run : Run (meets faultFree) (boot st) h cfg)
    (distinct : DistinctNames h) :
    ∃ c, (StockCounter.mk N []).sales ((grants h).map fun q => cStr q.usrname) = some c ∧
      cfg.state.redis.data.totalCount = decimal c.left := by
  refine server_invariant (fun h s _ => DistinctNames h →
    ∃ c, (StockCounter.mk N []).sales ((grants h).map fun q => cStr q.usrname) = some c ∧
      s.redis.data.totalCount = decimal c.left)
        ?initial ?redis ?mysql ?counter ?grpc ?start run distinct
  case initial => exact fun _ => ⟨_, rfl, opening.totalCount⟩
  case redis =>
    intro h cfg t c f r x run inv met allowed exec distinct
    obtain ⟨counter, sold, count⟩ := inv distinct
    cases RedisState.exec_does exec with
    | getOneConnect got =>
      simp only [RedisState.getOneConnect_data got]
      exact ⟨counter, sold, count⟩
    | close c => exact ⟨counter, sold, count⟩
    | @command _ r _ c cmd sent =>
      by_cases isExec : cmd = .exec
      · subst isExec
        obtain ⟨rfl, data⟩ | ⟨rfl, k, q, key, serves, before, _, _, data⟩ :=
          exec_served opening.totalCount faultFree_redis run met allowed sent
        · exact ⟨counter, sold, by rw [data, count]⟩
        · have all : grants (.call t (.redis (.command c .exec)) f (some (.array 2)) :: h) =
              q :: grants h := by
            simp [grants, granted, serves]
          have left : counter.left = k + 1 := by
            have same := decimal_injective (count.symm.trans before)
            omega
          have new : cStr q.usrname ∉ counter.buyers := by
            rw [(sales_sum sold).1]
            intro member
            obtain ⟨g, granted, same⟩ := List.mem_map.mp member
            exact no_grant_yet run distinct serves allowed.2.1.1 g granted same
          refine ⟨⟨k, cStr q.usrname :: counter.buyers⟩, ?_, by rw [data]⟩
          rw [all, List.map_cons, StockCounter.sales, sold, Option.bind_some, StockCounter.sell,
            if_pos ⟨by omega, new⟩, left]
          rfl
      · have other (value : Str) : cmd ≠ .set value := by
          rintro rfl
          exact no_refill opening run allowed
        have same : grants (.call t (.redis (.command c cmd)) f r :: h) = grants h := by
          cases cmd <;> first | rfl | exact absurd rfl isExec
        obtain ⟨_, _, rfl⟩ := served faultFree_redis run met sent
        have fits := in_step faultFree_redis run allowed.1
        refine ⟨counter, same.symm ▸ sold, Eq.trans (serve_untouched isExec other fun decr => ?_) count⟩
        -- `DECR` is only sent inside `MULTI`
        subst decr
        obtain ⟨v, opened⟩ := allowed.2
        rw [opened] at fits
        simp [fits.1]
  case mysql => exact fun _ inv _ _ _ distinct => inv distinct
  case counter => exact fun _ inv _ _ _ distinct => inv distinct
  case grpc =>
    intro h cfg t c f r x _ inv _ _ _ distinct
    exact inv (distinct.past (List.suffix_cons _ _))
  case start => exact fun _ inv _ _ distinct => inv distinct

/-! ## Why a request is told "0" -/

/-- Thread `t` read `total_count` = 0 for its request `q` when `N` grants had been given. -/
def FoundEmpty (N t : Nat) (q : Request) (h : History server) : Prop :=
  ∃ (c : ConnId) (f : Fate) (past : History server),
    (Occurrence.call t (.redis (.command c .get)) f (some (.string (decimal 0))) : Event server) :: past <:+
      h ∧ serving t past = some q ∧ (grants past).length = N

theorem FoundEmpty.cons {ev : Event server} {q : Request} (found : FoundEmpty N t q h) :
    FoundEmpty N t q (ev :: h) := by
  obtain ⟨c, f, past, before, serves, all⟩ := found
  exact ⟨c, f, past, before.trans (List.suffix_cons _ _), serves, all⟩

/-- What the `EXEC`s of thread `t` were answered since it took its request. -/
def execReplies (t : Nat) : History server → List (Option RedisReply)
  | [] => []
  | .call t' (.grpc .next) _ _ :: h => if t' = t then [] else execReplies t h
  | .call t' (.redis (.command _ .exec)) _ r :: h =>
    if t' = t then r :: execReplies t h else execReplies t h
  | _ :: h => execReplies t h

/-- What is known of a request without a grant: each attempt lost its watch, and if its user is
    registered, there is no reason to tell them "0" but an empty counter. -/
structure Ungranted (N : Nat) (st : Stores) (t : Nat) (q : Request) (h : History server)
    (l : Local) : Prop where
  lost : execReplies t h = List.replicate l.job.tries (some .nil)
  why : Registered (boot st) (cStr q.usrname) q.usrkey → l.job.why ≠ none → FoundEmpty N t q h

theorem Ungranted.keep {ev : Event server} {q : Request} {l' : Local}
    (known : Ungranted N st t q h l) (replies : execReplies t (ev :: h) = execReplies t h)
    (tries : l'.job.tries = l.job.tries)
    (why : Registered (boot st) (cStr q.usrname) q.usrkey → l'.job.why = l.job.why ∨ l'.job.why = none) :
    Ungranted N st t q (ev :: h) l' where
  lost := by rw [replies, tries, known.lost]
  why registered reason := by
    obtain same | none := why registered
    · exact (known.why registered (same ▸ reason)).cons
    · exact absurd none reason

theorem execReplies_other {t' : Nat} {c : Call} {f : Fate} {r : c.Reply} (other : t' ≠ t) :
    execReplies t' (.call t c f r :: h) = execReplies t' h := by
  cases c with
  | mysql c | counter c | crash why => rfl
  | redis c =>
    cases c with
    | getOneConnect | close c => rfl
    | command c cmd => cases cmd <;> first | rfl | exact if_neg (Ne.symm other)
  | grpc c => cases c <;> first | rfl | exact if_neg (Ne.symm other)

/-- Only `EXEC` and a `MULTI` that is not answered `OK` end an attempt. -/
theorem noteCmd_tries {cmd : RedisCmd} {r : Option RedisReply} (exec : cmd ≠ .exec)
    (multi : cmd = .multi → isOK r = true) : (l.noteCmd cmd r).job.tries = l.job.tries := by
  unfold Local.noteCmd Local.noteGet Job.noteHget
  (repeat' split) <;> first | rfl | exact absurd rfl exec | simp_all

/-- Only a `GET` and a lookup give a reason. -/
theorem noteCmd_why {cmd : RedisCmd} {r : Option RedisReply} (get : cmd ≠ .get)
    (hget : ∀ key field, cmd ≠ .hget key field) (ungranted : cmd = .exec → granted r = false) :
    (l.noteCmd cmd r).job.why = l.job.why := by
  unfold Local.noteCmd
  (repeat' split) <;> first | rfl | exact absurd rfl get | exact absurd rfl (hget _ _) | simp_all

/-- A `GET` of the protocol is answered with the count. -/
theorem get_served {c : ConnId} {f : Fate} {r : Option RedisReply} {x : RedisState}
    (works : ∀ {h s ev}, ok h s ev → redisWorks h s ev = true) (run : Run ok (boot st) h cfg)
    (met : ok h cfg.state (.call t (.redis (.command c .get)) f r))
    (allowed : (locals watch h t).Allowed (.redis (.command c .get)))
    (sent : cfg.state.redis.redisCommand c .get f = some (r, x)) :
    (locals watch h t).redis.phase = .watched ∧
      r = some (.string cfg.state.redis.data.totalCount) := by
  obtain ⟨_, reply, _⟩ := served works run met sent
  have fits := in_step works run allowed.1
  obtain refused | watched := allowed.2
  · rw [refused] at fits
    exact fits.elim
  · rw [watched] at fits
    rw [serve_data fits.1 (by simp)] at reply
    exact ⟨watched, reply⟩

/-- A lookup of the protocol is answered with what the hash has under the request's name. -/
theorem hget_served {c : ConnId} {key : HashKey} {field : Str} {f : Fate} {r : Option RedisReply}
    {x : RedisState} {q : Request} (works : ∀ {h s ev}, ok h s ev → redisWorks h s ev = true)
    (run : Run ok (boot st) h cfg)
    (met : ok h cfg.state (.call t (.redis (.command c (.hget key field))) f r))
    (allowed : (locals watch h t).Allowed (.redis (.command c (.hget key field))))
    (sent : cfg.state.redis.redisCommand c (.hget key field) f = some (r, x))
    (serves : serving t h = some q) :
    (locals watch h t).job.userKey = some q.usrkey ∧
      r = some (match (cfg.state.redis.data.hash key).lookup (cStr q.usrname) with
        | some v => .string v
        | none => .nil) := by
  obtain ⟨_, reply, _⟩ := served works run met sent
  have fits := in_step works run allowed.1
  obtain ⟨_, ⟨free, _⟩, work, hasKey, name, named, rfl⟩ := allowed
  obtain ⟨q', serves', delivered, keyed⟩ := serving_atWork run work
  obtain rfl : q = q' := Option.some.inj (serves.symm.trans serves')
  obtain ⟨usrkey, isKey⟩ := Option.isSome_iff_exists.mp hasKey
  rw [free] at fits
  rw [serve_data fits (by simp)] at reply
  rw [← delivered name named, ← keyed usrkey isKey]
  exact ⟨isKey, reply⟩

/-- A `MULTI` of the protocol is answered `OK`. -/
theorem multi_served {c : ConnId} {f : Fate} {r : Option RedisReply} {x : RedisState}
    (works : ∀ {h s ev}, ok h s ev → redisWorks h s ev = true) (run : Run ok (boot st) h cfg)
    (met : ok h cfg.state (.call t (.redis (.command c .multi)) f r))
    (allowed : (locals watch h t).Allowed (.redis (.command c .multi)))
    (sent : cfg.state.redis.redisCommand c .multi f = some (r, x)) : isOK r = true := by
  obtain ⟨_, rfl, _⟩ := served works run met sent
  have fits := in_step works run allowed.1
  obtain ⟨_, v, counted, _⟩ := allowed
  rw [counted] at fits
  simp only [RedisState.serve, fits.1]
  decide

/-- A count that `atoi` finds not to be positive is zero, or out of the range of `int`. -/
theorem eq_zero_of_atoi {n : Nat} (range : (n : Int) ≤ intMax) (sold : ¬0 < atoi (decimal n)) :
    n = 0 := by
  rw [atoi_decimal (by omega) range] at sold
  omega

theorem Ungranted.command {c : ConnId} {cmd : RedisCmd} {f : Fate} {r : Option RedisReply}
    {x : RedisState} {q : Request} (opening : Opening N st) (range : (N : Int) ≤ intMax)
    (run : Run (meets faultFree) (boot st) h cfg) (distinct : DistinctNames h)
    (met : meets faultFree h cfg.state (.call t (.redis (.command c cmd)) f r))
    (allowed : (locals watch h t).Allowed (.redis (.command c cmd)))
    (sent : cfg.state.redis.redisCommand c cmd f = some (r, x)) (serves : serving t h = some q)
    (before : (locals watch h t).job.granted = false)
    (after : ((locals watch h t).noteCmd cmd r).job.granted = false)
    (known : Ungranted N st t q h (locals watch h t)) :
    Ungranted N st t q (.call t (.redis (.command c cmd)) f r :: h)
      ((locals watch h t).noteCmd cmd r) := by
  by_cases isExec : cmd = .exec
  · subst isExec
    obtain ⟨rfl, _⟩ | ⟨rfl, _⟩ :=
      exec_served opening.totalCount faultFree_redis run met allowed sent
    · -- one more attempt, and one more watch lost
      refine ⟨?_, fun registered reason => (known.why registered reason).cons⟩
      show (if t = t then _ else _) = _
      rw [if_pos rfl, known.lost]
      rfl
    · cases after
  have replies : execReplies t (.call t (.redis (.command c cmd)) f r :: h) = execReplies t h := by
    cases cmd <;> first | rfl | exact absurd rfl isExec
  have tries : ((locals watch h t).noteCmd cmd r).job.tries = (locals watch h t).job.tries := by
    refine noteCmd_tries isExec fun multi => ?_
    subst multi
    exact multi_served faultFree_redis run met allowed sent
  by_cases get : cmd = .get
  · subst get
    obtain ⟨watched, rfl⟩ := get_served faultFree_redis run met allowed sent
    obtain ⟨counter, sold, count⟩ := counter_refined opening run distinct
    have sum := (sales_sum sold).2
    rw [List.length_map] at sum
    have note : (locals watch h t).noteCmd .get (some (.string cfg.state.redis.data.totalCount)) =
        if 0 < atoi cfg.state.redis.data.totalCount then
          ((locals watch h t).setPhase (.counted cfg.state.redis.data.totalCount)).clearWhy
        else ((locals watch h t).setPhase (.counted cfg.state.redis.data.totalCount)).setWhy
          .soldOut := by
      simp only [Local.noteCmd, Local.noteGet, watched, Option.bind_some, RedisReply.str]
    by_cases some : 0 < atoi cfg.state.redis.data.totalCount
    · refine known.keep replies tries fun _ => Or.inr ?_
      rw [note, if_pos some]
      rfl
    · -- nothing is left, so all N are granted by now
      refine ⟨by rw [replies, tries, known.lost], fun _ _ => ?_⟩
      rw [count] at some
      have none : counter.left = 0 := eq_zero_of_atoi (by omega) some
      rw [count, none]
      exact ⟨c, f, h, List.suffix_rfl, serves, by omega⟩
  by_cases hget : ∃ key field, cmd = .hget key field
  · obtain ⟨key, field, rfl⟩ := hget
    obtain ⟨isKey, rfl⟩ := hget_served faultFree_redis run met allowed sent serves
    have orders := redis_orders opening.totalCount faultFree_redis run
    refine known.keep replies tries fun registered => Or.inl ?_
    cases key with
    | usrInfo =>
      obtain ⟨v, member, same⟩ := registered
      have found : cfg.state.redis.data.usrInfo.lookup (cStr q.usrname) = some v := by
        rw [orders.usrInfo]
        exact (opening.agree.users _ _).mpr member
      simp [Local.noteCmd, Job.noteHget, RedisData.hash, found, isKey, same]
    | orderInfo =>
      -- an order under this name would be of another request of it
      have absent : cfg.state.redis.data.orderInfo.lookup (cStr q.usrname) = none := by
        refine AList.lookup_eq_none.mpr fun member => ?_
        obtain first | ⟨g, granted, same⟩ := (orders.orderInfo _).mp member
        · exact opening.redisOrders _ first
        · exact no_grant_yet run distinct serves before g granted same
      simp [Local.noteCmd, Job.noteHget, RedisData.hash, absent]
  · refine known.keep replies tries fun _ => Or.inl ?_
    exact noteCmd_why get (fun key field eq => hget ⟨key, field, eq⟩) fun exec => absurd exec isExec

/-- A step of thread `t` that says nothing new of other threads. -/
theorem ungranted_step {t : Nat} {c : Call} {f : Fate} {r : c.Reply} {ls : Nat → Local}
    (before : ∀ t q, serving t h = some q → (ls t).job.granted = false →
      Ungranted N st t q h (ls t))
    (own : ∀ q, serving t (.call t c f r :: h) = some q → l.job.granted = false →
      Ungranted N st t q (.call t c f r :: h) l) :
    ∀ t' q, serving t' (.call t c f r :: h) = some q →
      (Function.update ls t l t').job.granted = false →
      Ungranted N st t' q (.call t c f r :: h) (Function.update ls t l t') := by
  intro t' q serves still
  by_cases same : t' = t
  · subst same
    rw [Function.update_self] at still ⊢
    exact own q serves still
  · rw [Function.update_of_ne same] at still ⊢
    rw [serving_other same] at serves
    exact (before t' q serves still).keep (execReplies_other same) rfl fun _ => Or.inl rfl

/-- What is known of the requests without a grant, along a run. -/
theorem ungranted (opening : Opening N st) (range : (N : Int) ≤ intMax)
    (run : Run (meets faultFree) (boot st) h cfg) (distinct : DistinctNames h) :
    ∀ t q, serving t h = some q → (locals watch h t).job.granted = false →
      Ungranted N st t q h (locals watch h t) := by
  refine server_invariant (fun h _ ls => DistinctNames h → ∀ t q, serving t h = some q →
    (ls t).job.granted = false → Ungranted N st t q h (ls t))
      ?initial ?redis ?mysql ?counter ?grpc ?start run distinct
  case initial =>
    intro _ t q serves
    cases serves
  case redis =>
    intro h cfg t c f r x run inv met allowed exec distinct
    refine ungranted_step (inv distinct) fun q serves still => ?_
    cases c with
    | getOneConnect | close c =>
      exact (inv distinct t q serves still).keep rfl rfl fun _ => Or.inl rfl
    | command c cmd =>
      have before : (locals watch h t).job.granted = false := by
        by_cases isExec : cmd = .exec
        · subst isExec
          exact allowed.2.1.1
        · exact (Local.noteCmd_granted isExec).symm.trans still
      exact (inv distinct t q serves before).command opening range run distinct met allowed exec
        serves before still
  case mysql =>
    intro h cfg t c f r x run inv met allowed exec distinct
    refine ungranted_step (inv distinct) fun q serves still => ?_
    obtain ⟨_, _, _, _, _, granted, tries, _⟩ :=
      (locals watch h t).note_mysql (c := c) (f := f) (r := r)
    rw [granted] at still
    refine (inv distinct t q serves still).keep rfl tries fun _ => Or.inl ?_
    have answered : noError (.call t (.mysql c) f r) = true := (Bool.and_eq_true_iff.mp met).2
    refine (note_mysql_why answered).resolve_right fun ⟨selected, _⟩ => ?_
    -- goods are only selected for a unit
    have unit := ((no_failure opening run).smooth t).sells (by rw [selected]; rfl)
    have granted := ((opening.books run).units t unit).1
    exact absurd (still.symm.trans granted) Bool.false_ne_true
  case counter =>
    intro h cfg t c f r x run inv met allowed exec distinct
    refine ungranted_step (inv distinct) fun q serves still => ?_
    obtain ⟨_, _, _, _, granted, tries, _, why, _⟩ :=
      (locals watch h t).note_counter (c := c) (f := f) (r := r)
    rw [granted] at still
    exact (inv distinct t q serves still).keep rfl tries fun _ => Or.inl why
  case grpc =>
    intro h cfg t c f r x run inv met allowed exec distinct
    have past := distinct.past (List.suffix_cons _ _)
    refine ungranted_step (inv past) fun q serves still => ?_
    by_cases next : c = .next
    · subst next
      obtain ⟨why, _, tries⟩ := note_next (l := locals watch h t) (w := r) (f := f)
      -- a request just taken has tried nothing yet
      refine ⟨?_, fun _ reason => absurd why reason⟩
      rw [tries]
      exact if_pos rfl
    · have finish (w : WorkerId) (result : Str) : c ≠ .finish w result := by
        rintro rfl
        simp [serving] at serves
      obtain ⟨why, _, tries⟩ := noteGrpc_sale (l := locals watch h t) (f := f) (r := r) next finish
      have granted := (Local.noteGrpc_job (l := locals watch h t) (f := f) (r := r) next).2.1
      have before : serving t h = some q := by
        cases c <;> first | exact serves | exact absurd rfl next | exact absurd rfl (finish _ _)
      refine (inv past t q before (granted.symm.trans still)).keep ?_ tries fun _ => Or.inl why
      cases c <;> first | rfl | exact absurd rfl next
  case start =>
    intro h cfg t e run inv met settled distinct t' q serves still
    have idle : serving t h = none := by
      rw [serving_eq run]
      exact Task.serving_none settled.request
    by_cases same : t' = t
    · subst same
      have busy : serving t' h = some q := serves
      rw [idle] at busy
      cases busy
    · rw [Function.update_of_ne same] at still ⊢
      exact (inv distinct t' q serves still).keep rfl rfl fun _ => Or.inl rfl

theorem grants_suffix {past : History server} (before : past <:+ h) : grants past <:+ grants h := by
  obtain ⟨later, rfl⟩ := before
  induction later with
  | nil => exact List.suffix_rfl
  | cons ev later ih =>
    refine ih.trans ?_
    rw [List.cons_append]
    cases ev with
    | start t e => exact List.suffix_rfl
    | call t c f r =>
      cases c with
      | mysql c | counter c | grpc c | crash why => exact List.suffix_rfl
      | redis c =>
        cases c with
        | getOneConnect | close c => exact List.suffix_rfl
        | command c cmd =>
          cases cmd <;> try exact List.suffix_rfl
          rw [grants]
          split
          · exact List.suffix_append _ _
          · exact List.suffix_rfl

/-! ## All requests answered -/

theorem answer_past {a : Answer} (member : a ∈ answers h) : a.past <:+ h := by
  induction h with
  | nil => cases member
  | cons ev h ih =>
    have later (before : a ∈ answers h) : a.past <:+ ev :: h :=
      (ih before).trans (List.suffix_cons _ _)
    cases ev with
    | start t e => exact later member
    | call t c f r =>
      cases c with
      | redis c | mysql c | counter c | crash why => exact later member
      | grpc c =>
        cases c with
        | finish w result =>
          obtain now | before := List.mem_append.mp member
          · obtain ⟨q, _, rfl⟩ := List.mem_map.mp now
            exact List.suffix_cons _ _
          · exact later before
        | alloc | status w | setStatus w status | requestseckill w | usrname w | usrkey w
        | setResult w result | result w | delete w | next => exact later member

/-- Who is told "0" was not granted a unit. -/
theorem zero_ungranted (opening : Opening N st) (run : Run (meets faultFree) (boot st) h cfg)
    {a : Answer} (member : a ∈ answers h) (result : a.result = zero) :
    a.record.job.granted = false ∧ (a.record.job.why ≠ none ∨ a.record.job.tries = RETRYCOUNT) := by
  have given := given run a member
  obtain ⟨_, past⟩ := given.run
  have books := opening.books past
  have smooth : Smooth a.record := (no_failure opening past).smooth a.thread
  obtain ⟨told, _⟩ | ⟨_, unpaid, reason, refused⟩ := given.answers
  · exact absurd (told.symm.trans result) (by decide)
  constructor
  · by_contra had
    have had : a.record.job.granted = true := by simpa using had
    -- a unit that is still in hand was not refused
    have unit := (smooth.kept had).resolve_left (by simp [unpaid])
    exact (books.units a.thread unit).2.2 (refused unit)
  · obtain alone | some | tries := reason
    · exact absurd ((books.mode a.thread).symm.trans alone) Bool.false_ne_true
    · exact Or.inl (Option.isSome_iff_ne_none.mp some)
    · exact Or.inr tries

theorem granted_one (opening : Opening N st) (run : Run (meets faultFree) (boot st) h cfg)
    {a : Answer} (member : a ∈ answers h) (granted : a.request ∈ grants h) : a.result = one := by
  obtain ⟨t, serves, _⟩ | ⟨b, other, same, mark⟩ := ((grants_marked run).mem a.request).mp granted
  · exact absurd serves ((requests run).spent a member t)
  · obtain rfl := answer_once run other member same
    obtain ⟨told, _⟩ | ⟨told, _⟩ := (given run b other).answers
    · exact told
    · have none := (zero_ungranted opening run other told).1
      exact absurd (none.symm.trans mark) Bool.false_ne_true

/-- At rest the grants are the requests that were told "1". -/
theorem grants_ones (opening : Opening N st) (run : Run (meets faultFree) (boot st) h cfg)
    (rest : AtRest h) : ((ones h).map Answer.request).Perm (grants h) := by
  have perm := ones_orders faultFree_commits run rest
  have nodup : ((ones h).map Answer.request).Nodup :=
    perm.nodup_iff.mpr (orders_marked faultFree_commits run).nodup
  rw [List.perm_ext_iff_of_nodup nodup (grants_marked run).nodup]
  intro q
  constructor
  · intro told
    exact orders_granted opening.range opening.totalCount opening.stock faultFree_may run q
      (perm.mem_iff.mp told)
  · intro granted
    obtain ⟨t, serves, _⟩ | ⟨a, member, rfl, _⟩ := ((grants_marked run).mem q).mp granted
    · exact absurd ((rest t).symm.trans serves) nofun
    · exact List.mem_map_of_mem (mem_ones.mpr ⟨member, granted_one opening run member granted⟩)

/-- The answers and both stores are those of an atomic counter of `N` units. -/
structure AtomicSale (N : Nat) (st : Stores) (h : History server) (s : Server) : Prop where
  fields : ∀ name, name ∈ s.redis.data.orderInfo ↔ ∃ a ∈ ones h, a.request.usrname = name
  rows : ∀ name, (∃ o ∈ s.mysql.orderInfo, o.usrName = name) ↔
    ∃ a ∈ ones h, a.request.usrname = name
  stock : ∃ c, (StockCounter.mk N []).sales ((grants h).map Request.usrname) = some c ∧
    s.redis.data.totalCount = decimal c.left ∧ s.mysql.gTotalcount = some c.left ∧
    c.left + (ones h).length = N
  granted : ∀ a ∈ answers h, a.request ∈ grants h → a.result = one
  refused : ∀ a ∈ answers h, a.result = zero →
    Registered (boot st) a.request.usrname a.request.usrkey →
    FoundEmpty N a.thread a.request a.past ∨
      execReplies a.thread a.past = List.replicate RETRYCOUNT (some .nil)

/-- On statements. -/
theorem atomic_sale (range : (N : Int) ≤ intMax) (agree : Agree (boot st))
    (empty : st.orderInfo = []) (stock : st.gTotalcount = some N)
    (run : Run (meets faultFree) (boot st) h cfg) (verbatim : ∀ q ∈ delivered h, q.Verbatim)
    (different : ((delivered h).map Request.usrname).Nodup) (rest : AtRest h) :
    AtomicSale N st h cfg.state := by
  have opening : Opening N st := by
    refine ⟨agree, empty, stock, ?_⟩
    simp only [intMax] at range
    omega
  have carried : (delivered h).map (fun q => cStr q.usrname) = (delivered h).map Request.usrname :=
    List.map_congr_left fun q member => (verbatim q member).1.1
  have distinct : DistinctNames h := by rwa [DistinctNames, carried]
  have perm := grants_ones opening run rest
  have sold := ones_orders faultFree_commits run rest
  -- a name of some requests is the name of one that was told "1"
  have named {list : List Request} (same : ((ones h).map Answer.request).Perm list) (name : Str) :
      (∃ q ∈ list, cStr q.usrname = name) ↔ ∃ a ∈ ones h, a.request.usrname = name := by
    have plain {a : Answer} (member : a ∈ ones h) : cStr a.request.usrname = a.request.usrname :=
      (verbatim _ ((requests run).answered a (mem_ones.mp member).1)).1.1
    constructor
    · rintro ⟨q, member, rfl⟩
      obtain ⟨a, told, rfl⟩ := List.mem_map.mp (same.mem_iff.mpr member)
      exact ⟨a, told, (plain told).symm⟩
    · rintro ⟨a, told, rfl⟩
      exact ⟨a.request, same.mem_iff.mp (List.mem_map_of_mem told), plain told⟩
  have orders := redis_orders opening.totalCount faultFree_redis run
  have rows : MysqlOrders st h cfg.state.mysql := mysql_orders opening.range stock
    (fun met => ordersMayFail_sound (faultFree_may met)) faultFree_commits run
  rw [MysqlOrders, empty, List.map_nil, List.nil_append] at rows
  refine ⟨fun name => ?_, fun name => ?_, ?_, ?_, ?_⟩
  · rw [orders.orderInfo, or_iff_right (opening.redisOrders name)]
    exact named perm name
  · have listed : name ∈ cfg.state.mysql.orderInfo.map OrderRow.usrName ↔
        ∃ q ∈ Seckill.orders h, cStr q.usrname = name := by
      rw [rows]
      simp
    rw [← List.mem_map, listed]
    exact named sold name
  · obtain ⟨counter, sales, count⟩ := counter_refined opening run distinct
    have ledger := ledger opening.range stock (fun met => ordersMayFail_sound (faultFree_may met)) run
    obtain ⟨g, committed, left, length, sum⟩ := ledger.stock
    have granted : (grants h).map (fun q => cStr q.usrname) = (grants h).map Request.usrname := by
      refine List.map_congr_left fun q member => ?_
      obtain ⟨a, told, rfl⟩ := List.mem_map.mp (perm.mem_iff.mpr member)
      exact (verbatim _ ((requests run).answered a (mem_ones.mp told).1)).1.1
    -- granted, told "1" and written are as many, and the rest is left in both stores
    have total := (sales_sum sales).2
    have told := perm.length_eq
    have ordered := sold.length_eq
    have written := congrArg List.length rows
    rw [List.length_map] at total told ordered
    rw [List.length_map, List.length_reverse, List.length_map] at written
    rw [empty, List.length_nil] at length
    refine ⟨counter, granted ▸ sales, count, ?_, by omega⟩
    rw [left]
    exact congrArg some (by omega)
  · exact fun a => granted_one opening run
  · intro a member result registered
    have known := (requests run).answered a member
    have given := given run a member
    obtain ⟨_, past⟩ := given.run
    obtain ⟨none, reason⟩ := zero_ungranted opening run member result
    have ungranted := ungranted opening range past (distinct.past (answer_past member)) a.thread
      a.request given.serving none
    rw [← (verbatim _ known).1.1] at registered
    obtain why | tries := reason
    · exact Or.inl (ungranted.why registered why)
    · refine Or.inr ?_
      rw [ungranted.lost, show (locals watch a.past a.thread).job.tries = RETRYCOUNT from tries]

/-- Fault-free runs on verbatim requests of different names sell as an atomic counter does. -/
theorem sells_atomically {other : Dialect} {cfg : Config (textServer other)} (N : Nat)
    (range : (N : Int) ≤ intMax) (agree : Agree (boot st)) (empty : st.orderInfo = [])
    (stock : st.gTotalcount = some N)
    (run : Run (M := textServer other) (meets faultFree) (boot st) h cfg)
    (verbatim : ∀ q ∈ delivered h, q.Verbatim)
    (different : ((delivered h).map Request.usrname).Nodup) (rest : AtRest h) :
    AtomicSale N st h cfg.state :=
  atomic_sale range agree empty stock (run_server run verbatim) verbatim different rest

/-- Stores as `prepareForSeckill` leaves them agree. -/
theorem agreeing_agree {users : List (Str × Str)} (names : (users.map Prod.fst).Nodup) (n : Nat) :
    Agree (boot (agreeing users n)) :=
  loaded_agree names rfl rfl rfl rfl rfl

/-- Two users, and a unit for one of them. -/
def lastUnit : Stores := agreeing [(['a'], ['k']), (['b'], ['k'])] 1

/-- The unit is sold, and then the other user finds the counter empty. -/
theorem sells_atomically_last : ∃ (h : History server) (cfg : Config (textServer allKeys)),
    Run (M := textServer allKeys) (meets faultFree) (boot lastUnit) h cfg ∧ AtRest h ∧
      (answers h).map Answer.result = [zero, one] ∧ AtomicSale 1 lastUnit h cfg.state := by
  have ran : ((replay (M := textServer allKeys) faultFree (serves 0 ⟨0, ['a'], ['k']⟩ .ok .ok ++
      looks 1 ⟨1, ['b'], ['k']⟩ ++ go 1 11) [] (initial (boot lastUnit))).any fun x =>
        allAnswered x.1 && (answers x.1).map Answer.result == [zero, one] &&
        delivered x.1 == [⟨1, ['b'], ['k']⟩, ⟨0, ['a'], ['k']⟩]) = true := by decide +kernel
  obtain ⟨⟨h, cfg⟩, played, after⟩ := (Option.any_eq_true _ _).mp ran
  simp only [Bool.and_eq_true, beq_iff_eq] at after
  obtain ⟨⟨answered, results⟩, asked⟩ := after
  have run : Run (M := textServer allKeys) (meets faultFree) _ h cfg := replay_meets played
  have verbatim : ∀ q ∈ delivered h, q.Verbatim := by
    rw [asked]
    decide
  have rest : AtRest h := allAnswered_rest (run_server run verbatim) answered
  exact ⟨h, cfg, run, rest, results, sells_atomically 1 (by decide) (agreeing_agree (by decide) 1)
    rfl rfl run verbatim (by rw [asked]; decide) rest⟩

/-- One user, and a stock that `INT UNSIGNED` holds and `int` does not. -/
def wideStock : Stores := agreeing [(['a'], ['k'])] 2147483648

/-- `atoi` reads 2^31 as a negative number, so a registered user is told "0" of a full stock. -/
theorem full_stock_refused : ∃ (h : History server) (cfg : Config (textServer allKeys)),
    Run (M := textServer allKeys) (meets faultFree) (boot wideStock) h cfg ∧ AtRest h ∧
      delivered h = [⟨0, ['a'], ['k']⟩] ∧ (answers h).map Answer.result = [zero] ∧
      Agree (boot wideStock) ∧ ¬ AtomicSale 2147483648 wideStock h cfg.state := by
  have ran : ((replay (M := textServer allKeys) faultFree (looks 0 ⟨0, ['a'], ['k']⟩ ++ go 0 11) []
      (initial (boot wideStock))).any fun x =>
        allAnswered x.1 && delivered x.1 == [⟨0, ['a'], ['k']⟩] &&
        (answers x.1).map Answer.result == [zero] && (grants x.1).isEmpty &&
        (answers x.1).all fun a => execReplies a.thread a.past == []) = true := by decide +kernel
  obtain ⟨⟨h, cfg⟩, played, after⟩ := (Option.any_eq_true _ _).mp ran
  simp only [Bool.and_eq_true, beq_iff_eq, List.isEmpty_iff, List.all_eq_true] at after
  obtain ⟨⟨⟨⟨answered, asked⟩, results⟩, none⟩, tries⟩ := after
  have texts : Run (M := textServer allKeys) (meets faultFree) _ h cfg := replay_meets played
  have run := run_server texts (by rw [asked]; decide)
  have agree : Agree (boot wideStock) := agreeing_agree (by decide) _
  refine ⟨h, cfg, texts, allAnswered_rest run answered, asked, results, agree, fun atomic => ?_⟩
  obtain ⟨a, member, result⟩ := List.mem_map.mp (results ▸ List.mem_singleton_self zero)
  have request := (requests run).answered a member
  rw [asked] at request
  have registered : Registered (boot wideStock) a.request.usrname a.request.usrkey := by
    rw [List.mem_singleton.mp request]
    exact ⟨['k'], List.mem_singleton_self _, rfl⟩
  obtain ⟨c, f, past, found, _, all⟩ | lost := atomic.refused a member result registered
  · -- nothing was granted
    have past : past <:+ h := (List.suffix_cons _ _).trans (found.trans (answer_past member))
    have grants := (grants_suffix past).length_le
    rw [all, none] at grants
    exact absurd grants (by decide)
  · rw [tries a member] at lost
    cases lost

end Seckill
