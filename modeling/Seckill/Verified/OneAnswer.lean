import Seckill.Lib.Transcript
import Seckill.Model.Worker

/-! # One answer for every request

The `PROCESS` branch with usable connections, whatever Redis and MySQL reply.  Of what is said
only the `signs` count: connections taken and given back, the `WATCH` commands, the `EXEC` that
went through, the sale, the answers and `Finish`.  `process_leaves` lists them in their order, and
`process_driven` counts them.
-/

namespace Seckill

open CStr CallTree CallTree.Prog

/-- An environment of the server's programs. -/
abbrev Replier := Env Call Call.Reply

/-- Every call is answered, and the pools have connections to give. -/
structure Usable (env : Replier) : Prop where
  answers : ∀ past c, (∀ why, c ≠ .crash why) → ∃ r, env past c = some r
  context : ∀ past, env past (.redis .getOneConnect) ≠ some none
  handle : ∀ past, env past (.mysql .getOneConnect) ≠ some none

/-- A reply to `GET` that is not `NULL` carries a string. -/
def SaysCount (env : Replier) : Prop :=
  ∀ past c r, env past (.redis (.command c .get)) = some (some r) → r.str.isSome

/-! ## What is left of a transcript -/

inductive Sign where
  | gotContext (c : Option ConnId)
  | gotHandle (m : Option SessId)
  | watch
  | granted
  | sale
  | answer (w : WorkerId) (result : Str)
  | closedContext (c : ConnId)
  | closedHandle (m : SessId)
  | finish (w : WorkerId)
  deriving DecidableEq

/-- `seckillGoods_mysql` shows by its `SELECT`, which it makes once. -/
def sign : Exchange Call Call.Reply → Option Sign
  | ⟨.redis .getOneConnect, c⟩ => some (.gotContext c)
  | ⟨.mysql .getOneConnect, m⟩ => some (.gotHandle m)
  | ⟨.redis (.command _ .watch), _⟩ => some .watch
  | ⟨.redis (.command _ .exec), some (.array elements)⟩ => if 1 < elements then some .granted else none
  | ⟨.mysql (.query _ .selectGoods), _⟩ => some .sale
  | ⟨.grpc (.setResult w result), _⟩ => some (.answer w result)
  | ⟨.redis (.close c), _⟩ => some (.closedContext c)
  | ⟨.mysql (.close m), _⟩ => some (.closedHandle m)
  | ⟨.grpc (.finish w _), _⟩ => some (.finish w)
  | _ => none

/-! ## Without a sign -/

/-- The calls that are made for their effect on the stores, the counters or the `Worker` alone; what
    they reply is no part of the course of a request. -/
def Call.Routine : Call → Prop
  | .redis (.command _ .watch) | .redis (.command _ .get) | .redis (.command _ .multi)
  | .redis (.command _ .exec) => False
  | .redis (.command _ _) => True
  | .redis _ | .mysql .getOneConnect | .mysql (.close _) | .mysql (.query _ .selectGoods) => False
  | .mysql _ | .counter _ => True
  | .grpc (.setResult _ _) | .grpc (.finish _ _) => False
  | .grpc _ => True
  | .crash _ => False

variable {α T : Type} {env : Replier} {mark : Exchange Call Call.Reply → Option T}
  {this : WorkerId} {usrName usrKey : Str} {conn : ConnId} {m : SessId} {c : Call}

theorem invoke_leaves (usable : Usable env) (proper : ∀ why, c ≠ .crash why) :
    (invoke c).Leaves env mark
      (returning fun r ss => ss = (mark ⟨c, r⟩).toList ∧ ∃ past, env past c = some r) := by
  apply Leaves.call
  · intro r past answered
    exact Leaves.ret ⟨r, rfl, rfl, past, answered⟩
  · intro past unanswered
    obtain ⟨r, answered⟩ := usable.answers past c proper
    rw [unanswered] at answered
    cases answered

/-- A call that never leaves a sign. -/
theorem invoke_silent (usable : Usable env) (proper : ∀ why, c ≠ .crash why)
    (unsigned : ∀ r, mark ⟨c, r⟩ = none) :
    (invoke c).Leaves env mark (returning fun _ ss => ss = []) := by
  apply (invoke_leaves usable proper).mono
  intro o ss returned
  obtain ⟨r, returned, left, _⟩ := returned
  exact ⟨r, returned, by rw [left, unsigned]; rfl⟩

/-- Routine leaves no mark. -/
def Spared (mark : Exchange Call Call.Reply → Option T) : Prop :=
  ∀ c r, c.Routine → mark ⟨c, r⟩ = none

theorem routine_silent (usable : Usable env) (spared : Spared mark) {p : Code α}
    (only : p.Only Call.Routine) : p.Leaves env mark (returning fun _ ss => ss = []) := by
  apply only.silent
  · intro past c routine
    apply usable.answers past c
    rintro why rfl
    exact routine
  · exact spared

theorem call_silent (usable : Usable env) (spared : Spared mark) (routine : c.Routine) :
    (invoke c).Leaves env mark (returning fun _ ss => ss = []) :=
  routine_silent usable spared ⟨routine, fun _ => trivial⟩

theorem sign_spared : Spared sign := by
  intro c r routine
  rcases c with (_ | _ | ⟨_, cmd⟩) | c | c | c | why
  · exact absurd routine id
  · exact absurd routine id
  · cases cmd <;> first | rfl | exact absurd routine id
  · cases c with
    | query m stmt => cases stmt <;> first | rfl | exact absurd routine id
    | _ => first | rfl | exact absurd routine id
  · rfl
  · cases c <;> first | rfl | exact absurd routine id
  · exact absurd routine id

theorem checkUserInfo_routine :
    (checkUserInfo usrName usrKey (some conn) (some m)).Only Call.Routine := by
  refine ⟨trivial, fun confirmReply => ?_⟩
  rcases confirmReply with _ | (_ | _ | _ | _ | _ | _) <;> exact trivial

theorem checkUserHasGot_routine :
    (checkUserHasGot usrName (some conn) (some m)).Only Call.Routine := by
  refine ⟨trivial, fun orderReply => ?_⟩
  rcases orderReply with _ | (_ | _ | _ | _ | _ | _) <;> exact trivial

theorem refill_routine : (refill (some conn)).Only Call.Routine := by
  have count {c : CounterCall} : (counter c).Only Call.Routine := ⟨trivial, fun _ => trivial⟩
  refine ⟨trivial, fun _ => ⟨trivial, fun _ => ⟨trivial, fun failedCount => ?_⟩⟩⟩
  show (if failedCount > 0 then _ else _ : Code Unit).Only Call.Routine
  split
  · refine ⟨trivial, fun again => ⟨trivial, fun setCreply => ?_⟩⟩
    show (if isOK setCreply = true then _ else _ : Code Unit).Only Call.Routine
    split
    · exact count.bind fun _ => count
    · exact count
  · exact count

theorem newWorker_routine : newWorker.Only Call.Routine :=
  ⟨trivial, fun _ => ⟨trivial, fun _ => ⟨trivial, fun _ => trivial⟩⟩⟩

theorem setResult_leaves (usable : Usable env) {result : Str} :
    (setResult this result).Leaves env mark
      (returning fun _ ss => ss = (mark ⟨.grpc (.setResult this result), ()⟩).toList) := by
  apply (invoke_leaves usable (by simp)).mono
  intro o ss returned
  obtain ⟨r, returned, left, _⟩ := returned
  exact ⟨r, returned, left⟩

/-! ## The sale -/

/-- The marks of a `SELECT` of the goods and of one answer. -/
def MarksSale (mark : Exchange Call Call.Reply → Option T) (this : WorkerId) (m : SessId)
    (ss : List T) : Prop :=
  ∃ selError result, (result = one ∨ result = zero) ∧
    ss = (mark ⟨.grpc (.setResult this result), ()⟩).toList ++
      (mark ⟨.mysql (.query m .selectGoods), selError⟩).toList

theorem seckillGoodsMysql_marks (usable : Usable env) (spared : Spared mark) :
    (seckillGoodsMysql this usrName usrKey (some m)).Leaves env mark
      (returning fun _ => MarksSale mark this m) := by
  have autocommit : (do let _ ← mysqlAutocommit (some m) true; pure () : Code Unit).Only
      Call.Routine := ⟨trivial, fun _ => trivial⟩
  -- from an answer on, with the `SELECT` before it
  have answered {selError : Bool} {result : Str} (either : result = one ∨ result = zero)
      {p : Code Unit} (only : p.Only Call.Routine) : (do setResult this result; p).Leaves env mark
        fun o ss => returning (fun _ => MarksSale mark this m) o
          (ss ++ (mark ⟨.mysql (.query m .selectGoods), selError⟩).toList) := by
    apply (setResult_leaves usable).after
    intro _ ss left
    apply (routine_silent usable spared only).mono
    intro o ss' returned
    obtain ⟨_, returned, none⟩ := returned
    exact ⟨(), returned, selError, result, either, by rw [none, left]; rfl⟩
  have count {c : CounterCall} : (counter c).Leaves env mark (returning fun _ ss => ss = []) :=
    call_silent usable spared trivial
  have fail {selError : Bool} : (failSale this (some m)).Leaves env mark fun o ss =>
      returning (fun _ => MarksSale mark this m) o
        (ss ++ (mark ⟨.mysql (.query m .selectGoods), selError⟩).toList) := by
    apply (call_silent usable spared (by exact trivial)).silent
    intro _
    apply count.silent
    intro _
    apply count.silent
    intro _
    apply count.silent
    intro _
    exact answered (Or.inr rfl) autocommit
  have book {selError : Bool} : (bookSale this (some m)).Leaves env mark fun o ss =>
      returning (fun _ => MarksSale mark this m) o
        (ss ++ (mark ⟨.mysql (.query m .selectGoods), selError⟩).toList) := by
    apply (call_silent usable spared (by exact trivial)).silent
    intro _
    exact answered (Or.inl rfl) ⟨trivial, fun _ => autocommit⟩
  have sale (selError : Bool) (totalCount : Int) :
      (if totalCount > 0 then sellGoods this usrName usrKey (some m) selError totalCount
        else refuseSale this (some m)).Leaves env mark
          fun o ss => returning (fun _ => MarksSale mark this m) o
            (ss ++ (mark ⟨.mysql (.query m .selectGoods), selError⟩).toList) := by
    split
    · apply (call_silent usable spared (by exact trivial)).silent
      intro updateError
      apply (call_silent usable spared (by exact trivial)).silent
      intro insertError
      split
      · exact fail
      · exact book
    · exact answered (Or.inr rfl) autocommit
  rw [seckillGoodsMysql_eq]
  apply (call_silent usable spared (by exact trivial)).silent
  intro _
  apply (invoke_leaves usable (by simp)).after
  intro selError ss left
  rw [left.1]
  cases selError with
  | true => exact sale true 0
  | false =>
    apply (call_silent usable spared (by exact trivial)).silent
    exact fun rows => sale false (lastCount rows)

/-- One `SELECT` of the goods, and one answer. -/
def OneSale (this : WorkerId) (ss : List Sign) : Prop :=
  ∃ result, (result = one ∨ result = zero) ∧ ss = [.answer this result, .sale]

theorem seckillGoodsMysql_leaves (usable : Usable env) :
    (seckillGoodsMysql this usrName usrKey (some m)).Leaves env sign
      (returning fun _ => OneSale this) := by
  apply (seckillGoodsMysql_marks usable sign_spared).mono
  intro o ss returned
  obtain ⟨_, returned, selError, result, either, left⟩ := returned
  exact ⟨(), returned, result, either, left⟩

/-! ## An attempt -/

theorem watchCount_leaves (usable : Usable env) (texts : SaysCount env) :
    (watchCount (some conn)).Leaves env sign (returning fun _ ss => ss = [.watch]) := by
  apply (invoke_leaves usable (by simp)).after
  intro watchReply ss left
  rw [left.1]
  apply (invoke_leaves usable (by simp)).after
  intro reply ss' left'
  obtain ⟨none, past, answered⟩ := left'
  rw [none]
  cases reply with
  | none => exact Leaves.ret ⟨_, rfl, rfl⟩
  | some reply =>
    show (if isOK watchReply = true then _ else _ : Code (Option Int)).Leaves env sign _
    split
    · split
      · exact Leaves.ret ⟨_, rfl, rfl⟩
      next missing =>
        have text : reply.str.isSome := texts past conn reply answered
        rw [missing] at text
        cases text
    · exact Leaves.ret ⟨_, rfl, rfl⟩

/-- `EXEC` leaves its sign exactly where the attempt goes on to MySQL. -/
theorem reserve_leaves (usable : Usable env) :
    (reserve usrName usrKey (some conn)).Leaves env sign
      (returning fun reserved ss => ss = if reserved then [.granted] else []) := by
  apply Leaves.silent (invoke_silent usable (by simp) fun _ => rfl)
  intro multiReply
  split
  · apply (call_silent usable sign_spared (by exact trivial)).silent
    intro _
    apply (call_silent usable sign_spared (by exact trivial)).silent
    intro _
    apply (invoke_leaves usable (by simp)).after
    intro execReply ss left
    rw [left.1]
    split
    next elements =>
      apply Leaves.ret
      refine ⟨_, rfl, ?_⟩
      by_cases through : 1 < elements <;> simp [sign, through]
    next other =>
      apply Leaves.ret
      refine ⟨_, rfl, ?_⟩
      rcases execReply with _ | (_ | _ | _ | _ | _ | elements)
      all_goals first | rfl | exact absurd rfl (other elements)
  · exact Leaves.ret ⟨_, rfl, rfl⟩

/-! ## The whole request -/

/-- Some `WATCH` commands, and then one answer; a sale is after an `EXEC` that went through. -/
def Course (this : WorkerId) (n : Nat) (ss : List Sign) : Prop :=
  ∃ tries, tries ≤ n ∧
    (ss = .answer this zero :: List.replicate tries .watch ∨
      ∃ sold, OneSale this sold ∧ ss = sold ++ .granted :: List.replicate tries .watch)

theorem Course.more {n : Nat} {ss : List Sign} (course : Course this n ss) :
    Course this (n + 1) (ss ++ [.watch]) := by
  obtain ⟨tries, few, ended⟩ := course
  refine ⟨tries + 1, Nat.succ_le_succ few, ?_⟩
  rw [List.replicate_succ']
  obtain refused | ⟨sold, sale, all⟩ := ended
  · exact Or.inl (by rw [refused]; rfl)
  · exact Or.inr ⟨sold, sale, by rw [all, List.append_assoc]; rfl⟩

theorem refused_leaves (usable : Usable env) {n : Nat} :
    (setResult this zero).Leaves env sign (returning fun _ => Course this n) := by
  apply (setResult_leaves usable).mono
  intro o ss returned
  obtain ⟨_, returned, left⟩ := returned
  exact ⟨(), returned, 0, Nat.zero_le n, Or.inl left⟩

/-- An attempt makes one `WATCH` more than what it does when it has to retry. -/
theorem attempt_leaves (usable : Usable env) (texts : SaysCount env) {retry : Code Unit} {n : Nat}
    (retried : retry.Leaves env sign (returning fun _ => Course this n)) :
    (attempt this usrName usrKey (some conn) (some m) retry).Leaves env sign
      (returning fun _ => Course this (n + 1)) := by
  have last {p : Code Unit} (leaves : p.Leaves env sign (returning fun _ => Course this n)) :
      p.Leaves env sign fun o ss => returning (fun _ => Course this (n + 1)) o (ss ++ [.watch]) := by
    apply leaves.mono
    intro o ss returned
    obtain ⟨_, returned, course⟩ := returned
    exact ⟨(), returned, course.more⟩
  apply (watchCount_leaves usable texts).after
  intro currGoodsCount ss left
  rw [left]
  cases currGoodsCount with
  | none => exact last (refused_leaves usable)
  | some currGoodsCount =>
    show (if currGoodsCount > 0 then _ else _ : Code Unit).Leaves env sign _
    split
    · apply (reserve_leaves usable).after
      intro reserved ss' left'
      rw [left']
      cases reserved with
      | true =>
        -- the sale is the last thing an attempt does
        apply (seckillGoodsMysql_leaves usable).mono
        intro o sold returned
        obtain ⟨_, returned, sale⟩ := returned
        refine ⟨(), returned, 1, Nat.succ_le_succ (Nat.zero_le n), Or.inr ⟨sold, sale, ?_⟩⟩
        rw [List.append_assoc]
        rfl
      | false =>
        -- `UNWATCH`, and the next attempt
        apply (call_silent usable sign_spared (by exact trivial)).silent
        intro _
        simpa using last retried
    · exact (routine_silent usable sign_spared refill_routine).silent fun _ => last (refused_leaves usable)

theorem seckillGoods_leaves (usable : Usable env) (texts : SaysCount env) {n repeatCount : Nat}
    (left : repeatCount + n = RETRYCOUNT) (further : 0 < n) :
    (seckillGoods this usrName usrKey (some conn) (some m) repeatCount).Leaves env sign
      (returning fun _ => Course this n) := by
  -- the attempts that are left, against the retries counted so far
  induction n generalizing repeatCount with
  | zero => omega
  | succ n ih =>
    rw [seckillGoods_eq]
    apply attempt_leaves usable texts
    split
    · apply ih <;> omega
    · exact refused_leaves usable

/-- The checks, and the attempts if they are passed. -/
theorem serveRequest_leaves (usable : Usable env) (texts : SaysCount env) :
    (serveRequest this usrName usrKey (some conn) (some m)).Leaves env sign
      (returning fun _ => Course this RETRYCOUNT) := by
  apply (routine_silent usable sign_spared checkUserInfo_routine).silent
  intro registered
  cases registered with
  | false => exact refused_leaves usable
  | true =>
    apply (routine_silent usable sign_spared checkUserHasGot_routine).silent
    intro hasgot
    cases hasgot with
    | true => exact refused_leaves usable
    | false => exact seckillGoods_leaves usable texts (by decide) (by decide)

/-- What the `PROCESS` branch leaves: the connections it gets, the course of the request, the
    connections it gives back, and `Finish`. -/
theorem process_leaves (usable : Usable env) (texts : SaysCount env) :
    (proceedAs this .process).Leaves env sign (returning fun _ ss => ∃ conn m course,
      Course this RETRYCOUNT course ∧
        ss = [.finish this, .closedHandle m, .closedContext conn] ++ course ++
          [.gotHandle (some m), .gotContext (some conn)]) := by
  apply (invoke_leaves usable (by simp)).after
  intro redisconn ss left
  obtain ⟨left, past, answered⟩ := left
  rw [left]
  cases redisconn with
  | none => exact absurd answered (usable.context past)
  | some conn =>
    apply (invoke_leaves usable (by simp)).after
    intro mysqlconnection ss' left'
    obtain ⟨left', past', answered'⟩ := left'
    rw [left']
    cases mysqlconnection with
    | none => exact absurd answered' (usable.handle past')
    | some m =>
      apply (call_silent usable sign_spared (by exact trivial)).silent
      intro _
      apply (call_silent usable sign_spared (by exact trivial)).silent
      intro _
      apply (routine_silent usable sign_spared newWorker_routine).silent
      intro _
      apply (call_silent usable sign_spared (by exact trivial)).silent
      intro usrName
      apply (call_silent usable sign_spared (by exact trivial)).silent
      intro usrKey
      -- up to here nothing is answered, and what follows only gives back and finishes
      apply (serveRequest_leaves usable texts).after
      intro _ course served
      apply (invoke_leaves usable (by simp)).after
      intro _ closed left₁
      rw [left₁.1]
      apply (invoke_leaves usable (by simp)).after
      intro _ closed' left₂
      rw [left₂.1]
      apply (call_silent usable sign_spared (by exact trivial)).silent
      intro result
      apply (invoke_leaves usable (by simp)).mono
      intro o ss'' returned
      obtain ⟨_, returned, left₃, _⟩ := returned
      refine ⟨(), returned, conn, m, course, served, ?_⟩
      rw [left₃]
      simp [sign]

/-! ## Counting -/

namespace Sign

def isAnswer : Sign → Bool
  | .answer _ _ => true
  | _ => false

def ofContext : Sign → Bool
  | .gotContext _ | .closedContext _ => true
  | _ => false

def ofHandle : Sign → Bool
  | .gotHandle _ | .closedHandle _ => true
  | _ => false

def isFinish : Sign → Bool
  | .finish _ => true
  | _ => false

end Sign

/-- A request that got one answer; both connections were given back once, after they were got. -/
structure Driven (this : WorkerId) (ss : List Sign) : Prop where
  watches : ss.count .watch ≤ 20
  granted : ss.count .granted ≤ 1
  sales : ss.count .sale ≤ 1
  answer : ∃ result, (result = one ∨ result = zero) ∧ ss.filter Sign.isAnswer = [.answer this result]
  context : ∃ conn, ss.filter Sign.ofContext = [.closedContext conn, .gotContext (some conn)]
  handle : ∃ m, ss.filter Sign.ofHandle = [.closedHandle m, .gotHandle (some m)]
  finish : ss.filter Sign.isFinish = [.finish this]

theorem Course.driven {course : List Sign} (served : Course this RETRYCOUNT course) :
    Driven this ([.finish this, .closedHandle m, .closedContext conn] ++ course ++
      [.gotHandle (some m), .gotContext (some conn)]) := by
  obtain ⟨tries, few, ended⟩ := served
  have watches {s : Sign} (other : s ≠ .watch) : (List.replicate tries Sign.watch).count s = 0 :=
    List.count_replicate.trans (if_neg (by simpa using other.symm))
  have few : tries ≤ 20 := few
  obtain rfl | ⟨sold, ⟨result, either, rfl⟩, rfl⟩ := ended
  · constructor
    · simpa using few
    · simp [watches]
    · simp [watches]
    · exact ⟨zero, Or.inr rfl, by simp [Sign.isAnswer, List.filter_cons]⟩
    · exact ⟨conn, by simp [Sign.ofContext, List.filter_cons]⟩
    · exact ⟨m, by simp [Sign.ofHandle, List.filter_cons]⟩
    · simp [Sign.isFinish, List.filter_cons]
  · constructor
    · simpa using few
    · simp [watches]
    · simp [watches]
    · exact ⟨result, either, by simp [Sign.isAnswer, List.filter_cons]⟩
    · exact ⟨conn, by simp [Sign.ofContext, List.filter_cons]⟩
    · exact ⟨m, by simp [Sign.ofHandle, List.filter_cons]⟩
    · simp [Sign.isFinish, List.filter_cons]

/-- Every request is driven to exactly one answer, as long as its calls are answered. -/
theorem process_driven (usable : Usable env) (texts : SaysCount env) (this : WorkerId) :
    ∃ said, (proceedAs this .process).drive env [] = (said, .returned ()) ∧
      Driven this (said.filterMap sign) := by
  have leaves : (proceedAs this .process).Leaves env sign _ := process_leaves usable texts
  obtain ⟨said, all, _, returned, conn, m, course, served, left⟩ := leaves []
  refine ⟨said, Prod.ext (by simpa using all) returned, ?_⟩
  rw [left]
  exact served.driven

/-- An environment in which everything goes well. -/
def polite : Replier
  | _, .redis .getOneConnect => some (some 0)
  | _, .redis (.close _) => some ()
  | _, .redis (.command _ (.hget .usrInfo _)) => some (some (.string ['k']))
  | _, .redis (.command _ (.hget .orderInfo _)) => some (some .nil)
  | _, .redis (.command _ .get) => some (some (.string one))
  | _, .redis (.command _ .exec) => some (some (.array 2))
  | _, .redis (.command _ _) => some (some (.status okText))
  | _, .mysql .getOneConnect => some (some 0)
  | _, .mysql (.close _) => some ()
  | _, .mysql (.fetchRows _) => some [[one]]
  | _, .mysql (.autocommit _ _) | _, .mysql (.query _ _) | _, .mysql (.rollback _)
  | _, .mysql (.commit _) => some false
  | _, .counter .failedCount | _, .counter .successNum => some (0 : Int)
  | _, .counter .wrlock | _, .counter .unlock | _, .counter (.setFailedCount _)
  | _, .counter .incFailedCount | _, .counter .incSuccessNum => some ()
  | _, .grpc .alloc | _, .grpc .next => some (1 : WorkerId)
  | _, .grpc (.status _) => some .process
  | _, .grpc (.usrname _) => some ['n']
  | _, .grpc (.usrkey _) => some ['k']
  | _, .grpc (.result _) => some one
  | _, .grpc (.setStatus _ _) | _, .grpc (.requestseckill _) | _, .grpc (.setResult _ _)
  | _, .grpc (.finish _ _) | _, .grpc (.delete _) => some ()
  | _, .crash _ => none

theorem polite_usable : Usable polite where
  answers := by
    intro past c proper
    cases c with
    | crash why => exact absurd rfl (proper why)
    | redis c =>
      cases c with
      | getOneConnect | close c => exact ⟨_, rfl⟩
      | command c cmd =>
        cases cmd with
        | hget key field => cases key <;> exact ⟨_, rfl⟩
        | _ => exact ⟨_, rfl⟩
    | mysql c | counter c | grpc c => cases c <;> exact ⟨_, rfl⟩
  context := by simp [polite]
  handle := by simp [polite]

end Seckill
