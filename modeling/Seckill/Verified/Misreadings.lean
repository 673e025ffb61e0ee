import Seckill.Model.RawReplies
import Seckill.Verified.OneAnswer

/-! # Replies that are misread

The functions on raw replies are those of the model, where a reply shows only what it has: of all
the places that read a reply only the one after `GET` can go wrong, since the type it tests is that
of the reply to `WATCH`.  What that leads to is read off the `signs` of a request, and
`replies_read_iff` says exactly when every reply is read as it should be.
-/

namespace Seckill

open CStr CallTree CallTree.Prog

variable {α : Type} {this : WorkerId} {usrName usrKey : Str} {redisconn : Option ConnId}
  {connection : Option SessId} {cmd : RedisCmd}

/-! ## The model on raw replies -/

namespace Raw

theorem crash_bind {β : Type} {why : Crash} {f : α → Code β} :
    (crash why >>= f) = (crash why : Code β) := by
  show Prog.call _ _ = Prog.call _ _
  congr 1
  funext impossible
  cases impossible

/-- What is done with a raw reply, against what the model does with the reply. -/
theorem command_bind {f : Option RedisReply → Code α} {g : Option RawReply → Code α}
    (same : ∀ reply, g (reply.map RedisReply.raw) = f reply) :
    (command redisconn cmd >>= g) = (redisCommand redisconn cmd >>= f) := by
  cases redisconn with
  | none =>
    show (crash _ >>= _) >>= _ = crash _ >>= _
    rw [crash_bind, crash_bind, crash_bind]
  | some c =>
    show Prog.call _ _ = Prog.call _ _
    congr 1
    funext reply
    exact same reply

theorem isOK_eq (reply : Option RedisReply) :
    isOK (reply.map RedisReply.raw) = .ret (Seckill.isOK reply) := by
  rcases reply with _ | (_ | _ | _ | _ | _ | _) <;> rfl

theorem checkUserInfo_eq :
    checkUserInfo usrName usrKey redisconn connection =
      Seckill.checkUserInfo usrName usrKey redisconn connection := by
  cases redisconn with
  | none => rfl
  | some c =>
    apply command_bind
    intro confirmReply
    rcases confirmReply with _ | (_ | _ | _ | _ | _ | _) <;> rfl

theorem checkUserHasGot_eq :
    checkUserHasGot usrName redisconn connection =
      Seckill.checkUserHasGot usrName redisconn connection := by
  cases redisconn with
  | none => rfl
  | some c =>
    apply command_bind
    intro orderReply
    rcases orderReply with _ | (_ | _ | _ | _ | _ | _) <;> rfl

theorem watchCount_eq : watchCount redisconn = Seckill.watchCount redisconn := by
  apply command_bind
  intro watchReply
  apply command_bind
  intro reply
  cases reply with
  | none => rfl
  | some reply =>
    show (isOK (watchReply.map RedisReply.raw) >>= _) = _
    rw [isOK_eq]
    show (if Seckill.isOK watchReply = true then _ else _ : Code (Option Int)) =
      if Seckill.isOK watchReply = true then _ else _
    congr 1
    cases reply with
    | status s | error s | string s => rfl
    | nil | integer n | array elements => exact crash_bind

theorem reserve_eq : reserve usrName usrKey redisconn = Seckill.reserve usrName usrKey redisconn := by
  apply command_bind
  intro multiReply
  rw [isOK_eq]
  show (if Seckill.isOK multiReply = true then _ else _ : Code Bool) =
    if Seckill.isOK multiReply = true then _ else _
  congr 1
  apply command_bind
  intro _
  apply command_bind
  intro _
  apply command_bind
  intro execReply
  rcases execReply with _ | (_ | _ | _ | _ | _ | _) <;> rfl

theorem refill_eq : refill redisconn = Seckill.refill redisconn := by
  apply command_bind
  intro _
  show Prog.call _ _ = Prog.call _ _
  congr 1
  funext _
  show Prog.call _ _ = Prog.call _ _
  congr 1
  funext failedCount
  show (if failedCount > 0 then _ else _ : Code Unit) = if failedCount > 0 then _ else _
  congr 1
  show Prog.call _ _ = Prog.call _ _
  congr 1
  funext again
  apply command_bind
  intro setCreply
  rw [isOK_eq]
  rfl

theorem attempt_eq {retry : Code Unit} :
    attempt this usrName usrKey redisconn connection retry =
      Seckill.attempt this usrName usrKey redisconn connection retry := by
  rw [attempt, Seckill.attempt, watchCount_eq, reserve_eq, refill_eq]
  congr 1
  funext currGoodsCount
  cases currGoodsCount with
  | none => rfl
  | some currGoodsCount =>
    show (if currGoodsCount > 0 then _ else _ : Code Unit) = if currGoodsCount > 0 then _ else _
    congr 1
    congr 1
    funext reserved
    cases reserved with
    | true => rfl
    | false => exact command_bind fun _ => rfl

theorem seckillGoodsFrom_eq {fuel repeatCount : Nat} :
    seckillGoodsFrom this usrName usrKey redisconn connection fuel repeatCount =
      Seckill.seckillGoodsFrom this usrName usrKey redisconn connection fuel repeatCount := by
  induction fuel generalizing repeatCount with
  | zero => rfl
  | succ fuel ih => rw [seckillGoodsFrom, attempt_eq, ih, Seckill.seckillGoodsFrom]

theorem seckillGoods_eq {repeatCount : Nat} :
    seckillGoods this usrName usrKey redisconn connection repeatCount =
      Seckill.seckillGoods this usrName usrKey redisconn connection repeatCount := by
  cases redisconn with
  | none => rfl
  | some c => exact seckillGoodsFrom_eq

theorem serveRequest_eq :
    serveRequest this usrName usrKey redisconn connection =
      Seckill.serveRequest this usrName usrKey redisconn connection := by
  rw [serveRequest, Seckill.serveRequest, checkUserInfo_eq, checkUserHasGot_eq, seckillGoods_eq]

theorem process_eq : process this redisconn connection = Seckill.process this redisconn connection := by
  simp only [process, Seckill.process, serveRequest_eq]

theorem proceedAs_eq {status : WorkerStatus} :
    proceedAs this status = Seckill.proceedAs this status := by
  cases status with
  | create => rfl
  | process =>
    simp only [proceedAs, Seckill.proceedAs, process_eq]
    congr 1
    funext redisconn
    congr 1
    funext mysqlconnection
    congr 1
    funext _
    exact command_bind fun _ => rfl
  | finish =>
    simp only [proceedAs, Seckill.proceedAs]
    congr 1
    funext redisconn
    exact command_bind fun _ => rfl

theorem proceed_eq : proceed this = Seckill.proceed this := by
  simp only [proceed, Seckill.proceed, proceedAs_eq]

end Raw

/-! ## What is noticed of the count -/

inductive Notice where
  | watched (acknowledged : Bool)
  | got (reply : Option RedisReply)
  | multi
  | sale
  | answer (result : Str)
  deriving DecidableEq

def notice : Exchange Call Call.Reply → Option Notice
  | ⟨.redis (.command _ .watch), watchReply⟩ => some (.watched (isOK watchReply))
  | ⟨.redis (.command _ .get), reply⟩ => some (.got reply)
  | ⟨.redis (.command _ .multi), _⟩ => some .multi
  | ⟨.mysql (.query _ .selectGoods), _⟩ => some .sale
  | ⟨.grpc (.setResult _ result), _⟩ => some (.answer result)
  | _ => none

/-- The count that a reply to `GET` gives: a text that Redis itself can count down. -/
def RedisReply.count : RedisReply → Option Int
  | .string s => strictInt s
  | _ => none

/-- The reply to a `GET` after an acknowledged `WATCH`, and what is noticed later, newest first. -/
def Reading (ss : List Notice) (reply : RedisReply) (later : List Notice) : Prop :=
  ∃ earlier, ss = later ++ .got (some reply) :: .watched true :: earlier

/-- Where there is no count, nothing is left to sell: the answer is "0" and nothing else is tried. -/
def ZeroStock (ss : List Notice) : Prop :=
  ∀ reply later, Reading ss reply later → reply.count = none → later = [.answer zero]

/-- There is a text to read, and one that is no count starts with no positive number. -/
def RedisReply.Readable (reply : RedisReply) : Prop :=
  ∃ str, reply.str = some str ∧ (reply.count = none → atoi str ≤ 0)

def AllReadable (ss : List Notice) : Prop := ∀ reply later, Reading ss reply later → reply.Readable

variable {r : Option RedisReply} {ok : Bool} {pre ss later : List Notice} {reply : RedisReply}
  {str : Str}

theorem reading_tried : Reading (pre ++ [.got r, .watched ok]) reply later ↔
    Reading pre reply later ∨ later = pre ∧ r = some reply ∧ ok = true := by
  constructor
  · intro reading
    obtain ⟨earlier, same⟩ := reading
    obtain ⟨between, front, back⟩ | ⟨between, front, back⟩ := List.append_eq_append_iff.mp same
    · rcases between with _ | ⟨x, _ | ⟨y, rest⟩⟩
      · right
        simp only [List.nil_append, List.cons.injEq, Notice.got.injEq, Notice.watched.injEq] at back
        exact ⟨by simpa using front, back.1, back.2.1⟩
      · simp at back
      · simp at back
    · rcases between with _ | ⟨x, _ | ⟨y, rest⟩⟩
      · right
        simp only [List.nil_append, List.cons.injEq, Notice.got.injEq, Notice.watched.injEq] at back
        exact ⟨by simpa using front.symm, back.1.symm, back.2.1.symm⟩
      · simp at back
      · left
        simp only [List.cons_append, List.cons.injEq] at back
        exact ⟨rest, by rw [front, back.1, back.2.1]⟩
  · intro either
    obtain ⟨earlier, rfl⟩ | ⟨rfl, rfl, rfl⟩ := either
    · exact ⟨earlier ++ [.got r, .watched ok], by simp⟩
    · exact ⟨[], rfl⟩

/-- What was noticed before the first `WATCH` is no part of a reading. -/
theorem reading_more {x : Notice} (other : x ≠ .watched true) :
    Reading (ss ++ [x]) reply later ↔ Reading ss reply later := by
  constructor
  · intro reading
    obtain ⟨earlier, same⟩ := reading
    obtain rfl | ⟨start, y, rfl⟩ := List.eq_nil_or_concat earlier
    · have front : later ++ [.got (some reply), .watched true] =
          (later ++ [.got (some reply)]) ++ [.watched true] := by simp
      rw [front] at same
      have last := (List.append_inj' same rfl).2
      exact absurd (List.singleton_inj.mp last) other
    · have front : later ++ .got (some reply) :: .watched true :: start.concat y =
          (later ++ .got (some reply) :: .watched true :: start) ++ [y] := by simp
      rw [front] at same
      exact ⟨start, (List.append_inj' same rfl).1⟩
  · intro reading
    obtain ⟨earlier, rfl⟩ := reading
    exact ⟨earlier ++ [x], by simp⟩

theorem not_reading (unwatched : .watched true ∉ ss) : ¬ Reading ss reply later := by
  intro reading
  obtain ⟨earlier, rfl⟩ := reading
  simp at unwatched

theorem zeroStock_tried : ZeroStock (pre ++ [.got r, .watched ok]) ↔ ZeroStock pre ∧
    ∀ reply, r = some reply → ok = true → reply.count = none → pre = [.answer zero] := by
  simp only [ZeroStock, reading_tried]
  constructor
  · intro zeroStock
    refine ⟨fun reply later reading => zeroStock reply later (Or.inl reading), ?_⟩
    intro reply got acknowledged
    exact zeroStock reply pre (Or.inr ⟨rfl, got, acknowledged⟩)
  · rintro ⟨zeroStock, last⟩ reply later (reading | ⟨rfl, got, acknowledged⟩)
    · exact zeroStock reply later reading
    · exact last reply got acknowledged

theorem allReadable_tried : AllReadable (pre ++ [.got r, .watched ok]) ↔ AllReadable pre ∧
    ∀ reply, r = some reply → ok = true → reply.Readable := by
  simp only [AllReadable, reading_tried]
  constructor
  · intro readable
    refine ⟨fun reply later reading => readable reply later (Or.inl reading), ?_⟩
    intro reply got acknowledged
    exact readable reply pre (Or.inr ⟨rfl, got, acknowledged⟩)
  · rintro ⟨readable, last⟩ reply later (reading | ⟨_, got, acknowledged⟩)
    · exact readable reply later reading
    · exact last reply got acknowledged

/-! ## How an attempt ends -/

/-- The request returns and sells nothing without a count exactly if it could read every reply. -/
def ReadsWell (o : Outcome Call Unit) (ss : List Notice) : Prop :=
  (o = .returned () ∧ ZeroStock ss) ↔ AllReadable ss

theorem ReadsWell.quiet (unwatched : .watched true ∉ ss) : ReadsWell (.returned ()) ss :=
  iff_of_true ⟨rfl, fun _ _ reading => absurd reading (not_reading unwatched)⟩
    fun _ _ reading => absurd reading (not_reading unwatched)

theorem ReadsWell.more {o : Outcome Call Unit} {x : Notice} (other : x ≠ .watched true)
    (rest : ReadsWell o ss) : ReadsWell o (ss ++ [x]) := by
  simp only [ReadsWell, ZeroStock, AllReadable, reading_more other]
  exact rest

/-- What one attempt has to answer for, before what was noticed later. -/
theorem ReadsWell.tried {o : Outcome Call Unit} (rest : ReadsWell o pre)
    (agree : (∀ reply, r = some reply → ok = true → reply.count = none → pre = [.answer zero]) ↔
      ∀ reply, r = some reply → ok = true → reply.Readable) :
    ReadsWell o (pre ++ [.got r, .watched ok]) := by
  rw [ReadsWell, zeroStock_tried, allReadable_tried, ← agree, ← and_assoc]
  exact and_congr_left fun _ => rest

theorem ReadsWell.unread (unread : r = none ∨ ok = false) :
    ReadsWell (.returned ()) [.answer zero, .got r, .watched ok] := by
  have untold (reply : RedisReply) (got : r = some reply) (acknowledged : ok = true) : False := by
    rw [got, acknowledged] at unread
    simp at unread
  have answered : ReadsWell (.returned ()) [.answer zero] := ReadsWell.quiet (by simp)
  apply answered.tried
  exact iff_of_true (fun reply got acknowledged _ => (untold reply got acknowledged).elim)
    fun reply got acknowledged => (untold reply got acknowledged).elim

/-- `atoi(NULL)` -/
theorem ReadsWell.crashed {c : Call} (missing : reply.str = none) :
    ReadsWell (.stopped c) [.got (some reply), .watched true] := by
  apply iff_of_false
  · simp
  · intro readable
    obtain ⟨str, text, _⟩ := readable reply [] ⟨[], rfl⟩
    rw [missing] at text
    cases text

theorem ReadsWell.soldOut (text : reply.str = some str) (none : atoi str ≤ 0) :
    ReadsWell (.returned ()) [.answer zero, .got (some reply), .watched true] := by
  have answered : ReadsWell (.returned ()) [.answer zero] := ReadsWell.quiet (by simp)
  apply answered.tried
  apply iff_of_true
  · intro _ _ _ _
    rfl
  · intro _ got _
    cases got
    exact ⟨str, text, fun _ => none⟩

/-- A positive number at the front of the text leads to `MULTI`. -/
theorem ReadsWell.taken {o : Outcome Call Unit} (rest : ReadsWell o ss) (text : reply.str = some str)
    (positive : 0 < atoi str) (multi : .multi ∈ ss) :
    ReadsWell o (ss ++ [.got (some reply), .watched true]) := by
  apply rest.tried
  have more : ss ≠ [.answer zero] := by
    rintro rfl
    simp at multi
  constructor
  · intro zeroStock _ got _
    cases got
    refine ⟨str, text, fun missing => ?_⟩
    exact absurd (zeroStock reply rfl rfl missing) more
  · intro readable _ got _ missing
    cases got
    obtain ⟨str', text', small⟩ := readable reply rfl rfl
    rw [text] at text'
    cases text'
    have small := small missing
    omega

/-! ## The attempts -/

variable {env : Replier} {conn : ConnId} {m : SessId}

def Call.Unnoticed : Call → Prop
  | .redis (.command _ .watch) | .redis (.command _ .get) | .redis (.command _ .multi) => False
  | .mysql (.query _ .selectGoods) | .grpc (.setResult _ _) | .crash _ => False
  | _ => True

theorem notice_none (c : Call) (r : c.Reply) (unnoticed : c.Unnoticed) : notice ⟨c, r⟩ = none := by
  rcases c with (_ | _ | ⟨_, cmd⟩) | c | c | c | why
  · rfl
  · rfl
  · cases cmd <;> first | rfl | exact absurd unnoticed id
  · cases c with
    | query m stmt => cases stmt <;> first | rfl | exact absurd unnoticed id
    | _ => rfl
  · rfl
  · cases c <;> first | rfl | exact absurd unnoticed id
  · rfl

theorem Call.Routine.unnoticed (c : Call) (routine : c.Routine) : c.Unnoticed := by
  rcases c with (_ | _ | ⟨_, cmd⟩) | c | c | c | why
  · trivial
  · trivial
  · cases cmd <;> trivial
  · cases c with
    | query m stmt => cases stmt <;> trivial
    | _ => trivial
  · trivial
  · cases c <;> trivial
  · exact absurd routine id

theorem notice_spared : Spared notice :=
  fun c r routine => notice_none c r (Call.Routine.unnoticed c routine)

theorem unnoticed_silent (usable : Usable env) {p : Code α} (only : p.Only Call.Unnoticed) :
    p.Leaves env notice (returning fun _ ss => ss = []) := by
  apply only.silent
  · intro past c unnoticed
    apply usable.answers past c
    rintro why rfl
    exact unnoticed
  · exact notice_none

/-- How the look at the count ends, against the two replies. -/
inductive Looked : Outcome Call (Option Int) → Option RedisReply → Bool → Prop
  | unread {r : Option RedisReply} {ok : Bool} (unread : r = none ∨ ok = false) :
    Looked (.returned none) r ok
  | crashed {reply : RedisReply} (missing : reply.str = none) :
    Looked (.stopped (.crash .nullStr)) (some reply) true
  | counted {reply : RedisReply} {str : Str} (text : reply.str = some str) :
    Looked (.returned (some (atoi str))) (some reply) true

theorem watchCount_notices (usable : Usable env) :
    (watchCount (some conn)).Leaves env notice fun o ss =>
      ∃ r ok, Looked o r ok ∧ ss = [.got r, .watched ok] := by
  apply (invoke_leaves usable (by simp)).after
  intro watchReply ss left
  rw [left.1]
  apply (invoke_leaves usable (by simp)).after
  intro reply ss' left'
  rw [left'.1]
  cases reply with
  | none => exact Leaves.ret ⟨none, isOK watchReply, .unread (Or.inl rfl), rfl⟩
  | some reply =>
    show (if isOK watchReply = true then _ else _ : Code (Option Int)).Leaves env notice _
    split
    next acknowledged =>
      -- the type that was tested is not of the reply that is read
      split
      next str text =>
        refine Leaves.ret ⟨some reply, true, .counted text, ?_⟩
        simp [notice, acknowledged]
      next missing =>
        apply Leaves.call
        · intro impossible
          cases impossible
        · intro past _
          refine ⟨some reply, true, .crashed missing, ?_⟩
          simp [notice, acknowledged]
    next refused =>
      refine Leaves.ret ⟨some reply, isOK watchReply, .unread (Or.inr ?_), rfl⟩
      simpa using refused

theorem reserve_notices (usable : Usable env) :
    (reserve usrName usrKey (some conn)).Leaves env notice (returning fun _ ss => ss = [.multi]) := by
  apply (invoke_leaves usable (by simp)).after
  intro multiReply ss left
  rw [left.1]
  have ends (reserved : Bool) : (pure reserved : Code Bool).Leaves env notice fun o ss' =>
      returning (fun _ ss => ss = [.multi]) o (ss' ++ [.multi]) := Leaves.ret ⟨reserved, rfl, rfl⟩
  show (if isOK multiReply = true then _ else _ : Code Bool).Leaves env notice _
  split
  · apply (call_silent usable notice_spared (by exact trivial)).silent
    intro _
    apply (call_silent usable notice_spared (by exact trivial)).silent
    intro _
    apply Leaves.silent (invoke_silent usable (by simp) fun _ => rfl)
    intro execReply
    split <;> exact ends _
  · exact ends false

theorem refused_notices (usable : Usable env) :
    (setResult this zero).Leaves env notice (returning fun _ ss => ss = [.answer zero]) :=
  setResult_leaves usable

theorem attempt_notices (usable : Usable env) {retry : Code Unit}
    (retried : retry.Leaves env notice ReadsWell) :
    (attempt this usrName usrKey (some conn) (some m) retry).Leaves env notice ReadsWell := by
  apply (watchCount_notices usable).bind
  · intro currGoodsCount ss ends
    obtain ⟨r, ok, looked, rfl⟩ := ends
    cases looked with
    | unread unread =>
      apply (refused_notices usable).mono
      intro o ss' returned
      obtain ⟨_, rfl, rfl⟩ := returned
      exact ReadsWell.unread unread
    | counted text =>
      show (if atoi _ > 0 then _ else _ : Code Unit).Leaves env notice _
      split
      next positive =>
        apply (reserve_notices usable).after
        intro reserved ss' left
        rw [left]
        cases reserved with
        | true =>
          -- MySQL reads no reply of Redis
          apply (seckillGoodsMysql_marks usable notice_spared).mono
          intro o sold returned
          obtain ⟨_, rfl, selError, result, _, rfl⟩ := returned
          exact ReadsWell.taken (ReadsWell.quiet (by simp [notice])) text positive (by simp)
        | false =>
          apply Leaves.silent (call_silent usable notice_spared (by exact trivial))
          intro _
          apply retried.mono
          intro o later readsWell
          exact ReadsWell.taken (readsWell.more (by simp)) text positive (by simp)
      next none =>
        apply (routine_silent usable notice_spared refill_routine).silent
        intro _
        apply (refused_notices usable).mono
        intro o ss' returned
        obtain ⟨_, rfl, rfl⟩ := returned
        exact ReadsWell.soldOut text (by omega)
  · intro c ss ends
    obtain ⟨r, ok, looked, rfl⟩ := ends
    cases looked with
    | crashed missing => exact ReadsWell.crashed missing

theorem seckillGoods_notices (usable : Usable env) {n repeatCount : Nat}
    (left : repeatCount + n = RETRYCOUNT) (further : 0 < n) :
    (seckillGoods this usrName usrKey (some conn) (some m) repeatCount).Leaves env notice ReadsWell := by
  -- the attempts that are left, against the retries counted so far
  induction n generalizing repeatCount with
  | zero => omega
  | succ n ih =>
    rw [seckillGoods_eq]
    apply attempt_notices usable
    split
    · apply ih <;> omega
    · apply (refused_notices usable).mono
      intro o ss returned
      obtain ⟨_, rfl, rfl⟩ := returned
      exact ReadsWell.quiet (by simp)

theorem serveRequest_notices (usable : Usable env) :
    (serveRequest this usrName usrKey (some conn) (some m)).Leaves env notice ReadsWell := by
  have refused : (setResult this zero).Leaves env notice ReadsWell := by
    apply (refused_notices usable).mono
    intro o ss returned
    obtain ⟨_, rfl, rfl⟩ := returned
    exact ReadsWell.quiet (by simp)
  apply (routine_silent usable notice_spared checkUserInfo_routine).silent
  intro registered
  cases registered with
  | false => exact refused
  | true =>
    apply (routine_silent usable notice_spared checkUserHasGot_routine).silent
    intro hasgot
    cases hasgot with
    | true => exact refused
    | false => exact seckillGoods_notices usable (Nat.zero_add RETRYCOUNT) (by decide)

/-! ## From the gate to `Finish` -/

theorem process_notices (usable : Usable env) :
    (process this (some conn) (some m)).Leaves env notice ReadsWell := by
  apply (routine_silent usable notice_spared newWorker_routine).silent
  intro _
  apply (call_silent usable notice_spared (by exact trivial)).silent
  intro usrName
  apply (call_silent usable notice_spared (by exact trivial)).silent
  intro usrKey
  apply (serveRequest_notices usable).bind
  · intro _ ss readsWell
    have finish : (do
        redisClose (some conn)
        mysqlClose (some m)
        grpc (.finish this (← grpc (.result this))) : Code Unit).Only Call.Unnoticed :=
      ⟨trivial, fun _ => ⟨trivial, fun _ => ⟨trivial, fun _ => ⟨trivial, fun _ => trivial⟩⟩⟩⟩
    apply (unnoticed_silent usable finish).mono
    intro o ss' returned
    obtain ⟨_, rfl, rfl⟩ := returned
    exact readsWell
  · intro c ss readsWell
    exact readsWell

theorem unnoticed_readsWell (usable : Usable env) {p : Code Unit} (only : p.Only Call.Unnoticed) :
    p.Leaves env notice ReadsWell := by
  apply (unnoticed_silent usable only).mono
  intro o ss returned
  obtain ⟨_, rfl, rfl⟩ := returned
  exact ReadsWell.quiet (by simp)

theorem withContext_notices (usable : Usable env) {f : Option ConnId → Code α}
    {post : Outcome Call α → List Notice → Prop}
    (rest : ∀ conn, (f (some conn)).Leaves env notice post) :
    (redisGetOneConnect >>= f).Leaves env notice post := by
  apply (invoke_leaves usable (by simp)).after
  intro redisconn ss left
  obtain ⟨left, past, answered⟩ := left
  cases redisconn with
  | none => exact absurd answered (usable.context past)
  | some conn => simpa [left, notice] using rest conn

theorem withHandle_notices (usable : Usable env) {f : Option SessId → Code α}
    {post : Outcome Call α → List Notice → Prop}
    (rest : ∀ m, (f (some m)).Leaves env notice post) :
    (mysqlGetOneConnect >>= f).Leaves env notice post := by
  apply (invoke_leaves usable (by simp)).after
  intro mysqlconnection ss left
  obtain ⟨left, past, answered⟩ := left
  cases mysqlconnection with
  | none => exact absurd answered (usable.handle past)
  | some m => simpa [left, notice] using rest m

theorem proceedAs_notices (usable : Usable env) {status : WorkerStatus} :
    (proceedAs this status).Leaves env notice ReadsWell := by
  cases status with
  | create => exact unnoticed_readsWell usable ⟨trivial, fun _ => ⟨trivial, fun _ => trivial⟩⟩
  | process =>
    apply withContext_notices usable
    intro conn
    apply withHandle_notices usable
    intro m
    apply (call_silent usable notice_spared (by exact trivial)).silent
    intro _
    apply (call_silent usable notice_spared (by exact trivial)).silent
    exact fun _ => process_notices usable
  | finish =>
    apply withContext_notices usable
    intro conn
    exact unnoticed_readsWell usable
      ⟨trivial, fun _ => ⟨trivial, fun _ => ⟨trivial, fun _ => trivial⟩⟩⟩

namespace Raw

/-- Whatever `LLEN` replies, the gate uses the number only of a reply that has one. -/
theorem admission_notices (usable : Usable env) :
    admission.Leaves env notice (returning fun _ ss => ss = []) := by
  apply (call_silent usable notice_spared (by exact trivial)).silent
  intro successNum
  show (if successNum < 50 then _ else _ : Code Bool).Leaves env notice _
  split
  · apply withContext_notices usable
    intro conn
    have close (closed : Bool) :
        (do redisClose (some conn); pure !closed : Code Bool).Only Call.Unnoticed :=
      ⟨trivial, fun _ => trivial⟩
    apply unnoticed_silent usable
    refine ⟨trivial, fun reply => ?_⟩
    rcases reply with _ | (_ | _ | _ | _ | n | _)
    case some.integer => exact ⟨trivial, fun again => close _⟩
    all_goals exact close false
  · exact Leaves.ret ⟨true, rfl, rfl⟩

theorem handleRPCS_notices (usable : Usable env) : handleRPCS.Leaves env notice ReadsWell := by
  apply (admission_notices usable).silent
  intro goesOn
  show (if goesOn = true then _ else _ : Code Unit).Leaves env notice _
  split
  · apply (call_silent usable notice_spared (by exact trivial)).silent
    intro tag
    rw [proceed_eq]
    apply (call_silent usable notice_spared (by exact trivial)).silent
    exact fun status => proceedAs_notices usable
  · exact unnoticed_readsWell usable trivial

end Raw

/-- Whatever Redis replies, a turn of the loop reads no field that a reply does not have, and where
    there is no count it answers "0" and tries nothing more, exactly if every reply that it reads
    the count from has a text, and one that starts with no positive number where it is no count. -/
theorem replies_read_iff (usable : Usable env) :
    ((Raw.handleRPCS.drive env []).2 = .returned () ∧
        ZeroStock ((Raw.handleRPCS.drive env []).1.filterMap notice)) ↔
      AllReadable ((Raw.handleRPCS.drive env []).1.filterMap notice) := by
  obtain ⟨said, all, readsWell⟩ := Raw.handleRPCS_notices usable []
  rw [all, List.append_nil]
  exact readsWell

theorem replies_read_polite :
    ((Raw.handleRPCS.drive polite []).2 = .returned () ∧
        ZeroStock ((Raw.handleRPCS.drive polite []).1.filterMap notice)) ↔
      AllReadable ((Raw.handleRPCS.drive polite []).1.filterMap notice) :=
  replies_read_iff polite_usable

/-- The same environment, but for what it replies to `GET`. -/
def counting (reply : RedisReply) : Replier
  | _, .redis (.command _ .get) => some (some reply)
  | past, c => polite past c

theorem counting_usable : Usable (counting reply) where
  answers := by
    intro past c proper
    obtain ⟨r, answered⟩ := polite_usable.answers past c proper
    cases c with
    | redis c =>
      cases c with
      | command conn cmd => cases cmd <;> first | exact ⟨_, rfl⟩ | exact ⟨r, answered⟩
      | _ => exact ⟨r, answered⟩
    | _ => exact ⟨r, answered⟩
  context := polite_usable.context
  handle := polite_usable.handle

/-- Without `total_count` the request crashes, and of a text that only starts with a number a unit
    is sold. -/
theorem count_misread :
    (Usable (counting .nil) ∧
        (Raw.handleRPCS.drive (counting .nil) []).2 = .stopped (.crash .nullStr)) ∧
      Usable (counting (.string ['1', '2', 'a'])) ∧
        ¬ ZeroStock ((Raw.handleRPCS.drive (counting (.string ['1', '2', 'a'])) []).1.filterMap
          notice) := by
  refine ⟨⟨counting_usable, rfl⟩, counting_usable, ?_⟩
  intro zeroStock
  have all : (Raw.handleRPCS.drive (counting (.string ['1', '2', 'a'])) []).1.filterMap notice =
      [.answer one, .sale, .multi] ++ .got (some (.string ['1', '2', 'a'])) :: .watched true :: [] := by
    decide +kernel
  have refused := zeroStock (.string ['1', '2', 'a']) [.answer one, .sale, .multi] ⟨[], all⟩
    (by decide +kernel)
  simp at refused

end Seckill
