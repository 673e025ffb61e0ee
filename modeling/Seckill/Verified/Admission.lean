import Seckill.Verified.Commands
import Seckill.Verified.WorkerLives

/-! # The admission gate

`HandleRPCS` lets a thread on to the completion queue only while `work_list` is shorter than
`50 - sucNum_`, and the events that would shorten it come out of the same queue.  With every
thread back at the gate the list is as long as there are `FINISH` events not delivered.  A
`Worker` that is handed out comes back as such an event, and only its sale raises `sucNum_`: so
what may be handed out is limited by how many are outstanding (`Room`).
-/

namespace Seckill

open CStr CallTree Threads Stages

/-- A thread in this stage is held up at the gate, with so many orders taken. -/
def Stage.heldUp (successNum : Int) : Stage → Bool
  | .gate | .shut => true
  | .saw workingNum => 50 - successNum ≤ workingNum
  | .pass | .out => false

/-- All `n` handler threads are held up at a closed gate with a `FINISH` event undelivered. -/
structure Locked (n : Nat) (ls : Nat → Local) (s : Server) : Prop where
  atGate : ∀ t < n, (ls t).stage.heldUp s.counters.successNum = true
  open_ : s.counters.successNum < 50
  closed : 50 - s.counters.successNum ≤ s.redis.data.workList.length
  undelivered : s.grpc.finishing ≠ []

/-- There are `n` handler threads, and `LPUSH` and `LPOP` are answered. -/
def handlers (n : Nat) (h : History server) (s : Server) (ev : Event server) : Bool :=
  usable h s ev && match ev with
    | .start t _ => decide (t < n)
    | .call t _ _ _ => decide (t < n)

/-! ## What is handed out -/

/-- The `Worker`s whose `FINISH` event was delivered. -/
def finishes : History server → List WorkerId
  | [] => []
  | .call _ (.grpc .next) (.finished w) _ :: h => w :: finishes h
  | _ :: h => finishes h

/-- How many `Worker`s are handed out and have not returned. -/
def outstanding (h : History server) : Nat := (delivered h).length - (finishes h).length

/-- The answers "0". -/
def zeros (h : History server) : List Answer := (answers h).filter fun a => a.result == zero

/-- How many requests are sold, or may still be. -/
def hopeful (h : History server) : Nat := (delivered h).length - (zeros h).length

/-- The thread is through the gate and waits for an event. -/
def Local.waits (l : Local) : Bool := l.stage == .pass

/-- How many of the `n` handler threads wait for an event. -/
def waiting (n : Nat) (h : History server) : Nat := census Local.waits n (locals watch h)

/-- For every `Worker` outstanding a thread waits, or those beyond leave room at the gate even if
    every request not turned down is sold, or the gate is open for good. -/
def Room (n : Nat) (h : History server) (s : Server) : Prop :=
  outstanding h ≤ waiting n h ∨ outstanding h + hopeful h < 50 + waiting n h ∨
    50 ≤ s.counters.successNum

instance {n : Nat} {h : History server} : DecidablePred (Room n h) := fun s =>
  inferInstanceAs (Decidable (outstanding h ≤ waiting n h ∨
    outstanding h + hopeful h < 50 + waiting n h ∨ 50 ≤ s.counters.successNum))

/-- `cq_->Next` hands out a request only where that leaves room. -/
def roomy (n : Nat) (h : History server) (s : Server) (ev : Event server) : Bool :=
  handlers n h s ev && match ev with
    | .call _ (.grpc .next) (.deliver _ _ _) _ => decide (Room n (ev :: h) s)
    | _ => true

variable {n t : Nat} {st : Stores} {h : History server} {cfg : Config server} {l : Local} {c : Call}
  {f : Fate} {r : c.Reply} {ls : Nat → Local} {s x : Server} {ok : Condition server}

theorem handlers_call (met : handlers n h s (.call t c f r) = true) : t < n :=
  of_decide_eq_true (Bool.and_eq_true_iff.mp met).2

theorem handlers_start {e : Entry} (met : handlers n h s (.start t e) = true) : t < n :=
  of_decide_eq_true (Bool.and_eq_true_iff.mp met).2

/-! ## What a call does to the stage -/

theorem Local.note_stage (allowed : l.Allowed c) :
    (l.note c f r).stage = l.stage ∨ c = .grpc .next ∨
      (∃ conn, c = .redis (.command conn .llen) ∧ l.stage = .gate) ∨
      c = .counter .successNum ∧ (l.stage = .gate ∨ ∃ workingNum, l.stage = .saw workingNum) := by
  rcases c with (_ | c | ⟨c, cmd⟩) | c | c | c | why
  · exact Or.inl rfl
  · exact Or.inl rfl
  · by_cases llen : cmd = .llen
    · subst llen
      exact Or.inr (Or.inr (Or.inl ⟨c, rfl, allowed.2.2⟩))
    · left
      simp only [note]
      unfold noteCmd noteGet
      (repeat' split) <;> first | rfl | exact absurd rfl llen
  · exact Or.inl (by simp)
  · by_cases successNum : c = .successNum
    · subst successNum
      exact Or.inr (Or.inr (Or.inr ⟨rfl, allowed⟩))
    · left
      simp only [note]
      unfold noteCounter
      (repeat' split) <;> first | rfl | exact absurd rfl successNum
  · by_cases next : c = .next
    · subst next
      exact Or.inr (Or.inl rfl)
    · left
      simp only [note]
      unfold noteGrpc
      (repeat' split) <;> first | rfl | exact absurd rfl next
  · exact r.elim

/-- A thread past the gate stays so until its turn is over. -/
theorem Local.note_within (allowed : l.Allowed c) (other : c ≠ .grpc .next)
    (within : (l.note c f r).stage ≠ .out) : l.stage ≠ .out := by
  obtain same | next | ⟨_, _, gate⟩ | ⟨_, gate | ⟨_, saw⟩⟩ := l.note_stage (f := f) (r := r) allowed
  · rwa [← same]
  · exact absurd next other
  · rw [gate]
    nofun
  · rw [gate]
    nofun
  · rw [saw]
    nofun

theorem Stage.heldUp_within {successNum : Int} {stage : Stage}
    (heldUp : stage.heldUp successNum = true) : stage ≠ .out := by
  rintro rfl
  cases heldUp

/-! ## Nobody past the gate -/

theorem Errand.note_free (other : c ≠ .grpc .next) : Errand.free.note c f r = .free := by
  rcases c with (_ | _ | ⟨c, cmd⟩) | c | c | c | why
  · rfl
  · rfl
  · cases cmd <;> rfl
  · rfl
  · rfl
  · cases c <;> first | rfl | exact absurd rfl other
  · exact r.elim

/-- A thread at the gate has no `Worker`. -/
theorem gate_free (run : Run (meets usable) (boot st) h cfg) :
    ∀ t, (locals watch h t).stage ≠ .out → locals errands h t = .free := by
  refine @Run.invariant _ _ _ _ _ _ _ watch
    (fun h _ ls => ∀ t, (ls t).stage ≠ .out → locals errands h t = .free) conforms ?_ ?_ ?_ run
  · exact fun _ _ => rfl
  · intro h cfg t c f r s _ inv _ allowed _ t' within
    rw [locals_call]
    by_cases own : t' = t
    · subst own
      rw [Function.update_self] at within ⊢
      have other : c ≠ .grpc .next := by
        rintro rfl
        exact within (by cases f <;> rfl)
      show (locals errands h t').note c f r = .free
      rw [inv t' (Local.note_within allowed other within)]
      exact Errand.note_free other
    · rw [Function.update_of_ne own] at within ⊢
      exact inv t' within
  · intro h cfg t e _ inv met _ t' within
    cases e with
    | fallback => cases met
    | handleRPCS =>
      rw [locals_start]
      by_cases own : t' = t
      · subst own
        rw [Function.update_self]
      · rw [Function.update_of_ne own] at within ⊢
        exact inv t' within

/-- The threads are the first `n`. -/
theorem others_idle (run : Run (meets (handlers n)) (boot st) h cfg) :
    ∀ t ≥ n, locals errands h t = .free := by
  induction run with
  | init => exact fun _ _ => rfl
  | @step h cfg cfg' ev run met step ih =>
    intro t' beyond
    have within := (Bool.and_eq_true_iff.mp met).2
    cases step with
    | @call t c k f r s next exec =>
      have other : t' ≠ t := by
        have below : t < n := of_decide_eq_true within
        omega
      rw [locals_call, Function.update_of_ne other]
      exact ih t' beyond
    | @start t e done =>
      have other : t' ≠ t := by
        have below : t < n := of_decide_eq_true within
        omega
      rw [locals_start, Function.update_of_ne other]
      exact ih t' beyond

theorem handlers_usable (run : Run (meets (handlers n)) (boot st) h cfg) :
    Run (meets usable) (boot st) h cfg :=
  run.mono fun _ met => (Bool.and_eq_true_iff.mp met).1

/-- With every thread at the gate `work_list` is as long as there are `FINISH` events undelivered. -/
theorem gate_lengths (empty : st.workList = []) (run : Run (meets (handlers n)) (boot st) h cfg)
    (atGate : ∀ t < n, (locals watch h t).stage ≠ .out) :
    cfg.state.redis.data.workList.length = cfg.state.grpc.finishing.length := by
  have going := (going_on empty (handlers_usable run)).going
  have idle (t : Nat) : locals errands h t = .free := by
    by_cases below : t < n
    · exact gate_free (handlers_usable run) t (atGate t below)
    · exact others_idle run t (Nat.le_of_not_lt below)
  have free (w : WorkerId) : ¬Held ((deeds h).stage w) := by
    intro held
    obtain ⟨t, has⟩ := going.shared.held w held
    rw [idle t] at has
    cases has
  rw [going.work, going.lived.between_eq]
  symm
  apply length_eq_census
  · intro w
    rw [(going.kept w).finishing]
    have stages := not_held _ (Nat.lt_succ_of_le (going.lived.stage_le w)) (free w)
    obtain zero | waits | answered | gone := stages
    · rw [zero]
      rfl
    · rw [waits]
      rfl
    · rw [answered]
      rfl
    · rw [gone]
      rfl
  · exact fun w member => going.inside (going.kept.answered member) nofun

/-! ## Counting what is handed out -/

section Outstanding

variable {ds : Lives} {w : WorkerId} {d d' a : Deed} {made : Nat} {es : Nat → Errand}

/-- Another deed changes nothing between these two. -/
theorem between_other (before : a ≠ d) (after : a ≠ d') :
    between d d' made (ds.add w a) = between d d' made ds := by
  unfold between
  congr 1
  funext w'
  by_cases same : w' = w
  · subst same
    simp [Lives.add, before.symm, after.symm]
  · simp [Lives.add, Function.update_of_ne same]

theorem between_otherTo {tag : Option WorkerId} (before : a ≠ d) (after : a ≠ d') :
    between d d' made (ds.addTo a tag) = between d d' made ds := by
  cases tag with
  | none => rfl
  | some w => exact between_other before after

/-- A `Worker` is handed out, or returns, once. -/
theorem handed_out (empty : st.workList = []) (run : Run (meets usable) (boot st) h cfg) :
    between .delivered .returned cfg.state.grpc.fresh (deeds h) + (finishes h).length =
      (delivered h).length := by
  refine server_invariant (fun h s _ =>
      between .delivered .returned s.grpc.fresh (deeds h) + (finishes h).length = (delivered h).length)
    ?initial ?redis ?mysql ?counter ?grpc ?start run
  case initial => rfl
  case redis =>
    intro h cfg t c f r x _ inv _ _ _
    refine (congrArg (· + (finishes h).length) ?_).trans inv
    cases c with
    | getOneConnect | close c => rfl
    | command c cmd =>
      cases cmd with
      | lpush value | lpop => exact between_otherTo nofun nofun
      | watch | unwatch | multi | exec | get | set value | decr | hget key field
      | hmset key field value | llen => rfl
  case mysql => exact fun _ inv _ _ _ => inv
  case counter => exact fun _ inv _ _ _ => inv
  case grpc =>
    intro h cfg t c f r x run inv _ _ exec
    have going := (going_on empty run).going
    have silent {ds : Lives} (same : between .delivered .returned cfg.state.grpc.fresh ds =
        between .delivered .returned cfg.state.grpc.fresh (deeds h)) :
        between .delivered .returned cfg.state.grpc.fresh ds + (finishes h).length =
          (delivered h).length :=
      same ▸ inv
    cases GrpcState.exec_does exec with
    | alloc =>
      have new : (deeds h).stage cfg.state.grpc.fresh = 0 :=
        (going.kept _).made.mpr (Nat.le_refl _)
      exact (congrArg (· + (finishes h).length) (going.lived.between_new new)).trans inv
    | status w found | usrname w found | usrkey w found | setResult w result found
    | result w found => exact inv
    | setStatus w st found =>
      cases st with
      | create => exact inv
      | process | finish => exact silent (between_other nofun nofun)
    | requestseckill w found =>
      apply silent
      show between _ _ _ (((deeds h).add w .requested).addTo .spawned (tag t h)) = _
      rw [between_otherTo (by decide) (by decide), between_other (by decide) (by decide)]
    | finish w result found | delete w found => exact silent (between_other nofun nofun)
    | deliver w usrname usrkey registered found =>
      -- one more between delivery and return
      have waits : (deeds h).stage w = 3 := going.kept.waits registered
      have one := going.lived.between_add waits rfl (going.inside waits nofun) .delivered .returned
      change _ + 0 = _ + 1 at one
      show between _ _ cfg.state.grpc.fresh ((deeds h).add w .delivered) + (finishes h).length =
        (delivered h).length + 1
      omega
    | finished w finishing =>
      -- its event comes out, so one less
      have answered : (deeds h).stage w = 8 := going.kept.answered finishing
      have one := going.lived.between_add answered rfl (going.inside answered nofun) .delivered
        .returned
      change _ + 1 = _ + 0 at one
      show between _ _ cfg.state.grpc.fresh ((deeds h).add w .returned) + ((finishes h).length + 1) =
        (delivered h).length
      omega
  case start => exact fun _ inv _ _ => inv

/-- The `FINISH` events not delivered are of `Worker`s outstanding. -/
theorem finishing_le (empty : st.workList = []) (run : Run (meets usable) (boot st) h cfg) :
    cfg.state.grpc.finishing.length ≤ outstanding h := by
  have going := (going_on empty run).going
  have handed := handed_out empty run
  have few : cfg.state.grpc.finishing.length ≤
      between .delivered .returned cfg.state.grpc.fresh (deeds h) := by
    rw [going.answered]
    apply List.countP_mono_left
    intro w _ answered
    simp only [decide_eq_true_eq, going.lived.done] at answered ⊢
    exact ⟨Nat.lt_trans (by decide) answered.1, answered.2⟩
  unfold outstanding
  omega

end Outstanding

/-! ## Counting what is sold -/

/-- The thread has a request that may still be sold, or was and is not counted yet. -/
def Local.hopes (l : Local) : Bool := l.job.owes || l.job.request.isSome && !l.job.paid

/-- The sales counted, the answers "0" and the threads with hope are no more than the requests. -/
structure Tally (n : Nat) (h : History server) (s : Server) (ls : Nat → Local) : Prop where
  paid : ∀ t, (ls t).job.owes = true → (ls t).job.paid = true
  few : s.counters.successNum + (zeros h).length + census Local.hopes n ls ≤ (delivered h).length

theorem Tally.step {h' : History server} (tally : Tally n h s ls) (below : t < n)
    (paid : l.job.owes = true → l.job.paid = true)
    (fair : x.counters.successNum + (zeros h').length + l.hopes.toNat + (delivered h).length ≤
      s.counters.successNum + (zeros h).length + (ls t).hopes.toNat + (delivered h').length) :
    Tally n h' x (Function.update ls t l) := by
  have move : census Local.hopes n (Function.update ls t l) + (ls t).hopes.toNat =
      census Local.hopes n ls + l.hopes.toNat := census_move below
  have few := tally.few
  refine ⟨forall_update (P := fun l : Local => l.job.owes = true → l.job.paid = true)
    tally.paid paid, ?_⟩
  omega

/-- A call after which a thread has no more hope than before. -/
theorem Tally.keep {h' : History server} (tally : Tally n h s ls) (below : t < n)
    (paid : l.job.owes = true → l.job.paid = true) (hopes : l.hopes = true → (ls t).hopes = true)
    (successNum : x.counters.successNum = s.counters.successNum)
    (sameZeros : zeros h' = zeros h) (sameDelivered : delivered h' = delivered h) :
    Tally n h' x (Function.update ls t l) := by
  apply tally.step below paid
  have fewer : l.hopes.toNat ≤ (ls t).hopes.toNat := Bool.toNat_le_toNat hopes
  rw [successNum, sameZeros, sameDelivered]
  omega

theorem Local.hopes_of {l' : Local} (owes : l'.job.owes = l.job.owes) (paid : l'.job.paid = l.job.paid)
    (request : l'.job.request.isSome = true → l.job.request.isSome = true)
    (hopes : l'.hopes = true) : l.hopes = true := by
  simp only [Local.hopes, owes, paid, Bool.or_eq_true, Bool.and_eq_true] at hopes ⊢
  exact hopes.imp_right fun still => ⟨request still.1, still.2⟩

/-- A thread gets a request from `cq_->Next` only. -/
theorem Local.note_request {c : GrpcCall} {r : c.Reply} (other : c ≠ .next)
    (request : (l.note (.grpc c) f r).job.request.isSome = true) :
    l.job.request.isSome = true := by
  cases c with
  | next => exact absurd rfl other
  | setStatus w st =>
    simp only [note, noteGrpc, Job.noteStatus] at request
    (repeat' split at request) <;> exact request
  | requestseckill w =>
    simp only [note, noteGrpc, Job.noteRegistered] at request
    split at request
    · exact request
    · cases request
  | finish w result | delete w => cases request
  | alloc | status w | usrname w | usrkey w | setResult w result | result w => exact request

theorem Tally.grpc {c : GrpcCall} {y : GrpcState} {r : c.Reply} (run : Run ok (boot st) h cfg)
    (tally : Tally n h cfg.state (locals watch h)) (below : t < n)
    (allowed : (locals watch h t).AllowsGrpc c) (exec : cfg.state.grpc.exec c f = some (r, y)) :
    Tally n (.call t (.grpc c) f r :: h) { cfg.state with grpc := y }
      (Function.update (locals watch h) t ((locals watch h t).note (.grpc c) f r)) := by
  cases c with
  | next =>
    cases f with
    | deliver w usrname usrkey =>
      -- one request more, and one thread with hope for it
      refine tally.step below (absurd · Bool.false_ne_true) ?_
      show cfg.state.counters.successNum + ((zeros h).length : Int) + 1 + (delivered h).length ≤
        cfg.state.counters.successNum + (zeros h).length + _ + ((delivered h).length + 1 : Nat)
      omega
    | finished w =>
      exact tally.keep below (absurd · Bool.false_ne_true) (absurd · Bool.false_ne_true) rfl rfl rfl
    | ok | lostBefore | lostAfter | fail | failRollback | connect _ _ => cases exec
  | finish w result =>
    obtain ⟨q, serves, _⟩ := serving_finish run allowed
    have sound := finish_answers run allowed
    obtain ⟨_, _, _, _, _, owes, _⟩ := allowed
    have after : ((locals watch h t).note (.grpc (.finish w result)) f r).hopes = false := by
      simp [Local.hopes, Local.note, Local.noteGrpc, owes]
    by_cases none : result = zero
    · subst none
      obtain ⟨one, _⟩ | ⟨_, unpaid, _⟩ := sound
      · exact absurd one (by decide)
      · -- the thread's hope becomes an answer "0"
        refine tally.step below (tally.paid t) ?_
        have request := (Task.serving_worker ((serving_eq run t).symm.trans serves)).2
        have before : (locals watch h t).hopes = true := by simp [Local.hopes, unpaid, request]
        have more : zeros (.call t (.grpc (.finish w zero)) f r :: h) =
            ⟨q, zero, t, h⟩ :: zeros h := by simp [zeros, answers, serves]
        rw [after, before, more, List.length_cons]
        show cfg.state.counters.successNum + (((zeros h).length + 1 : Nat) : Int) + 0 + _ ≤
          cfg.state.counters.successNum + (zeros h).length + 1 + ((delivered h).length : Int)
        omega
    · -- an answer "1", to a thread without hope
      refine tally.keep below (tally.paid t) (fun hopes => ?_) rfl ?_ rfl
      · exact absurd (after.symm.trans hopes) Bool.false_ne_true
      · simp [zeros, answers, serves, none]
  | alloc | status w | setStatus w st | requestseckill w | usrname w | usrkey w | setResult w result
  | result w | delete w =>
    obtain ⟨_, _, paid, owes⟩ := Local.noteGrpc_job (l := locals watch h t) (f := f) (r := r) (by simp)
    refine tally.keep below (fun owed => ?_)
      (Local.hopes_of owes paid (Local.note_request (by simp))) rfl rfl rfl
    rw [paid]
    exact tally.paid t (owes.symm.trans owed)

/-- Each request delivered is sold, turned down or has a thread, once. -/
theorem tally (run : Run (meets (handlers n)) (boot st) h cfg) :
    Tally n h cfg.state (locals watch h) := by
  refine server_invariant (fun h s ls => Tally n h s ls)
    ?initial ?redis ?mysql ?counter ?grpc ?start run
  case initial =>
    refine ⟨fun _ => (absurd · Bool.false_ne_true), ?_⟩
    have nobody : census Local.hopes n (fun _ => {}) = 0 :=
      List.countP_eq_zero.mpr fun _ _ => Bool.false_ne_true
    rw [nobody]
    exact Int.le_refl 0
  case redis =>
    intro h cfg t c f r x _ inv met _ _
    obtain ⟨_, task, paid, owes, _⟩ := (locals watch h t).note_redis (c := c) (f := f) (r := r)
    refine inv.keep (handlers_call met) ?_ (Local.hopes_of owes paid ?_) rfl ?_ ?_
    · rw [owes, paid]
      exact inv.paid t
    · rw [task]
      exact id
    · cases c <;> rfl
    · cases c <;> rfl
  case mysql =>
    intro h cfg t c f r x run inv met allowed _
    have same : delivered (.call t (.mysql c) f r :: h) = delivered h ∧
        zeros (.call t (.mysql c) f r :: h) = zeros h := by
      cases c <;> exact ⟨rfl, rfl⟩
    by_cases commit : ∃ m, c = .commit m
    · -- from here on the thread owes the count a sale, and had hope before
      obtain ⟨m, rfl⟩ := commit
      obtain ⟨_, _, atWork, unpaid⟩ := allowed
      obtain ⟨q, serves, _⟩ := serving_atWork run atWork
      have request := (Task.serving_worker ((serving_eq run t).symm.trans serves)).2
      refine inv.keep (handlers_call met) (fun _ => rfl) (fun _ => ?_) rfl same.2 same.1
      simp [Local.hopes, unpaid, request]
    · have other (m : SessId) : c ≠ .commit m := fun eq => commit ⟨m, eq⟩
      obtain ⟨paid, _, owes⟩ := Local.note_mysql_paid (l := locals watch h t) (f := f) (r := r) other
      refine inv.keep (handlers_call met) ?_ (Local.hopes_of owes paid (by simp)) rfl same.2 same.1
      rw [owes, paid]
      exact inv.paid t
  case counter =>
    intro h cfg t c f r x _ inv met allowed exec
    by_cases raise : c = .incSuccessNum
    · -- the sale is counted, and the thread hopes for nothing more
      subst raise
      cases f <;> cases exec
      refine inv.step (handlers_call met) (absurd · Bool.false_ne_true) ?_
      have paid : (locals watch h t).job.paid = true := inv.paid t allowed.1
      have before : (locals watch h t).hopes = true := by simp [Local.hopes, allowed.1]
      have after : ((locals watch h t).note (.counter .incSuccessNum) .ok ()).hopes = false := by
        simp [Local.hopes, Local.note, Local.noteCounter, paid]
      rw [before, after]
      show cfg.state.counters.successNum + 1 + ((zeros h).length : Int) + 0 + _ ≤
        cfg.state.counters.successNum + (zeros h).length + 1 + ((delivered h).length : Int)
      omega
    · have owes := Local.note_counter_owes (l := locals watch h t) (f := f) (r := r) raise
      have paid : ((locals watch h t).note (.counter c) f r).job.paid =
          (locals watch h t).job.paid := by simp
      refine inv.keep (handlers_call met) ?_ (Local.hopes_of owes paid (by simp))
        (Counters.exec_successNum raise exec) rfl rfl
      rw [owes, paid]
      exact inv.paid t
  case grpc =>
    intro h cfg t c f r x run inv met allowed exec
    exact inv.grpc run (handlers_call met) allowed exec
  case start =>
    intro h cfg t e _ inv met settled
    refine inv.keep (handlers_start met) ?_ ?_ rfl rfl rfl
    · cases e <;> exact (absurd · Bool.false_ne_true)
    · cases e <;> exact (absurd · Bool.false_ne_true)

/-! ## There is room -/

/-- Away from the queue a thread that waits goes on waiting. -/
theorem Local.note_waits (allowed : l.Allowed c) (other : c ≠ .grpc .next) (waits : l.waits = true) :
    (l.note c f r).waits = true := by
  have pass : l.stage = .pass := by simpa [Local.waits] using waits
  obtain same | next | ⟨_, _, gate⟩ | ⟨_, gate | ⟨_, saw⟩⟩ := l.note_stage (f := f) (r := r) allowed
  · simpa [Local.waits, same] using pass
  · exact absurd next other
  · exact absurd (pass.symm.trans gate) nofun
  · exact absurd (pass.symm.trans gate) nofun
  · exact absurd (pass.symm.trans saw) nofun

theorem waiting_call {r : c.Reply} (below : t < n) :
    waiting n (.call t c f r :: h) + (locals watch h t).waits.toNat =
      waiting n h + ((locals watch h t).note c f r).waits.toNat := by
  unfold waiting
  rw [locals_call]
  exact census_move below

/-- Away from the queue nothing is handed out or comes back. -/
theorem outstanding_call {r : c.Reply} (other : c ≠ .grpc .next) :
    outstanding (.call t c f r :: h) = outstanding h ∧
      hopeful (.call t c f r :: h) ≤ hopeful h := by
  cases c with
  | crash why => exact r.elim
  | redis c | counter c => exact ⟨rfl, Nat.le_refl _⟩
  | mysql c => cases c <;> exact ⟨rfl, Nat.le_refl _⟩
  | grpc c =>
    cases c with
    | next => exact absurd rfl other
    | finish w result =>
      have more : (zeros h).length ≤ (zeros (.call t (.grpc (.finish w result)) f r :: h)).length := by
        simp [zeros, answers]
      exact ⟨rfl, Nat.sub_le_sub_left more _⟩
    | alloc | status w | setStatus w st | requestseckill w | usrname w | usrkey w
    | setResult w result | result w | delete w => exact ⟨rfl, Nat.le_refl _⟩

/-- Away from the queue room only grows. -/
theorem Room.call {r : c.Reply} (room : Room n h s) (below : t < n)
    (allowed : (locals watch h t).Allowed c) (other : c ≠ .grpc .next)
    (sold : s.counters.successNum ≤ x.counters.successNum) : Room n (.call t c f r :: h) x := by
  obtain ⟨out, hope⟩ := outstanding_call (t := t) (f := f) (r := r) (h := h) other
  have move := waiting_call (f := f) (r := r) (h := h) below
  have still : (locals watch h t).waits.toNat ≤ ((locals watch h t).note c f r).waits.toNat :=
    Bool.toNat_le_toNat (Local.note_waits allowed other)
  unfold Room at room ⊢
  omega

/-- A thread that waited takes the event of a `Worker` outstanding. -/
theorem Room.finished {w r : WorkerId} (room : Room n h s) (below : t < n)
    (waits : (locals watch h t).waits = true)
    (same : x.counters.successNum = s.counters.successNum) :
    Room n (.call t (.grpc .next) (.finished w) r :: h) x := by
  have move := waiting_call (c := .grpc .next) (f := .finished w) (r := r) (h := h) below
  rw [waits] at move
  change _ + 1 = _ + 0 at move
  have out : outstanding (.call t (.grpc .next) (.finished w) r :: h) = outstanding h - 1 := rfl
  have hope : hopeful (.call t (.grpc .next) (.finished w) r :: h) = hopeful h := rfl
  unfold Room at room ⊢
  omega

/-- Where requests are handed out only with room for them, there is room. -/
theorem room (run : Run (meets (roomy n)) (boot st) h cfg) : Room n h cfg.state := by
  have served {h s ev} (met : meets (roomy n) h s ev) : handlers n h s ev = true :=
    (Bool.and_eq_true_iff.mp met).1
  refine server_invariant (fun h s _ => Room n h s) ?initial ?redis ?mysql ?counter ?grpc ?start run
  case initial => exact Or.inl (Nat.zero_le _)
  case redis =>
    intro h cfg t c f r x _ room met allowed _
    exact room.call (handlers_call (served met)) allowed nofun (Int.le_refl _)
  case mysql =>
    intro h cfg t c f r x _ room met allowed _
    exact room.call (c := .mysql c) (handlers_call (served met)) allowed nofun (Int.le_refl _)
  case counter =>
    intro h cfg t c f r x _ room met allowed exec
    refine room.call (c := .counter c) (handlers_call (served met)) allowed nofun ?_
    cases Counters.exec_does exec with
    | incSuccessNum => exact Int.le_of_lt (Int.lt_add_one_of_le (Int.le_refl _))
    | wrlock nobody | unlock | failedCount | setFailedCount n | incFailedCount | successNum =>
      exact Int.le_refl _
  case grpc =>
    intro h cfg t c f r x _ room met allowed exec
    by_cases next : c = .next
    · subst next
      cases f with
      | deliver w usrname usrkey => exact of_decide_eq_true (Bool.and_eq_true_iff.mp met).2
      | finished w =>
        have waits : (locals watch h t).waits = true := by simp [Local.waits, allowed.2]
        exact room.finished (handlers_call (served met)) waits rfl
      | ok | lostBefore | lostAfter | fail | failRollback | connect _ _ => cases exec
    · exact room.call (c := .grpc c) (handlers_call (served met)) allowed
        (fun same => next (Call.grpc.inj same)) (Int.le_refl _)
  case start =>
    intro h cfg t e _ room met settled
    -- the thread did not wait, and does not now
    have out : (locals watch h t).waits = false := by
      simpa [Local.waits] using settled.stage
    have gate : (Local.begin e).waits = false := by
      cases e with
      | handleRPCS => rfl
      | fallback => cases (Bool.and_eq_true_iff.mp (served met)).1
    have waits : waiting n (.start t e :: h) + (locals watch h t).waits.toNat =
        waiting n h + (Local.begin e).waits.toNat := census_move (handlers_start (served met))
    rw [out, gate] at waits
    change waiting n (.start t e :: h) + 0 = waiting n h + 0 at waits
    rw [Nat.add_zero, Nat.add_zero] at waits
    unfold Room at room ⊢
    rw [waits]
    exact room

/-! ## The gate does not lock -/

/-- No state is reached in which all threads are held up while a `FINISH` event is undelivered, as
    long as requests are handed out only with room for them. -/
theorem gate_never_locks (empty : st.workList = []) (run : Run (meets (roomy n)) (boot st) h cfg) :
    ¬Locked n (locals watch h) cfg.state := by
  intro locked
  have served : Run (meets (handlers n)) (boot st) h cfg :=
    run.mono fun _ met => (Bool.and_eq_true_iff.mp met).1
  have lengths := gate_lengths empty served fun t below => Stage.heldUp_within (locked.atGate t below)
  have finishing := finishing_le empty (handlers_usable served)
  have nobody : waiting n h = 0 := by
    refine List.countP_eq_zero.mpr fun t below waits => ?_
    have pass : (locals watch h t).stage = .pass := by simpa [Local.waits] using waits
    have heldUp := locked.atGate t (List.mem_range.mp below)
    rw [pass] at heldUp
    cases heldUp
  have some : 0 < cfg.state.grpc.finishing.length := List.length_pos_iff.mpr locked.undelivered
  have closed := locked.closed
  have open_ := locked.open_
  have sold := (tally served).few
  -- what is outstanding and what is sold fill the gate
  obtain few | few | enough := room run
  · omega
  · unfold hopeful at few
    omega
  · omega

/-- One request is served and finished by the only thread. -/
theorem gate_never_locks_alone : ∃ (h : History server) (cfg : Config server),
    Run (meets (roomy 1)) (boot (agreeing [(['a'], ['k'])] 50)) h cfg ∧ (answers h).length = 1 ∧
      ¬Locked 1 (locals watch h) cfg.state := by
  have ran : ((replay (roomy 1) (serves 0 ⟨0, ['a'], ['k']⟩ .ok .ok ++ .start 0 .handleRPCS ::
      go 0 5 ++ [.go 0 (.finished 0)] ++ go 0 5) []
      (initial (boot (agreeing [(['a'], ['k'])] 50)))).any fun x =>
        (answers x.1).length == 1) = true := by decide +kernel
  obtain ⟨⟨h, cfg⟩, played, after⟩ := (Option.any_eq_true _ _).mp ran
  rw [beq_iff_eq] at after
  have run : Run (meets (roomy 1)) _ h cfg := replay_meets played
  exact ⟨h, cfg, run, after, gate_never_locks rfl run⟩

/-- One thread takes a request after the other from a user that is not registered, and turns each
    of them down. -/
def turnsDown (k : Nat) : List (Move server) :=
  (List.range k).flatMap fun w => takes 0 ⟨w, ['a'], ['k']⟩ ++ go 0 16

/-- It has taken 50 requests before the first `FINISH` event, and is held up at the gate. -/
theorem gate_locks : ∃ (h : History server) (cfg : Config server),
    Run (meets fun h s ev => handlers 1 h s ev && redisWorks h s ev) (boot (agreeing [] 50)) h cfg ∧
      (answers h).length = 50 ∧ Locked 1 (locals watch h) cfg.state := by
  have ran : ((replay (fun h s ev => handlers 1 h s ev && redisWorks h s ev)
      (turnsDown 50 ++ .start 0 .handleRPCS :: go 0 5) [] (initial (boot (agreeing [] 50)))).any fun x =>
        (answers x.1).length == 50 && (locals watch x.1 0).stage == .shut &&
          x.2.state.counters.successNum == 0 && x.2.state.redis.data.workList.length == 50 &&
          x.2.state.grpc.finishing.length == 50) = true := by decide +kernel
  obtain ⟨⟨h, cfg⟩, played, after⟩ := (Option.any_eq_true _ _).mp ran
  simp only [Bool.and_eq_true, beq_iff_eq] at after
  obtain ⟨⟨⟨⟨answered, shut⟩, none⟩, list⟩, finishing⟩ := after
  refine ⟨h, cfg, replay_meets played, answered, ?_⟩
  constructor
  · intro t below
    obtain rfl : t = 0 := by omega
    rw [shut]
    rfl
  · rw [none]
    decide
  · rw [none, list]
    decide
  · intro nil
    rw [nil] at finishing
    cases finishing

/-- The room is not wider than it has to be: 48 requests turned down leave room, and a 49th that is
    sold locks the gate. -/
example : ((replay (roomy 1) (turnsDown 48) [] (initial (boot (agreeing [(['b'], ['k'])] 50)))).any
    fun x => ((replay (handlers 1) (serves 0 ⟨48, ['b'], ['k']⟩ .ok .ok ++ .start 0 .handleRPCS :: go 0 5)
      x.1 x.2).any fun x => (locals watch x.1 0).stage == .shut &&
        x.2.state.counters.successNum == 1 && x.2.state.redis.data.workList.length == 49)) = true := by
  decide +kernel

end Seckill
