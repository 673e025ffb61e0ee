import Seckill.Verified.Lifecycle

/-! # Requests in progress and answered

The history of a run against the records of its threads.  A request that was delivered is
in progress with one thread or answered, never both, and it is answered once.  What is
known of a request in progress is in the record of its thread; what was known of an
answered one is in the record its thread had at that moment (`Answer.record`).
-/

namespace Seckill

open CStr CallTree Threads Leases

variable {ok : Condition server} {st : Stores} {s₀ : Server} {h h' : History server}
  {cfg : Config server} {ls : Nat → Local} {l : Local} {t : Nat} {w : WorkerId} {q : Request}

/-! ## The request in the record -/

/-- The request a thread is working on, by its own record. -/
def Task.serving (k : Task) : Option Request :=
  match k.worker, k.request with
  | some w, some (usrname, usrkey) => some ⟨w, usrname, usrkey⟩
  | _, _ => none

theorem Task.serving_none {k : Task} (none : k.request = none) : k.serving = Option.none := by
  unfold Task.serving
  split
  next request => exact absurd (none.symm.trans request) nofun
  next => rfl

theorem Task.serving_worker {k : Task} (serving : k.serving = some q) :
    k.worker = some q.worker ∧ k.request = some (q.usrname, q.usrkey) := by
  unfold Task.serving at serving
  split at serving
  next worker request =>
    cases serving
    exact ⟨worker, request⟩
  next => cases serving

theorem serving_other {t' : Nat} {c : Call} {f : Fate} {r : c.Reply} (other : t' ≠ t) :
    serving t' (.call t c f r :: h) = serving t' h := by
  cases c with
  | redis c | mysql c | counter c | crash why => rfl
  | grpc c =>
    cases c with
    | next | finish w result => exact if_neg (Ne.symm other)
    | alloc | status w | setStatus w status | requestseckill w | usrname w | usrkey w
    | setResult w result | result w | delete w => rfl

/-- The two notions of a request in progress agree. -/
theorem serving_eq (run : Run ok (boot st) h cfg) :
    ∀ t, serving t h = (locals watch h t).job.serving := by
  refine server_invariant (fun h _ ls => ∀ t, serving t h = (ls t).job.serving)
    ?initial ?redis ?mysql ?counter ?grpc ?start run
  case initial => exact fun _ => rfl
  case redis =>
    intro h cfg t c f r x _ inv _ _ _ t'
    rw [update_eq (fun l : Local => l.job.serving) (by simp)]
    exact inv t'
  case mysql =>
    intro h cfg t c f r x _ inv _ _ _ t'
    rw [update_eq (fun l : Local => l.job.serving) (by simp)]
    cases c <;> exact inv t'
  case counter =>
    intro h cfg t c f r x _ inv _ _ _ t'
    rw [update_eq (fun l : Local => l.job.serving) (by simp)]
    exact inv t'
  case grpc =>
    intro h cfg t c f r x run inv _ allowed exec t'
    by_cases own : t' = t
    · subst own
      rw [Function.update_self]
      cases c with
      | alloc | status w | usrname w | usrkey w | setResult w result | result w => exact inv t'
      | setStatus w status =>
        have same : ((locals watch h t').note (.grpc (.setStatus w status)) f r).job.serving =
            (locals watch h t').job.serving := by
          simp only [Local.note, Local.noteGrpc, Job.noteStatus]
          (repeat' split) <;> rfl
        rw [same]
        exact inv t'
      | requestseckill w =>
        obtain ⟨newborn, _⟩ | ⟨_, worker, create⟩ := allowed
        · simp only [Local.note, Local.noteGrpc, Job.noteRegistered, newborn, if_true]
          exact inv t'
        · -- no thread is ever in the `CREATE` branch
          obtain ⟨x, _, fits⟩ := ((objects run).own t').worker w worker
          exact absurd create fits.not_create
      | finish w result =>
        simp only [serving, if_true]
        exact (Task.serving_none rfl).symm
      | delete w =>
        obtain ⟨x, _, fits⟩ := ((objects run).own t').worker w allowed.1
        have none : (locals watch h t').job.request = Option.none := by
          cases request : (locals watch h t').job.request with
          | none => rfl
          | some request =>
            -- an object of a request in progress is not in the `FINISH` branch
            rw [ObjectFits, request] at fits
            obtain ⟨branch, _⟩ | branch := fits.branch
            · exact absurd (branch.symm.trans allowed.2) (by simp)
            · exact absurd (branch.symm.trans allowed.2) (by simp)
        have before := (inv t').trans (Task.serving_none none)
        exact Eq.trans before (Task.serving_none rfl).symm
      | next =>
        simp only [serving, if_true]
        cases f with
        | deliver w usrname usrkey =>
          cases GrpcState.exec_does exec
          rfl
        | ok | lostBefore | lostAfter | fail | failRollback | connect _ _ | finished _ => rfl
    · rw [Function.update_of_ne own, serving_other own]
      exact inv t'
  case start =>
    intro h cfg t e run inv _ settled t'
    have none : (locals watch h t).job.serving = Option.none := Task.serving_none settled.request
    rw [update_eq (fun l : Local => l.job.serving) (by rw [none]; cases e <;> rfl)]
    exact inv t'

/-- A request is in progress with one thread. -/
theorem serving_once (run : Run ok (boot st) h cfg) {t t' : Nat} (one : serving t h = some q)
    (two : serving t' h = some q) : t = t' := by
  rw [serving_eq run] at one two
  exact (workers_exclusive run).leases.once (Or.inl (Task.serving_worker one).1)
    (Or.inl (Task.serving_worker two).1)

/-- A thread at `Finish` has a request in progress. -/
theorem serving_finish {result : Str} (run : Run ok (boot st) h cfg)
    (allowed : (locals watch h t).AllowsGrpc (.finish w result)) :
    ∃ q, serving t h = some q ∧ q.worker = w := by
  obtain ⟨worker, _, process, _⟩ := allowed
  obtain ⟨x, _, fits⟩ := ((objects run).own t).worker w worker
  obtain ⟨⟨usrname, usrkey⟩, request, _⟩ := fits.process process
  refine ⟨⟨w, usrname, usrkey⟩, ?_, rfl⟩
  rw [serving_eq run]
  simp only [Task.serving, worker, request]

/-- A thread at `cq_->Next` has none. -/
theorem serving_next (run : Run ok (boot st) h cfg)
    (allowed : (locals watch h t).AllowsGrpc .next) : serving t h = none := by
  rw [serving_eq run, allowed.1]
  rfl

/-- A thread at work has a request in progress, and goes by what was delivered. -/
theorem serving_atWork (run : Run ok (boot st) h cfg) (work : (locals watch h t).AtWork) :
    ∃ q, serving t h = some q ∧
      (∀ name, (locals watch h t).job.userName = some name → name = q.usrname) ∧
      (∀ key, (locals watch h t).job.userKey = some key → key = q.usrkey) := by
  obtain ⟨isSome, process⟩ := work
  obtain ⟨w, worker⟩ := Option.isSome_iff_exists.mp isSome
  obtain ⟨x, _, fits⟩ := ((objects run).own t).worker w worker
  obtain ⟨⟨usrname, usrkey⟩, request, fits⟩ := fits.process process
  refine ⟨⟨w, usrname, usrkey⟩, ?_, fits.userName, fits.userKey⟩
  rw [serving_eq run]
  simp only [Task.serving, worker, request]

/-! ## No request is lost or answered twice -/

structure Requests (h : History server) (s : GrpcState) (ls : Nat → Local) : Prop where
  once : ((delivered h).map Request.worker).Nodup
  made : ∀ q ∈ delivered h, q.worker < s.fresh
  gone : ∀ q ∈ delivered h, q.worker ∉ s.registered
  unborn : ∀ q ∈ delivered h, ∀ t, (ls t).job.newborn ≠ some q.worker
  served : ∀ t q, serving t h = some q → q ∈ delivered h
  answered : ∀ a ∈ answers h, a.request ∈ delivered h
  spent : ∀ a ∈ answers h, ∀ t, serving t h ≠ some a.request
  nodup : ((answers h).map Answer.request).Nodup
  complete : ∀ q ∈ delivered h, (∃ t, serving t h = some q) ∨ ∃ a ∈ answers h, a.request = q

variable {s s' : GrpcState}

/-- A call that neither delivers a request nor answers one. -/
theorem Requests.keep (requests : Requests h s ls) (sameDelivered : delivered h' = delivered h)
    (sameServing : ∀ t, serving t h' = serving t h) (sameAnswers : answers h' = answers h)
    (fresh : s.fresh ≤ s'.fresh)
    (gone : ∀ w ∈ s'.registered, w ∈ s.registered ∨ (ls t).job.newborn = some w)
    (unborn : ∀ w, l.job.newborn = some w → (ls t).job.newborn = some w ∨ s.fresh ≤ w) :
    Requests h' s' (Function.update ls t l) where
  once := sameDelivered ▸ requests.once
  made q member := Nat.lt_of_lt_of_le (requests.made q (sameDelivered ▸ member)) fresh
  gone q member := by
    rw [sameDelivered] at member
    intro registered
    obtain before | newborn := gone q.worker registered
    · exact requests.gone q member before
    · exact requests.unborn q member t newborn
  unborn q member := by
    rw [sameDelivered] at member
    refine forall_update (P := fun l : Local => l.job.newborn ≠ some q.worker)
      (requests.unborn q member) fun newborn => ?_
    obtain before | made := unborn q.worker newborn
    · exact requests.unborn q member t before
    · exact Nat.lt_irrefl _ (Nat.lt_of_lt_of_le (requests.made q member) made)
  served t' q serving := by
    rw [sameServing] at serving
    exact sameDelivered ▸ requests.served t' q serving
  answered := by
    rw [sameAnswers, sameDelivered]
    exact requests.answered
  spent := by
    simp only [sameAnswers, sameServing]
    exact requests.spent
  nodup := sameAnswers ▸ requests.nodup
  complete := by
    simp only [sameDelivered, sameServing, sameAnswers]
    exact requests.complete

theorem Requests.deliver {usrname usrkey : Str} {r : (Call.grpc .next).Reply}
    (requests : Requests h s ls) (holds : HoldsWorkers s ls) (registered : w ∈ s.registered)
    (idle : serving t h = none) (fresh : s'.fresh = s.fresh)
    (rest : s'.registered = s.registered.erase w) (newborn : l.job.newborn = none) :
    Requests (.call t (.grpc .next) (.deliver w usrname usrkey) r :: h) s'
      (Function.update ls t l) := by
  have nodup := List.nodup_append.mp holds.leases.nodup
  have new : ∀ q ∈ delivered h, q.worker ≠ w :=
    fun q member eq => requests.gone q member (eq ▸ registered)
  have all : delivered (.call t (.grpc .next) (.deliver w usrname usrkey) r :: h) =
      ⟨w, usrname, usrkey⟩ :: delivered h := rfl
  have mine : serving t (.call t (.grpc .next) (.deliver w usrname usrkey) r :: h) =
      some ⟨w, usrname, usrkey⟩ := if_pos rfl
  -- the others go on with what they have; this thread had nothing
  have back {t' : Nat} {q : Request} (serves : serving t' h = some q) :
      serving t' (.call t (.grpc .next) (.deliver w usrname usrkey) r :: h) = some q := by
    have other : t' ≠ t := by
      rintro rfl
      exact absurd (idle.symm.trans serves) nofun
    exact (serving_other other).trans serves
  have forth {t' : Nat} {q : Request}
      (serves : serving t' (.call t (.grpc .next) (.deliver w usrname usrkey) r :: h) = some q) :
      q = ⟨w, usrname, usrkey⟩ ∨ serving t' h = some q := by
    by_cases own : t' = t
    · subst own
      exact Or.inl (Option.some.inj (serves.symm.trans mine))
    · exact Or.inr ((serving_other own).symm.trans serves)
  constructor
  · rw [all, List.map_cons, List.nodup_cons]
    refine ⟨fun member => ?_, requests.once⟩
    obtain ⟨q, before, eq⟩ := List.mem_map.mp member
    exact new q before eq
  · intro q member
    rw [fresh]
    obtain rfl | before := List.mem_cons.mp (all ▸ member)
    · exact holds.leases.idle_made (List.mem_append_left _ registered)
    · exact requests.made q before
  · intro q member
    rw [rest]
    obtain rfl | before := List.mem_cons.mp (all ▸ member)
    · exact nodup.1.not_mem_erase
    · exact fun left => requests.gone q before (List.mem_of_mem_erase left)
  · -- the `Worker` was in the queue, so it is nobody's newborn
    intro q member
    refine forall_update (P := fun l : Local => l.job.newborn ≠ some q.worker) (fun t' => ?_) ?_
    · obtain rfl | before := List.mem_cons.mp (all ▸ member)
      · exact fun held => holds.leases.apart (Or.inr held) (List.mem_append_left _ registered)
      · exact requests.unborn q before t'
    · simp [newborn]
  · intro t' q serves
    rw [all]
    obtain rfl | before := forth serves
    · exact List.mem_cons_self
    · exact List.mem_cons_of_mem _ (requests.served t' q before)
  · intro a member
    exact List.mem_cons_of_mem _ (requests.answered a member)
  · intro a member t' serves
    obtain eq | before := forth serves
    · exact new _ (requests.answered a member) (congrArg Request.worker eq)
    · exact requests.spent a member t' before
  · exact requests.nodup
  · intro q member
    obtain rfl | before := List.mem_cons.mp (all ▸ member)
    · exact Or.inl ⟨t, mine⟩
    · exact (requests.complete q before).imp_left fun ⟨t', serves⟩ => ⟨t', back serves⟩

theorem Requests.finish {result : Str} {f : Fate} {r : (Call.grpc (.finish w result)).Reply}
    (requests : Requests h s ls) (serves : serving t h = some q)
    (once : ∀ t', serving t' h = some q → t' = t) (fresh : s'.fresh = s.fresh)
    (registered : s'.registered = s.registered) (newborn : l.job.newborn = none) :
    Requests (.call t (.grpc (.finish w result)) f r :: h) s' (Function.update ls t l) := by
  have all : answers (.call t (.grpc (.finish w result)) f r :: h) =
      ⟨q, result, t, h⟩ :: answers h := by
    simp [answers, serves]
  have idle : serving t (.call t (.grpc (.finish w result)) f r :: h) = none := if_pos rfl
  have forth {t' : Nat} {q' : Request}
      (still : serving t' (.call t (.grpc (.finish w result)) f r :: h) = some q') :
      t' ≠ t ∧ serving t' h = some q' := by
    have other : t' ≠ t := by
      rintro rfl
      exact absurd (idle.symm.trans still) nofun
    exact ⟨other, (serving_other other).symm.trans still⟩
  constructor
  · exact requests.once
  · rw [fresh]
    exact requests.made
  · rw [registered]
    exact requests.gone
  · intro q' member
    exact forall_update (P := fun l : Local => l.job.newborn ≠ some q'.worker)
      (requests.unborn q' member) (by simp [newborn])
  · exact fun t' q' still => requests.served t' q' (forth still).2
  · intro a member
    obtain rfl | before := List.mem_cons.mp (all ▸ member)
    · exact requests.served t q serves
    · exact requests.answered a before
  · intro a member t' still
    obtain ⟨other, still⟩ := forth still
    obtain rfl | before := List.mem_cons.mp (all ▸ member)
    · exact other (once t' still)
    · exact requests.spent a before t' still
  · -- an answered request is in progress with no thread, and this one was until now
    rw [all, List.map_cons, List.nodup_cons]
    refine ⟨fun member => ?_, requests.nodup⟩
    obtain ⟨a, before, eq⟩ := List.mem_map.mp member
    exact requests.spent a before t (eq ▸ serves)
  · intro q' member
    rw [all]
    obtain ⟨t', still⟩ | ⟨a, before, eq⟩ := requests.complete q' member
    · by_cases own : t' = t
      · subst own
        exact Or.inr ⟨_, List.mem_cons_self, Option.some.inj (serves.symm.trans still)⟩
      · exact Or.inl ⟨t', (serving_other own).trans still⟩
    · exact Or.inr ⟨a, List.mem_cons_of_mem _ before, eq⟩

/-- Requests are neither lost nor duplicated. -/
theorem requests (run : Run ok (boot st) h cfg) :
    Requests h cfg.state.grpc (locals watch h) := by
  refine server_invariant (fun h s ls => Requests h s.grpc ls)
    ?initial ?redis ?mysql ?counter ?grpc ?start run
  case initial => constructor <;> simp [delivered, answers, serving]
  case redis =>
    intro h cfg t c f r x _ inv _ _ _
    exact inv.keep rfl (fun _ => rfl) rfl (Nat.le_refl _) (fun _ => Or.inl)
      (by simpa using fun _ => Or.inl)
  case mysql =>
    intro h cfg t c f r x _ inv _ _ _
    exact inv.keep rfl (fun _ => rfl) (by cases c <;> rfl) (Nat.le_refl _) (fun _ => Or.inl)
      (by simpa using fun _ => Or.inl)
  case counter =>
    intro h cfg t c f r x _ inv _ _ _
    exact inv.keep rfl (fun _ => rfl) rfl (Nat.le_refl _) (fun _ => Or.inl)
      (by simpa using fun _ => Or.inl)
  case grpc =>
    intro h cfg t c f r x run inv _ allowed exec
    cases GrpcState.exec_does exec with
    | alloc =>
      exact inv.keep rfl (fun _ => rfl) rfl (Nat.le_succ _) (fun _ => Or.inl)
        fun w made => Or.inr (Nat.le_of_eq (Option.some.inj made))
    | status w found | usrname w found | usrkey w found | setResult w result found
    | result w found | delete w found =>
      exact inv.keep rfl (fun _ => rfl) rfl (Nat.le_refl _) (fun _ => Or.inl) fun _ => Or.inl
    | setStatus w status found =>
      refine inv.keep rfl (fun _ => rfl) rfl (Nat.le_refl _) (fun _ => Or.inl) fun w' made => ?_
      simp only [Local.note, Local.noteGrpc, Job.noteStatus] at made
      (repeat' split at made) <;> exact Or.inl made
    | requestseckill w found =>
      obtain ⟨newborn, _⟩ | ⟨_, worker, create⟩ := allowed
      · refine inv.keep rfl (fun _ => rfl) rfl (Nat.le_refl _) (fun w' member => ?_) fun w' made => ?_
        · obtain before | last := List.mem_append.mp member
          · exact Or.inl before
          · rw [List.mem_singleton.mp last]
            exact Or.inr newborn
        · simp [Local.note, Local.noteGrpc, Job.noteRegistered, newborn] at made
      · -- no thread is ever in the `CREATE` branch
        obtain ⟨_, _, fits⟩ := ((objects run).own t).worker w worker
        exact absurd create fits.not_create
    | finish w result found =>
      obtain ⟨q, serves, _⟩ := serving_finish run allowed
      exact inv.finish serves (fun t' still => serving_once run still serves) rfl rfl allowed.2.1
    | deliver w usrname usrkey registered found =>
      exact inv.deliver (workers_exclusive run) registered (serving_next run allowed) rfl rfl rfl
    | finished w finishing =>
      -- the event of a `Finish` brings no request
      refine inv.keep rfl (fun t' => ?_) rfl (Nat.le_refl _) (fun _ => Or.inl)
        fun _ made => by cases made
      by_cases own : t' = t
      · subst own
        exact (if_pos rfl).trans (serving_next run allowed).symm
      · exact serving_other own
  case start =>
    intro h cfg t e _ inv _ settled
    refine inv.keep rfl (fun _ => rfl) rfl (Nat.le_refl _) (fun _ => Or.inl) fun _ made => ?_
    cases e <;> cases made

/-- No request is in progress exactly if all that were delivered are answered. -/
theorem atRest_iff (run : Run ok (boot st) h cfg) :
    AtRest h ↔ ∀ q ∈ delivered h, ∃ a ∈ answers h, a.request = q := by
  have requests := requests run
  constructor
  · intro rest q member
    obtain ⟨t, serves⟩ | answered := requests.complete q member
    · exact absurd ((rest t).symm.trans serves) nofun
    · exact answered
  · intro answered t
    by_contra busy
    obtain ⟨q, serves⟩ := Option.ne_none_iff_exists'.mp busy
    obtain ⟨a, member, rfl⟩ := answered q (requests.served t q serves)
    exact requests.spent a member t serves

/-! ## What is known of an answer -/

/-- The record of the thread that answered, when it did. -/
def Answer.record (a : Answer) : Local := locals watch a.past a.thread

/-- An answer was given in a run by a thread that was allowed to. -/
structure Given (ok : Condition server) (s₀ : Server) (a : Answer) : Prop where
  run : ∃ cfg, Run ok s₀ a.past cfg
  serving : serving a.thread a.past = some a.request
  answers : a.record.Answers a.result
  owes : a.record.job.owes = false

/-- The result read from the object is the one that was set. -/
theorem finish_answers {result : Str} (run : Run ok (boot st) h cfg)
    (allowed : (locals watch h t).AllowsGrpc (.finish w result)) :
    (locals watch h t).Answers result := by
  obtain ⟨worker, _, process, _, message, _, _, a, answer, sound⟩ := allowed
  obtain ⟨x, _, fits⟩ := ((objects run).own t).worker w worker
  obtain ⟨request, _, fits⟩ := fits.process process
  have same : result = a := fits.message result a message answer
  rw [same]
  exact sound

theorem given (run : Run ok (boot st) h cfg) : ∀ a ∈ answers h, Given ok (boot st) a := by
  refine server_invariant (fun h _ _ => ∀ a ∈ answers h, Given ok (boot st) a)
    ?initial ?redis ?mysql ?counter ?grpc ?start run
  case initial => exact fun _ => nofun
  case redis => exact fun _ inv _ _ _ => inv
  case mysql =>
    intro h cfg t c f r x _ inv _ _ _
    cases c <;> exact inv
  case counter => exact fun _ inv _ _ _ => inv
  case grpc =>
    intro h cfg t c f r x run inv _ allowed exec
    cases c with
    | finish w result =>
      obtain ⟨q, serves, _⟩ := serving_finish run allowed
      intro b member
      rw [answers, serves] at member
      obtain rfl | before := List.mem_cons.mp member
      · exact ⟨⟨cfg, run⟩, serves, finish_answers run allowed, allowed.2.2.2.2.2.1⟩
      · exact inv b before
    | alloc | status w | setStatus w status | requestseckill w | usrname w | usrkey w
    | setResult w result | result w | delete w | next => exact inv
  case start => exact fun _ inv _ _ => inv

/-! ## Requests by a mark in the record -/

/-- `list` has each request once whose thread has the mark, or had it when it answered. -/
structure Marks (mark : Job → Bool) (list : List Request) (h : History server)
    (ls : Nat → Local) : Prop where
  mem : ∀ q, q ∈ list ↔ (∃ t, serving t h = some q ∧ mark (ls t).job = true) ∨
    ∃ a ∈ answers h, a.request = q ∧ mark a.record.job = true
  nodup : list.Nodup

variable {mark : Job → Bool} {list : List Request}

/-- A call that neither sets the mark nor has to do with requests. -/
theorem Marks.keep (marks : Marks mark list h ls) (sameServing : ∀ t, serving t h' = serving t h)
    (sameAnswers : answers h' = answers h)
    (sameMark : serving t h = none ∨ mark l.job = mark (ls t).job) :
    Marks mark list h' (Function.update ls t l) where
  mem q := by
    rw [marks.mem, sameAnswers]
    refine or_congr_left (exists_congr fun t' => ?_)
    rw [sameServing]
    refine and_congr_right fun serves => ?_
    by_cases own : t' = t
    · subst own
      rw [Function.update_self, sameMark.resolve_left fun idle => absurd (idle.symm.trans serves) nofun]
    · rw [Function.update_of_ne own]
  nodup := marks.nodup

/-- A call that sets the mark. -/
theorem Marks.add (marks : Marks mark list h ls) (requests : Requests h s ls)
    (once : ∀ {t t' q}, serving t h = some q → serving t' h = some q → t = t')
    (sameServing : ∀ t, serving t h' = serving t h) (sameAnswers : answers h' = answers h)
    (unmarked : mark (ls t).job = false) (marked : mark l.job = true) :
    Marks mark ((serving t h).toList ++ list) h' (Function.update ls t l) where
  mem q := by
    rw [List.mem_append, marks.mem, sameAnswers, ← or_assoc, Option.mem_toList]
    refine or_congr_left ⟨?_, ?_⟩
    · rintro (mine | ⟨t', serves, before⟩)
      · exact ⟨t, (sameServing t).trans mine, by rw [Function.update_self, marked]⟩
      · refine ⟨t', (sameServing t').trans serves, ?_⟩
        rw [Function.update_of_ne]
        · exact before
        · rintro rfl
          exact absurd (unmarked.symm.trans before) nofun
    · -- only the thread of the call got the mark
      rintro ⟨t', serves, after⟩
      rw [sameServing] at serves
      by_cases own : t' = t
      · subst own
        exact Or.inl serves
      · rw [Function.update_of_ne own] at after
        exact Or.inr ⟨t', serves, after⟩
  nodup := by
    cases mine : serving t h with
    | none => exact marks.nodup
    | some q =>
      refine List.nodup_cons.mpr ⟨fun member => ?_, marks.nodup⟩
      obtain ⟨t', serves, before⟩ | ⟨a, answered, rfl, _⟩ := (marks.mem q).mp member
      · obtain rfl := once serves mine
        exact absurd (unmarked.symm.trans before) nofun
      · exact requests.spent a answered t mine

theorem Marks.deliver {usrname usrkey : Str} {r : (Call.grpc .next).Reply}
    (marks : Marks mark list h ls) (idle : serving t h = none) (unmarked : mark l.job = false) :
    Marks mark list (.call t (.grpc .next) (.deliver w usrname usrkey) r :: h)
      (Function.update ls t l) where
  mem q := by
    rw [marks.mem]
    refine or_congr_left (exists_congr fun t' => ?_)
    by_cases own : t' = t
    · subst own
      rw [Function.update_self, idle, unmarked]
      simp
    · rw [Function.update_of_ne own, serving_other own]
  nodup := marks.nodup

theorem Marks.finish {result : Str} {f : Fate} {r : (Call.grpc (.finish w result)).Reply}
    (marks : Marks mark list h (locals watch h)) (serves : serving t h = some q) :
    Marks mark list (.call t (.grpc (.finish w result)) f r :: h)
      (Function.update (locals watch h) t l) where
  mem q' := by
    have all : answers (.call t (.grpc (.finish w result)) f r :: h) =
        ⟨q, result, t, h⟩ :: answers h := by
      simp [answers, serves]
    have idle : serving t (.call t (.grpc (.finish w result)) f r :: h) = none := if_pos rfl
    rw [marks.mem, all, List.exists_mem_cons_iff]
    constructor
    · rintro (⟨t', still, mark⟩ | before)
      · by_cases own : t' = t
        · -- the thread that answers hands its mark on to the answer
          subst own
          exact Or.inr (Or.inl ⟨Option.some.inj (serves.symm.trans still), mark⟩)
        · refine Or.inl ⟨t', (serving_other own).trans still, ?_⟩
          rwa [Function.update_of_ne own]
      · exact Or.inr (Or.inr before)
    · rintro (⟨t', still, mark⟩ | ⟨rfl, mark⟩ | before)
      · have own : t' ≠ t := by
          rintro rfl
          exact absurd (idle.symm.trans still) nofun
        rw [serving_other own] at still
        rw [Function.update_of_ne own] at mark
        exact Or.inl ⟨t', still, mark⟩
      · exact Or.inl ⟨t, serves, mark⟩
      · exact Or.inr before
  nodup := marks.nodup

/-- gRPC's calls hand marks on. -/
theorem Marks.grpc {c : GrpcCall} {f : Fate} {r : c.Reply} (run : Run ok (boot st) h cfg)
    (marks : Marks mark list h (locals watch h)) (allowed : (locals watch h t).AllowsGrpc c)
    (done : cfg.state.grpc.exec c f = some (r, s'))
    (new : ∀ w request, mark { worker := some w, request := request } = false)
    (same : c ≠ .next →
      mark ((locals watch h t).note (.grpc c) f r).job = mark (locals watch h t).job) :
    Marks mark list (.call t (.grpc c) f r :: h)
      (Function.update (locals watch h) t ((locals watch h t).note (.grpc c) f r)) := by
  cases GrpcState.exec_does done with
  | finish w result found =>
    obtain ⟨q, serves, _⟩ := serving_finish run allowed
    exact marks.finish serves
  | deliver w usrname usrkey registered found =>
    exact marks.deliver (serving_next run allowed) (new _ _)
  | finished w finishing =>
    have idle := serving_next run allowed
    refine marks.keep (fun t' => ?_) rfl (Or.inl idle)
    by_cases own : t' = t
    · subst own
      exact (if_pos rfl).trans idle.symm
    · exact serving_other own
  | alloc | status w found | setStatus w status found | requestseckill w found | usrname w found
  | usrkey w found | setResult w result found | result w found | delete w found =>
    exact marks.keep (fun _ => rfl) rfl (Or.inr (same (by simp)))

/-! ## Grants -/

/-- The grants are the requests whose records say so. -/
theorem grants_marked (run : Run ok (boot st) h cfg) :
    Marks Job.granted (grants h) h (locals watch h) := by
  refine server_invariant (fun h _ ls => Marks Job.granted (grants h) h ls)
    ?initial ?redis ?mysql ?counter ?grpc ?start run
  case initial => exact ⟨fun q => by simp [grants, serving, answers], List.nodup_nil⟩
  case redis =>
    intro h cfg t c f r x run inv _ allowed _
    cases c with
    | getOneConnect | close c => exact inv.keep (fun _ => rfl) rfl (Or.inr rfl)
    | command c cmd =>
      by_cases exec : cmd = .exec
      · subst exec
        cases went : granted r with
        | true =>
          simp only [grants, went, if_true]
          refine inv.add (requests run) (serving_once run) (fun _ => rfl) rfl allowed.2.1.1 ?_
          simp [Local.note, Local.noteCmd, went, Local.grant]
        | false =>
          simp only [grants, went]
          refine inv.keep (fun _ => rfl) rfl (Or.inr ?_)
          simp [Local.note, Local.noteCmd, went, Local.retried, Local.setPhase]
      · have same : grants (.call t (.redis (.command c cmd)) f r :: h) = grants h := by
          cases cmd <;> first | rfl | exact absurd rfl exec
        rw [same]
        exact inv.keep (fun _ => rfl) rfl (Or.inr (Local.noteCmd_granted exec))
  case mysql =>
    intro h cfg t c f r x _ inv _ _ _
    exact inv.keep (fun _ => rfl) (by cases c <;> rfl) (Or.inr (by simp))
  case counter =>
    intro h cfg t c f r x _ inv _ _ _
    exact inv.keep (fun _ => rfl) rfl (Or.inr (by simp))
  case grpc =>
    intro h cfg t c f r x run inv _ allowed exec
    exact inv.grpc run allowed exec (fun _ _ => rfl) fun next => (Local.noteGrpc_job next).2.1
  case start =>
    intro h cfg t e run inv _ settled
    refine inv.keep (fun _ => rfl) rfl (Or.inl ?_)
    rw [serving_eq run]
    exact Task.serving_none settled.request

end Seckill
