import Seckill.Verified.Holding
import Seckill.Verified.History

/-! # The life of a `Worker`

A `Worker` is registered in status `PROCESS`, serves the one request that is delivered to
it, waits for its `Finish` in status `FINISH` and is deleted.  The member functions read
from it what was delivered, and the result sent is the one that was set; so every request
delivered has a `Worker` of its own, and is answered once at most.
-/

namespace Seckill

open CStr CallTree Threads Leases

variable {s s' : GrpcState} {x : WorkerObj} {k : Task} {l : Local} {ls : Nat → Local}
  {t : Nat} {w : WorkerId}

/-! ## Objects -/

/-- The object of a request in progress. -/
structure Serves (x : WorkerObj) (k : Task) (request : Str × Str) : Prop where
  usrname : x.usrname = request.1
  usrkey : x.usrkey = request.2
  status : x.status = if k.marked then .finish else .process
  branch : k.branch = none ∧ k.marked = false ∨ k.branch = some .process
  userName : ∀ name, k.userName = some name → name = request.1
  userKey : ∀ key, k.userKey = some key → key = request.2
  answer : ∀ a, k.answer = some a → x.result = a
  message : ∀ r a, k.message = some r → k.answer = some a → r = a

/-- The object of a request that was answered. -/
structure Finished (x : WorkerObj) (k : Task) : Prop where
  status : x.status = .finish
  branch : k.branch = none ∨ k.branch = some .finish

def ObjectFits (x : WorkerObj) (k : Task) : Prop :=
  match k.request with
  | some request => Serves x k request
  | none => Finished x k

/-- The objects a thread has hold of. -/
structure OwnObjects (s : GrpcState) (l : Local) : Prop where
  worker : ∀ w, l.job.worker = some w → ∃ x, s.worker w = some x ∧ ObjectFits x l.job.toTask
  newborn : ∀ w, l.job.newborn = some w →
    ∃ x, s.worker w = some x ∧ (l.job.ready = true → x.status = .process)

structure Objects (s : GrpcState) (ls : Nat → Local) : Prop where
  registered : ∀ w ∈ s.registered, ∃ x, s.worker w = some x ∧ x.status = .process
  finishing : ∀ w ∈ s.finishing, ∃ x, s.worker w = some x ∧ x.status = .finish
  own : ∀ t, OwnObjects s (ls t)

def Has (l : Local) (w : WorkerId) : Prop := l.job.worker = some w ∨ l.job.newborn = some w

/-- A call of thread `t` leaves the objects of the others alone. -/
theorem Objects.step (objects : Objects s ls)
    (same : ∀ t' w', t' ≠ t → Has (ls t') w' → s'.worker w' = s.worker w')
    (registered : ∀ w ∈ s'.registered, ∃ x, s'.worker w = some x ∧ x.status = .process)
    (finishing : ∀ w ∈ s'.finishing, ∃ x, s'.worker w = some x ∧ x.status = .finish)
    (own : OwnObjects s' l) : Objects s' (Function.update ls t l) where
  registered := registered
  finishing := finishing
  own := by
    intro t'
    by_cases eq : t' = t
    · subst eq
      rwa [Function.update_self]
    · rw [Function.update_of_ne eq]
      constructor
      · intro w' held
        rw [same t' w' eq (Or.inl held)]
        exact (objects.own t').worker w' held
      · intro w' held
        rw [same t' w' eq (Or.inr held)]
        exact (objects.own t').newborn w' held

/-- A call on an object the thread has hold of. -/
theorem Objects.touch (objects : Objects s ls) (holds : HoldsWorkers s ls) (mine : Has (ls t) w)
    (same : ∀ w', w' ≠ w → s'.worker w' = s.worker w') (registered : s'.registered = s.registered)
    (finishing : s'.finishing = s.finishing) (own : OwnObjects s' l) :
    Objects s' (Function.update ls t l) := by
  have away : w ∉ s.registered ++ s.finishing := holds.leases.apart mine
  refine objects.step (fun t' w' other held => same w' ?_) (fun w' member => ?_)
    (fun w' member => ?_) own
  · rintro rfl
    exact other (holds.leases.once held mine)
  · rw [registered] at member
    have other : w' ≠ w := fun eq => away (List.mem_append_left _ (eq ▸ member))
    rw [same w' other]
    exact objects.registered w' member
  · rw [finishing] at member
    have other : w' ≠ w := fun eq => away (List.mem_append_right _ (eq ▸ member))
    rw [same w' other]
    exact objects.finishing w' member

/-- A call that changes no object. -/
theorem Objects.stay (objects : Objects s ls) (own : OwnObjects s l) :
    Objects s (Function.update ls t l) :=
  objects.step (fun _ _ _ _ => rfl) objects.registered objects.finishing own

/-- What the thread knows of its object decides which branch it is in. -/
theorem ObjectFits.process (fits : ObjectFits x k) (branch : k.branch = some .process) :
    ∃ request, k.request = some request ∧ Serves x k request := by
  unfold ObjectFits at fits
  split at fits
  next request => exact ⟨_, request, fits⟩
  next =>
    obtain none | finish := fits.branch
    · exact absurd (none.symm.trans branch) nofun
    · exact absurd (finish.symm.trans branch) nofun

theorem ObjectFits.not_create (fits : ObjectFits x k) : k.branch ≠ some .create := by
  intro create
  unfold ObjectFits at fits
  split at fits
  · obtain ⟨none, _⟩ | process := fits.branch
    · exact absurd (none.symm.trans create) nofun
    · exact absurd (process.symm.trans create) nofun
  · obtain none | finish := fits.branch
    · exact absurd (none.symm.trans create) nofun
    · exact absurd (finish.symm.trans create) nofun

/-- The new `Worker` has no part in what the thread knows of its own. -/
theorem ObjectFits.same {k' : Task} (fits : ObjectFits x k) (request : k'.request = k.request)
    (branch : k'.branch = k.branch) (marked : k'.marked = k.marked)
    (userName : k'.userName = k.userName) (userKey : k'.userKey = k.userKey)
    (answer : k'.answer = k.answer) (message : k'.message = k.message) : ObjectFits x k' := by
  unfold ObjectFits at fits ⊢
  rw [request]
  split at fits
  · obtain ⟨h₁, h₂, h₃, h₄, h₅, h₆, h₇, h₈⟩ := fits
    constructor <;> simpa only [branch, marked, userName, userKey, answer, message]
  · exact ⟨fits.status, by rw [branch]; exact fits.branch⟩

/-- A call of the `PROCESS` branch on the thread's own `Worker`. -/
theorem Objects.serve {x' : WorkerObj} (objects : Objects s ls) (holds : HoldsWorkers s ls)
    (worker : (ls t).job.worker = some w) (branch : (ls t).job.branch = some .process)
    (found : s.worker w = some x) (after : s'.worker w = some x')
    (other : ∀ w', w' ≠ w → s'.worker w' = s.worker w') (registered : s'.registered = s.registered)
    (finishing : s'.finishing = s.finishing) (sameWorker : l.job.worker = (ls t).job.worker)
    (sameNewborn : l.job.newborn = (ls t).job.newborn) (sameReady : l.job.ready = (ls t).job.ready)
    (sameRequest : l.job.request = (ls t).job.request)
    (serves : ∀ request, Serves x (ls t).job.toTask request → Serves x' l.job.toTask request) :
    Objects s' (Function.update ls t l) := by
  refine objects.touch holds (Or.inl worker) other registered finishing
    ⟨fun w' held => ?_, fun w' held => ?_⟩
  · rw [sameWorker, worker] at held
    cases held
    obtain ⟨x₀, found', fits⟩ := (objects.own t).worker w worker
    cases found.symm.trans found'
    obtain ⟨request, same, serving⟩ := fits.process branch
    refine ⟨x', after, ?_⟩
    rw [ObjectFits, sameRequest, same]
    exact serves request serving
  · rw [sameNewborn] at held
    rw [other w' fun eq => holds.other t w worker (eq ▸ held), sameReady]
    exact (objects.own t).newborn w' held

/-! ## The calls -/

theorem Objects.alloc (objects : Objects s ls) (holds : HoldsWorkers s ls) :
    Objects { s.setWorker s.fresh (some {}) with fresh := s.fresh + 1 }
      (Function.update ls t { ls t with
        job := { (ls t).job with newborn := some s.fresh, ready := false } }) := by
  have older {w' : WorkerId} (made : w' < s.fresh) :
      (s.setWorker s.fresh (some {})).worker w' = s.worker w' :=
    Function.update_of_ne (Nat.ne_of_lt made) _ _
  refine objects.step (fun t' w' _ held => older (holds.leases.held_made held))
    (fun w' member => ?_) (fun w' member => ?_) ⟨fun w' held => ?_, fun w' held => ?_⟩
  · rw [older (holds.leases.idle_made (List.mem_append_left _ member))]
    exact objects.registered w' member
  · rw [older (holds.leases.idle_made (List.mem_append_right _ member))]
    exact objects.finishing w' member
  · rw [older (holds.leases.held_made (Or.inl held))]
    obtain ⟨x, found, fits⟩ := (objects.own t).worker w' held
    exact ⟨x, found, fits.same rfl rfl rfl rfl rfl rfl rfl⟩
  · cases held
    exact ⟨{}, by simp [GrpcState.setWorker], nofun⟩

theorem Objects.status (objects : Objects s ls) (worker : (ls t).job.worker = some w)
    (branch : (ls t).job.branch = none) (found : s.worker w = some x) :
    Objects s (Function.update ls t { ls t with
      job := { (ls t).job with branch := some x.status } }) := by
  refine objects.stay ⟨fun w' held => ?_, fun w' held => (objects.own t).newborn w' held⟩
  cases worker.symm.trans held
  obtain ⟨x₀, found', fits⟩ := (objects.own t).worker w worker
  cases found.symm.trans found'
  refine ⟨x, found, ?_⟩
  unfold ObjectFits at fits ⊢
  dsimp only at fits ⊢
  split at fits
  next request =>
    have unmarked : (ls t).job.marked = false := by
      obtain ⟨_, unmarked⟩ | process := fits.branch
      · exact unmarked
      · exact absurd (branch.symm.trans process) nofun
    have status : x.status = .process := by simpa [unmarked] using fits.status
    exact { fits with branch := Or.inr (by rw [status]) }
  next => exact ⟨fits.status, Or.inr (by rw [fits.status])⟩

theorem Objects.setStatus {st : WorkerStatus} (objects : Objects s ls) (holds : HoldsWorkers s ls)
    (allowed : (ls t).AllowsGrpc (.setStatus w st)) (found : s.worker w = some x) :
    Objects (s.setWorker w (some { x with status := st }))
      (Function.update ls t { ls t with job := (ls t).job.noteStatus w st }) := by
  have other (w' : WorkerId) (ne : w' ≠ w) :
      (s.setWorker w (some { x with status := st })).worker w' = s.worker w' :=
    Function.update_of_ne ne _ _
  have after : (s.setWorker w (some { x with status := st })).worker w =
      some { x with status := st } := by simp [GrpcState.setWorker]
  obtain ⟨newborn, rfl⟩ | ⟨none, worker, ⟨create, rfl⟩ | ⟨process, rfl⟩⟩ := allowed
  · simp only [Job.noteStatus, newborn, if_true]
    refine objects.touch holds (Or.inr newborn) other rfl rfl ⟨fun w' held => ?_, fun w' held => ?_⟩
    · rw [other w' fun eq => holds.other t w' held (eq ▸ newborn)]
      obtain ⟨x, found, fits⟩ := (objects.own t).worker w' held
      exact ⟨x, found, fits.same rfl rfl rfl rfl rfl rfl rfl⟩
    · obtain rfl : w = w' := Option.some.inj held
      exact ⟨_, after, fun _ => rfl⟩
  · obtain ⟨x₀, _, fits⟩ := (objects.own t).worker w worker
    exact absurd create fits.not_create
  · have marks : (ls t).job.noteStatus w .finish = { (ls t).job with marked := true } := by
      simp [Job.noteStatus, none]
    rw [marks]
    exact objects.serve holds worker process found after other rfl rfl rfl rfl rfl rfl
      fun request serves => { serves with status := rfl, branch := Or.inr process }

theorem Objects.requestseckill (objects : Objects s ls)
    (allowed : (ls t).AllowsGrpc (.requestseckill w)) :
    Objects { s with registered := s.registered ++ [w] }
      (Function.update ls t { ls t with job := (ls t).job.noteRegistered w }) := by
  obtain ⟨newborn, ready⟩ | ⟨_, worker, create⟩ := allowed
  · simp only [Job.noteRegistered, newborn, if_true]
    refine objects.step (fun _ _ _ _ => rfl) (fun w' member => ?_) objects.finishing
      ⟨fun w' held => ?_, fun w' => (by simp)⟩
    · obtain before | last := List.mem_append.mp member
      · exact objects.registered w' before
      · cases List.mem_singleton.mp last
        obtain ⟨x, found, status⟩ := (objects.own t).newborn w newborn
        exact ⟨x, found, status ready⟩
    · obtain ⟨x, found, fits⟩ := (objects.own t).worker w' held
      exact ⟨x, found, fits.same rfl rfl rfl rfl rfl rfl rfl⟩
  · obtain ⟨x₀, _, fits⟩ := (objects.own t).worker w worker
    exact absurd create fits.not_create

theorem Objects.finish {result : Str} (objects : Objects s ls)
    (allowed : (ls t).AllowsGrpc (.finish w result)) :
    Objects { s with finishing := s.finishing ++ [w] }
      (Function.update ls t { ls t with
        job := { (ls t).job with worker := none, request := none, unit := false } }) := by
  obtain ⟨worker, newborn, process, marked, _⟩ := allowed
  refine objects.step (fun _ _ _ _ => rfl) objects.registered (fun w' member => ?_)
    ⟨fun w' => nofun, fun w' held => absurd (newborn.symm.trans held) nofun⟩
  obtain before | last := List.mem_append.mp member
  · exact objects.finishing w' before
  · cases List.mem_singleton.mp last
    obtain ⟨x, found, fits⟩ := (objects.own t).worker w worker
    obtain ⟨request, _, serves⟩ := fits.process process
    exact ⟨x, found, by simpa [marked] using serves.status⟩

theorem Objects.delete (objects : Objects s ls) (holds : HoldsWorkers s ls)
    (worker : (ls t).job.worker = some w) :
    Objects (s.setWorker w none) (Function.update ls t { ls t with
      job := { (ls t).job with worker := none, request := none } }) := by
  have other (w' : WorkerId) (ne : w' ≠ w) : (s.setWorker w none).worker w' = s.worker w' :=
    Function.update_of_ne ne _ _
  refine objects.touch holds (Or.inl worker) other rfl rfl ⟨fun w' => nofun, fun w' held => ?_⟩
  rw [other w' fun eq => holds.other t w worker (eq ▸ held)]
  exact (objects.own t).newborn w' held

theorem Objects.deliver {usrname usrkey : Str} (objects : Objects s ls) (holds : HoldsWorkers s ls)
    (registered : w ∈ s.registered) (found : s.worker w = some x)
    (job : l.job = { worker := some w, request := some (usrname, usrkey) }) :
    Objects { s.setWorker w (some { x with usrname := usrname, usrkey := usrkey }) with
      registered := s.registered.erase w } (Function.update ls t l) := by
  have nodup := List.nodup_append.mp holds.leases.nodup
  have other (w' : WorkerId) (ne : w' ≠ w) :
      (s.setWorker w (some { x with usrname := usrname, usrkey := usrkey })).worker w' =
        s.worker w' := Function.update_of_ne ne _ _
  refine objects.step (fun t' w' _ held => other w' ?_) (fun w' member => ?_)
    (fun w' member => ?_) ⟨fun w' held => ?_, fun w' held => ?_⟩
  · rintro rfl
    exact holds.leases.apart held (List.mem_append_left _ registered)
  · have ne : w' ≠ w := fun eq => nodup.1.not_mem_erase (eq ▸ member)
    rw [other w' ne]
    exact objects.registered w' (List.mem_of_mem_erase member)
  · have ne : w' ≠ w := fun eq => nodup.2.2 w registered w' member eq.symm
    rw [other w' ne]
    exact objects.finishing w' member
  · rw [job] at held
    cases held
    obtain ⟨x₀, found', status⟩ := objects.registered w registered
    cases found.symm.trans found'
    refine ⟨{ x with usrname := usrname, usrkey := usrkey }, by simp [GrpcState.setWorker], ?_⟩
    rw [job]
    exact ⟨rfl, rfl, status, Or.inl ⟨rfl, rfl⟩, nofun, nofun, nofun, nofun⟩
  · rw [job] at held
    cases held

theorem Objects.finished (objects : Objects s ls) (finishing : w ∈ s.finishing)
    (job : l.job = { worker := some w }) :
    Objects { s with finishing := s.finishing.erase w } (Function.update ls t l) := by
  refine objects.step (fun _ _ _ _ => rfl) objects.registered
    (fun w' member => objects.finishing w' (List.mem_of_mem_erase member))
    ⟨fun w' held => ?_, fun w' held => ?_⟩
  · rw [job] at held
    cases held
    obtain ⟨x, found, status⟩ := objects.finishing w finishing
    refine ⟨x, found, ?_⟩
    rw [job]
    exact ⟨status, Or.inl rfl⟩
  · rw [job] at held
    cases held

theorem Objects.grpc {c : GrpcCall} {f : Fate} {r : c.Reply} (objects : Objects s ls)
    (holds : HoldsWorkers s ls) (allowed : (ls t).AllowsGrpc c)
    (done : s.exec c f = some (r, s')) :
    Objects s' (Function.update ls t ((ls t).note (.grpc c) f r)) := by
  cases GrpcState.exec_does done with
  | alloc => exact objects.alloc holds
  | status w found => exact objects.status allowed.1 allowed.2 found
  | setStatus w st found => exact objects.setStatus holds allowed found
  | requestseckill w found => exact objects.requestseckill allowed
  | finish w result found => exact objects.finish allowed
  | delete w found => exact objects.delete holds allowed.1
  | deliver w usrname usrkey registered found => exact objects.deliver holds registered found rfl
  | finished w finishing => exact objects.finished finishing rfl
  | usrname w found =>
    refine objects.serve holds allowed.1 allowed.2.1 found found (fun _ _ => rfl) rfl rfl rfl rfl rfl
      rfl fun request serves => { serves with userName := fun name read => ?_ }
    cases read
    exact serves.usrname
  | usrkey w found =>
    refine objects.serve holds allowed.1 allowed.2.1 found found (fun _ _ => rfl) rfl rfl rfl rfl rfl
      rfl fun request serves => { serves with userKey := fun key read => ?_ }
    cases read
    exact serves.usrkey
  | result w found =>
    refine objects.serve holds allowed.1 allowed.2 found found (fun _ _ => rfl) rfl rfl rfl rfl rfl
      rfl fun request serves => { serves with message := fun r a read answer => ?_ }
    cases read
    exact serves.answer a answer
  | @setResult w a x found =>
    have after : (s.setWorker w (some { x with result := a })).worker w =
        some { x with result := a } := by simp [GrpcState.setWorker]
    -- the message is read only after the answer is set
    refine objects.serve holds allowed.1 allowed.2.1 found after
      (fun w' other => Function.update_of_ne other _ _) rfl rfl rfl rfl rfl rfl
      fun request serves =>
        { serves with answer := fun b set => ?_, message := fun _ _ read => by cases read }
    exact Option.some.inj set

variable {ok : Condition server} {st : Stores} {h : History server} {cfg : Config server}

/-- A call that is not gRPC's. -/
theorem Objects.keep (objects : Objects s ls) (task : l.job.toTask = (ls t).job.toTask) :
    Objects s (Function.update ls t l) := by
  refine objects.stay ⟨?_, ?_⟩
  all_goals rw [task]
  · exact (objects.own t).worker
  · exact (objects.own t).newborn

theorem objects (run : Run ok (boot st) h cfg) : Objects cfg.state.grpc (locals watch h) := by
  refine server_invariant (fun _ s ls => Objects s.grpc ls)
    ?initial ?redis ?mysql ?counter ?grpc ?start run
  case initial =>
    refine ⟨fun w member => ?_, nofun, fun _ => ⟨nofun, nofun⟩⟩
    cases List.mem_singleton.mp member
    exact ⟨{ status := .process }, rfl, rfl⟩
  case redis =>
    intro h cfg t c f r x _ inv _ _ _
    exact inv.keep (by simp)
  case mysql =>
    intro h cfg t c f r x _ inv _ _ _
    exact inv.keep (by simp)
  case counter =>
    intro h cfg t c f r x _ inv _ _ _
    exact inv.keep (by simp)
  case grpc =>
    intro h cfg t c f r x run inv _ allowed exec
    exact inv.grpc (workers_exclusive run) allowed exec
  case start =>
    intro h cfg t e _ inv _ settled
    refine inv.stay ⟨?_, ?_⟩
    · cases e <;> exact nofun
    · cases e <;> exact nofun

end Seckill
