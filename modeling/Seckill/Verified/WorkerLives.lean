import Seckill.Lib.Stages
import Seckill.Verified.Errands
import Seckill.Verified.Lifecycle
import Seckill.Verified.WorkList

/-! # All the lives of all the `Worker`s

What was done to each `Worker` along a run, in order, is always a beginning of one and the
same life; so the `Worker`s can be counted by how far they are in it.  One of them at any
time stands for the accept that is outstanding, and `work_list` is as long as there are
`Worker`s between their `LPUSH` and their `LPOP`.
-/

namespace Seckill

open CStr CallTree Threads Stages

/-! ## Deeds -/

/-- `closed` is the `status_ = FINISH` of `Proceed`, `spawned` that its `new Worker` is done, and
    `returned` the event of its `Finish`. -/
inductive Deed where
  | created
  | opened
  | requested
  | delivered
  | closed
  | pushed
  | spawned
  | finished
  | returned
  | popped
  | deleted
  deriving DecidableEq

def life : List Deed :=
  [.created, .opened, .requested, .delivered, .closed, .pushed, .spawned, .finished, .returned,
    .popped, .deleted]

/-- The `Worker` that thread `t` took from the completion queue last. -/
def tag (t : Nat) : History server → Option WorkerId
  | [] => none
  | .call t' (.grpc .next) _ w :: h => if t' = t then some w else tag t h
  | _ :: h => tag t h

abbrev Lives := WorkerId → List Deed

def Lives.add (ds : Lives) (w : WorkerId) (d : Deed) : Lives := Function.update ds w (ds w ++ [d])

/-- A deed of the `Worker` whose tag a thread has. -/
def Lives.addTo (ds : Lives) (d : Deed) : Option WorkerId → Lives
  | some w => ds.add w d
  | none => ds

/-- What was done to each `Worker`, oldest first. -/
def deeds : History server → Lives
  | [] => Function.update (fun _ => []) 0 [.created, .opened, .requested]
  | .call _ (.grpc .alloc) _ w :: h => (deeds h).add w .created
  | .call _ (.grpc (.setStatus w .process)) _ _ :: h => (deeds h).add w .opened
  | .call _ (.grpc (.setStatus w .finish)) _ _ :: h => (deeds h).add w .closed
  | .call t (.grpc (.requestseckill n)) _ _ :: h =>
    ((deeds h).add n .requested).addTo .spawned (tag t h)
  | .call _ (.grpc .next) (.deliver w _ _) _ :: h => (deeds h).add w .delivered
  | .call _ (.grpc .next) (.finished w) _ :: h => (deeds h).add w .returned
  | .call t (.redis (.command _ (.lpush _))) _ _ :: h => (deeds h).addTo .pushed (tag t h)
  | .call t (.redis (.command _ .lpop)) _ _ :: h => (deeds h).addTo .popped (tag t h)
  | .call _ (.grpc (.finish w _)) _ _ :: h => (deeds h).add w .finished
  | .call _ (.grpc (.delete w)) _ _ :: h => (deeds h).add w .deleted
  | _ :: h => deeds h

/-- How many of the `Worker`s made have done `d` and not yet `d'`. -/
def between (d d' : Deed) (made : Nat) (ds : Lives) : Nat :=
  (List.range made).countP fun w => d ∈ ds w ∧ d' ∉ ds w

/-- How far each `Worker` is. -/
def Lives.stage (ds : Lives) : WorkerId → Nat := fun w => (ds w).length

/-- Every life is a beginning of the one life. -/
def Lived (ds : Lives) : Prop := ∀ w, ds w <+: life

variable {ds : Lives} {w : WorkerId} {n : Nat} {d d' : Deed}

theorem Lives.stage_add : (ds.add w d).stage = Function.update ds.stage w (ds.stage w + 1) := by
  funext w'
  by_cases same : w' = w
  · subst same
    simp [stage, add]
  · simp [stage, add, Function.update_of_ne same]

theorem Lived.take (lived : Lived ds) (w : WorkerId) : ds w = life.take (ds.stage w) :=
  List.prefix_iff_eq_take.mp (lived w)

/-- The next deed of the life. -/
theorem Lived.add (lived : Lived ds) (next : life[ds.stage w]? = some d) : Lived (ds.add w d) := by
  intro w'
  by_cases same : w' = w
  · subst same
    have longer : ds w' ++ [d] = life.take (ds.stage w' + 1) := by
      rw [List.take_add_one, next, ← lived.take w', Option.toList_some]
    simp only [Lives.add, Function.update_self, longer]
    exact List.take_prefix _ _
  · simp only [Lives.add, Function.update_of_ne same]
    exact lived w'

/-- The stages between two deeds. -/
def during (d d' : Deed) (k : Nat) : Bool := life.idxOf d < k && k ≤ life.idxOf d'

/-- What a `Worker` has done is told by how far it is. -/
theorem Lived.done (lived : Lived ds) (w : WorkerId) (d : Deed) :
    d ∈ ds w ↔ life.idxOf d < ds.stage w := by
  have listed : d ∈ life := by cases d <;> decide
  rw [lived.take w, List.mem_take_iff_idxOf_lt listed]

theorem Lived.between_eq (lived : Lived ds) (made : Nat) :
    between d d' made ds = census (during d d') made ds.stage := by
  unfold between census
  congr 1
  funext w
  simp [lived.done w, during]

/-- The next deed of a `Worker`. -/
theorem Lived.between_add {a : Deed} {k made : Nat} (lived : Lived ds) (stage : ds.stage w = k)
    (next : life[k]? = some a) (inside : w < made) (d d' : Deed) :
    between d d' made (ds.add w a) + (during d d' k).toNat =
      between d d' made ds + (during d d' (k + 1)).toNat := by
  rw [← stage] at next ⊢
  rw [lived.between_eq, (lived.add next).between_eq, Lives.stage_add]
  exact census_move inside

/-- The first deed of a new one. -/
theorem Lived.between_new {made : Nat} (lived : Lived ds) (stage : ds.stage made = 0) :
    between d d' (made + 1) (ds.add made .created) =
      between d d' made ds + (during d d' 1).toNat := by
  have next : life[ds.stage made]? = some .created := by rw [stage]; rfl
  rw [lived.between_eq, (lived.add next).between_eq, Lives.stage_add, stage]
  exact census_new

/-! ## Who has a `Worker` -/

/-- The `Worker`s a thread has, with how far they are. -/
def Errand.cares : Errand → List (WorkerId × Nat)
  | .free | .odd => []
  | .got w | .serving w => [(w, 4)]
  | .marked w => [(w, 5)]
  | .pushed w => [(w, 6)]
  | .making w n => [(w, 6), (n, 1)]
  | .made w n => [(w, 6), (n, 2)]
  | .spawned w => [(w, 7)]
  | .back w | .ending w => [(w, 9)]
  | .popped w => [(w, 10)]

/-- In these stages some thread has the `Worker`; in the others it is not made, with gRPC or
    deleted. -/
def Held (n : Nat) : Prop := n ∈ [1, 2, 4, 5, 6, 7, 9, 10]

instance : DecidablePred Held := fun n => inferInstanceAs (Decidable (n ∈ [1, 2, 4, 5, 6, 7, 9, 10]))

/-- The threads have the `Worker`s in these stages, each by one thread. -/
structure Shared (stage : WorkerId → Nat) (es : Nat → Errand) : Prop where
  fits : ∀ t w n, (w, n) ∈ (es t).cares → stage w = n
  once : ∀ t t' w n, (w, n) ∈ (es t).cares → (w, n) ∈ (es t').cares → t = t'
  held : ∀ w, Held (stage w) → ∃ t, (w, stage w) ∈ (es t).cares

variable {stage : WorkerId → Nat} {es : Nat → Errand} {e : Errand} {t k : Nat}

theorem Errand.cares_held (has : (w, n) ∈ e.cares) : Held n := by
  have stages : ∀ it ∈ e.cares, Held it.2 := by
    cases e <;> simp [cares, Held]
  exact stages _ has

theorem Shared.has (shared : Shared stage es) (mine : es t = e) (has : (w, n) ∈ e.cares) :
    stage w = n := shared.fits t w n (by rwa [mine])

/-- A step of a thread that changes nothing about its `Worker`s. -/
theorem Shared.keep (shared : Shared stage es) (same : e.cares = (es t).cares) :
    Shared stage (Function.update es t e) := by
  have cares (t' : Nat) : (Function.update es t e t').cares = (es t').cares :=
    update_eq Errand.cares same t'
  constructor
  · intro t' w n
    rw [cares]
    exact shared.fits t' w n
  · intro t' t'' w n
    rw [cares, cares]
    exact shared.once t' t'' w n
  · intro w held
    obtain ⟨t', has⟩ := shared.held w held
    exact ⟨t', by rwa [cares]⟩

/-- A thread moves a `Worker` of its own, or takes one that no thread has. -/
theorem Shared.move (shared : Shared stage es)
    (mine : ¬Held (stage w) ∨ (w, stage w) ∈ (es t).cares)
    (own : ∀ w' n', (w', n') ∈ e.cares ↔
      if w' = w then Held k ∧ n' = k else (w', n') ∈ (es t).cares) :
    Shared (Function.update stage w k) (Function.update es t e) := by
  -- no other thread has the Worker
  have others (t' : Nat) (other : t' ≠ t) (n' : Nat) : (w, n') ∉ (es t').cares := by
    intro has
    have same := shared.fits t' w n' has
    obtain free | mine := mine
    · exact free (same ▸ Errand.cares_held has)
    · rw [same] at mine
      exact other (shared.once t' t w n' has mine)
  -- who has what after the step
  have owners (t' w' n' : Nat) : (w', n') ∈ (Function.update es t e t').cares ↔
      if w' = w then t' = t ∧ Held k ∧ n' = k else (w', n') ∈ (es t').cares := by
    by_cases same : t' = t
    · subst same
      simp [own]
    · rw [Function.update_of_ne same]
      split
      next own =>
        subst own
        exact iff_of_false (others t' same n') fun it => same it.1
      next => exact Iff.rfl
  constructor
  · intro t' w' n' has
    rw [owners] at has
    split at has
    next own =>
      subst own
      rw [Function.update_self, has.2.2]
    next other =>
      rw [Function.update_of_ne other]
      exact shared.fits t' w' n' has
  · intro t' t'' w' n' has has'
    rw [owners] at has has'
    split at has
    next own =>
      rw [if_pos own] at has'
      exact has.1.trans has'.1.symm
    next other =>
      rw [if_neg other] at has'
      exact shared.once t' t'' w' n' has has'
  · intro w' held
    by_cases own : w' = w
    · subst own
      rw [Function.update_self] at held ⊢
      exact ⟨t, (owners t w' k).mpr (by simp [held])⟩
    · rw [Function.update_of_ne own] at held ⊢
      obtain ⟨t', has⟩ := shared.held w' held
      exact ⟨t', (owners t' w' _).mpr (by rwa [if_neg own])⟩

/-- What a thread with one `Worker`, in stage `n`, has. -/
def caresAt (w : WorkerId) (n : Nat) : List (WorkerId × Nat) := if Held n then [(w, n)] else []

theorem mem_caresAt {w' : WorkerId} {n' : Nat} :
    (w', n') ∈ caresAt w n ↔ w' = w ∧ Held n ∧ n' = n := by
  unfold caresAt
  split
  next held => simp [held]
  next free => simp [free]

/-- A thread moves the one `Worker` it has, or takes or leaves one. -/
theorem Shared.alone (shared : Shared stage es) (stage_eq : stage w = n)
    (before : (es t).cares = caresAt w n) (after : e.cares = caresAt w k) :
    Shared (Function.update stage w k) (Function.update es t e) := by
  refine shared.move ?_ fun w' n' => ?_
  · rw [stage_eq, before, mem_caresAt]
    by_cases held : Held n
    · exact Or.inr ⟨rfl, held, rfl⟩
    · exact Or.inl held
  · rw [before, after, mem_caresAt, mem_caresAt]
    by_cases own : w' = w <;> simp [own]

/-! ## What gRPC has of a `Worker` -/

def statusAt : Nat → Option WorkerStatus
  | 1 => some .create
  | 2 | 3 | 4 => some .process
  | 5 | 6 | 7 | 8 | 9 | 10 => some .finish
  | _ => none

structure KeptAt (s : GrpcState) (w : WorkerId) (n : Nat) : Prop where
  object : (s.worker w).map WorkerObj.status = statusAt n
  registered : s.registered.count w = if n = 3 then 1 else 0
  finishing : s.finishing.count w = if n = 8 then 1 else 0
  made : n = 0 ↔ s.fresh ≤ w

def Kept (s : GrpcState) (stage : WorkerId → Nat) : Prop := ∀ w, KeptAt s w (stage w)

variable {s s' : GrpcState} {x : WorkerObj}

/-- A call that is about one `Worker` only. -/
theorem Kept.move (kept : Kept s stage) (own : KeptAt s' w k)
    (others : ∀ w' n', w' ≠ w → KeptAt s w' n' → KeptAt s' w' n') :
    Kept s' (Function.update stage w k) := by
  intro w'
  by_cases same : w' = w
  · subst same
    rwa [Function.update_self]
  · rw [Function.update_of_ne same]
    exact others w' _ same (kept w')

/-- A `Worker` that was made stays made. -/
theorem KeptAt.still (own : KeptAt s w n) (before : n ≠ 0) (after : k ≠ 0) : k = 0 ↔ s.fresh ≤ w :=
  iff_of_false after fun unmade => before (own.made.mpr unmade)

/-- Another `Worker`'s object is written. -/
theorem KeptAt.other {o : Option WorkerObj} {w' : WorkerId} (kept : KeptAt s w' n)
    (other : w' ≠ w) : KeptAt (s.setWorker w o) w' n where
  object := by
    rw [← kept.object]
    exact congrArg _ (Function.update_of_ne other _ _)
  registered := kept.registered
  finishing := kept.finishing
  made := kept.made

theorem Kept.alive (kept : Kept s stage) (found : s.worker w = some x) :
    statusAt (stage w) = some x.status := by
  rw [← (kept w).object, found]
  rfl

theorem Kept.setStatus {st : WorkerStatus} (kept : Kept s stage) (stage_eq : stage w = n)
    (status : statusAt k = some st) (still : n = 3 ↔ k = 3) (still' : n = 8 ↔ k = 8)
    (made : n ≠ 0 ∧ k ≠ 0) : Kept (s.setWorker w (some { x with status := st }))
      (Function.update stage w k) := by
  have own := kept w
  rw [stage_eq] at own
  refine kept.move ⟨?_, ?_, ?_, ?_⟩ fun w' n' other kept => kept.other other
  · simp [GrpcState.setWorker, status]
  · show s.registered.count w = _
    simpa [still] using own.registered
  · show s.finishing.count w = _
    simpa [still'] using own.finishing
  · exact own.still made.1 made.2

/-- A stage that shows in nothing gRPC has. -/
theorem Kept.pass (kept : Kept s stage) (stage_eq : stage w = n) (status : statusAt k = statusAt n)
    (still : n = 3 ↔ k = 3) (still' : n = 8 ↔ k = 8) (made : n ≠ 0 ∧ k ≠ 0) :
    Kept s (Function.update stage w k) := by
  have own := kept w
  rw [stage_eq] at own
  refine kept.move ⟨?_, ?_, ?_, ?_⟩ fun _ _ _ kept => kept
  · exact own.object.trans status.symm
  · simpa [still] using own.registered
  · simpa [still'] using own.finishing
  · exact own.still made.1 made.2

theorem Kept.alloc (kept : Kept s stage) :
    Kept { s.setWorker s.fresh (some {}) with fresh := s.fresh + 1 }
      (Function.update stage s.fresh 1) := by
  have own := kept s.fresh
  have unmade : stage s.fresh = 0 := own.made.mpr (Nat.le_refl _)
  rw [unmade] at own
  refine kept.move ⟨?_, own.registered, own.finishing, ?_⟩ fun w' n' other kept => ?_
  · simp [GrpcState.setWorker, statusAt]
  · exact iff_of_false Nat.one_ne_zero (Nat.not_succ_le_self _)
  · have same : KeptAt (s.setWorker s.fresh (some {})) w' n' := kept.other other
    refine ⟨same.object, same.registered, same.finishing, same.made.trans ?_⟩
    exact ⟨fun above => Nat.lt_of_le_of_ne above (Ne.symm other), Nat.le_of_succ_le⟩

theorem Kept.requestseckill (kept : Kept s stage) (stage_eq : stage w = 2) :
    Kept { s with registered := s.registered ++ [w] } (Function.update stage w 3) := by
  have own := kept w
  rw [stage_eq] at own
  refine kept.move ⟨own.object, ?_, own.finishing, ?_⟩ fun w' n' other kept => ?_
  · show (s.registered ++ [w]).count w = 1
    rw [List.count_append, own.registered, List.count_singleton_self]
    rfl
  · exact own.still (Nat.succ_ne_zero _) (Nat.succ_ne_zero _)
  · refine ⟨kept.object, ?_, kept.finishing, kept.made⟩
    show (s.registered ++ [w]).count w' = _
    rw [List.count_append, kept.registered, List.count_singleton]
    simp [Ne.symm other]

theorem Kept.finish (kept : Kept s stage) (stage_eq : stage w = 7) :
    Kept { s with finishing := s.finishing ++ [w] } (Function.update stage w 8) := by
  have own := kept w
  rw [stage_eq] at own
  refine kept.move ⟨own.object, own.registered, ?_, ?_⟩ fun w' n' other kept => ?_
  · show (s.finishing ++ [w]).count w = 1
    rw [List.count_append, own.finishing, List.count_singleton_self]
    rfl
  · exact own.still (Nat.succ_ne_zero _) (Nat.succ_ne_zero _)
  · refine ⟨kept.object, kept.registered, ?_, kept.made⟩
    show (s.finishing ++ [w]).count w' = _
    rw [List.count_append, kept.finishing, List.count_singleton]
    simp [Ne.symm other]

/-- Only a `Worker` in this stage can be delivered. -/
theorem Kept.waits (kept : Kept s stage) (registered : w ∈ s.registered) : stage w = 3 := by
  by_contra other
  have none := (kept w).registered
  rw [if_neg other] at none
  exact List.count_eq_zero.mp none registered

theorem Kept.answered (kept : Kept s stage) (finishing : w ∈ s.finishing) : stage w = 8 := by
  by_contra other
  have none := (kept w).finishing
  rw [if_neg other] at none
  exact List.count_eq_zero.mp none finishing

theorem Kept.deliver {usrname usrkey : Str} (kept : Kept s stage) (stage_eq : stage w = 3)
    (found : s.worker w = some x) :
    Kept { s.setWorker w (some { x with usrname := usrname, usrkey := usrkey }) with
      registered := s.registered.erase w } (Function.update stage w 4) := by
  have own := kept w
  have status := kept.alive found
  rw [stage_eq] at own status
  refine kept.move ⟨?_, ?_, own.finishing, ?_⟩ fun w' n' other kept => ?_
  · simpa [GrpcState.setWorker, statusAt] using status.symm
  · show (s.registered.erase w).count w = 0
    rw [List.count_erase_self, own.registered]
    rfl
  · exact own.still (Nat.succ_ne_zero _) (Nat.succ_ne_zero _)
  · have same : KeptAt (s.setWorker w (some { x with usrname := usrname, usrkey := usrkey })) w' n' :=
      kept.other other
    refine ⟨same.object, ?_, same.finishing, same.made⟩
    show (s.registered.erase w).count w' = _
    rw [List.count_erase_of_ne other]
    exact same.registered

theorem Kept.returned (kept : Kept s stage) (stage_eq : stage w = 8) :
    Kept { s with finishing := s.finishing.erase w } (Function.update stage w 9) := by
  have own := kept w
  rw [stage_eq] at own
  refine kept.move ⟨own.object, own.registered, ?_, ?_⟩ fun w' n' other kept => ?_
  · show (s.finishing.erase w).count w = 0
    rw [List.count_erase_self, own.finishing]
    rfl
  · exact own.still (Nat.succ_ne_zero _) (Nat.succ_ne_zero _)
  · refine ⟨kept.object, kept.registered, ?_, kept.made⟩
    show (s.finishing.erase w).count w' = _
    rw [List.count_erase_of_ne other]
    exact kept.finishing

theorem Kept.delete (kept : Kept s stage) (stage_eq : stage w = 10) :
    Kept (s.setWorker w none) (Function.update stage w 11) := by
  have own := kept w
  rw [stage_eq] at own
  refine kept.move ⟨?_, own.registered, own.finishing, ?_⟩ fun w' n' other kept => kept.other other
  · simp [GrpcState.setWorker, statusAt]
  · exact own.still (Nat.succ_ne_zero _) (Nat.succ_ne_zero _)

/-- A write that shows in no `status_`. -/
theorem Kept.write (kept : Kept s stage) (found : s.worker w = some x) {y : WorkerObj}
    (status : y.status = x.status) : Kept (s.setWorker w (some y)) stage := by
  have own := kept w
  have written : KeptAt (s.setWorker w (some y)) w (stage w) :=
    ⟨by simpa [GrpcState.setWorker, status] using (kept.alive found).symm, own.registered,
      own.finishing, own.made⟩
  have same := kept.move written fun w' n' other kept => kept.other other
  rwa [Function.update_eq_self] at same

/-! ## The accounts -/

structure Going (ds : Lives) (s : Server) (es : Nat → Errand) : Prop where
  lived : Lived ds
  shared : Shared ds.stage es
  kept : Kept s.grpc ds.stage
  one : between .requested .delivered s.grpc.fresh ds +
    between .delivered .spawned s.grpc.fresh ds = 1
  work : s.redis.data.workList.length = between .pushed .popped s.grpc.fresh ds
  unqueued : Unqueued s.redis

variable {sv sv' : Server}

theorem Going.inside (going : Going ds sv es) (stage : ds.stage w = k) (made : k ≠ 0) :
    w < sv.grpc.fresh :=
  Nat.lt_of_not_le fun unmade => made (stage.symm.trans ((going.kept w).made.mpr unmade))

/-- A call that is no deed. -/
theorem Going.keep (going : Going ds sv es) (cares : e.cares = (es t).cares)
    (kept : Kept sv'.grpc ds.stage) (fresh : sv'.grpc.fresh = sv.grpc.fresh)
    (work : sv'.redis.data.workList = sv.redis.data.workList) (unqueued : Unqueued sv'.redis) :
    Going ds sv' (Function.update es t e) where
  lived := going.lived
  shared := going.shared.keep cares
  kept := kept
  one := by
    rw [fresh]
    exact going.one
  work := by
    rw [fresh, work]
    exact going.work
  unqueued := unqueued

/-- The next deed of a `Worker`. -/
theorem Going.advance {a : Deed} (going : Going ds sv es) (stage : ds.stage w = k)
    (next : life[k]? = some a) (made : k ≠ 0)
    (shared : Shared (Function.update ds.stage w (k + 1)) (Function.update es t e))
    (kept : Kept sv'.grpc (Function.update ds.stage w (k + 1)))
    (fresh : sv'.grpc.fresh = sv.grpc.fresh)
    (one : (during .requested .delivered k).toNat + (during .delivered .spawned k).toNat =
      (during .requested .delivered (k + 1)).toNat + (during .delivered .spawned (k + 1)).toNat)
    (work : sv'.redis.data.workList.length + (during .pushed .popped k).toNat =
      sv.redis.data.workList.length + (during .pushed .popped (k + 1)).toNat)
    (unqueued : Unqueued sv'.redis) : Going (ds.add w a) sv' (Function.update es t e) := by
  have same : (ds.add w a).stage = Function.update ds.stage w (k + 1) := by
    rw [Lives.stage_add, stage]
  -- the deed moves one `Worker` from one count to the next
  have moved := going.lived.between_add stage next (going.inside stage made)
  refine ⟨going.lived.add (by rwa [stage]), same ▸ shared, same ▸ kept, ?_, ?_, unqueued⟩
  · have before := going.one
    have asked := moved .requested .delivered
    have asking := moved .delivered .spawned
    rw [fresh]
    omega
  · have before := going.work
    have pushed := moved .pushed .popped
    rw [fresh]
    omega

/-! ## The deeds one by one -/

theorem Going.deliver {usrname usrkey : Str} (going : Going ds sv es) (free : es t = .free)
    (registered : w ∈ sv.grpc.registered) (found : sv.grpc.worker w = some x) :
    Going (ds.add w .delivered) { sv with grpc :=
      { sv.grpc.setWorker w (some { x with usrname := usrname, usrkey := usrkey }) with
        registered := sv.grpc.registered.erase w } } (Function.update es t (.got w)) := by
  have waits := going.kept.waits registered
  exact going.advance waits rfl nofun (going.shared.alone waits (by rw [free]; rfl) rfl)
    (going.kept.deliver waits found) rfl rfl rfl going.unqueued

theorem Going.returned (going : Going ds sv es) (free : es t = .free)
    (finishing : w ∈ sv.grpc.finishing) :
    Going (ds.add w .returned) { sv with grpc :=
      { sv.grpc with finishing := sv.grpc.finishing.erase w } } (Function.update es t (.back w)) := by
  have answered := going.kept.answered finishing
  exact going.advance answered rfl nofun (going.shared.alone answered (by rw [free]; rfl) rfl)
    (going.kept.returned answered) rfl rfl rfl going.unqueued

theorem Going.close (going : Going ds sv es) (mine : es t = .serving w) :
    Going (ds.add w .closed)
      { sv with grpc := sv.grpc.setWorker w (some { x with status := .finish }) }
      (Function.update es t (.marked w)) := by
  have stage := going.shared.has mine List.mem_cons_self
  exact going.advance stage rfl nofun (going.shared.alone stage (by rw [mine]; rfl) rfl)
    (going.kept.setStatus stage rfl (by simp) (by simp) ⟨nofun, nofun⟩) rfl rfl rfl going.unqueued

theorem Going.push {r : RedisState} {value : Str} (going : Going ds sv es) (mine : es t = .marked w)
    (pushed : r.data.workList = value :: sv.redis.data.workList) (unqueued : Unqueued r) :
    Going (ds.add w .pushed) { sv with redis := r } (Function.update es t (.pushed w)) := by
  have stage := going.shared.has mine List.mem_cons_self
  have longer : r.data.workList.length + 0 = sv.redis.data.workList.length + 1 := by
    rw [pushed]
    rfl
  exact going.advance stage rfl nofun (going.shared.alone stage (by rw [mine]; rfl) rfl)
    (going.kept.pass stage rfl (by simp) (by simp) ⟨nofun, nofun⟩) rfl rfl longer unqueued

theorem Going.open {p : WorkerId} (going : Going ds sv es) (mine : es t = .making p w) :
    Going (ds.add w .opened)
      { sv with grpc := sv.grpc.setWorker w (some { x with status := .process }) }
      (Function.update es t (.made p w)) := by
  have parent : ds.stage p = 6 := going.shared.has mine List.mem_cons_self
  have stage : ds.stage w = 1 := going.shared.has mine (List.mem_cons_of_mem _ List.mem_cons_self)
  have other : p ≠ w := by
    rintro rfl
    exact absurd (parent.symm.trans stage) nofun
  refine going.advance stage rfl nofun (going.shared.move ?_ fun w' n' => ?_)
    ?_ rfl rfl rfl going.unqueued
  · exact Or.inr (by simp [stage, mine, Errand.cares])
  · by_cases own : w' = w <;> simp [mine, own, other.symm, Errand.cares, Held]
  · exact going.kept.setStatus stage rfl (by simp) (by simp) ⟨nofun, nofun⟩

theorem Going.finish (going : Going ds sv es) (mine : es t = .spawned w) :
    Going (ds.add w .finished) { sv with grpc :=
      { sv.grpc with finishing := sv.grpc.finishing ++ [w] } } (Function.update es t .free) := by
  have stage := going.shared.has mine List.mem_cons_self
  exact going.advance stage rfl nofun (going.shared.alone stage (by rw [mine]; rfl) rfl)
    (going.kept.finish stage) rfl rfl rfl going.unqueued

theorem Going.delete (going : Going ds sv es) (mine : es t = .popped w) :
    Going (ds.add w .deleted) { sv with grpc := sv.grpc.setWorker w none }
      (Function.update es t .free) := by
  have stage := going.shared.has mine List.mem_cons_self
  exact going.advance stage rfl nofun (going.shared.alone stage (by rw [mine]; rfl) rfl)
    (going.kept.delete stage) rfl rfl rfl going.unqueued

theorem Going.pop {r : RedisState} (going : Going ds sv es) (mine : es t = .ending w)
    (popped : r.data.workList = sv.redis.data.workList.tail) (unqueued : Unqueued r) :
    Going (ds.add w .popped) { sv with redis := r } (Function.update es t (.popped w)) := by
  have stage := going.shared.has mine List.mem_cons_self
  -- the Worker itself is one of those the list is as long as
  have some : 0 < sv.redis.data.workList.length := by
    have inside := going.inside stage nofun
    have moved : _ + 1 = between .pushed .popped sv.grpc.fresh ds + 0 :=
      going.lived.between_add stage (a := .popped) rfl inside .pushed .popped
    have work := going.work
    omega
  have shorter : r.data.workList.length + 1 = sv.redis.data.workList.length + 0 := by
    rw [popped, List.length_tail]
    omega
  exact going.advance stage rfl nofun (going.shared.alone stage (by rw [mine]; rfl) rfl)
    (going.kept.pass stage rfl (by simp) (by simp) ⟨nofun, nofun⟩) rfl rfl shorter unqueued

theorem Going.alloc (going : Going ds sv es) (mine : es t = .pushed w) :
    Going (ds.add sv.grpc.fresh .created) { sv with grpc :=
      { sv.grpc.setWorker sv.grpc.fresh (some {}) with fresh := sv.grpc.fresh + 1 } }
      (Function.update es t (.making w sv.grpc.fresh)) := by
  have unmade : ds.stage sv.grpc.fresh = 0 := (going.kept _).made.mpr (Nat.le_refl _)
  have parent : ds.stage w = 6 := going.shared.has mine List.mem_cons_self
  have other : w ≠ sv.grpc.fresh := by
    intro same
    rw [same, unmade] at parent
    cases parent
  have same : (ds.add sv.grpc.fresh .created).stage = Function.update ds.stage sv.grpc.fresh 1 := by
    rw [Lives.stage_add, unmade]
  refine ⟨going.lived.add (by rw [unmade]; rfl), ?_, ?_, ?_, ?_, going.unqueued⟩
  · rw [same]
    apply going.shared.move (Or.inl (by rw [unmade]; decide))
    intro w' n'
    by_cases own : w' = sv.grpc.fresh <;> simp [mine, own, other.symm, Errand.cares, Held]
  · rw [same]
    exact going.kept.alloc
  · rw [going.lived.between_new unmade, going.lived.between_new unmade]
    exact going.one
  · rw [going.lived.between_new unmade]
    exact going.work

/-- The new `Worker` is registered, and with that the thread's own has its `new Worker` done. -/
theorem Going.request {p : WorkerId} (going : Going ds sv es) (mine : es t = .made p w) :
    Going ((ds.add w .requested).add p .spawned) { sv with grpc :=
      { sv.grpc with registered := sv.grpc.registered ++ [w] } }
      (Function.update es t (.spawned p)) := by
  have parent : ds.stage p = 6 := going.shared.has mine List.mem_cons_self
  have stage : ds.stage w = 2 := going.shared.has mine (List.mem_cons_of_mem _ List.mem_cons_self)
  have other : p ≠ w := by
    rintro rfl
    exact absurd (parent.symm.trans stage) nofun
  have same : (ds.add w .requested).stage = Function.update ds.stage w 3 := by
    rw [Lives.stage_add, stage]
  have parent' : (ds.add w .requested).stage p = 6 := by
    rw [same, Function.update_of_ne other, parent]
  have same' : ((ds.add w .requested).add p .spawned).stage =
      Function.update (ds.add w .requested).stage p 7 := by
    rw [Lives.stage_add, parent']
  have lived : Lived (ds.add w .requested) := going.lived.add (by rw [stage]; rfl)
  -- first the child is with gRPC, then the parent moves on
  have shared : Shared (ds.add w .requested).stage (Function.update es t (.pushed p)) := by
    rw [same]
    apply going.shared.move (Or.inr (by simp [stage, mine, Errand.cares]))
    intro w' n'
    by_cases own : w' = w <;> simp [mine, own, other.symm, Errand.cares, Held]
  have kept : Kept { sv.grpc with registered := sv.grpc.registered ++ [w] }
      (ds.add w .requested).stage := by
    rw [same]
    exact going.kept.requestseckill stage
  have moved := going.lived.between_add stage (a := .requested) rfl (going.inside stage nofun)
  have moved' := lived.between_add parent' (a := .spawned) rfl (going.inside parent nofun)
  refine ⟨lived.add (by rw [parent']; rfl), ?_, ?_, ?_, ?_, going.unqueued⟩
  · rw [same']
    have both : Function.update es t (.spawned p) =
        Function.update (Function.update es t (.pushed p)) t (.spawned p) :=
      (Function.update_idem _ _ _).symm
    rw [both]
    exact shared.alone parent' (by rw [Function.update_self]; rfl) rfl
  · rw [same']
    exact kept.pass parent' rfl (by simp) (by simp) ⟨nofun, nofun⟩
  · have asked : _ + 0 = _ + 1 := moved .requested .delivered
    have asked' : _ + 0 = _ + 0 := moved' .requested .delivered
    have asking : _ + 0 = _ + 0 := moved .delivered .spawned
    have asking' : _ + 1 = _ + 0 := moved' .delivered .spawned
    have before := going.one
    show between .requested .delivered sv.grpc.fresh _ + between .delivered .spawned sv.grpc.fresh _ = 1
    omega
  · have pushed : _ + 0 = _ + 0 := moved .pushed .popped
    have pushed' : _ + 1 = _ + 1 := moved' .pushed .popped
    have before := going.work
    show sv.redis.data.workList.length = between .pushed .popped sv.grpc.fresh _
    omega

/-! ## Runs -/

/-- Only `HandleRPCS` runs, and each `LPUSH` and `LPOP` is answered: the one with a number, the
    other with an element or with none. -/
def usable (_ : History server) (_ : Server) : Event server → Bool
  | .start _ .fallback => false
  | .call _ (.redis (.command _ (.lpush _))) _ (some (.integer _)) => true
  | .call _ (.redis (.command _ (.lpush _))) _ _ => false
  | .call _ (.redis (.command _ .lpop)) _ (some (.string _)) => true
  | .call _ (.redis (.command _ .lpop)) _ (some .nil) => true
  | .call _ (.redis (.command _ .lpop)) _ _ => false
  | _ => true

/-- The `Worker` whose tag the thread has. -/
def Errand.worker : Errand → Option WorkerId
  | .free | .odd => none
  | .got w | .serving w | .marked w | .pushed w | .making w _ | .made w _ | .spawned w | .back w
  | .ending w | .popped w => some w

/-- The thread is not odd, and its errand is for the `Worker` it took last. -/
structure Errand.Tagged (e : Errand) (tag : Option WorkerId) : Prop where
  even : e ≠ .odd
  last : ∀ w, e.worker = some w → tag = some w

structure GoingOn (h : History server) (s : Server) (es : Nat → Errand) : Prop where
  going : Going (deeds h) s es
  tagged : ∀ t, (es t).Tagged (tag t h)

variable {st : Stores} {h : History server} {cfg : Config server} {c : Call} {f : Fate}

theorem tag_call (c : Call) (f : Fate) (r : c.Reply) (other : c ≠ .grpc .next) (t' : Nat) :
    tag t' (.call t c f r :: h) = tag t' h := by
  cases c with
  | grpc c => cases c <;> first | rfl | exact absurd rfl other
  | redis c | mysql c | counter c | crash why => rfl

/-- A call that takes no tag. -/
theorem GoingOn.on {r : c.Reply} (on : GoingOn h sv es) (other : c ≠ .grpc .next) (even : e ≠ .odd)
    (same : ∀ w, e.worker = some w → (es t).worker = some w)
    (going : Going (deeds (.call t c f r :: h)) sv' (Function.update es t e)) :
    GoingOn (.call t c f r :: h) sv' (Function.update es t e) := by
  refine ⟨going, fun t' => ?_⟩
  rw [tag_call c f r other]
  by_cases own : t' = t
  · subst own
    rw [Function.update_self]
    exact ⟨even, fun w mine => (on.tagged t').last w (same w mine)⟩
  · rw [Function.update_of_ne own]
    exact on.tagged t'

/-- A tag is taken. -/
theorem GoingOn.take {r : WorkerId} (on : GoingOn h sv es) (even : e ≠ .odd)
    (worker : e.worker = some r)
    (going : Going (deeds (.call t (.grpc .next) f r :: h)) sv' (Function.update es t e)) :
    GoingOn (.call t (.grpc .next) f r :: h) sv' (Function.update es t e) := by
  refine ⟨going, fun t' => ?_⟩
  by_cases own : t' = t
  · subst own
    rw [Function.update_self]
    exact ⟨even, fun w mine => by simpa [tag, worker] using mine⟩
  · rw [Function.update_of_ne own]
    have same : tag t' (.call t (.grpc .next) f r :: h) = tag t' h := by
      simp [tag, Ne.symm own]
    rw [same]
    exact on.tagged t'

/-- A call that is no errand. -/
theorem GoingOn.idle {r : c.Reply} (on : GoingOn h sv es) (idle : c.Idle)
    (kept : Kept sv'.grpc (deeds h).stage) (fresh : sv'.grpc.fresh = sv.grpc.fresh)
    (work : sv'.redis.data.workList = sv.redis.data.workList) (unqueued : Unqueued sv'.redis) :
    GoingOn (.call t c f r :: h) sv' (Function.update es t ((es t).note c f r)) := by
  have other : c ≠ .grpc .next := by
    rintro rfl
    exact idle
  have same : deeds (.call t c f r :: h) = deeds h := by
    rcases c with (_ | _ | ⟨c, cmd⟩) | c | c | c | why
    · rfl
    · rfl
    · cases cmd <;> first | rfl | exact absurd idle id
    · rfl
    · rfl
    · cases c <;> first | rfl | exact absurd idle id
    · rfl
  rw [Errand.note_idle idle]
  refine on.on other (on.tagged t).even (fun w mine => mine) ?_
  rw [same]
  exact on.going.keep rfl kept fresh work unqueued

theorem GoingOn.redis {c : RedisCall} {r : c.Reply} {x : RedisState} (on : GoingOn h sv es)
    (met : usable h sv (.call t (.redis c) f r) = true) (allowed : (es t).Allows (.redis c))
    (exec : sv.redis.exec c f = some (r, x)) :
    GoingOn (.call t (.redis c) f r :: h) { sv with redis := x }
      (Function.update es t ((es t).note (.redis c) f r)) := by
  cases RedisState.exec_does exec with
  | getOneConnect got =>
    obtain ⟨c, rest, _, taken⟩ | ⟨_, _, made⟩ | none := sv.redis.getOneConnect_cases f.isOk
    · rw [taken] at got
      cases got
      exact on.idle trivial on.going.kept rfl rfl on.going.unqueued
    · rw [made] at got
      cases got
      exact on.idle trivial on.going.kept rfl rfl
        (on.going.unqueued.setConn fun _ none => nomatch none)
    · rw [none] at got
      cases got
      exact on.idle trivial on.going.kept rfl rfl on.going.unqueued
  | close c => exact on.idle trivial on.going.kept rfl rfl on.going.unqueued
  | @command _ r _ c cmd sent =>
    by_cases spares : cmd.Spares
    · -- no deed, and the list stays
      obtain ⟨work, unqueued⟩ := command_spares sent on.going.unqueued spares
      have idle : (Call.redis (.command c cmd)).Idle := by cases cmd <;> trivial
      exact on.idle idle on.going.kept rfl work unqueued
    · cases cmd with
      | lpush value =>
        obtain ⟨w, mine⟩ := allowed
        have last : tag t h = some w := (on.tagged t).last w (by rw [mine]; rfl)
        -- an `LPUSH` that is answered with a number was carried out
        have answered : ∃ n, r = some (.integer n) := by
          cases r with
          | none => cases met
          | some reply => cases reply <;> first | exact ⟨_, rfl⟩ | cases met
        obtain ⟨n, rfl⟩ := answered
        obtain ⟨pushed, unqueued⟩ := lpush_pushes sent on.going.unqueued
        rw [mine]
        refine on.on nofun nofun (by simp [mine, Errand.note, Errand.worker]) ?_
        show Going ((deeds h).addTo .pushed (tag t h)) _ _
        rw [last]
        exact on.going.push mine pushed unqueued
      | lpop =>
        obtain ⟨w, mine⟩ := allowed
        have last : tag t h = some w := (on.tagged t).last w (by rw [mine]; rfl)
        -- so was an `LPOP` with an element, or with none of an empty list
        have answered : ∃ reply, r = some reply ∧
            (reply = .nil ∨ ∃ value, reply = .string value) := by
          cases r with
          | none => cases met
          | some reply =>
            cases reply with
            | nil => exact ⟨.nil, rfl, Or.inl rfl⟩
            | string value => exact ⟨.string value, rfl, Or.inr ⟨value, rfl⟩⟩
            | status _ | error _ | integer _ | array _ => cases met
        obtain ⟨reply, rfl, answer⟩ := answered
        obtain ⟨popped, unqueued⟩ := lpop_pops sent answer on.going.unqueued
        rw [mine]
        refine on.on nofun nofun (by simp [mine, Errand.note, Errand.worker]) ?_
        show Going ((deeds h).addTo .popped (tag t h)) _ _
        rw [last]
        exact on.going.pop mine popped unqueued
      | watch | unwatch | multi | exec | get | set value | decr | hget key field
      | hmset key field value | llen => exact absurd trivial spares

/-- The `status_` that `Proceed` finds is the one of the event. -/
theorem GoingOn.status {x : WorkerObj} (on : GoingOn h sv es) (mine : es t = .got w ∨ es t = .back w)
    (found : sv.grpc.worker w = some x) :
    GoingOn (.call t (.grpc (.status w)) f x.status :: h) sv
      (Function.update es t ((es t).note (.grpc (.status w)) f x.status)) := by
  have alive := on.going.kept.alive found
  obtain mine | mine := mine
  · have stage : (deeds h).stage w = 4 := on.going.shared.has mine List.mem_cons_self
    rw [stage] at alive
    have process : x.status = .process := (Option.some.inj alive).symm
    have noted : (es t).note (.grpc (.status w)) f x.status = .serving w := by
      rw [mine, process]
      rfl
    rw [noted]
    refine on.on (by rintro ⟨⟩) (by rintro ⟨⟩) (by simp [mine, Errand.worker]) ?_
    exact on.going.keep (by rw [mine]; rfl) on.going.kept rfl rfl on.going.unqueued
  · have stage : (deeds h).stage w = 9 := on.going.shared.has mine List.mem_cons_self
    rw [stage] at alive
    have finish : x.status = .finish := (Option.some.inj alive).symm
    have noted : (es t).note (.grpc (.status w)) f x.status = .ending w := by
      rw [mine, finish]
      rfl
    rw [noted]
    refine on.on (by rintro ⟨⟩) (by rintro ⟨⟩) (by simp [mine, Errand.worker]) ?_
    exact on.going.keep (by rw [mine]; rfl) on.going.kept rfl rfl on.going.unqueued

theorem GoingOn.grpc {c : GrpcCall} {r : c.Reply} {x : GrpcState} (on : GoingOn h sv es)
    (allowed : (es t).Allows (.grpc c)) (exec : sv.grpc.exec c f = some (r, x)) :
    GoingOn (.call t (.grpc c) f r :: h) { sv with grpc := x }
      (Function.update es t ((es t).note (.grpc c) f r)) := by
  cases GrpcState.exec_does exec with
  | alloc =>
    obtain ⟨w, mine⟩ := allowed
    rw [mine]
    exact on.on (by rintro ⟨⟩) (by rintro ⟨⟩) (by simp [mine, Errand.note, Errand.worker])
      (on.going.alloc mine)
  | usrname w found | usrkey w found | result w found =>
    exact on.idle trivial on.going.kept rfl rfl on.going.unqueued
  | setResult w result found =>
    exact on.idle trivial (on.going.kept.write found rfl) rfl rfl on.going.unqueued
  | status w found => exact on.status allowed found
  | setStatus w st found =>
    obtain ⟨mine, rfl⟩ | ⟨rfl, p, mine⟩ := allowed
    · rw [mine]
      exact on.on (by rintro ⟨⟩) (by rintro ⟨⟩) (by simp [mine, Errand.note, Errand.worker])
        (on.going.close mine)
    · rw [mine]
      exact on.on (by rintro ⟨⟩) (by rintro ⟨⟩) (by simp [mine, Errand.note, Errand.worker])
        (on.going.open mine)
  | requestseckill w found =>
    obtain ⟨p, mine⟩ := allowed
    have last : tag t h = some p := (on.tagged t).last p (by rw [mine]; rfl)
    rw [mine]
    refine on.on (by rintro ⟨⟩) (by rintro ⟨⟩) (by simp [mine, Errand.note, Errand.worker]) ?_
    show Going (((deeds h).add w .requested).addTo .spawned (tag t h)) _ _
    rw [last]
    exact on.going.request mine
  | finish w result found =>
    have mine : es t = .spawned w := allowed
    rw [mine]
    exact on.on (by rintro ⟨⟩) (by rintro ⟨⟩) (by rintro _ ⟨⟩) (on.going.finish mine)
  | delete w found =>
    have mine : es t = .popped w := allowed
    rw [mine]
    exact on.on (by rintro ⟨⟩) (by rintro ⟨⟩) (by rintro _ ⟨⟩) (on.going.delete mine)
  | deliver w usrname usrkey registered found =>
    have free : es t = .free := allowed
    rw [free]
    exact on.take (by rintro ⟨⟩) rfl (on.going.deliver free registered found)
  | finished w finishing =>
    have free : es t = .free := allowed
    rw [free]
    exact on.take (by rintro ⟨⟩) rfl (on.going.returned free finishing)

/-- `Run` has created the first `Worker`. -/
theorem going_boot (empty : st.workList = []) : Going (deeds []) (boot st) fun _ => .free := by
  have first : (deeds []).stage 0 = 3 := rfl
  have rest (w : WorkerId) (other : w ≠ 0) : deeds [] w = [] := Function.update_of_ne other _ _
  constructor
  · intro w
    by_cases same : w = 0
    · subst same
      exact List.take_prefix 3 life
    · rw [rest w same]
      exact List.nil_prefix
  · refine ⟨fun t w n => nofun, fun t t' w n => nofun, fun w held => ?_⟩
    by_cases same : w = 0
    · subst same
      exact absurd held (by decide)
    · rw [Lives.stage, rest w same] at held
      exact absurd held (by decide)
  · intro w
    by_cases same : w = 0
    · subst same
      exact ⟨rfl, rfl, rfl, iff_of_false nofun (Nat.not_succ_le_zero 0)⟩
    · have other : (boot st).grpc.worker w = none := by
        show Function.update (fun _ => none) 0 (some ({ status := .process } : WorkerObj)) w = none
        exact Function.update_of_ne same _ _
      have above : 1 ≤ w := Nat.one_le_iff_ne_zero.mpr same
      rw [Lives.stage, rest w same]
      refine ⟨by rw [other]; rfl, ?_, rfl, ⟨fun _ => above, fun _ => rfl⟩⟩
      show [0].count w = 0
      rw [List.count_singleton]
      simp [Ne.symm same]
  · rfl
  · show st.workList.length = 0
    rw [empty]
    rfl
  · exact fun c q none => nomatch none

theorem going_on (empty : st.workList = []) (run : Run (meets usable) (boot st) h cfg) :
    GoingOn h cfg.state (locals errands h) := by
  refine Run.invariant errands_conforms ?_ ?_ ?_ run
  · exact ⟨going_boot empty, fun t => ⟨nofun, nofun⟩⟩
  · intro h cfg t c f r s run on met allowed exec
    have allowed : (locals errands h t).Allows c := by
      obtain odd | allowed := allowed
      · exact absurd odd (on.tagged t).even
      · exact allowed
    cases c with
    | crash why => exact r.elim
    | redis c =>
      obtain ⟨⟨r', x⟩, own, same⟩ := Option.map_eq_some_iff.mp exec
      cases same
      exact on.redis met allowed own
    | grpc c =>
      obtain ⟨⟨r', x⟩, own, same⟩ := Option.map_eq_some_iff.mp exec
      cases same
      exact on.grpc allowed own
    | mysql c | counter c =>
      obtain ⟨⟨r', x⟩, own, same⟩ := Option.map_eq_some_iff.mp exec
      cases same
      exact on.idle trivial on.going.kept rfl rfl on.going.unqueued
  · intro h cfg t e run on met settled
    cases e with
    | fallback => cases met
    | handleRPCS =>
      have free : locals errands h t = .free := by
        obtain odd | free := settled
        · exact absurd odd (on.tagged t).even
        · exact free
      have same : Function.update (locals errands h) t .free = locals errands h := by
        rw [← free, Function.update_eq_self]
      show GoingOn _ _ (Function.update (locals errands h) t .free)
      rw [same]
      exact ⟨on.going, on.tagged⟩

/-! ## The life cycle -/

/-- The `Worker` a call reads or writes. -/
def GrpcCall.this : GrpcCall → Option WorkerId
  | .alloc | .next => none
  | .status w | .setStatus w _ | .requestseckill w | .usrname w | .usrkey w | .setResult w _
  | .result w | .finish w _ | .delete w => some w

/-- The accounts of the `Worker`s in a state reached. -/
structure Accounted (h : History server) (cfg : Config server) : Prop where
  /-- One `Worker` is registered and not delivered, or delivered with its `new Worker` not done. -/
  one : between .requested .delivered cfg.state.grpc.fresh (deeds h) +
    between .delivered .spawned cfg.state.grpc.fresh (deeds h) = 1
  registered : cfg.state.grpc.registered.length =
    between .requested .delivered cfg.state.grpc.fresh (deeds h)
  /-- Each deed is done at most once, in this order. -/
  inOrder : ∀ w, deeds h w <+: life
  status : ∀ w, (cfg.state.grpc.worker w).map WorkerObj.status = statusAt (deeds h w).length
  /-- The `Worker`s deleted are those that have done all of it. -/
  deleted : ∀ w, deeds h w = life ↔ w < cfg.state.grpc.fresh ∧ cfg.state.grpc.worker w = none
  /-- What can be dispatched is there. -/
  dispatched : ∀ w ∈ cfg.state.grpc.registered ++ cfg.state.grpc.finishing,
    (cfg.state.grpc.worker w).isSome
  /-- What a thread is about to read or write is there. -/
  used : ∀ t c k w, cfg.prog t = .call (.grpc c) k → c.this = some w →
    (cfg.state.grpc.worker w).isSome
  /-- None is left over when the threads have nothing to do. -/
  atRest : (∀ t, cfg.prog t = .ret ()) → ∀ w < cfg.state.grpc.fresh,
    w ∈ cfg.state.grpc.registered ∨ w ∈ cfg.state.grpc.finishing ∨ deeds h w = life
  work : cfg.state.redis.data.workList.length =
    between .pushed .popped cfg.state.grpc.fresh (deeds h)

theorem Lived.complete (lived : Lived ds) : ds w = life ↔ ds.stage w = 11 := by
  constructor
  · intro whole
    rw [Lives.stage, whole]
    rfl
  · intro stage
    rw [lived.take w, stage]
    rfl

theorem Lived.stage_le (lived : Lived ds) (w : WorkerId) : ds.stage w ≤ 11 :=
  (lived w).length_le

theorem statusAt_none : ∀ k < 12, statusAt k = none → k = 0 ∨ k = 11 := by decide

theorem Going.gone (going : Going ds sv es) :
    ds w = life ↔ w < sv.grpc.fresh ∧ sv.grpc.worker w = none := by
  have object := (going.kept w).object
  have made := (going.kept w).made
  rw [going.lived.complete]
  constructor
  · intro stage
    rw [stage] at object
    exact ⟨going.inside stage nofun, Option.map_eq_none_iff.mp object⟩
  · rintro ⟨inside, none⟩
    rw [none] at object
    have some : ds.stage w ≠ 0 := fun zero => absurd (made.mp zero) (Nat.not_le_of_lt inside)
    obtain zero | last := statusAt_none _ (Nat.lt_succ_of_le (going.lived.stage_le w)) object.symm
    · exact absurd zero some
    · exact last

theorem not_held : ∀ k < 12, ¬Held k → k = 0 ∨ k = 3 ∨ k = 8 ∨ k = 11 := by decide

/-- With no thread at it a `Worker` is with gRPC or deleted. -/
theorem Going.rest (going : Going ds sv es) (idle : ∀ t, (es t).cares = [])
    (made : w < sv.grpc.fresh) :
    w ∈ sv.grpc.registered ∨ w ∈ sv.grpc.finishing ∨ ds w = life := by
  have free : ¬Held (ds.stage w) := by
    intro held
    obtain ⟨t, has⟩ := going.shared.held w held
    rw [idle t] at has
    cases has
  have own := going.kept w
  obtain zero | waits | answered | gone :=
    not_held _ (Nat.lt_succ_of_le (going.lived.stage_le w)) free
  · exact absurd (own.made.mp zero) (Nat.not_le_of_lt made)
  · refine Or.inl (List.count_pos_iff.mp ?_)
    rw [own.registered, if_pos waits]
    exact Nat.one_pos
  · refine Or.inr (Or.inl (List.count_pos_iff.mp ?_))
    rw [own.finishing, if_pos answered]
    exact Nat.one_pos
  · exact Or.inr (Or.inr (going.lived.complete.mpr gone))

/-- A list that has the `Worker`s of one stage, each once, is as long as there are `Worker`s between
    the deeds about it. -/
theorem Going.length_eq {l : List WorkerId} (going : Going ds sv es)
    (holds : ∀ w, l.count w = if ds.stage w = k then 1 else 0) (made : k ≠ 0)
    (only : ∀ n ≤ 11, during d d' n = decide (n = k)) : l.length = between d d' sv.grpc.fresh ds := by
  rw [going.lived.between_eq]
  apply length_eq_census
  · intro w
    rw [holds, only _ (going.lived.stage_le w)]
    by_cases there : ds.stage w = k <;> simp [there]
  · intro w member
    refine going.inside (k := k) ?_ made
    by_contra other
    have count := holds w
    rw [if_neg other] at count
    exact List.count_eq_zero.mp count member

theorem Going.waiting (going : Going ds sv es) :
    sv.grpc.registered.length = between .requested .delivered sv.grpc.fresh ds :=
  going.length_eq (k := 3) (fun w => (going.kept w).registered) nofun (by decide)

theorem Going.answered (going : Going ds sv es) :
    sv.grpc.finishing.length = between .finished .returned sv.grpc.fresh ds :=
  going.length_eq (k := 8) (fun w => (going.kept w).finishing) nofun (by decide)

/-- A thread uses only the `Worker`s it has hold of. -/
theorem Local.AllowsGrpc.has {l : Local} {c : GrpcCall} (allowed : l.AllowsGrpc c)
    (this : c.this = some w) : Has l w := by
  cases c with
  | alloc | next => cases this
  | setStatus w' st =>
    cases this
    obtain ⟨newborn, _⟩ | ⟨_, worker, _⟩ := allowed
    · exact Or.inr newborn
    · exact Or.inl worker
  | requestseckill w' =>
    cases this
    obtain ⟨newborn, _⟩ | ⟨_, worker, _⟩ := allowed
    · exact Or.inr newborn
    · exact Or.inl worker
  | status w' | usrname w' | usrkey w' | setResult w' result | result w' | finish w' result
  | delete w' =>
    cases this
    exact Or.inl allowed.1

theorem Objects.alive {s : GrpcState} {ls : Nat → Local} (objects : Objects s ls)
    (has : Has (ls t) w) : (s.worker w).isSome := by
  obtain worker | newborn := has
  · obtain ⟨x, found, _⟩ := (objects.own t).worker w worker
    simp [found]
  · obtain ⟨x, found, _⟩ := (objects.own t).newborn w newborn
    simp [found]

/-- Every `Worker` lives the one life, and the counts agree, in every state reached. -/
theorem worker_lives (empty : st.workList = []) (run : Run (meets usable) (boot st) h cfg) :
    Accounted h cfg := by
  have on := going_on empty run
  have going := on.going
  have there := objects run
  refine ⟨going.one, going.waiting, going.lived, fun w => (going.kept w).object, fun w => going.gone,
    ?_, ?_, ?_, going.work⟩
  · intro w member
    obtain registered | finishing := List.mem_append.mp member
    · obtain ⟨x, found, _⟩ := there.registered w registered
      simp [found]
    · obtain ⟨x, found, _⟩ := there.finishing w finishing
      simp [found]
  · intro t c k w next this
    have allowed : (locals watch h t).AllowsGrpc c := run.allowed conforms next
    exact there.alive (allowed.has this)
  · intro done w made
    apply going.rest (fun t => ?_) made
    obtain odd | free := run.settled errands_conforms (done t)
    · exact absurd odd (on.tagged t).even
    · rw [free]
      rfl

/-- One request is served by thread 0, and its `FINISH` event handled by thread 1. -/
theorem worker_lives_served : ∃ (h : History server) (cfg : Config server),
    Run (meets usable) (boot (agreeing [(['a'], ['k'])] 50)) h cfg ∧ deeds h 0 = life ∧
      deeds h 1 = [.created, .opened, .requested] ∧ Accounted h cfg := by
  have ran : ((replay usable (serves 0 ⟨0, ['a'], ['k']⟩ .ok .ok ++ .start 1 .handleRPCS :: go 1 5 ++
      [.go 1 (.finished 0)] ++ go 1 5) [] (initial (boot (agreeing [(['a'], ['k'])] 50)))).any fun x =>
        deeds x.1 0 == life && deeds x.1 1 == [.created, .opened, .requested]) = true := by
    decide +kernel
  obtain ⟨⟨h, cfg⟩, played, after⟩ := (Option.any_eq_true _ _).mp ran
  simp only [Bool.and_eq_true, beq_iff_eq] at after
  have run : Run (meets usable) _ h cfg := replay_meets played
  exact ⟨h, cfg, run, after.1, after.2, worker_lives rfl run⟩

end Seckill
