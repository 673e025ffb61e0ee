import Seckill.Lib.CallTree

/-! # Threads over a shared state

Any number of threads, each with the rest of its program, over one shared state.  A step
is one call of one thread, executed atomically by the machine with a fate that the
environment picks, or the start of an entry program on a thread that has nothing left to
do.  A run keeps its history, newest event first.

The monitor of a machine gives every thread a record of its own calls (`locals`), and
`Run.invariant` is the proof rule of the library: what holds at first, and is preserved
by every call that the monitor allows, holds along every run.  `replay` executes a
schedule, so that runs can be exhibited.
-/

namespace Threads

open CallTree

/-- What calls do to the shared state.  `exec t c f s` is `none` where call `c` of thread
    `t` cannot proceed with fate `f`. -/
structure Machine (C : Type) (R : C → Type) where
  State : Type
  Fate : Type
  Entry : Type
  exec : Nat → (c : C) → Fate → State → Option (R c × State)
  body : Entry → Prog C R Unit

variable {C : Type} {R : C → Type}

/-- What happens in a run: a call with its fate and its reply, or a start. -/
inductive Occurrence (C : Type) (R : C → Type) (F E : Type) where
  | call (t : Nat) (c : C) (f : F) (r : R c)
  | start (t : Nat) (e : E)

/-- Machines that execute the same calls differently have the same events. -/
abbrev Event (M : Machine C R) := Occurrence C R M.Fate M.Entry

/-- The events of a run, newest first. -/
abbrev History (M : Machine C R) := List (Event M)

structure Config (M : Machine C R) where
  state : M.State
  prog : Nat → Prog C R Unit

variable {M : Machine C R}

/-- One step of one thread. -/
inductive Step : Config M → Event M → Config M → Prop
  | call {cfg : Config M} {t : Nat} {c : C} {k : R c → Prog C R Unit} {f : M.Fate} {r : R c}
      {s : M.State} (next : cfg.prog t = .call c k) (exec : M.exec t c f cfg.state = some (r, s)) :
      Step cfg (.call t c f r) ⟨s, Function.update cfg.prog t (k r)⟩
  | start {cfg : Config M} {t : Nat} {e : M.Entry} (done : cfg.prog t = .ret ()) :
      Step cfg (.start t e) ⟨cfg.state, Function.update cfg.prog t (M.body e)⟩

/-- A condition on the steps of a run: the history and the state before, and the event. -/
abbrev Condition (M : Machine C R) := History M → M.State → Event M → Prop

/-- The runs from `s₀` all of whose steps meet `ok`. -/
inductive Run (ok : Condition M) (s₀ : M.State) : History M → Config M → Prop
  | init : Run ok s₀ [] ⟨s₀, fun _ => .ret ()⟩
  | step {h : History M} {cfg cfg' : Config M} {ev : Event M} (run : Run ok s₀ h cfg)
      (met : ok h cfg.state ev) (step : Step cfg ev cfg') : Run ok s₀ (ev :: h) cfg'

variable {ok ok' : Condition M} {s₀ : M.State} {h : History M} {cfg : Config M}

/-- A run under a condition is a run under any other that its steps are known to meet. -/
theorem Run.mono (run : Run ok s₀ h cfg)
    (weaker : ∀ {h cfg ev}, Run ok s₀ h cfg → ok h cfg.state ev → ok' h cfg.state ev) :
    Run ok' s₀ h cfg := by
  induction run with
  | init => exact .init
  | step run met step ih => exact .step ih (weaker run met) step

/-! ## Other executions of the calls -/

section Via

/-- The machine with its calls executed by `exec`. -/
abbrev Machine.via (M : Machine C R)
    (exec : Nat → (c : C) → M.Fate → M.State → Option (R c × M.State)) : Machine C R :=
  { M with exec := exec }

variable {X : Nat → (c : C) → M.Fate → M.State → Option (R c × M.State)}

/-- The same state and programs, for the machine itself. -/
def Config.within (cfg : Config (M.via X)) : Config M := .mk cfg.state cfg.prog

@[simp] theorem Config.within_state {cfg : Config (M.via X)} : cfg.within.state = cfg.state := rfl

@[simp] theorem Config.within_prog {cfg : Config (M.via X)} : cfg.within.prog = cfg.prog := rfl

/-- A run of the one machine is a run of the other, where both execute alike the calls that come
    up in it. -/
theorem Run.of_via {P : History M → Prop} {h : History (M.via X)} {cfg : Config (M.via X)}
    (past : ∀ {ev h}, P (ev :: h) → P h)
    (agree : ∀ {h cfg t c k f}, Run (M := M) ok s₀ h cfg → P h → cfg.prog t = .call c k →
      X t c f cfg.state = M.exec t c f cfg.state)
    (run : Run (M := M.via X) ok s₀ h cfg) (holds : P h) : Run (M := M) ok s₀ h cfg.within := by
  induction run with
  | init => exact .init
  | step run met step ih =>
    have before := ih (past holds)
    refine .step before met ?_
    cases step with
    | call next done =>
      refine .call next ?_
      rw [← agree before (past holds) next]
      exact done
    | start done => exact .start done

end Via

/-! ## The records of the threads -/

/-- A monitor together with the record a thread has before it ran, and the one each entry
    program starts with. -/
structure Watch (M : Machine C R) extends Monitor C R M.Fate where
  idle : Local
  begin : M.Entry → Local
  /-- what a program must leave behind when it returns -/
  settled : Local → Prop

variable (W : Watch M)

/-- The record of every thread after a history. -/
def locals : History M → Nat → W.Local
  | [] => fun _ => W.idle
  | .call t c f r :: h => Function.update (locals h) t (W.note (locals h t) c f r)
  | .start t e :: h => Function.update (locals h) t (W.begin e)

@[simp] theorem locals_nil : locals W [] = fun _ => W.idle := rfl

@[simp] theorem locals_call {t : Nat} {c : C} {f : M.Fate} {r : R c} :
    locals W (.call t c f r :: h) =
      Function.update (locals W h) t (W.note (locals W h t) c f r) := rfl

@[simp] theorem locals_start {t : Nat} {e : M.Entry} :
    locals W (.start t e :: h) = Function.update (locals W h) t (W.begin e) := rfl

/-- Every entry program makes only calls the monitor allows. -/
def Watch.Conforms : Prop :=
  W.settled W.idle ∧ ∀ e, (M.body e).Keeps W.toMonitor (W.begin e) fun _ l => W.settled l

variable {W}

/-- What is left of a thread's program conforms to the thread's record. -/
theorem Run.keeps (conforms : W.Conforms) (run : Run ok s₀ h cfg) (t : Nat) :
    (cfg.prog t).Keeps W.toMonitor (locals W h t) fun _ l => W.settled l := by
  induction run with
  | init => exact conforms.1
  | step run met step ih =>
    cases step with
    | @call t' c k f r s next exec =>
      by_cases same : t = t'
      · subst same
        rw [next] at ih
        simpa using ih.2 f r
      · simpa [Function.update_of_ne same] using ih
    | @start t' e done =>
      by_cases same : t = t'
      · subst same
        simpa using conforms.2 e
      · simpa [Function.update_of_ne same] using ih

/-- A thread that makes a call is allowed to. -/
theorem Run.allowed (conforms : W.Conforms) (run : Run ok s₀ h cfg) {t : Nat} {c : C}
    {k : R c → Prog C R Unit} (next : cfg.prog t = .call c k) :
    W.allowed (locals W h t) c := by
  have keeps := run.keeps conforms t
  rw [next] at keeps
  exact keeps.1

theorem Run.settled (conforms : W.Conforms) (run : Run ok s₀ h cfg) {t : Nat}
    (done : cfg.prog t = .ret ()) : W.settled (locals W h t) := by
  have keeps := run.keeps conforms t
  rwa [done] at keeps

/-- The invariant rule.  An invariant may speak of the history, of the shared state and of
    the records of all threads; a call step may use that the call was allowed, and any
    fact already known of the run before it. -/
theorem Run.invariant {Inv : History M → M.State → (Nat → W.Local) → Prop}
    (conforms : W.Conforms) (initial : Inv [] s₀ fun _ => W.idle)
    (call : ∀ {h cfg t c f r s}, Run ok s₀ h cfg → Inv h cfg.state (locals W h) →
      ok h cfg.state (.call t c f r) → W.allowed (locals W h t) c →
      M.exec t c f cfg.state = some (r, s) →
      Inv (.call t c f r :: h) s
        (Function.update (locals W h) t (W.note (locals W h t) c f r)))
    (start : ∀ {h cfg t e}, Run ok s₀ h cfg → Inv h cfg.state (locals W h) →
      ok h cfg.state (.start t e) → W.settled (locals W h t) →
      Inv (.start t e :: h) cfg.state (Function.update (locals W h) t (W.begin e)))
    (run : Run ok s₀ h cfg) : Inv h cfg.state (locals W h) := by
  induction run with
  | init => exact initial
  | @step _ cfg _ _ run met step ih =>
    cases step with
    | call next exec => exact call run ih met (run.allowed conforms next) exec
    | start done => exact @start _ cfg _ _ run ih met (run.settled conforms done)

/-- What a monitor says of an event before it happens. -/
def Watch.permits (W : Watch M) (h : History M) : Event M → Prop
  | .call t c _ _ => W.allowed (locals W h t) c
  | .start t _ => W.settled (locals W h t)

/-- What a second monitor allows can be taken into the condition of a run. -/
theorem Run.obeys (conforms : W.Conforms) (run : Run ok s₀ h cfg) :
    Run (fun h s ev => ok h s ev ∧ W.permits h ev) s₀ h cfg := by
  induction run with
  | init => exact .init
  | step run met step ih =>
    refine .step ih ⟨met, ?_⟩ step
    cases step with
    | call next exec => exact run.allowed conforms next
    | start done => exact run.settled conforms done

/-- The state a history leads to. -/
def after (s₀ : M.State) : History M → M.State
  | [] => s₀
  | .call t c f _ :: h => ((M.exec t c f (after s₀ h)).map Prod.snd).getD (after s₀ h)
  | .start _ _ :: h => after s₀ h

theorem Run.after_eq (run : Run ok s₀ h cfg) : after s₀ h = cfg.state := by
  induction run with
  | init => rfl
  | step run met step ih =>
    cases step with
    | call next exec => simp [after, ih, exec]
    | start done => exact ih

section Update

variable {L B : Type} {ls : Nat → L} {t : Nat} {l : L}

/-- What holds of every record still does when one thread's is replaced by another such. -/
theorem forall_update {P : L → Prop} (others : ∀ t, P (ls t)) (own : P l) (t' : Nat) :
    P (Function.update ls t l t') := by
  by_cases same : t' = t
  · subst same
    rwa [Function.update_self]
  · rw [Function.update_of_ne same]
    exact others t'

/-- A replaced record that agrees with the old one in some part agrees for all threads. -/
theorem update_eq (part : L → B) (same : part l = part (ls t)) (t' : Nat) :
    part (Function.update ls t l t') = part (ls t') := by
  by_cases own : t' = t
  · subst own
    rw [Function.update_self, same]
  · rw [Function.update_of_ne own]

variable {list : List Nat}

/-- A list of the threads with a flag, when one more thread gets it. -/
theorem mem_cons_update (flag : L → Bool) (mem : ∀ t, t ∈ list ↔ flag (ls t) = true)
    (now : flag l = true) (t' : Nat) :
    t' ∈ t :: list ↔ flag (Function.update ls t l t') = true := by
  rw [List.mem_cons, mem]
  by_cases own : t' = t
  · subst own
    rw [Function.update_self, now]
    simp
  · rw [Function.update_of_ne own]
    simp [own]

/-- And when a thread loses it. -/
theorem mem_erase_update (flag : L → Bool) (mem : ∀ t, t ∈ list ↔ flag (ls t) = true)
    (once : list.Nodup) (now : flag l = false) (t' : Nat) :
    t' ∈ list.erase t ↔ flag (Function.update ls t l t') = true := by
  rw [once.mem_erase_iff, mem]
  by_cases own : t' = t
  · subst own
    simp [now]
  · simp [own]

end Update

/-! ## Replaying a schedule -/

/-- One move of a schedule: let thread `t` make its next call with a fate, or start it. -/
inductive Choice (F E : Type) where
  | go (t : Nat) (f : F)
  | start (t : Nat) (e : E)

abbrev Move (M : Machine C R) := Choice M.Fate M.Entry

/-- Make one move, if it is possible. -/
def play (cfg : Config M) : Move M → Option (Event M × Config M)
  | .go t f =>
    match cfg.prog t with
    | .ret _ => none
    | .call c k =>
      match M.exec t c f cfg.state with
      | none => none
      | some (r, s) => some (.call t c f r, ⟨s, Function.update cfg.prog t (k r)⟩)
  | .start t e =>
    match cfg.prog t with
    | .ret _ => some (.start t e, ⟨cfg.state, Function.update cfg.prog t (M.body e)⟩)
    | .call _ _ => none

theorem play_step {cfg cfg' : Config M} {m : Move M} {ev : Event M}
    (played : play cfg m = some (ev, cfg')) : Step cfg ev cfg' := by
  cases m with
  | go t f =>
    simp only [play] at played
    split at played
    · cases played
    next c k next =>
      split at played
      · cases played
      next r s exec =>
        cases played
        exact .call next exec
  | start t e =>
    simp only [play] at played
    split at played
    next done =>
      cases played
      exact .start done
    · cases played

/-- Make the moves of a schedule one after the other, as long as each step passes `check`. -/
def replay (check : History M → M.State → Event M → Bool) :
    List (Move M) → History M → Config M → Option (History M × Config M)
  | [], h, cfg => some (h, cfg)
  | m :: ms, h, cfg =>
    match play cfg m with
    | none => none
    | some (ev, cfg') =>
      if check h cfg.state ev then replay check ms (ev :: h) cfg' else none

/-- A schedule that can be replayed is a run. -/
theorem replay_run {check : History M → M.State → Event M → Bool}
    (checked : ∀ h s ev, check h s ev = true → ok h s ev) {ms : List (Move M)}
    {h h' : History M} {cfg cfg' : Config M} (run : Run ok s₀ h cfg)
    (played : replay check ms h cfg = some (h', cfg')) : Run ok s₀ h' cfg' := by
  induction ms generalizing h cfg with
  | nil => cases played; exact run
  | cons m ms ih =>
    simp only [replay] at played
    split at played
    · cases played
    next ev cfg₁ first =>
      split at played
      next pass => exact ih (.step run (checked _ _ _ pass) (play_step first)) played
      · cases played

/-- The configuration a run starts from. -/
def initial (s₀ : M.State) : Config M := ⟨s₀, fun _ => .ret ()⟩

/-- A condition that can be computed. -/
abbrev meets (check : History M → M.State → Event M → Bool) : Condition M :=
  fun h s ev => check h s ev = true

theorem replay_meets {check : History M → M.State → Event M → Bool} {ms : List (Move M)}
    (played : replay check ms [] (initial s₀) = some (h, cfg)) : Run (meets check) s₀ h cfg :=
  replay_run (fun _ _ _ => id) .init played

end Threads
