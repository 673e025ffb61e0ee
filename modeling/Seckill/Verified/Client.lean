import Mathlib.Data.Finset.Card
import Seckill.Lib.Progress
import Seckill.Model.Client
import Seckill.Model.Md5

/-! # The test client counts right

The counters are raised inside `mtx`, so no raise is lost; a thread audits only when it reads
that all have been counted, and from then on nothing is counted any more.  The last thread
to count does read that, so there is an audit; as the comparison is made outside `mtx` there
may be a second one, for which the first has deleted the pool.
-/

namespace Seckill.Client

open CStr CallTree CallTree.Prog Threads

/-! ## Where a thread is -/

/-- From before the request to after the audit; with the value of a counter that was read. -/
inductive Phase where
  | idle
  | asking
  | answered
  | locked
  | raising (n : Int32)
  | raised
  | counting (n : Int32)
  | counted
  | free
  | due
  | auditing (n : Int32)
  | done
  deriving DecidableEq

namespace Phase

/-- Inside the section of `mtx`. -/
def inside : Phase → Bool
  | locked | raising _ | raised | counting _ | counted => true
  | idle | asking | answered | free | due | auditing _ | done => false

/-- Past `++ success_count`, whether it was needed or not. -/
def beyond : Phase → Bool
  | idle | asking | answered | locked | raising _ => false
  | raised | counting _ | counted | free | due | auditing _ | done => true

/-- Past `++ response_count`. -/
def told : Phase → Bool
  | counted | free | due | auditing _ | done => true
  | idle | asking | answered | locked | raising _ | raised | counting _ => false

/-- On the way from `++ response_count` to the audit. -/
def closing : Phase → Bool
  | counted | free | due | auditing _ => true
  | idle | asking | answered | locked | raising _ | raised | counting _ | done => false

theorem told_beyond {p : Phase} (told : p.told = true) : p.beyond = true := by
  cases p <;> first | rfl | cases told

theorem told_begun {p : Phase} (told : p.told = true) : p ≠ .idle ∧ p ≠ .asking := by
  constructor
  · rintro rfl
    cases told
  · rintro rfl
    cases told

end Phase

structure Asker where
  reply : Option Str := none
  phase : Phase := .idle

namespace Asker

/-- The reply says that a unit was sold. -/
def hit (a : Asker) : Bool := a.reply.any fun reply => atoi reply == 1

def raised (a : Asker) : Bool := a.hit && a.phase.beyond

def told (a : Asker) : Bool := a.phase.told

def note (total : Nat) (a : Asker) : (c : ClientCall) → ClientFate → c.Reply → Asker
  | .seckill _ _, _, reply => ⟨some reply, .answered⟩
  | .lock, _, _ => { a with phase := .locked }
  | .unlock, _, _ => { a with phase := .free }
  | .successCount, _, n =>
    { a with phase := if a.phase = .locked then .raising n else .auditing n }
  | .setSuccessCount _, _, _ => { a with phase := .raised }
  | .responseCount, _, n =>
    { a with phase :=
        if a.phase ≠ .free then .counting n else if n = Int32.ofNat total then .due else .done }
  | .setResponseCount _, _, _ => { a with phase := .counted }
  | .checkSeckillInfo _, _, _ => { a with phase := .done }

def Allows (a : Asker) : ClientCall → Prop
  | .seckill _ _ => a.phase = .asking
  | .lock => a.phase = .answered
  | .unlock => a.phase = .counted
  | .successCount => a.phase = .locked ∧ a.hit = true ∨ a.phase = .due
  | .setSuccessCount m => ∃ n, a.phase = .raising n ∧ m = n + 1
  | .responseCount => a.phase = .locked ∧ a.hit = false ∨ a.phase = .raised ∨ a.phase = .free
  | .setResponseCount m => ∃ n, a.phase = .counting n ∧ m = n + 1
  | .checkSeckillInfo m => a.phase = .auditing m

end Asker

variable {generateMD5 : Str → Fin 16 → UInt8} {total : Nat}

abbrev asking (generateMD5 : Str → Fin 16 → UInt8) (total : Nat) :
    Watch (testClient generateMD5 total) where
  Local := Asker
  allowed := Asker.Allows
  note := Asker.note total
  idle := {}
  begin _ := { phase := .asking }
  settled a := a.phase = .idle ∨ a.phase = .done

theorem asking_conforms : (asking generateMD5 total).Conforms := by
  -- from `++ response_count` on
  have rest (a : Asker) (start : a.phase = .locked ∧ a.hit = false ∨ a.phase = .raised) : (do
      client (.setResponseCount ((← client .responseCount) + 1))
      client .unlock
      if (← client .responseCount) = Int32.ofNat total then
        let _ ← client (.checkSeckillInfo (← client .successCount)) : ClientCode Unit).Keeps
          (asking generateMD5 total).toMonitor a fun _ a => a.phase = .idle ∨ a.phase = .done := by
    have inside : a.phase ≠ .free := by
      obtain ⟨locked, _⟩ | raised := start
      · simp [locked]
      · simp [raised]
    refine ⟨start.imp_right Or.inl, fun _ n => ⟨⟨n, if_pos inside, rfl⟩, fun _ _ =>
      ⟨rfl, fun _ _ => ⟨Or.inr (Or.inr rfl), fun _ m => ?_⟩⟩⟩⟩
    show Keeps _ (if m = Int32.ofNat total then _ else _) _ _
    split
    next all =>
      have due : (Asker.note total ⟨a.reply, .free⟩ .responseCount .ok m).phase = .due := by
        simp [Asker.note, all]
      refine ⟨Or.inr due, fun _ k => ⟨?_, fun _ _ => Or.inr rfl⟩⟩
      simp [Asker.note, Asker.Allows, all]
    next some =>
      exact Or.inr (by simp [Asker.note, some])
  refine ⟨Or.inl rfl, fun i => ⟨rfl, fun _ reply => ⟨rfl, fun _ _ => ?_⟩⟩⟩
  split
  next one =>
    have hit : Asker.hit ⟨some reply, .locked⟩ = true := by simpa [Asker.hit] using one
    refine ⟨Or.inl ⟨rfl, hit⟩, fun _ n => ⟨⟨n, rfl, rfl⟩, fun _ _ => ?_⟩⟩
    exact rest _ (Or.inr rfl)
  next other =>
    have miss : Asker.hit ⟨some reply, .locked⟩ = false := by simpa [Asker.hit] using other
    exact rest _ (Or.inl ⟨rfl, miss⟩)

/-! ## Counting threads -/

section Counting

variable {L : Type} {flag : L → Bool} {ls : Nat → L} {l : L} {t : Nat}

/-- How many of the threads have the flag. -/
def tally (total : Nat) (flag : L → Bool) (ls : Nat → L) : Nat :=
  ((Finset.range total).filter fun t => flag (ls t) = true).card

theorem tally_keep (same : flag l = flag (ls t)) :
    tally total flag (Function.update ls t l) = tally total flag ls := by
  simp only [tally, update_eq flag same]

theorem tally_raise (started : t < total) (before : flag (ls t) = false) (after : flag l = true) :
    tally total flag (Function.update ls t l) = tally total flag ls + 1 := by
  have more : (Finset.range total).filter (fun t' => flag (Function.update ls t l t') = true) =
      insert t ((Finset.range total).filter fun t' => flag (ls t') = true) := by
    ext t'
    by_cases own : t' = t
    · subst own
      simp [started, after]
    · simp [own]
  rw [tally, more, Finset.card_insert_of_notMem (by simp [before])]
  rfl

theorem tally_congr {L' : Type} {flag' : L' → Bool} {ls' : Nat → L'}
    (same : ∀ t < total, flag (ls t) = flag' (ls' t)) :
    tally total flag ls = tally total flag' ls' := by
  refine congrArg Finset.card (Finset.filter_congr fun t member => ?_)
  rw [same t (Finset.mem_range.mp member)]

theorem tally_countP : tally total flag ls = (List.range total).countP fun t => flag (ls t) := by
  rw [List.countP_eq_length_filter]
  show ((List.range total).filter fun t => decide (flag (ls t) = true)).length = _
  simp only [Bool.decide_eq_true]

theorem tally_le : tally total flag ls ≤ total := by
  have le := Finset.card_filter_le (Finset.range total) fun t => flag (ls t) = true
  rwa [Finset.card_range] at le

theorem tally_full : tally total flag ls = total ↔ ∀ t < total, flag (ls t) = true := by
  have all := Finset.card_filter_eq_iff (s := Finset.range total) (p := fun t => flag (ls t) = true)
  rw [Finset.card_range] at all
  simpa [tally] using all

end Counting

/-! ## The counters -/

variable {h : History (testClient generateMD5 total)} {cfg : Config (testClient generateMD5 total)}
  {s s' : ClientState} {ls : Nat → Asker} {l : Asker} {t : Nat} {data : Nat → Int}

/-- The reply that thread `t` got. -/
def replyOf (t : Nat) : History (testClient generateMD5 total) → Option Str
  | [] => none
  | .call t' (.seckill _ _) _ reply :: h => if t' = t then some reply else replyOf t h
  | _ :: h => replyOf t h

/-- The values of `success_count` that were audited. -/
def audits : History (testClient generateMD5 total) → List Int32
  | [] => []
  | .call _ (.checkSeckillInfo n) _ _ :: h => n :: audits h
  | _ :: h => audits h

/-- Each thread is started once, with its own part of the data. -/
def once (total : Nat) (data : Nat → Int) (h : History (testClient generateMD5 total))
    (_ : ClientState) : Event (testClient generateMD5 total) → Bool
  | .start t i => decide (t < total) && i == data t && decide (t ∉ crew h)
  | _ => true

/-- All have been counted. -/
def AllTold (total : Nat) (ls : Nat → Asker) : Prop := tally total Asker.told ls = total

/-- What a thread has read is still so; `all` says that all have been counted. -/
structure Current (all : Prop) (s : ClientState) (a : Asker) : Prop where
  replied : a.reply.isSome = true ↔ a.phase ≠ .idle ∧ a.phase ≠ .asking
  raising : ∀ n, a.phase = .raising n → a.hit = true ∧ n = s.successCount
  raised : a.phase = .raised → a.hit = true
  counting : ∀ n, a.phase = .counting n → n = s.responseCount
  due : a.phase = .due → all
  auditing : ∀ n, a.phase = .auditing n → all ∧ n = s.successCount

structure Fair (total : Nat) (h : History (testClient generateMD5 total)) (s : ClientState)
    (ls : Nat → Asker) : Prop where
  mutex : ∀ t, (ls t).phase.inside = true ↔ s.mtx = some t
  success : s.successCount = Int32.ofNat (tally total Asker.raised ls)
  response : s.responseCount = Int32.ofNat (tally total Asker.told ls)
  current : ∀ t, Current (AllTold total ls) s (ls t)
  started : ∀ t, t ∈ crew h ↔ (ls t).phase ≠ .idle
  few : ∀ t ∈ crew h, t < total
  replies : ∀ t, (ls t).reply = replyOf t h
  audits : ∀ n ∈ audits h, AllTold total ls ∧ n = s.successCount
  last : 0 < total → AllTold total ls →
    (∃ t, (ls t).phase.closing = true) ∨ Client.audits h ≠ []

/-- Who is not told yet keeps the others from being all. -/
theorem not_all (started : t < total) (untold : (ls t).told = false) : ¬ AllTold total ls := by
  intro all
  exact absurd (untold.symm.trans (tally_full.mp all t started)) Bool.false_ne_true

/-- Who is inside has the lock to itself. -/
theorem Fair.alone (fair : Fair total h s ls) {t' : Nat} (mine : (ls t).phase.inside = true)
    (theirs : (ls t').phase.inside = true) : t' = t :=
  Option.some.inj (((fair.mutex t').mp theirs).symm.trans ((fair.mutex t).mp mine))

/-- A step that raises no counter. -/
theorem Fair.keep {h' : History (testClient generateMD5 total)} (fair : Fair total h s ls)
    (success : s'.successCount = s.successCount) (response : s'.responseCount = s.responseCount)
    (raised : l.raised = (ls t).raised) (told : l.told = (ls t).told)
    (mutex : ∀ t', (Function.update ls t l t').phase.inside = true ↔ s'.mtx = some t')
    (current : Current (AllTold total ls) s l)
    (started : ∀ t', t' ∈ crew h' ↔ t' ∈ crew h ∨ t' = t) (few : t < total)
    (begun : l.phase ≠ .idle)
    (replies : ∀ t', (Function.update ls t l t').reply = replyOf t' h')
    (audited : ∀ n ∈ Client.audits h', AllTold total ls ∧ n = s.successCount)
    (last : AllTold total ls → (ls t).phase.closing = true →
      l.phase.closing = true ∨ Client.audits h' ≠ [])
    (more : Client.audits h ≠ [] → Client.audits h' ≠ []) :
    Fair total h' s' (Function.update ls t l) := by
  have all : AllTold total (Function.update ls t l) ↔ AllTold total ls := by
    rw [AllTold, AllTold, tally_keep told]
  constructor
  · exact mutex
  · rw [success, tally_keep raised, fair.success]
  · rw [response, tally_keep told, fair.response]
  · have kept {a : Asker} (current : Current (AllTold total ls) s a) :
        Current (AllTold total (Function.update ls t l)) s' a := by
      obtain ⟨replied, raising, raised, counting, due, auditing⟩ := current
      rw [propext all]
      exact ⟨replied, success ▸ raising, raised, response ▸ counting, due, success ▸ auditing⟩
    exact forall_update (fun t' => kept (fair.current t')) (kept current)
  · intro t'
    rw [started]
    by_cases own : t' = t
    · subst own
      simpa using begun
    · simpa [own] using fair.started t'
  · intro t' member
    obtain before | rfl := (started t').mp member
    · exact fair.few t' before
    · exact few
  · exact replies
  · rw [success, propext all]
    exact audited
  · -- whoever was to make the audit still is, or this call made it
    rw [propext all]
    intro some full
    obtain ⟨t', closing⟩ | before := fair.last some full
    · by_cases own : t' = t
      · subst own
        exact (last full closing).imp_left fun closing => ⟨t', by rwa [Function.update_self]⟩
      · exact Or.inl ⟨t', by rwa [Function.update_of_ne own]⟩
    · exact Or.inr (more before)

/-! ## One call of one thread -/

/-- A call of a thread between its reply and its end that raises no counter. -/
theorem Fair.pass {c : ClientCall} {f : ClientFate} {r : c.Reply} {p : Phase}
    (fair : Fair total h s ls) (begun : (ls t).phase ≠ .idle) (asked : (ls t).phase ≠ .asking)
    (quiet : ∀ t', replyOf t' (.call t c f r :: h) = replyOf t' h)
    (success : s'.successCount = s.successCount) (response : s'.responseCount = s.responseCount)
    (raised : ((ls t).hit && p.beyond) = (ls t).raised) (told : p.told = (ls t).told)
    (mutex : ∀ t', (Function.update ls t { ls t with phase := p } t').phase.inside = true ↔
      s'.mtx = some t')
    (current : Current (AllTold total ls) s { ls t with phase := p })
    (audited : ∀ n ∈ Client.audits (.call t c f r :: h), AllTold total ls ∧ n = s.successCount)
    (last : AllTold total ls → (ls t).phase.closing = true →
      p.closing = true ∨ Client.audits (.call t c f r :: h) ≠ [])
    (more : Client.audits h ≠ [] → Client.audits (.call t c f r :: h) ≠ []) :
    Fair total (.call t c f r :: h) s' (Function.update ls t { ls t with phase := p }) := by
  have member : t ∈ crew h := (fair.started t).mpr begun
  have onward : p ≠ .idle := by
    have some : (ls t).reply.isSome = true := (fair.current t).replied.mpr ⟨begun, asked⟩
    exact (current.replied.mp some).1
  refine fair.keep success response raised told mutex current (fun t' => ?_) (fair.few t member)
    onward (fun t' => ?_) audited last more
  · exact ⟨Or.inl, fun known => known.elim id fun own => own ▸ member⟩
  · have same : ({ ls t with phase := p } : Asker).reply = (ls t).reply := rfl
    rw [quiet, ← fair.replies t']
    exact update_eq Asker.reply same t'

theorem mutex_update {t' : Nat} (mutex : ∀ t, (ls t).phase.inside = true ↔ s.mtx = some t)
    (same : l.phase.inside = (ls t).phase.inside) :
    (Function.update ls t l t').phase.inside = true ↔ s.mtx = some t' := by
  rw [update_eq (fun a : Asker => a.phase.inside) same]
  exact mutex t'

/-- A call that locks or unlocks nothing. -/
theorem Fair.stay {c : ClientCall} {f : ClientFate} {r : c.Reply} {p : Phase}
    (fair : Fair total h s ls) (begun : (ls t).phase ≠ .idle) (asked : (ls t).phase ≠ .asking)
    (quiet : ∀ t', replyOf t' (.call t c f r :: h) = replyOf t' h)
    (raised : ((ls t).hit && p.beyond) = (ls t).raised) (told : p.told = (ls t).told)
    (inside : p.inside = (ls t).phase.inside)
    (current : Current (AllTold total ls) s { ls t with phase := p })
    (audited : ∀ n ∈ Client.audits (.call t c f r :: h), AllTold total ls ∧ n = s.successCount)
    (last : AllTold total ls → (ls t).phase.closing = true →
      p.closing = true ∨ Client.audits (.call t c f r :: h) ≠ [])
    (more : Client.audits h ≠ [] → Client.audits (.call t c f r :: h) ≠ []) :
    Fair total (.call t c f r :: h) s (Function.update ls t { ls t with phase := p }) :=
  fair.pass begun asked quiet rfl rfl raised told (fun _ => mutex_update fair.mutex inside) current
    audited last more

/-- A call of a thread that has been counted and is out of the section of `mtx`. -/
theorem Fair.late {c : ClientCall} {f : ClientFate} {r : c.Reply} {p : Phase}
    (fair : Fair total h s ls) (before : (ls t).phase.told = true) (after : p.told = true)
    (outside : (ls t).phase.inside = false) (outside' : p.inside = false)
    (quiet : ∀ t', replyOf t' (.call t c f r :: h) = replyOf t' h)
    (due : p = .due → AllTold total ls)
    (auditing : ∀ n, p = .auditing n → AllTold total ls ∧ n = s.successCount)
    (audited : ∀ n ∈ Client.audits (.call t c f r :: h), AllTold total ls ∧ n = s.successCount)
    (last : AllTold total ls → (ls t).phase.closing = true →
      p.closing = true ∨ Client.audits (.call t c f r :: h) ≠ [])
    (more : Client.audits h ≠ [] → Client.audits (.call t c f r :: h) ≠ []) :
    Fair total (.call t c f r :: h) s (Function.update ls t { ls t with phase := p }) := by
  obtain ⟨begun, asked⟩ := Phase.told_begun before
  refine fair.stay begun asked quiet ?raised (after.trans before.symm)
    (outside'.trans outside.symm) ?current audited last more
  case raised => rw [Phase.told_beyond after, Asker.raised, Phase.told_beyond before]
  case current =>
    have some : (ls t).reply.isSome = true := (fair.current t).replied.mpr ⟨begun, asked⟩
    refine ⟨iff_of_true some (Phase.told_begun after), ?_, ?_, ?_, due, auditing⟩
    · rintro n rfl
      cases after
    · rintro rfl
      cases after
    · rintro n rfl
      cases after

theorem fair_seckill {usrName usrKey : Str} {f : ClientFate} {reply : Str}
    (fair : Fair total h s ls) (asking : (ls t).phase = .asking) :
    Fair total (.call t (.seckill usrName usrKey) f reply :: h) s
      (Function.update ls t ⟨some reply, .answered⟩) := by
  have member : t ∈ crew h := (fair.started t).mpr (by simp [asking])
  refine fair.keep rfl rfl ?raised ?told ?mutex ?current ?started (fair.few t member) nofun ?replies
    fair.audits ?last id
  case raised => simp [Asker.raised, asking, Phase.beyond]
  case told => simp [Asker.told, asking, Phase.told]
  case mutex => exact fun _ => mutex_update fair.mutex (by rw [asking]; rfl)
  case current => constructor <;> simp
  case started => exact fun t' => ⟨Or.inl, fun known => known.elim id fun own => own ▸ member⟩
  case replies =>
    intro t'
    by_cases own : t' = t
    · subst own
      rw [Function.update_self]
      exact (if_pos rfl).symm
    · rw [Function.update_of_ne own, fair.replies]
      exact (if_neg fun eq => own eq.symm).symm
  case last =>
    intro _ closing
    rw [asking] at closing
    cases closing

theorem fair_lock {f : ClientFate} (fair : Fair total h s ls) (answered : (ls t).phase = .answered)
    (free : s.mtx = none) :
    Fair total (.call t .lock f () :: h) { s with mtx := some t }
      (Function.update ls t { ls t with phase := .locked }) := by
  refine fair.pass (by simp [answered]) (by simp [answered]) (fun _ => rfl) rfl rfl ?raised ?told
    ?mutex ?current fair.audits ?last id
  case raised => simp [Asker.raised, answered, Phase.beyond]
  case told => simp [Asker.told, answered, Phase.told]
  case mutex =>
    intro t'
    by_cases own : t' = t
    · subst own
      simp [Phase.inside]
    · have before := fair.mutex t'
      rw [free] at before
      simpa [own, Ne.symm own] using before
  case current =>
    have some : (ls t).reply.isSome = true := (fair.current t).replied.mpr (by simp [answered])
    exact ⟨by simp [some], nofun, nofun, nofun, nofun, nofun⟩
  case last =>
    intro _ closing
    rw [answered] at closing
    cases closing

theorem fair_unlock {f : ClientFate} (fair : Fair total h s ls) (counted : (ls t).phase = .counted) :
    Fair total (.call t .unlock f () :: h) { s with mtx := none }
      (Function.update ls t { ls t with phase := .free }) := by
  refine fair.pass (by simp [counted]) (by simp [counted]) (fun _ => rfl) rfl rfl ?raised ?told
    ?mutex ?current fair.audits ?last id
  case raised => simp [Asker.raised, counted, Phase.beyond]
  case told => simp [Asker.told, counted, Phase.told]
  case mutex =>
    intro t'
    by_cases own : t' = t
    · subst own
      simp [Phase.inside]
    · have held : s.mtx = some t := (fair.mutex t).mp (by rw [counted]; rfl)
      have before := fair.mutex t'
      rw [held] at before
      simpa [own, Ne.symm own] using before
  case current =>
    have some : (ls t).reply.isSome = true := (fair.current t).replied.mpr (by simp [counted])
    exact ⟨by simp [some], nofun, nofun, nofun, nofun, nofun⟩
  case last => exact fun _ _ => Or.inl rfl

theorem fair_successCount {f : ClientFate} (fair : Fair total h s ls)
    (allowed : (ls t).phase = .locked ∧ (ls t).hit = true ∨ (ls t).phase = .due) :
    Fair total (.call t .successCount f s.successCount :: h) s
      (Function.update ls t (Asker.note total (ls t) .successCount f s.successCount)) := by
  obtain ⟨locked, hit⟩ | due := allowed
  · have some : (ls t).reply.isSome = true := (fair.current t).replied.mpr (by simp [locked])
    simp only [Asker.note, locked, if_pos]
    refine fair.stay (by simp [locked]) (by simp [locked]) (fun _ => rfl) ?raised ?told ?inside
      ?current fair.audits ?last id
    case raised => simp [Asker.raised, locked, Phase.beyond]
    case told => simp [Asker.told, locked, Phase.told]
    case inside => simp [locked, Phase.inside]
    case current =>
      refine ⟨by simp [some], ?_, nofun, nofun, nofun, nofun⟩
      rintro n ⟨⟩
      exact ⟨hit, rfl⟩
    case last =>
      intro _ closing
      rw [locked] at closing
      cases closing
  · -- no thread raises it any more, so the audit gets what is read here
    have outside : ¬ (ls t).phase = .locked := by simp [due]
    simp only [Asker.note, if_neg outside]
    refine fair.late (by rw [due]; rfl) rfl (by rw [due]; rfl) rfl (fun _ => rfl) nofun ?auditing
      fair.audits (fun _ _ => Or.inl rfl) id
    case auditing =>
      rintro n ⟨⟩
      exact ⟨(fair.current t).due due, rfl⟩

/-- `response_count` says when all have been counted. -/
theorem Fair.all_iff (fair : Fair total h s ls) (small : total < 2147483648) :
    s.responseCount = Int32.ofNat total ↔ AllTold total ls := by
  have below : tally total Asker.told ls ≤ total := tally_le
  rw [fair.response, AllTold]
  constructor
  · intro same
    have equal := congrArg Int32.toInt same
    rw [Int32.toInt_ofNat_of_lt (by omega), Int32.toInt_ofNat_of_lt (by omega)] at equal
    omega
  · intro all
    rw [all]

theorem fair_responseCount {f : ClientFate} (fair : Fair total h s ls) (small : total < 2147483648)
    (allowed : (ls t).phase = .locked ∧ (ls t).hit = false ∨ (ls t).phase = .raised ∨
      (ls t).phase = .free) :
    Fair total (.call t .responseCount f s.responseCount :: h) s
      (Function.update ls t (Asker.note total (ls t) .responseCount f s.responseCount)) := by
  -- the read of `++ response_count`
  have counting (inside : (ls t).phase.inside = true) (asked : (ls t).phase ≠ .asking)
      (raised : (ls t).hit = (ls t).raised) (untold : (ls t).told = false) :
      Fair total (.call t .responseCount f s.responseCount :: h) s
        (Function.update ls t (Asker.note total (ls t) .responseCount f s.responseCount)) := by
    have busy : (ls t).phase ≠ .free := by
      intro free
      rw [free] at inside
      cases inside
    have begun : (ls t).phase ≠ .idle := by
      intro idle
      rw [idle] at inside
      cases inside
    simp only [Asker.note, if_pos busy]
    refine fair.stay begun asked (fun _ => rfl) ?raised untold.symm inside.symm ?current fair.audits
      ?last id
    case raised =>
      have beyond : (Phase.counting s.responseCount).beyond = true := rfl
      rw [← raised, beyond, Bool.and_true]
    case current =>
      have some : (ls t).reply.isSome = true := (fair.current t).replied.mpr ⟨begun, asked⟩
      refine ⟨by simp [some], nofun, nofun, ?_, nofun, nofun⟩
      rintro n ⟨⟩
      rfl
    case last =>
      intro all _
      exact absurd all (not_all (fair.few t ((fair.started t).mpr begun)) untold)
  obtain ⟨locked, miss⟩ | raised | free := allowed
  · exact counting (by simp [locked, Phase.inside]) (by simp [locked]) (by simp [Asker.raised, miss])
      (by simp [Asker.told, locked, Phase.told])
  · exact counting (by simp [raised, Phase.inside]) (by simp [raised])
      (by simp [Asker.raised, raised, Phase.beyond]) (by simp [Asker.told, raised, Phase.told])
  · -- the read of the comparison, which nobody guards
    have outside : ¬ (ls t).phase ≠ .free := by simp [free]
    simp only [Asker.note, if_neg outside]
    split
    next same =>
      exact fair.late (by rw [free]; rfl) rfl (by rw [free]; rfl) rfl (fun _ => rfl)
        (fun _ => (fair.all_iff small).mp same) nofun fair.audits (fun _ _ => Or.inl rfl) id
    next other =>
      exact fair.late (by rw [free]; rfl) rfl (by rw [free]; rfl) rfl (fun _ => rfl) nofun nofun
        fair.audits (fun all _ => absurd ((fair.all_iff small).mpr all) other) id

theorem fair_check {n : Int32} {f : ClientFate} {verdict : Bool} (fair : Fair total h s ls)
    (auditing : (ls t).phase = .auditing n) :
    Fair total (.call t (.checkSeckillInfo n) f verdict :: h) s
      (Function.update ls t { ls t with phase := .done }) := by
  refine fair.late (by rw [auditing]; rfl) rfl (by rw [auditing]; rfl) rfl (fun _ => rfl) nofun
    nofun ?audited ?last ?more
  case audited =>
    intro m member
    obtain rfl | before := List.mem_cons.mp member
    · exact (fair.current t).auditing m auditing
    · exact fair.audits m before
  case last => exact fun _ _ => Or.inr (List.cons_ne_nil _ _)
  case more => exact fun _ => List.cons_ne_nil _ _

/-- What the others have read is not touched by who raises a counter: none of them is inside, and
    none has read that all are counted. -/
theorem Fair.others {all : Prop} {t' : Nat} (fair : Fair total h s ls)
    (inside : (ls t).phase.inside = true) (few : ¬ AllTold total ls) (other : t' ≠ t) :
    Current all s' (ls t') := by
  have outside : ¬ (ls t').phase.inside = true := fun theirs => other (fair.alone inside theirs)
  obtain ⟨replied, raising, raised, counting, due, auditing⟩ := fair.current t'
  constructor
  · exact replied
  · exact fun n phase => absurd (by rw [phase]; rfl) outside
  · exact raised
  · exact fun n phase => absurd (by rw [phase]; rfl) outside
  · exact fun phase => absurd (due phase) few
  · exact fun n phase => absurd (auditing n phase).1 few

theorem Fair.unaudited (fair : Fair total h s ls) (few : ¬ AllTold total ls) :
    Client.audits h = [] :=
  List.eq_nil_iff_forall_not_mem.mpr fun n member => few (fair.audits n member).1

/-- Who raises a counter inside the section of `mtx` is the only one to. -/
theorem Fair.raise {c : ClientCall} {f : ClientFate} {r : c.Reply} {p : Phase}
    (fair : Fair total h s ls) (inside : (ls t).phase.inside = true)
    (untold : (ls t).told = false) (still : p.inside = true)
    (quiet : ∀ t', replyOf t' (.call t c f r :: h) = replyOf t' h)
    (silent : Client.audits (.call t c f r :: h) = Client.audits h) (held : s'.mtx = s.mtx)
    (success : s'.successCount = Int32.ofNat
      (tally total Asker.raised (Function.update ls t { ls t with phase := p })))
    (response : s'.responseCount = Int32.ofNat
      (tally total Asker.told (Function.update ls t { ls t with phase := p })))
    (current : Current (AllTold total (Function.update ls t { ls t with phase := p })) s'
      { ls t with phase := p })
    (last : AllTold total (Function.update ls t { ls t with phase := p }) → p.closing = true) :
    Fair total (.call t c f r :: h) s' (Function.update ls t { ls t with phase := p }) := by
  have begun : (ls t).phase ≠ .idle := by
    intro idle
    rw [idle] at inside
    cases inside
  have onward : p ≠ .idle := by
    rintro rfl
    cases still
  -- this thread was not counted yet, so not all were
  have few : ¬ AllTold total ls := not_all (fair.few t ((fair.started t).mpr begun)) untold
  constructor
  · rw [held]
    exact fun t' => mutex_update fair.mutex (still.trans inside.symm)
  · exact success
  · exact response
  · -- nobody else is inside, so nobody else has a value that is now old
    intro t'
    by_cases own : t' = t
    · subst own
      rwa [Function.update_self]
    · rw [Function.update_of_ne own]
      exact fair.others inside few own
  · intro t'
    by_cases own : t' = t
    · subst own
      rw [Function.update_self]
      exact iff_of_true ((fair.started t').mpr begun) onward
    · rw [Function.update_of_ne own]
      exact fair.started t'
  · exact fair.few
  · intro t'
    have same : ({ ls t with phase := p } : Asker).reply = (ls t).reply := rfl
    rw [quiet, ← fair.replies t']
    exact update_eq Asker.reply same t'
  · rw [silent, fair.unaudited few]
    exact nofun
  · intro _ all
    exact Or.inl ⟨t, by rw [Function.update_self]; exact last all⟩

theorem fair_setSuccessCount {n : Int32} {f : ClientFate} (fair : Fair total h s ls)
    (raising : (ls t).phase = .raising n) :
    Fair total (.call t (.setSuccessCount (n + 1)) f () :: h) { s with successCount := n + 1 }
      (Function.update ls t { ls t with phase := .raised }) := by
  obtain ⟨hit, read⟩ := (fair.current t).raising n raising
  have member : t ∈ crew h := (fair.started t).mpr (by simp [raising])
  have untold : (ls t).told = false := by simp [Asker.told, raising, Phase.told]
  have told : ({ ls t with phase := .raised } : Asker).told = (ls t).told := untold.symm
  refine fair.raise (by rw [raising]; rfl) untold rfl (fun _ => rfl) rfl rfl ?success ?response
    ?current ?last
  case success =>
    have before : (ls t).raised = false := by simp [Asker.raised, raising, Phase.beyond]
    have after : ({ ls t with phase := .raised } : Asker).raised = true := by
      have same : ({ ls t with phase := .raised } : Asker).hit = (ls t).hit := rfl
      rw [Asker.raised, same, hit]
      rfl
    rw [tally_raise (fair.few t member) before after, Int32.ofNat_add, ← fair.success, ← read]
    rfl
  case response =>
    rw [tally_keep told]
    exact fair.response
  case current =>
    have some : (ls t).reply.isSome = true := (fair.current t).replied.mpr (by simp [raising])
    exact ⟨by simp [some], nofun, fun _ => hit, nofun, nofun, nofun⟩
  case last =>
    intro all
    rw [AllTold, tally_keep told] at all
    exact absurd all (not_all (fair.few t member) untold)

theorem fair_setResponseCount {n : Int32} {f : ClientFate} (fair : Fair total h s ls)
    (counting : (ls t).phase = .counting n) :
    Fair total (.call t (.setResponseCount (n + 1)) f () :: h) { s with responseCount := n + 1 }
      (Function.update ls t { ls t with phase := .counted }) := by
  have read := (fair.current t).counting n counting
  have member : t ∈ crew h := (fair.started t).mpr (by simp [counting])
  have untold : (ls t).told = false := by simp [Asker.told, counting, Phase.told]
  refine fair.raise (by rw [counting]; rfl) untold rfl (fun _ => rfl) rfl rfl ?success ?response
    ?current ?last
  case success =>
    have same : ({ ls t with phase := .counted } : Asker).raised = (ls t).raised := by
      simp [Asker.raised, counting, Phase.beyond]
      rfl
    rw [tally_keep same]
    exact fair.success
  case response =>
    rw [tally_raise (fair.few t member) untold rfl, Int32.ofNat_add, ← fair.response, ← read]
    rfl
  case current =>
    have some : (ls t).reply.isSome = true := (fair.current t).replied.mpr (by simp [counting])
    exact ⟨by simp [some], nofun, nofun, nofun, nofun, nofun⟩
  case last => exact fun _ => rfl

theorem fair_start {i : Int} (fair : Fair total h s ls) (few : t < total) (new : t ∉ crew h) :
    Fair total (.start t i :: h) s (Function.update ls t { phase := .asking }) := by
  have idle : (ls t).phase = .idle := by
    by_contra begun
    exact new ((fair.started t).mpr begun)
  have unreplied : (ls t).reply = none := by
    have none := (fair.current t).replied.not.mpr (by simp [idle])
    simpa using none
  refine fair.keep rfl rfl ?raised ?told ?mutex ?current ?started few nofun ?replies fair.audits
    ?last id
  case raised => simp [Asker.raised, idle, Phase.beyond]
  case told => simp [Asker.told, idle, Phase.told]
  case mutex => exact fun _ => mutex_update fair.mutex (by rw [idle]; rfl)
  case current => constructor <;> simp
  case started =>
    intro t'
    simp [crew, or_comm]
  case replies =>
    intro t'
    show _ = replyOf t' h
    rw [← fair.replies t']
    exact update_eq Asker.reply unreplied.symm t'
  case last =>
    intro _ closing
    rw [idle] at closing
    cases closing

/-- The invariant of the client: its counters are the numbers of threads that have raised them. -/
theorem fair (small : total < 2147483648) (run : Run (meets (once total data)) {} h cfg) :
    Fair total h cfg.state (locals (asking generateMD5 total) h) := by
  refine @Run.invariant _ _ _ _ _ _ _ (asking generateMD5 total)
    (fun h s ls => Fair total h s ls) asking_conforms ?initial ?call ?start run
  case initial =>
    have raised : tally total Asker.raised (fun _ => {}) = 0 := by
      simp [tally, Asker.raised, Asker.hit]
    have told : tally total Asker.told (fun _ => {}) = 0 := by
      simp [tally, Asker.told, Phase.told]
    constructor
    · simp [Phase.inside]
    · exact congrArg Int32.ofNat raised.symm
    · exact congrArg Int32.ofNat told.symm
    · exact fun _ => ⟨by simp, nofun, nofun, nofun, nofun, nofun⟩
    · simp [crew]
    · simp [crew]
    · exact fun _ => rfl
    · simp [audits]
    · intro some all
      exact absurd (told.symm.trans all) (Nat.ne_of_lt some)
  case start =>
    intro h cfg t i _ inv allowed _
    have allowed : once total data h cfg.state (.start t i) = true := allowed
    simp only [once, Bool.and_eq_true, decide_eq_true_eq] at allowed
    exact fair_start inv allowed.1.1 allowed.2
  case call =>
    intro h cfg t c f r s run inv _ allowed exec
    have allowed : (locals (asking generateMD5 total) h t).Allows c := allowed
    cases c with
    | seckill usrName usrKey =>
      cases f with
      | replied reply =>
        cases exec
        exact fair_seckill inv allowed
      | ok | verdict isnormol => cases exec
    | lock =>
      cases f with
      | ok =>
        have exec : (if cfg.state.mtx = none then some ((), { cfg.state with mtx := some t })
          else none) = some (r, s) := exec
        split at exec
        next free =>
          cases exec
          exact fair_lock inv allowed free
        next => cases exec
      | replied reply | verdict isnormol => cases exec
    | unlock =>
      cases f with
      | ok =>
        cases exec
        exact fair_unlock inv allowed
      | replied reply | verdict isnormol => cases exec
    | successCount =>
      cases f with
      | ok =>
        cases exec
        exact fair_successCount inv allowed
      | replied reply | verdict isnormol => cases exec
    | setSuccessCount n =>
      obtain ⟨n, raising, rfl⟩ := allowed
      cases f with
      | ok =>
        cases exec
        exact fair_setSuccessCount inv raising
      | replied reply | verdict isnormol => cases exec
    | responseCount =>
      cases f with
      | ok =>
        cases exec
        exact fair_responseCount inv small allowed
      | replied reply | verdict isnormol => cases exec
    | setResponseCount n =>
      obtain ⟨n, counting, rfl⟩ := allowed
      cases f with
      | ok =>
        cases exec
        exact fair_setResponseCount inv counting
      | replied reply | verdict isnormol => cases exec
    | checkSeckillInfo n =>
      cases f with
      | verdict isnormol =>
        cases exec
        exact fair_check inv allowed
      | ok | replied reply => cases exec

/-! ## The audits -/

/-- How many of the threads were told that a unit was sold. -/
def successes (total : Nat) (h : History (testClient generateMD5 total)) : Nat :=
  tally total (fun reply : Option Str => reply.any fun reply => atoi reply == 1) fun t => replyOf t h

/-- All threads were started and have returned. -/
def AllReturned (total : Nat) (h : History (testClient generateMD5 total))
    (cfg : Config (testClient generateMD5 total)) : Prop :=
  ∀ t < total, t ∈ crew h ∧ cfg.prog t = .ret ()

/-- An audit is of the number of threads that were told of a sale, when all have their reply. -/
theorem audited (small : total < 2147483648) (run : Run (meets (once total data)) {} h cfg) :
    ∀ n ∈ audits h, (∀ t < total, (replyOf t h).isSome = true) ∧ n.toInt = successes total h := by
  intro n member
  have fair := fair small run
  obtain ⟨all, read⟩ := fair.audits n member
  have told : ∀ t < total, ((locals (asking generateMD5 total) h) t).told = true :=
    tally_full.mp all
  have replied : ∀ t < total, (replyOf t h).isSome = true := by
    intro t started
    have past := told t started
    rw [← fair.replies t, (fair.current t).replied]
    constructor
    · intro idle
      simp [Asker.told, idle, Phase.told] at past
    · intro asking
      simp [Asker.told, asking, Phase.told] at past
  have same : tally total Asker.raised (locals (asking generateMD5 total) h) =
      successes total h := by
    refine tally_congr fun t started => ?_
    rw [Asker.raised, Phase.told_beyond (told t started), Bool.and_true, Asker.hit, fair.replies]
  have below : successes total h ≤ total := tally_le
  exact ⟨replied, by rw [read, fair.success, same, Int32.toInt_ofNat_of_lt (by omega)]⟩

/-- The last thread that counts audits. -/
theorem last_audits (small : total < 2147483648) (run : Run (meets (once total data)) {} h cfg)
    (some : 0 < total) (finished : AllReturned total h cfg) : audits h ≠ [] := by
  have fair := fair small run
  have done : ∀ t < total, ((locals (asking generateMD5 total) h) t).phase = .done := by
    intro t few
    obtain ⟨started, returned⟩ := finished t few
    obtain idle | done := run.settled asking_conforms returned
    · exact absurd idle ((fair.started t).mp started)
    · exact done
  have all : AllTold total (locals (asking generateMD5 total) h) := by
    apply tally_full.mpr
    intro t few
    rw [Asker.told, done t few]
    rfl
  obtain ⟨t, closing⟩ | audited := fair.last some all
  · have begun : ((locals (asking generateMD5 total) h) t).phase ≠ .idle := by
      intro idle
      rw [idle] at closing
      cases closing
    rw [done t (fair.few t ((fair.started t).mpr begun))] at closing
    cases closing
  · exact audited

/-- However the threads interleave and whatever is replied, the client's audits are of the right
    number, and there is one before the last thread returns. -/
theorem audits_fair (small : total < 2147483648) (run : Run (meets (once total data)) {} h cfg) :
    (∀ n ∈ audits h,
      (∀ t < total, (replyOf t h).isSome = true) ∧ n.toInt = successes total h) ∧
      (0 < total → AllReturned total h cfg → audits h ≠ []) :=
  ⟨audited small run, last_audits small run⟩

/-- The digest of a text of one-byte characters, as `GenerateMD5` leaves it in `m_data`. -/
def digest (text : Str) (i : Fin 16) : UInt8 :=
  (Md5.generateMD5 (List.replicate 64 0) (text.map fun c => UInt8.ofNat c.toNat)).getD i 0

def returned {α : Type} : ClientCode α → Bool
  | .ret _ => true
  | .call _ _ => false

theorem returned_ret {p : ClientCode Unit} (returns : returned p = true) : p = .ret () := by
  cases p with
  | ret => rfl
  | call c k => cases returns

/-- A thread's calls up to its `mtx.unlock()`, with the `++ success_count` of the reply "1". -/
def asks (t : Nat) (i : Int) (reply : Str) (calls : Nat) : List (Move (testClient digest 2)) :=
  [.start t i, .go t (.replied reply)] ++ List.replicate calls (.go t .ok)

/-- Users 7 and 8 ask, one of them gets a unit, and both threads audit. -/
theorem audits_fair_two :
    ∃ (h : History (testClient digest 2)) (cfg : Config (testClient digest 2)),
      Run (meets (once 2 fun t => t + 7)) {} h cfg ∧ audits h = [1, 1] ∧
      (∀ n ∈ audits h, (∀ t < 2, (replyOf t h).isSome = true) ∧ n.toInt = successes 2 h) ∧
        AllReturned 2 h cfg ∧ (0 < 2 → AllReturned 2 h cfg → audits h ≠ []) := by
  have ran : ((replay (once 2 fun t => t + 7) (asks 0 7 ['1'] 6 ++ asks 1 8 ['0'] 4 ++
      [.go 0 .ok, .go 0 .ok, .go 1 .ok, .go 1 .ok, .go 0 (.verdict true), .go 1 (.verdict true)]) []
        (initial {})).any fun x => audits x.1 == [1, 1] && (List.range 2).all fun t =>
          decide (t ∈ crew x.1) && returned (x.2.prog t)) = true := by decide +kernel
  obtain ⟨⟨h, cfg⟩, played, after⟩ := (Option.any_eq_true _ _).mp ran
  simp only [Bool.and_eq_true, beq_iff_eq, List.all_eq_true, decide_eq_true_eq] at after
  have run : Run (meets (once 2 fun t => t + 7)) {} h cfg := replay_meets played
  have finished : AllReturned 2 h cfg := by
    intro t few
    obtain ⟨started, returns⟩ := after.2 t (List.mem_range.mpr few)
    exact ⟨started, returned_ret returns⟩
  obtain ⟨right, last⟩ := audits_fair (by decide) run
  exact ⟨h, cfg, run, after.1, right, finished, last⟩

end Seckill.Client
