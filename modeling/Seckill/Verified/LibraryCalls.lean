import Seckill.Model.LibraryCalls
import Seckill.Verified.OneAnswer

/-! # Requests that are cut short

The `PROCESS` branch with its calls spelled out.  A request gets its one answer exactly where
`mysql_use_result` gives a result whenever it comes to one, and the texts it formats fit: as long as
this goes on, what is said is what a program of whole calls says (`seen`), spelled out.
-/

namespace Seckill

open CStr CallTree CallTree.Prog

abbrev LibReplier := Env LibCall LibCall.Reply

/-- The calls that return if they are answered. -/
def LibCall.Proper : LibCall → Prop
  | .other (.crash _) | .overflow | .nullResult => False
  | .other _ | .sprintf _ | .useResult _ => True

/-- Every call is answered, and the pools have connections to give. -/
structure LibUsable (env : LibReplier) : Prop where
  answers : ∀ past c, c.Proper → ∃ r, env past c = some r
  context : ∀ past, env past (.other (.redis .getOneConnect)) ≠ some none
  handle : ∀ past, env past (.other (.mysql .getOneConnect)) ≠ some none

/-- A reply to `GET` that is not `NULL` carries a string. -/
def LibSaysCount (env : LibReplier) : Prop :=
  ∀ past c r, env past (.other (.redis (.command c .get))) = some (some r) → r.str.isSome

/-- What is said for a request. -/
def requestSaid (env : LibReplier) (this : WorkerId) :
    List (Exchange LibCall LibCall.Reply) × Outcome LibCall Unit :=
  ((proceedAs this .process).through Call.made).drive env []

def libSign : Exchange LibCall LibCall.Reply → Option Sign
  | ⟨.other c, r⟩ => sign ⟨c, r⟩
  | _ => none

/-- The request is served to its end, with one answer. -/
def AnsweredOnce (env : LibReplier) (this : WorkerId) : Prop :=
  (requestSaid env this).2 = .returned () ∧
    Driven this ((requestSaid env this).1.filterMap libSign)

/-- The code goes on after this exchange: the text fits, or there is a result. -/
def GoesOn : Exchange LibCall LibCall.Reply → Prop
  | ⟨.sprintf stmt, _⟩ => stmt.Fits
  | ⟨.useResult _, found⟩ => found = true
  | _ => True

instance : DecidablePred GoesOn
  | ⟨.sprintf stmt, _⟩ => inferInstanceAs (Decidable stmt.Fits)
  | ⟨.useResult _, found⟩ => inferInstanceAs (Decidable (found = true))
  | ⟨.other _, _⟩ | ⟨.overflow, _⟩ | ⟨.nullResult, _⟩ => isTrue trivial

/-! ## As long as it goes on -/

/-- What is said before a call that goes on. -/
def Call.lead : Call → List (Exchange LibCall LibCall.Reply)
  | .mysql (.query _ stmt) => [⟨.sprintf stmt, ()⟩]
  | .mysql (.fetchRows m) => [⟨.useResult m, true⟩]
  | _ => []

def spelled (x : Exchange Call Call.Reply) : List (Exchange LibCall LibCall.Reply) :=
  ⟨.other x.1, x.2⟩ :: x.1.lead

/-- The environment, for a program of whole calls. -/
def seen (env : LibReplier) : Replier :=
  fun past c => env (c.lead ++ past.flatMap spelled) (.other c)

variable {env : LibReplier} {this : WorkerId}

theorem seen_usable (usable : LibUsable env) : Usable (seen env) where
  answers past c proper := by
    have called : (LibCall.other c).Proper := by
      cases c with
      | crash why => exact absurd rfl (proper why)
      | redis c | mysql c | counter c | grpc c => trivial
    exact usable.answers _ _ called
  context _ := usable.context _
  handle _ := usable.handle _

theorem seen_counts (texts : LibSaysCount env) : SaysCount (seen env) :=
  fun _ _ _ answered => texts _ _ _ answered

theorem lead_signs {c : Call} : c.lead.filterMap libSign = [] := by
  cases c with
  | redis c | counter c | grpc c | crash why => rfl
  | mysql c => cases c <;> rfl

/-- What was said with whole calls has the same signs. -/
theorem spelled_signs (said : List (Exchange Call Call.Reply)) :
    (said.flatMap spelled).filterMap libSign = said.filterMap sign := by
  induction said with
  | nil => rfl
  | cons x said ih =>
    obtain ⟨c, r⟩ := x
    have own : (spelled ⟨c, r⟩).filterMap libSign = (sign ⟨c, r⟩).toList := by
      cases shown : sign ⟨c, r⟩ <;> simp [spelled, libSign, shown, lead_signs]
    rw [List.flatMap_cons, List.filterMap_append, ih, own]
    cases shown : sign ⟨c, r⟩ <;> simp [shown]

/-- A call that never returns. -/
theorem crash_stops {α : Type} {c : LibCall} {k : c.Reply → LibCode α}
    {past : List (Exchange LibCall LibCall.Reply)} (never : c.Reply → False) :
    ∃ c', ((Prog.call c k).drive env past).2 = .stopped c' := by
  cases answer : env past c with
  | some r => exact (never r).elim
  | none => exact ⟨c, by rw [drive_unanswered answer]⟩

/-- A call is answered as whole calls are, or the code does not go on. -/
theorem made_carriesOn (usable : LibUsable env) (past : List (Exchange Call Call.Reply)) (c : Call)
    (r : c.Reply) (answered : seen env past c = some r) :
    c.made.CarriesOn env GoesOn (past.flatMap spelled) (spelled ⟨c, r⟩) r := by
  have alone (c : Call) (r : c.Reply) {past : List (Exchange LibCall LibCall.Reply)}
      (answered : env past (.other c) = some r) :
      (libCall (.other c)).CarriesOn env GoesOn past [⟨.other c, r⟩] r :=
    CarriesOn.call (k := .ret) answered trivial .ret
  cases c with
  | redis c | counter c | grpc c | crash why => exact alone _ r answered
  | mysql c =>
    cases c with
    | getOneConnect | close m | autocommit m mode | rollback m | commit m => exact alone _ r answered
    | query m stmt =>
      -- `sprintf` returns; what it wrote fits and is sent, or nothing is defined any more
      obtain ⟨_, formatted⟩ := usable.answers (past.flatMap spelled) (.sprintf stmt) trivial
      show (Prog.call (.sprintf stmt) _).CarriesOn env GoesOn _ ([_] ++ [⟨.sprintf stmt, ()⟩]) r
      by_cases fits : stmt.Fits
      · apply CarriesOn.call formatted fits
        rw [if_pos fits]
        exact alone _ r answered
      · apply CarriesOn.stop formatted fits
        rw [if_neg fits]
        exact crash_stops Empty.elim
    | fetchRows m =>
      -- the rows are read of a result, or `mysql_fetch_row` gets `NULL`
      obtain ⟨found, used⟩ := usable.answers (past.flatMap spelled) (.useResult m) trivial
      show (Prog.call (.useResult m) _).CarriesOn env GoesOn _ ([_] ++ [⟨.useResult m, true⟩]) r
      cases found with
      | true =>
        refine CarriesOn.call used ?_ (alone _ r answered)
        exact rfl
      | false =>
        apply CarriesOn.stop used Bool.false_ne_true
        exact crash_stops Empty.elim

/-- With usable connections a request is served to its end, with one answer, if and only if its
    texts fit and `mysql_use_result` never fails it. -/
theorem one_answer (usable : LibUsable env) (texts : LibSaysCount env) (this : WorkerId) :
    AnsweredOnce env this ↔ ∀ x ∈ (requestSaid env this).1, GoesOn x := by
  obtain ⟨said, driven, served⟩ := process_driven (seen_usable usable) (seen_counts texts) this
  have carries : ((proceedAs this .process).through Call.made).CarriesOn env GoesOn []
      (said.flatMap spelled) () :=
    through_carriesOn (made_carriesOn usable) (by rw [driven, List.append_nil])
  obtain ⟨whole, goes⟩ | ⟨⟨c, stopped⟩, cut⟩ := carries
  · -- it went on to the end, so what was said is the transcript of whole calls, spelled out
    rw [List.append_nil] at whole
    apply iff_of_true
    · refine ⟨congrArg Prod.snd whole, ?_⟩
      rw [requestSaid, whole, spelled_signs]
      exact served
    · rw [requestSaid, whole]
      exact goes
  · apply iff_of_false
    · rintro ⟨returned, _⟩
      cases stopped.symm.trans returned
    · intro goes
      obtain ⟨x, member, bad⟩ := cut
      exact bad (goes x member)

/-! ## Where it stops -/

/-- Everything goes well, but for what `mysql_use_result` says; one user is registered. -/
def politely (found : Bool) (usrName usrKey : Str) : LibReplier
  | _, .sprintf _ => some ()
  | _, .useResult _ => some found
  | _, .other (.redis (.command _ (.hget .usrInfo _))) => some (some (.string usrKey))
  | _, .other (.grpc (.usrname _)) => some usrName
  | _, .other (.grpc (.usrkey _)) => some usrKey
  | _, .other c => polite [] c
  | _, .overflow | _, .nullResult => none

variable {found : Bool} {usrName usrKey : Str}

theorem politely_usable : LibUsable (politely found usrName usrKey) where
  answers past c proper := by
    cases c with
    | sprintf stmt | useResult m => exact ⟨_, rfl⟩
    | overflow | nullResult => exact absurd proper id
    | other c =>
      cases c with
      | crash why => exact absurd proper id
      | redis c =>
        cases c with
        | getOneConnect | close c => exact ⟨_, rfl⟩
        | command c cmd =>
          cases cmd with
          | hget key field => cases key <;> exact ⟨_, rfl⟩
          | _ => exact ⟨_, rfl⟩
      | mysql c | counter c | grpc c => cases c <;> exact ⟨_, rfl⟩
  context := by simp [politely, polite]
  handle := by simp [politely, polite]

theorem politely_counts : LibSaysCount (politely found usrName usrKey) := by
  intro past c r answered
  cases answered
  rfl

theorem one_answer_polite : AnsweredOnce (politely true ['n'] ['k']) 0 :=
  (one_answer politely_usable politely_counts 0).mpr (by decide +kernel)

theorem AnsweredOnce.returns (answered : AnsweredOnce env this) :
    (requestSaid env this).2.returns = true := by
  rw [answered.1]
  rfl

/-- `mysql_use_result` gives nothing after a `SELECT` that went well. -/
def resultless : LibReplier := politely false ['n'] ['k']

/-- The name and the key of the user fill their columns. -/
def longPair : LibReplier := politely true (List.replicate 100 'n') (List.replicate 100 'k')

/-- Neither request is answered. -/
theorem not_answered :
    (LibUsable resultless ∧ LibSaysCount resultless ∧ ¬AnsweredOnce resultless 0) ∧
      LibUsable longPair ∧ LibSaysCount longPair ∧ ¬AnsweredOnce longPair 0 := by
  have none : (requestSaid resultless 0).2.returns = false := by decide +kernel
  have long : (requestSaid longPair 0).2.returns = false := by decide +kernel
  refine ⟨⟨politely_usable, politely_counts, fun answered => ?_⟩,
    politely_usable, politely_counts, fun answered => ?_⟩
  · exact Bool.false_ne_true (none.symm.trans answered.returns)
  · exact Bool.false_ne_true (long.symm.trans answered.returns)

end Seckill
