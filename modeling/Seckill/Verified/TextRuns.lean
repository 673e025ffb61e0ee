import Seckill.Verified.Requests
import Seckill.Verified.Texts
import Seckill.Verified.Vouchers

/-! # Runs on texts

A run of the server whose statements reach MySQL as texts.  The threads format the name and the key
of the request that was delivered to them; so where those are verbatim MySQL reads every statement
as it is meant, and the runs are those of the server on statements.
-/

namespace Seckill

open CStr CallTree SqlText Threads

variable {ok : Condition server} {st : Stores} {h : History server} {cfg : Config server}
  {l : Local} {t : Nat} {m : SessId} {q : Request}

/-! ## What a thread has read -/

/-- The object of a thread at work is that of the request it serves. -/
theorem serving_object {w : WorkerId} {x : WorkerObj} (run : Run ok (boot st) h cfg)
    (worker : (locals watch h t).job.worker = some w)
    (process : (locals watch h t).job.branch = some .process)
    (found : cfg.state.grpc.worker w = some x) :
    serving t h = some ⟨w, x.usrname, x.usrkey⟩ := by
  obtain ⟨x', found', fits⟩ := ((objects run).own t).worker w worker
  obtain rfl := Option.some.inj (found.symm.trans found')
  obtain ⟨⟨usrname, usrkey⟩, request, fits⟩ := fits.process process
  rw [serving_eq run]
  simp only [Task.serving, worker, request, fits.usrname, fits.usrkey]

/-- The name and the key that a thread has read are those of the request it serves. -/
structure HasRead (served : Option Request) (v : Voucher) : Prop where
  name : ∀ name, v.name = some name → ∃ q, served = some q ∧ q.usrname = name
  key : ∀ key, v.key = some key → ∃ q, served = some q ∧ q.usrkey = key

theorem hasRead_new {served : Option Request} : HasRead served {} := ⟨nofun, nofun⟩

/-- Only calls of gRPC change what a thread has read. -/
theorem Voucher.note_request {v : Voucher} {c : Call} {f : Fate} {r : c.Reply}
    (other : ∀ g, c ≠ .grpc g) : (v.note c f r).name = v.name ∧ (v.note c f r).key = v.key := by
  unfold Voucher.note
  split <;> first | exact ⟨rfl, rfl⟩ | exact absurd rfl (other _)

theorem serving_silent {c : Call} {f : Fate} {r : c.Reply} (other : ∀ g, c ≠ .grpc g) :
    serving t (.call t c f r :: h) = serving t h := by
  cases c with
  | grpc g => exact absurd rfl (other g)
  | redis c | mysql c | counter c | crash why => rfl

theorem hasRead (run : Run ok (boot st) h cfg) : ∀ t, HasRead (serving t h) (locals vouching h t) := by
  have same {h : History server} {t : Nat} {c : Call} {f : Fate} {r : c.Reply}
      (inv : ∀ t, HasRead (serving t h) (locals vouching h t)) (other : ∀ g, c ≠ .grpc g) (t' : Nat) :
      HasRead (serving t' (.call t c f r :: h)) (locals vouching (.call t c f r :: h) t') := by
    rw [locals_call]
    by_cases own : t' = t
    · subst own
      obtain ⟨name, key⟩ := (locals vouching h t').note_request (f := f) (r := r) other
      rw [Function.update_self, serving_silent other]
      exact ⟨fun n read => (inv t').name n (name ▸ read), fun k read => (inv t').key k (key ▸ read)⟩
    · rw [Function.update_of_ne own, serving_other own]
      exact inv t'
  refine server_invariant (fun h _ _ => ∀ t, HasRead (serving t h) (locals vouching h t))
    ?initial ?redis ?mysql ?counter ?grpc ?start run
  case initial => exact fun _ => hasRead_new
  case redis => exact fun _ inv _ _ _ => same inv nofun
  case mysql => exact fun _ inv _ _ _ => same inv nofun
  case counter => exact fun _ inv _ _ _ => same inv nofun
  case grpc =>
    intro h cfg t c f r x run inv _ allowed exec t'
    rw [locals_call]
    by_cases own : t' = t
    · subst own
      rw [Function.update_self]
      cases GrpcState.exec_does exec with
      | usrname w found =>
        -- the reply is a field of the object, which is that of the request
        have serves := serving_object run allowed.1 allowed.2.1 found
        exact ⟨fun name read => ⟨_, serves, Option.some.inj read⟩, (inv t').key⟩
      | usrkey w found =>
        have serves := serving_object run allowed.1 allowed.2.1 found
        exact ⟨(inv t').name, fun key read => ⟨_, serves, Option.some.inj read⟩⟩
      | finish w result found | deliver w usrname usrkey registered found | finished w finishing =>
        exact hasRead_new
      | alloc | status w found | setStatus w status found | requestseckill w found
      | setResult w result found | result w found | delete w found => exact inv t'
    · rw [Function.update_of_ne own, serving_other own]
      exact inv t'
  case start =>
    intro h cfg t e _ inv _ _ t'
    rw [locals_start]
    by_cases own : t' = t
    · subst own
      rw [Function.update_self]
      exact hasRead_new
    · rw [Function.update_of_ne own]
      exact inv t'

/-! ## The texts of a run -/

/-- The name and the key reach MySQL as they are, in every statement. -/
def Request.Verbatim (q : Request) : Prop :=
  Seckill.Verbatim q.usrname ∧ Seckill.Verbatim q.usrkey ∧ bytes q.usrname + bytes q.usrkey ≤ 130

instance {q : Request} : Decidable q.Verbatim := inferInstanceAs (Decidable (_ ∧ _))

/-- MySQL reads the statement from the text that is sent for it. -/
def Stmt.Understood : Stmt → Prop
  | .selectGoods | .updateGoods _ => True
  | stmt => ∃ text, stmt.text = some text ∧ (lex text).bind readStmt = some stmt

theorem readStmt_selOrder (name : Str) :
    (meant selOrderFormat [name]).bind readStmt = some (.selectOrder name) := by
  have want : meant selOrderFormat [name] = some ((selOrderFormat.take 41).map .char ++
      tokens [⟨name, selOrderFormat.drop 45⟩]) := rfl
  have only : literals ((selOrderFormat.take 41).map .char ++
      tokens [⟨name, selOrderFormat.drop 45⟩]) = [name] := rfl
  have other : meant selUsrKeyFormat [name] ≠ meant selOrderFormat [name] := by
    intro same
    have eighth := congrArg (fun tokens => tokens.bind fun tokens => tokens[7]?) same
    have chars : some (Token.char 'u') = some (.char '*') := eighth
    exact absurd chars (by decide)
  rw [want] at other
  rw [want, Option.bind_some, readStmt, only]
  show (if meant selUsrKeyFormat [name] = _ then _
    else if meant selOrderFormat [name] = _ then _ else _) = _
  rw [if_neg other, if_pos want]

theorem readStmt_insertOrder (name key : Str) :
    (meant insertOrderFormat [name, key]).bind readStmt = some (.insertOrder name key) := by
  have want : meant insertOrderFormat [name, key] = some ((insertOrderFormat.take 58).map .char ++
      tokens [⟨name, [',']⟩, ⟨key, [',']⟩, ⟨['1', '0'], [')']⟩]) := rfl
  have only : literals ((insertOrderFormat.take 58).map .char ++
      tokens [⟨name, [',']⟩, ⟨key, [',']⟩, ⟨['1', '0'], [')']⟩]) = [name, key, ['1', '0']] := rfl
  rw [want, Option.bind_some, readStmt, only]
  show (if meant insertOrderFormat [name, key] = _ then _ else _) = _
  rw [if_pos want]

theorem Faithful.understood {format : Str} {values : List Str} {stmt : Stmt}
    (faithful : Faithful format values) (text : stmt.text = sprintf format values)
    (reads : (meant format values).bind readStmt = some stmt) :
    ∃ text, stmt.text = some text ∧ (lex text).bind readStmt = some stmt := by
  obtain ⟨formatted, tokens, written, lexed, want⟩ := faithful
  exact ⟨formatted, text.trans written, by rw [lexed, ← want, reads]⟩

theorem insertOrder_understood (verbatim : q.Verbatim) :
    (Stmt.insertOrder (cStr q.usrname) (cStr q.usrkey)).Understood := by
  have buffer : bufferSize = 200 := rfl
  obtain ⟨name, key, fits⟩ := verbatim
  rw [name.1, key.1]
  have faithful := (insertOrder_faithful q.usrname q.usrkey).mpr ⟨⟨name, key⟩, by omega⟩
  exact faithful.understood rfl (readStmt_insertOrder _ _)

/-- A thread's statements carry the name and the key of the request it serves. -/
theorem HasRead.understood {v : Voucher} {stmt : Stmt} {served : Option Request}
    (reads : HasRead served v) (allows : v.AllowsStmt stmt)
    (verbatim : ∀ q, served = some q → q.Verbatim) : stmt.Understood := by
  have buffer : bufferSize = 200 := rfl
  cases stmt with
  | selectGoods | updateGoods count => trivial
  | selectUsrKey user =>
    obtain ⟨usrName, read, rfl⟩ := allows
    obtain ⟨q, serves, rfl⟩ := reads.name usrName read
    obtain ⟨name, _, fits⟩ := verbatim q serves
    rw [name.1]
    have faithful := (selUsrKey_faithful q.usrname).mpr ⟨name, by omega⟩
    exact faithful.understood rfl (readStmt_selUsrKey _)
  | selectOrder user =>
    obtain ⟨usrName, read, rfl⟩ := allows
    obtain ⟨q, serves, rfl⟩ := reads.name usrName read
    obtain ⟨name, _, fits⟩ := verbatim q serves
    rw [name.1]
    have faithful := (selOrder_faithful q.usrname).mpr ⟨name, by omega⟩
    exact faithful.understood rfl (readStmt_selOrder _)
  | insertOrder user key =>
    -- name and key were read of one object
    obtain ⟨_, usrName, usrKey, read, keyed, rfl, rfl⟩ := allows
    obtain ⟨q, serves, rfl⟩ := reads.name usrName read
    obtain ⟨q', serves', rfl⟩ := reads.key usrKey keyed
    obtain rfl := Option.some.inj (serves.symm.trans serves')
    exact insertOrder_understood (verbatim q serves)

/-- Every statement that was sent is read as it is meant. -/
def Understood (h : History server) : Prop :=
  ∀ t m stmt f r, Occurrence.call t (.mysql (.query m stmt)) f r ∈ h → stmt.Understood

/-- What a thread is about to send is read as it is meant, if the requests so far are verbatim. -/
theorem next_understood (run : Run ok (boot st) h cfg) (verbatim : ∀ q ∈ delivered h, q.Verbatim)
    {stmt : Stmt} {k : Bool → Code Unit} (next : cfg.prog t = .call (.mysql (.query m stmt)) k) :
    stmt.Understood := by
  have allows := (run.allowed vouching_conforms next).2
  exact (hasRead run t).understood allows fun q serves => verbatim q ((requests run).served t q serves)

/-- Where the requests are verbatim every statement is read as it is meant. -/
theorem run_understood (run : Run ok (boot st) h cfg) (verbatim : ∀ q ∈ delivered h, q.Verbatim) :
    Understood h := by
  induction run with
  | init => exact fun _ _ _ _ _ => nofun
  | @step h cfg cfg' ev run met step ih =>
    have past : ∀ q ∈ delivered h, q.Verbatim := fun q before => verbatim q (delivered_cons ev q before)
    intro t m stmt f r member
    obtain rfl | before := List.mem_cons.mp member
    · cases step with
      | call next exec => exact next_understood run past next
    · exact ih past t m stmt f r before

/-! ## Both servers -/

variable {other : Dialect} {fate : Call → Fate} {s : Server} {c : Call}

/-- A statement in the call is read as it is meant. -/
def Call.Understood (c : Call) : Prop := ∀ m stmt, c = .mysql (.query m stmt) → stmt.Understood

theorem readingTexts_understood (fate : Call → Fate) (understood : c.Understood) :
    readingTexts other fate t c s = Server.exec t c (fate c) s := by
  have alike : readingTexts other fate t c s = readingTexts other (fun _ => fate c) t c s := rfl
  rw [alike]
  generalize fate c = f
  cases c with
  | redis c | counter c | grpc c | crash why => rfl
  | mysql c =>
    cases c with
    | getOneConnect | close m | autocommit m mode | fetchRows m | rollback m | commit m => rfl
    | query m stmt =>
      -- a statement that fails has no text
      by_cases ran : f = .ok
      · subst ran
        cases stmt with
        | selectGoods | updateGoods count => rfl
        | selectUsrKey user | selectOrder user | insertOrder user key =>
          obtain ⟨text, formatted, read⟩ := understood m _ rfl
          obtain ⟨tokens, lexed, read⟩ := Option.bind_eq_some_iff.mp read
          simp only [readingTexts, formatted, Option.bind_some, MysqlState.queryText, lexed, read]
          rfl
      · cases f <;> first | rfl | exact absurd rfl ran

/-- A sale to a verbatim request is the same on texts. -/
theorem seckillGoodsMysql_texts {this : WorkerId} {usrName usrKey : Str}
    {connection : Option SessId} (verbatim : Request.Verbatim ⟨this, usrName, usrKey⟩) :
    (seckillGoodsMysql this usrName usrKey connection).alone (readingTexts other fate t) s =
      (seckillGoodsMysql this usrName usrKey connection).alone
        (fun c => Server.exec t c (fate c)) s := by
  have only : (seckillGoodsMysql this usrName usrKey connection).Only Call.Understood := by
    apply seckillGoodsMysql_only
    · exact fun c _ other m stmt same => absurd same (other m stmt)
    · rintro m _ _ ⟨⟩
      trivial
    · rintro m n _ _ _ _ ⟨⟩
      trivial
    · rintro m _ _ ⟨⟩
      exact insertOrder_understood (q := ⟨this, usrName, usrKey⟩) verbatim
  exact only.alone_congr fun c s understood => readingTexts_understood fate understood

/-- Where the requests are verbatim a run on texts is one on statements. -/
theorem run_server {cfg : Config (textServer other)}
    (run : Run (M := textServer other) ok (boot st) h cfg) (verbatim : ∀ q ∈ delivered h, q.Verbatim) :
    Run (M := server) ok (boot st) h cfg.within := by
  refine Run.of_via (M := server) (X := fun t c f => readingTexts other (fun _ => f) t c)
    (P := fun h => ∀ q ∈ delivered h, q.Verbatim) ?_ ?_ run verbatim
  · exact fun {ev h} all q before => all q (delivered_cons ev q before)
  · intro h cfg t c k f run verbatim next
    refine readingTexts_understood (fun _ => f) fun m stmt same => ?_
    subst same
    exact next_understood run verbatim next

end Seckill
