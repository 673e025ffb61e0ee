import Seckill.Model.Statements
import Seckill.Verified.Scenario

/-! # The statements carry what a request says

Each of the three statements with names in them against its format: MySQL reads the tokens of
the format, with the names as the literals, exactly where the names have no NUL, no quote and
no backslash but before `%` or `_`, and the text fits its buffer.
-/

namespace Seckill

open CStr CallTree CallTree.Prog SqlText

/-- The text of a format is read as the tokens that are meant. -/
def Faithful (format : Str) (values : List Str) : Prop :=
  ∃ text tokens, sprintf format values = some text ∧ lex text = some tokens ∧
    meant format values = some tokens

/-- A name that reaches MySQL as it is: all of it is copied, and none of it is read otherwise. -/
def Verbatim (name : Str) : Prop := cStr name = name ∧ plain name = true

instance {name : Str} : Decidable (Verbatim name) := inferInstanceAs (Decidable (_ ∧ _))

variable {format start : Str} {values : List Str} {parts : List Part}

theorem bytes_append (s t : Str) : bytes (s ++ t) = bytes s + bytes t := by
  simp [bytes]

@[simp] theorem bytes_nil : bytes [] = 0 := rfl

@[simp] theorem bytes_render_nil : bytes (render []) = 0 := rfl

theorem bytes_render (p : Part) (parts : List Part) :
    bytes (render (p :: parts)) = bytes p.value + bytes p.text + 2 + bytes (render parts) := by
  have two : bytes [quote] = 1 := by decide
  have shape : render (p :: parts) =
      [quote] ++ (p.value ++ ([quote] ++ (p.text ++ render parts))) := by
    simp [render]
  rw [shape]
  simp only [bytes_append, two]
  omega

/-- A text is read as meant exactly if every value is copied and read as it is, and there is room
    for it. -/
theorem faithful_iff (text : spliced format values = start ++ render (parts.map (.through cStr)))
    (want : meant format values = some (start.map .char ++ tokens parts))
    (begins : ∀ c ∈ start, c ≠ quote) (unquoted : ∀ p ∈ parts, ∀ c ∈ p.text, c ≠ quote)
    (apart : ∀ p ∈ parts.dropLast, p.text ≠ []) :
    Faithful format values ↔
      (∀ p ∈ parts, Verbatim p.value) ∧ bytes (start ++ render parts) < bufferSize := by
  have read := lex_render_through (f := cStr) (fun v => List.takeWhile_prefix _) start parts
    begins unquoted apart
  constructor
  · rintro ⟨formatted, tokens, written, lexed, same⟩
    rw [sprintf, text] at written
    split at written
    next fits =>
      cases written
      rw [lexed, ← same, want] at read
      have verbatim := read.mp rfl
      rw [map_through fun p member => (verbatim p member).1] at fits
      exact ⟨verbatim, fits⟩
    next => cases written
  · rintro ⟨verbatim, fits⟩
    have lexed := read.mpr verbatim
    have whole := map_through fun p member => (verbatim p member).1
    rw [whole] at text lexed
    refine ⟨_, _, ?_, lexed, want⟩
    rw [sprintf, text, if_pos fits]

/-! ## The three statements -/

theorem selUsrKey_faithful (usrName : Str) :
    Faithful selUsrKeyFormat [usrName] ↔ Verbatim usrName ∧ bytes usrName + 47 < bufferSize := by
  have text : spliced selUsrKeyFormat [usrName] =
      selUsrKeyFormat.take 45 ++ render ([⟨usrName, []⟩].map (.through cStr)) := by
    simp only [render, List.map_cons, List.map_nil, List.flatMap_cons, List.flatMap_nil,
      List.append_nil]
    rfl
  have size : bytes (selUsrKeyFormat.take 45) = 45 := by decide
  rw [faithful_iff text rfl (unquoted_of_all rfl) (by simp) (by simp), List.forall_mem_singleton]
  apply and_congr_right
  intro _
  simp only [bytes_append, bytes_render, bytes_nil, bytes_render_nil, size]
  omega

theorem selOrder_faithful (usrName : Str) :
    Faithful selOrderFormat [usrName] ↔ Verbatim usrName ∧ bytes usrName + 54 < bufferSize := by
  have text : spliced selOrderFormat [usrName] =
      selOrderFormat.take 41 ++
        render ([⟨usrName, selOrderFormat.drop 45⟩].map (.through cStr)) := by
    simp only [render, List.map_cons, List.map_nil, List.flatMap_cons, List.flatMap_nil,
      List.append_nil]
    rfl
  have size : bytes (selOrderFormat.take 41) = 41 ∧ bytes (selOrderFormat.drop 45) = 11 := by
    decide
  have unquoted : ∀ c ∈ selOrderFormat.drop 45, c ≠ quote := unquoted_of_all rfl
  rw [faithful_iff text rfl (unquoted_of_all rfl) (List.forall_mem_singleton.mpr unquoted)
    (by simp), List.forall_mem_singleton]
  apply and_congr_right
  intro _
  simp only [bytes_append, bytes_render, bytes_render_nil, size]
  omega

theorem insertOrder_faithful (usrName usrKey : Str) :
    Faithful insertOrderFormat [usrName, usrKey] ↔
      (Verbatim usrName ∧ Verbatim usrKey) ∧ bytes usrName + bytes usrKey + 69 < bufferSize := by
  have text : spliced insertOrderFormat [usrName, usrKey] = insertOrderFormat.take 58 ++
      render ([⟨usrName, [',']⟩, ⟨usrKey, [',']⟩, ⟨['1', '0'], [')']⟩].map (.through cStr)) := by
    simp only [render, List.map_cons, List.map_nil, List.flatMap_cons, List.flatMap_nil,
      List.append_nil, List.append_assoc, List.cons_append]
    rfl
  have size : bytes (insertOrderFormat.take 58) = 58 ∧ bytes [','] = 1 ∧ bytes [')'] = 1 ∧
      bytes ['1', '0'] = 2 := by decide
  have ten : Verbatim ['1', '0'] := by decide
  rw [faithful_iff text rfl (unquoted_of_all rfl) (by simp [quote]) (by simp)]
  simp only [List.forall_mem_cons, List.not_mem_nil, false_implies, implies_true, ten, and_true]
  apply and_congr_right
  intro _
  simp only [bytes_append, bytes_render, bytes_render_nil, size]
  omega

/-! ## The identity check on a text -/

variable {other : Dialect} {fate : Call → Fate} {t : Nat} {m : SessId} {s s' : Server}
  {usrName usrKey : Str}

/-- `checkUserInfo_mysql` lets only registered users pass. -/
def Authentic (usrName usrKey : Str) : Prop :=
  ∀ {other fate t m s s'}, (checkUserInfoMysql usrName usrKey (some m)).alone
    (readingTexts other fate t) s = some (true, s') →
      ∃ u ∈ s.mysql.usrInfo, s.mysql.sameName u.1 usrName = true ∧ cStr u.2 = usrKey

theorem readStmt_selUsrKey (name : Str) :
    (meant selUsrKeyFormat [name]).bind readStmt = some (.selectUsrKey name) := by
  have want : meant selUsrKeyFormat [name] =
      some ((selUsrKeyFormat.take 45).map .char ++ tokens [⟨name, []⟩]) := rfl
  have only : literals ((selUsrKeyFormat.take 45).map .char ++ tokens [⟨name, []⟩]) = [name] := rfl
  rw [want, Option.bind_some, readStmt, only]
  show (if meant selUsrKeyFormat [name] = _ then _ else _) = _
  rw [if_pos want]

/-- A faithful text is answered as the statement it is. -/
theorem readingTexts_selUsrKey (faithful : Faithful selUsrKeyFormat [usrName]) :
    readingTexts other fate t (.mysql (.query m (.selectUsrKey usrName))) s =
      Server.exec t (.mysql (.query m (.selectUsrKey usrName)))
        (fate (.mysql (.query m (.selectUsrKey usrName)))) s := by
  obtain ⟨text, tokens, written, lexed, want⟩ := faithful
  have reads := readStmt_selUsrKey usrName
  rw [want, Option.bind_some] at reads
  have formatted : (Stmt.selectUsrKey usrName).text = some text := written
  have answered : s.mysql.queryText other m text = s.mysql.query m (.selectUsrKey usrName) .ok := by
    simp only [MysqlState.queryText, lexed, reads]
  cases outcome : fate (.mysql (.query m (.selectUsrKey usrName))) <;>
    simp only [readingTexts, outcome]
  rw [formatted, Option.bind_some, answered]
  rfl

theorem selectUsrKey_result {d x : MysqlState} {f : Fate}
    (done : d.query m (.selectUsrKey usrName) f = some (false, x)) :
    (x.session m).result =
      (d.usrInfo.filter fun u => d.sameName u.1 usrName).map fun u => [u.2] := by
  cases f <;> simp only [MysqlState.query, MysqlState.blocked, reduceCtorEq, Option.some.injEq,
    Prod.mk.injEq, Bool.false_eq_true, if_false, false_and] at done
  have after : (d.runStmt m (.selectUsrKey usrName)).2 = x := congrArg Prod.snd done
  rw [← after]
  simp only [MysqlState.runStmt, MysqlState.stmtDone]
  split <;> simp [MysqlState.commitTrx, MysqlState.endTrx, MysqlState.setSession, MysqlState.setResult]

theorem mem_fetched {d x : MysqlState} {f : Fate} {rows : List (List Str)} {row : List Str}
    (done : d.fetchRows m f = some (rows, x)) (member : row ∈ rows) :
    row ∈ (d.session m).result := by
  cases f <;> cases done
  · exact member
  · cases member

/-- Whatever the outcomes of its calls, the check is passed with the key of a registered user. -/
theorem authentic (faithful : Faithful selUsrKeyFormat [usrName]) : Authentic usrName usrKey := by
  intro other fate t m s s' ends
  have whole : cStr usrName = usrName := ((selUsrKey_faithful usrName).mp faithful).1.1
  -- the one query, and the fetch of its rows
  have sent : (checkUserInfoMysql usrName usrKey (some m)) =
      .call (.mysql (.query m (.selectUsrKey usrName))) fun failed =>
        if failed then .ret false else .call (.mysql (.fetchRows m)) fun rows =>
          .ret (rows.any fun row => row.head?.map cStr == some usrKey) := by
    rw [checkUserInfoMysql, whole]
    rfl
  rw [sent, alone_call, readingTexts_selUsrKey faithful] at ends
  obtain ⟨⟨failed, x⟩, queried, ends⟩ := Option.bind_eq_some_iff.mp ends
  cases failed with
  | true => cases ends
  | false =>
    obtain ⟨⟨_, y⟩, fetched, ends⟩ := Option.bind_eq_some_iff.mp ends
    obtain ⟨⟨_, d⟩, answered, same⟩ := Option.map_eq_some_iff.mp queried
    cases same
    obtain ⟨⟨rows, d'⟩, given, same⟩ := Option.map_eq_some_iff.mp fetched
    cases same
    have found : (rows.any fun row => row.head?.map cStr == some usrKey) = true :=
      congrArg Prod.fst (Option.some.inj ends)
    obtain ⟨row, member, key⟩ := List.any_eq_true.mp found
    have selected := mem_fetched given member
    rw [selectUsrKey_result answered] at selected
    obtain ⟨u, matched, rfl⟩ := List.mem_map.mp selected
    obtain ⟨registered, same⟩ := List.mem_filter.mp matched
    exact ⟨u, registered, same, by simpa using key⟩

/-! ## All three -/

/-- Every statement a request leads to is a faithful encoding of it, and with that the identity
    check holds, exactly if its name and its key are verbatim and leave room in the buffers. -/
theorem statements_faithful (usrName usrKey : Str) :
    (Faithful selUsrKeyFormat [usrName] ∧ Faithful selOrderFormat [usrName] ∧
        Faithful insertOrderFormat [usrName, usrKey] ∧ Authentic usrName usrKey) ↔
      Verbatim usrName ∧ Verbatim usrKey ∧ bytes usrName + bytes usrKey ≤ 130 := by
  have buffer : bufferSize = 200 := rfl
  constructor
  · rintro ⟨_, _, insert, _⟩
    obtain ⟨⟨name, key⟩, fits⟩ := (insertOrder_faithful usrName usrKey).mp insert
    exact ⟨name, key, by omega⟩
  · rintro ⟨name, key, fits⟩
    have check : Faithful selUsrKeyFormat [usrName] :=
      (selUsrKey_faithful usrName).mpr ⟨name, by omega⟩
    have duplicate : Faithful selOrderFormat [usrName] :=
      (selOrder_faithful usrName).mpr ⟨name, by omega⟩
    have insert : Faithful insertOrderFormat [usrName, usrKey] :=
      (insertOrder_faithful usrName usrKey).mpr ⟨⟨name, key⟩, by omega⟩
    exact ⟨check, duplicate, insert, authentic check⟩

/-- A name that ends its literal. -/
def everyone : Str := "x' OR '1'='1".toList

/-- What MySQL answers to the `SELECT` with that name: all keys. -/
def allKeys : Dialect := fun _ m s => (false, s.setResult m (s.usrInfo.map fun u => [u.2]))

/-- One registered user, `bob`. -/
def bobOnly : Server := boot (agreeing [(['b', 'o', 'b'], ['k'])] 50)

/-- With that name anyone who knows some key passes the check: `WHERE` is no longer what the format
    says. -/
theorem everyone_passes :
    ¬ Faithful selUsrKeyFormat [everyone] ∧ ¬ Authentic everyone ['k'] := by
  constructor
  · intro faithful
    exact absurd ((selUsrKey_faithful everyone).mp faithful).1 (by decide)
  · intro authentic
    have ran : ((checkUserInfoMysql everyone ['k'] (some 0)).alone
        (readingTexts allKeys (fun _ => .ok) 0) bobOnly).any (fun x => x.1) = true := by
      decide +kernel
    obtain ⟨⟨_, s'⟩, ends, rfl⟩ := (Option.any_eq_true _ _).mp ran
    obtain ⟨u, member, matched, _⟩ := authentic ends
    obtain rfl := List.mem_singleton.mp member
    exact absurd matched (by decide)

end Seckill
