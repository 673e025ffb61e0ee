import Seckill.Model.Statements

/-! # What two of the MySQL calls are made of

A statement is formatted with `sprintf` before it is sent, and `mysql_use_result` comes before the
rows are read.  `sprintf` writes past a buffer that is too small, and the loop of `mysql_fetch_row`
dereferences the result, which is tested for `NULL` only after it.  `Call.made` spells out both; the
other calls are made as they are.
-/

namespace Seckill

open CStr CallTree

/-- `other` is a call with nothing before it: `mysql_query` of the text formatted, and
    `mysql_fetch_row` up to the first `NULL` with `mysql_free_result`. -/
inductive LibCall where
  | sprintf (stmt : Stmt)
  | useResult (m : SessId)
  | other (c : Call)
  | overflow
  | nullResult

/-- `mysql_use_result` says whether it gave a result. -/
@[reducible] def LibCall.Reply : LibCall → Type
  | .sprintf _ => Unit
  | .useResult _ => Bool
  | .other c => c.Reply
  | .overflow | .nullResult => Empty

abbrev LibCode (α : Type) := Prog LibCall LibCall.Reply α

instance : DecidablePred Stmt.Fits := fun stmt =>
  match formatted : stmt.formatted with
  | none => isTrue fun _ same => nomatch formatted.symm.trans same
  | some text => decidable_of_iff (bytes text + 1 ≤ bufferSize)
      ⟨fun fits _ same => Option.some.inj (formatted.symm.trans same) ▸ fits, fun fits => fits text formatted⟩

def libCall (c : LibCall) : LibCode c.Reply := .perform c

/-- `sprintf`, and `mysql_query` of what it wrote. -/
def formatAndQuery (m : SessId) (stmt : Stmt) : LibCode Bool := do
  libCall (.sprintf stmt)
  if stmt.Fits then
    libCall (.other (.mysql (.query m stmt)))
  else
    .call .overflow nofun

/-- `mysql_use_result`, and the loop of `mysql_fetch_row`. -/
def useAndFetch (m : SessId) : LibCode (List (List Str)) := do
  if ← libCall (.useResult m) then
    libCall (.other (.mysql (.fetchRows m)))
  else
    .call .nullResult nofun

/-- The calls a call is made of. -/
def Call.made : (c : Call) → LibCode c.Reply
  | .mysql (.query m stmt) => formatAndQuery m stmt
  | .mysql (.fetchRows m) => useAndFetch m
  | c => libCall (.other c)

end Seckill
