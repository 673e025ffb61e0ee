import Seckill.Model.Audit

/-! # The columns of a result set

`executeSql` fills the vectors of its map in the order of the names, with the values of a row in
the order of the fields.  `find_collect` says what ends up under a name, and `transposes_iff` for
which result sets that is the column of the name.
-/

namespace Seckill

open CStr CallTree OrdMap

/-- Every value stands under the name of its field. -/
structure Transposed (res : ResultSet) (results : Map Str (List Cell)) : Prop where
  keys : ∀ name, name ∈ results.keys ↔ name ∈ res.fields
  column : ∀ j (inside : j < res.fields.length),
    results.find res.fields[j] = some (res.rows.map fun row => row[j])

/-- In every row the values in the order of the fields are those in the order of the names. -/
def Aligned (res : ResultSet) : Prop :=
  ∀ row ∈ res.rows, ∀ j (inside : j < res.fields.length),
    row[rank res.fields[j] res.fields]? = some row[j]

variable {res : ResultSet} {fields : List Str} {name : Str} {m : Map Str (List Cell)}

/-! ## The map before the rows -/

/-- No vector has a value yet. -/
def Blank (m : Map Str (List Cell)) : Prop := ∀ name column, m.find name = some column → column = []

theorem Blank.insert (blank : Blank m) : Blank (m.insert name []) := by
  intro name' column found
  rw [Map.find_insert] at found
  split at found
  · cases before : m.find name with
    | none =>
      rw [before] at found
      exact (Option.some.inj found).symm
    | some column' =>
      rw [before] at found
      have same : column' = column := Option.some.inj found
      exact same ▸ blank name column' before
  · exact blank name' column found

theorem fields_inserted (blank : Blank m) :
    Blank (fields.foldl (fun results name => results.insert name []) m) ∧
      ∀ name, name ∈ (fields.foldl (fun results name => results.insert name []) m).keys ↔
        name ∈ fields ∨ name ∈ m.keys := by
  induction fields generalizing m with
  | nil => exact ⟨blank, fun name => by simp⟩
  | cons field fields ih =>
    have blank' : Blank (m.insert field []) := blank.insert
    obtain ⟨after, keys⟩ := ih blank'
    refine ⟨after, fun name => ?_⟩
    rw [List.foldl_cons, keys, Map.mem_keys_insert, List.mem_cons]
    tauto

theorem mem_columns : name ∈ (columns fields).keys ↔ name ∈ fields := by
  have blank : Blank Map.empty := fun _ _ found => by cases found
  rw [columns, (fields_inserted blank).2 name]
  simp

theorem find_columns (member : name ∈ fields) : (columns fields).find name = some [] := by
  have blank : Blank Map.empty := fun _ _ found => by cases found
  obtain ⟨column, found⟩ := Option.isSome_iff_exists.mp (Map.find_isSome.mpr (mem_columns.mpr member))
  rw [found, (fields_inserted blank).1 name column found]

/-! ## The rows -/

theorem keys_pushed {n : Nat} {rows : List (Vector Cell n)} : (rows.foldl pushRow m).keys = m.keys := by
  induction rows generalizing m with
  | nil => rfl
  | cons row rows ih =>
    rw [List.foldl_cons, ih]
    exact Map.keys_visit

theorem find_pushed {n : Nat} {rows : List (Vector Cell n)} :
    (rows.foldl pushRow m).find name = (m.find name).map fun column =>
      column ++ rows.flatMap fun row => row[rank name m.keys]?.toList := by
  induction rows generalizing m with
  | nil => simp
  | cons row rows ih =>
    have keys : (pushRow m row).keys = m.keys := Map.keys_visit
    rw [List.foldl_cons, ih, keys, pushRow, Map.find_visit, Option.map_map]
    congr 1
    funext column
    simp

theorem keys_collect : name ∈ (collect res).keys ↔ name ∈ res.fields := by
  rw [collect, keys_pushed]
  exact mem_columns

/-- The column under a name has the values that stand in the place of its rank. -/
theorem find_collect (distinct : res.fields.Nodup) (member : name ∈ res.fields) :
    (collect res).find name =
      some (res.rows.flatMap fun row => row[rank name res.fields]?.toList) := by
  have place : rank name (columns res.fields).keys = rank name res.fields :=
    rank_eq Map.keys_nodup distinct fun _ => mem_columns
  rw [collect, find_pushed, find_columns member, place, Option.map_some, List.nil_append]

/-- In a result set whose fields are in order every value is in its place. -/
theorem aligned_of_sorted (sorted : res.fields.Pairwise (· < ·)) : Aligned res := by
  intro row _ j inside
  rw [rank_getElem sorted j inside]
  exact Vector.getElem?_eq_getElem inside

theorem collect_transposed (distinct : res.fields.Nodup) :
    Transposed res (collect res) ↔ Aligned res := by
  have column (j : Nat) (inside : j < res.fields.length) :
      (collect res).find res.fields[j] = some (res.rows.map fun row => row[j]) ↔
        ∀ row ∈ res.rows, row[rank res.fields[j] res.fields]? = some row[j] := by
    have place : rank res.fields[j] res.fields < res.fields.length :=
      rank_lt (List.getElem_mem inside)
    -- a row has a value for every field, so each gives exactly one
    have single : (res.rows.flatMap fun row => row[rank res.fields[j] res.fields]?.toList) =
        res.rows.map fun row => row[rank res.fields[j] res.fields] := by
      rw [List.map_eq_flatMap]
      simp [Vector.getElem?_eq_getElem place]
    rw [find_collect distinct (List.getElem_mem inside), single, Option.some.injEq,
      List.map_inj_left]
    simp [Vector.getElem?_eq_getElem place]
  constructor
  · intro transposed row member j inside
    exact (column j inside).mp (transposed.column j inside) row member
  · intro aligned
    exact ⟨fun _ => keys_collect, fun j inside =>
      (column j inside).mpr fun row member => aligned row member j inside⟩

/-! ## `executeSql` -/

variable {S : Type} {exec : (c : AuditCall) → S → Option (c.Reply × S)} {sql : Str} {s s' : S}

/-- A connection is to be had, the query succeeds and its result can be stored. -/
def Yields (exec : (c : AuditCall) → S → Option (c.Reply × S)) (sql : Str) (res : ResultSet)
    (s s' : S) : Prop :=
  ∃ conn s₁ s₂ s₃, exec .getOneConnect s = some (some conn, s₁) ∧
    exec (.query conn sql) s₁ = some (false, s₂) ∧ exec (.storeResult conn) s₂ = some (some res, s₃) ∧
    exec (.close conn) s₃ = some ((), s')

theorem executeSql_collects (yields : Yields exec sql res s s') :
    (executeSql sql).alone exec s = some (collect res, s') := by
  obtain ⟨conn, s₁, s₂, s₃, got, queried, stored, closed⟩ := yields
  simp [executeSql, audit, Prog.perform, Prog.alone_call, got, queried, stored, closed]

/-- Calls that all succeed, with `res` for the result. -/
def yielding (res : ResultSet) : (c : AuditCall) → Unit → Option (c.Reply × Unit)
  | .getOneConnect, s => some (some 0, s)
  | .close _, s => some ((), s)
  | .query _ _, s => some (false, s)
  | .useResult _, s => some (res.rows.map Vector.toList, s)
  | .storeResult _, s => some (some res, s)
  | .undefined, _ => none

theorem yielding_yields : Yields (yielding res) sql res () () := ⟨0, (), (), (), rfl, rfl, rfl, rfl⟩

/-- `executeSql` transposes exactly the result sets that are aligned. -/
theorem transposes_iff (yields : Yields exec sql res s s') (distinct : res.fields.Nodup) :
    ((executeSql sql).Ends exec s fun results _ => Transposed res results) ↔ Aligned res := by
  rw [← collect_transposed distinct]
  constructor
  · intro ends
    obtain ⟨results, s'', done, transposed⟩ := ends
    rw [executeSql_collects yields] at done
    cases done
    exact transposed
  · intro transposed
    exact ⟨_, s', executeSql_collects yields, transposed⟩

def oneName : ResultSet := ⟨[usrNameField], [#v[some ['7']]]⟩

theorem transposes_iff_names :
    ((executeSql ordersSql).Ends (yielding oneName) () fun results _ => Transposed oneName results) ↔
      Aligned oneName :=
  transposes_iff yielding_yields (List.nodup_singleton usrNameField)

def nameAndKey : ResultSet := ⟨["usr_name".toList, "usr_key".toList], [#v[some ['7'], some ['k']]]⟩

/-- `SELECT usr_name,usr_key FROM order_info`: the name and the key change places. -/
theorem swaps_columns :
    ∃ (sql : Str) (res : ResultSet), res.fields.Nodup ∧ Yields (yielding res) sql res () () ∧
      ¬ (executeSql sql).Ends (yielding res) () fun results _ => Transposed res results := by
  have distinct : nameAndKey.fields.Nodup := by decide
  refine ⟨"SELECT usr_name,usr_key FROM order_info".toList, nameAndKey, distinct, yielding_yields, ?_⟩
  intro ends
  obtain ⟨results, s, done, transposed⟩ := ends
  rw [executeSql_collects yielding_yields] at done
  cases done
  have column : (collect nameAndKey).find "usr_name".toList = some [some ['7']] :=
    transposed.column 0 (by decide)
  have found : (collect nameAndKey).find "usr_name".toList = some [some ['k']] := by decide
  rw [found] at column
  exact absurd column (by decide)

end Seckill
