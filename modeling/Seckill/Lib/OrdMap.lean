import Mathlib.Data.List.Nodup
import Mathlib.Order.Lattice

/-! # Maps in the order of their keys

`std::map`: the entries stand in the order of their keys, and the order is part of a map.
A loop over a map meets the entry of `k` after as many others as there are smaller keys,
which is the `rank` of `k`; `find_visit` says what such a loop leaves under each key.
-/

namespace OrdMap

structure Map (K V : Type) [LinearOrder K] where
  entries : List (K × V)
  sorted : entries.Pairwise fun a b => a.1 < b.1

variable {K V : Type} [LinearOrder K] {k k' : K} {v : V}

/-- How many of the keys are smaller. -/
def rank (k : K) (keys : List K) : Nat := keys.countP (· < k)

/-! ## Inserting into the entries -/

/-- An entry whose key is there already stays as it is. -/
def insertEntry (k : K) (v : V) : List (K × V) → List (K × V)
  | [] => [(k, v)]
  | e :: rest =>
    if k < e.1 then (k, v) :: e :: rest
    else if e.1 < k then e :: insertEntry k v rest
    else e :: rest

theorem mem_insertEntry {es : List (K × V)} :
    k' ∈ (insertEntry k v es).map Prod.fst ↔ k' = k ∨ k' ∈ es.map Prod.fst := by
  induction es with
  | nil => simp [insertEntry]
  | cons e rest ih =>
    unfold insertEntry
    split
    · simp
    · split
      · rw [List.map_cons, List.mem_cons, ih, List.map_cons, List.mem_cons]
        exact or_left_comm
      next below above =>
        have same : e.1 = k := le_antisymm (not_lt.mp below) (not_lt.mp above)
        simp [same]

theorem sorted_insertEntry {es : List (K × V)} (sorted : es.Pairwise fun a b => a.1 < b.1) :
    (insertEntry k v es).Pairwise fun a b => a.1 < b.1 := by
  induction sorted with
  | nil => simp [insertEntry]
  | @cons e rest before tail ih =>
    unfold insertEntry
    split
    next below =>
      apply List.Pairwise.cons _ (List.Pairwise.cons before tail)
      intro e' member
      obtain rfl | member := List.mem_cons.mp member
      · exact below
      · exact lt_trans below (before e' member)
    · split
      next above =>
        apply List.Pairwise.cons _ ih
        intro e' member
        obtain same | member := mem_insertEntry.mp (List.mem_map_of_mem member)
        · exact same ▸ above
        · obtain ⟨e'', member, same⟩ := List.mem_map.mp member
          exact same ▸ before e'' member
      · exact List.Pairwise.cons before tail

theorem find_below {es : List (K × V)} (above : ∀ e ∈ es, k < e.1) :
    es.find? (fun e => e.1 = k) = none := by
  rw [List.find?_eq_none]
  intro e member
  simpa using (above e member).ne'

namespace Map

/-! ## The operations -/

def empty : Map K V := ⟨[], List.Pairwise.nil⟩

def keys (m : Map K V) : List K := m.entries.map Prod.fst

def find (m : Map K V) (k : K) : Option V := (m.entries.find? fun e => e.1 = k).map Prod.snd

def insert (m : Map K V) (k : K) (v : V) : Map K V :=
  ⟨insertEntry k v m.entries, sorted_insertEntry m.sorted⟩

/-- A loop over the map that changes the values, told how many entries it met before. -/
def visit (m : Map K V) (f : Nat → V → V) : Map K V where
  entries := m.entries.mapIdx fun i e => (e.1, f i e.2)
  sorted := by
    rw [List.pairwise_iff_getElem]
    intro i j hi hj before
    simpa using List.pairwise_iff_getElem.mp m.sorted i j _ _ before

variable {m : Map K V}

theorem keys_nodup : m.keys.Nodup := by
  rw [keys, List.nodup_iff_pairwise_ne, List.pairwise_map]
  exact m.sorted.imp ne_of_lt

@[simp] theorem keys_empty : (empty : Map K V).keys = [] := rfl

@[simp] theorem mem_keys_insert : k' ∈ (m.insert k v).keys ↔ k' = k ∨ k' ∈ m.keys := mem_insertEntry

@[simp] theorem keys_visit {f : Nat → V → V} : (m.visit f).keys = m.keys := by
  apply List.ext_getElem <;> simp [keys, visit]

/-- The value inserted last is not the one that counts. -/
theorem find_insert :
    (m.insert k v).find k' = if k' = k then some ((m.find k).getD v) else m.find k' := by
  obtain ⟨es, sorted⟩ := m
  simp only [find, insert]
  induction sorted with
  | nil =>
    by_cases same : k = k'
    · simp [insertEntry, same]
    · simp [insertEntry, same, Ne.symm same]
  | @cons e rest before tail ih =>
    unfold insertEntry
    split
    next below =>
      have absent : (e :: rest).find? (fun e => e.1 = k) = none := by
        apply find_below
        intro e' member
        obtain rfl | member := List.mem_cons.mp member
        · exact below
        · exact lt_trans below (before e' member)
      rw [absent]
      by_cases same : k = k'
      · simp [same]
      · simp [same, Ne.symm same]
    · split
      next above =>
        by_cases here : e.1 = k'
        · have other : k' ≠ k := here ▸ above.ne
          simp [here, other]
        · rw [List.find?_cons_of_neg (by simpa using here), ih,
            List.find?_cons_of_neg (by simpa using above.ne),
            List.find?_cons_of_neg (by simpa using here)]
      next below above =>
        have same : e.1 = k := le_antisymm (not_lt.mp below) (not_lt.mp above)
        by_cases here : k' = k
        · simp [here, same]
        · simp [here]

/-- What a loop over the map leaves under a key. -/
theorem find_visit {f : Nat → V → V} :
    (m.visit f).find k = (m.find k).map (f (rank k m.keys)) := by
  obtain ⟨es, sorted⟩ := m
  simp only [find, visit, keys]
  -- the loop over the tail counts from one on, so the induction is for every `f`
  induction sorted generalizing f with
  | nil => rfl
  | @cons e rest before tail ih =>
    rw [List.mapIdx_cons]
    by_cases same : e.1 = k
    · have first : rank k ((e :: rest).map Prod.fst) = 0 := by
        simp only [rank, List.countP_eq_zero, List.map_cons, List.mem_cons, decide_eq_true_eq,
          not_lt]
        intro k' among
        obtain rfl | member := among
        · exact same.symm.le
        · obtain ⟨e', among, rfl⟩ := List.mem_map.mp member
          exact same ▸ (before e' among).le
      rw [first]
      simp [same]
    · rw [List.find?_cons_of_neg (by simpa using same), List.find?_cons_of_neg (by simpa using same),
        ih]
      by_cases above : e.1 < k
      · have next : rank k ((e :: rest).map Prod.fst) = rank k (rest.map Prod.fst) + 1 := by
          simp [rank, above]
        rw [next]
      · have absent : rest.find? (fun e => e.1 = k) = none :=
          find_below fun e' member => lt_of_le_of_lt (not_lt.mp above) (before e' member)
        simp [absent]

theorem find_isSome : (m.find k).isSome ↔ k ∈ m.keys := by
  simp [find, keys]

end Map

/-- The rank of a key only depends on which keys there are. -/
theorem rank_eq {ks ks' : List K} (nodup : ks.Nodup) (nodup' : ks'.Nodup)
    (same : ∀ k, k ∈ ks ↔ k ∈ ks') : rank k ks = rank k ks' :=
  ((List.perm_ext_iff_of_nodup nodup nodup').mpr same).countP_eq _

/-- No key has a rank beyond the others. -/
theorem rank_lt {ks : List K} (member : k ∈ ks) : rank k ks < ks.length := by
  rw [rank, List.countP_eq_length_filter]
  apply List.length_filter_lt_length_iff_exists.mpr
  exact ⟨k, member, by simp⟩

/-- In a list in order the rank of a key is its place. -/
theorem rank_getElem {ks : List K} (sorted : ks.Pairwise (· < ·)) (j : Nat) (inside : j < ks.length) :
    rank ks[j] ks = j := by
  induction sorted generalizing j with
  | nil => exact absurd inside (Nat.not_lt_zero j)
  | @cons k rest before tail ih =>
    cases j with
    | zero =>
      simp only [rank, List.getElem_cons_zero, List.countP_eq_zero, List.mem_cons,
        decide_eq_true_eq, not_lt]
      intro k' among
      obtain rfl | member := among
      · exact le_refl k'
      · exact (before k' member).le
    | succ j =>
      have inside : j < rest.length := Nat.lt_of_succ_lt_succ inside
      have above : k < rest[j] := before _ (List.getElem_mem inside)
      have place : rest.countP (· < rest[j]) = j := ih j inside
      simp only [rank, List.getElem_cons_succ, List.countP_cons, place, above, decide_true,
        if_true]

end OrdMap
