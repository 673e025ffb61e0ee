import Seckill.Lib.CallTree

/-! # What a program and its environment say to each other

An environment answers the calls of a program, and may look at everything that was said before;
it can also leave a call unanswered.  `drive` runs a program against an environment to its end:
it gives the transcript, newest exchange first, and the result or the call that stayed
unanswered.  `Prog.Says` specifies a program by what it adds to a transcript, and `Prog.Leaves`
by the signs it leaves in any transcript, where only some exchanges leave one.
-/

namespace CallTree

/-- A call and its reply. -/
abbrev Exchange (C : Type) (R : C → Type) := Σ c : C, R c

abbrev Env (C : Type) (R : C → Type) := List (Exchange C R) → (c : C) → Option (R c)

inductive Outcome (C α : Type) where
  | returned (a : α)
  | stopped (c : C)

def Outcome.returns {C α : Type} : Outcome C α → Bool
  | .returned _ => true
  | .stopped _ => false

namespace Prog

variable {C : Type} {R : C → Type} {α β : Type}

def drive (env : Env C R) : Prog C R α → List (Exchange C R) → List (Exchange C R) × Outcome C α
  | .ret a, past => (past, .returned a)
  | .call c k, past =>
    match env past c with
    | some r => (k r).drive env (⟨c, r⟩ :: past)
    | none => (past, .stopped c)

/-- What the program adds to the transcript and how it ends satisfy `post`. -/
def Says (env : Env C R) (p : Prog C R α) (past : List (Exchange C R))
    (post : Outcome C α → List (Exchange C R) → Prop) : Prop :=
  ∃ said, (p.drive env past).1 = said ++ past ∧ post (p.drive env past).2 said

variable {env : Env C R} {past : List (Exchange C R)} {p : Prog C R α} {f : α → Prog C R β}
  {c : C} {r : R c} {post : Outcome C α → List (Exchange C R) → Prop}

theorem drive_answered {k : R c → Prog C R α} (answered : env past c = some r) :
    (Prog.call c k).drive env past = (k r).drive env (⟨c, r⟩ :: past) := by
  simp [drive, answered]

theorem drive_unanswered {k : R c → Prog C R α} (unanswered : env past c = none) :
    (Prog.call c k).drive env past = (past, .stopped c) := by
  simp [drive, unanswered]

theorem drive_bind :
    (p >>= f).drive env past =
      match (p.drive env past).2 with
      | .returned a => (f a).drive env (p.drive env past).1
      | .stopped c => ((p.drive env past).1, .stopped c) := by
  induction p generalizing past with
  | ret a => rfl
  | call c k ih =>
    rw [call_bind]
    cases answer : env past c with
    | some r =>
      rw [drive_answered answer, drive_answered answer]
      exact ih r
    | none => rw [drive_unanswered answer, drive_unanswered answer]

/-- A part that returned, and the program after it. -/
theorem drive_returned {a : α} (returned : (p.drive env past).2 = .returned a) :
    (p >>= f).drive env past = (f a).drive env (p.drive env past).1 := by
  rw [drive_bind, returned]

/-- What was said stays in the transcript. -/
theorem mem_drive {x : Exchange C R} (said : x ∈ past) : x ∈ (p.drive env past).1 := by
  induction p generalizing past with
  | ret a => exact said
  | call c k ih =>
    cases answer : env past c with
    | some r =>
      rw [drive_answered answer]
      exact ih r (List.mem_cons_of_mem _ said)
    | none =>
      rw [drive_unanswered answer]
      exact said

theorem mem_drive_bind {x : Exchange C R} (said : x ∈ (p.drive env past).1) :
    x ∈ ((p >>= f).drive env past).1 := by
  rw [drive_bind]
  cases (p.drive env past).2 with
  | returned a => exact mem_drive said
  | stopped c => exact said

/-- What was said before stays, with what the program adds. -/
theorem drive_adds : ∃ said, (p.drive env past).1 = said ++ past := by
  induction p generalizing past with
  | ret a => exact ⟨[], rfl⟩
  | call c k ih =>
    cases answer : env past c with
    | some r =>
      rw [drive_answered answer]
      obtain ⟨said, all⟩ := @ih r (⟨c, r⟩ :: past)
      exact ⟨said ++ [⟨c, r⟩], by rw [all, List.append_assoc, List.singleton_append]⟩
    | none =>
      rw [drive_unanswered answer]
      exact ⟨[], rfl⟩

/-! ## Carrying on -/

section CarriesOn

variable {Good : Exchange C R → Prop} {said : List (Exchange C R)} {a : α}

/-- The program says `said`, all of it good, and returns `a`; or it says something that is not good
    and stops. -/
def CarriesOn (env : Env C R) (Good : Exchange C R → Prop) (p : Prog C R α)
    (past said : List (Exchange C R)) (a : α) : Prop :=
  p.drive env past = (said ++ past, .returned a) ∧ (∀ x ∈ said, Good x) ∨
    (∃ c, (p.drive env past).2 = .stopped c) ∧ ∃ x ∈ (p.drive env past).1, ¬Good x

theorem CarriesOn.ret : (Prog.ret a : Prog C R α).CarriesOn env Good past [] a :=
  Or.inl ⟨rfl, fun _ member => absurd member List.not_mem_nil⟩

theorem CarriesOn.call {k : R c → Prog C R α} (answered : env past c = some r)
    (good : Good ⟨c, r⟩) (rest : (k r).CarriesOn env Good (⟨c, r⟩ :: past) said a) :
    (Prog.call c k).CarriesOn env Good past (said ++ [⟨c, r⟩]) a := by
  rw [CarriesOn, drive_answered answered, List.append_assoc, List.singleton_append]
  apply rest.imp_left
  rintro ⟨driven, all⟩
  refine ⟨driven, List.forall_mem_append.mpr ⟨all, ?_⟩⟩
  simpa using good

/-- The last exchange before the program stops. -/
theorem CarriesOn.stop {k : R c → Prog C R α} (answered : env past c = some r)
    (bad : ¬Good ⟨c, r⟩) (stops : ∃ c', ((k r).drive env (⟨c, r⟩ :: past)).2 = .stopped c') :
    (Prog.call c k).CarriesOn env Good past said a := by
  rw [CarriesOn, drive_answered answered]
  exact Or.inr ⟨stops, ⟨c, r⟩, mem_drive List.mem_cons_self, bad⟩

theorem CarriesOn.bind {said' : List (Exchange C R)} {b : β}
    (first : p.CarriesOn env Good past said a)
    (rest : (f a).CarriesOn env Good (said ++ past) said' b) :
    (p >>= f).CarriesOn env Good past (said' ++ said) b := by
  rw [CarriesOn, drive_bind]
  obtain ⟨driven, good⟩ | ⟨⟨c, stopped⟩, x, member, bad⟩ := first
  · rw [driven, List.append_assoc]
    apply rest.imp_left
    rintro ⟨driven', good'⟩
    exact ⟨driven', List.forall_mem_append.mpr ⟨good', good⟩⟩
  · rw [stopped]
    exact Or.inr ⟨⟨c, rfl⟩, x, member, bad⟩

/-- A program that returns carries on call by call, where each call does when it is spelled out. -/
theorem through_carriesOn {C' : Type} {R' : C' → Type} {made : (c : C) → Prog C' R' (R c)}
    {env' : Env C' R'} {spelled : Exchange C R → List (Exchange C' R')}
    {Good : Exchange C' R' → Prop}
    (calls : ∀ past c r, env past c = some r →
      (made c).CarriesOn env' Good (past.flatMap spelled) (spelled ⟨c, r⟩) r)
    (driven : p.drive env past = (said ++ past, .returned a)) :
    (p.through made).CarriesOn env' Good (past.flatMap spelled) (said.flatMap spelled) a := by
  induction p generalizing past said with
  | ret b =>
    obtain ⟨same, rfl⟩ : past = said ++ past ∧ b = a := by simpa [drive] using driven
    obtain rfl : said = [] := List.append_left_eq_self.mp same.symm
    exact .ret
  | call c k ih =>
    cases answer : env past c with
    | none =>
      have ended := congrArg Prod.snd driven
      rw [drive_unanswered answer] at ended
      cases ended
    | some r =>
      rw [drive_answered answer] at driven
      obtain ⟨said', all⟩ : ∃ said', ((k r).drive env (⟨c, r⟩ :: past)).1 = said' ++ ⟨c, r⟩ :: past :=
        drive_adds
      have same : said = said' ++ [⟨c, r⟩] := by
        have whole : said ++ past = said' ++ ⟨c, r⟩ :: past := (congrArg Prod.fst driven).symm.trans all
        rw [List.append_cons] at whole
        exact List.append_cancel_right whole
      subst same
      rw [List.append_assoc, List.singleton_append] at driven
      rw [List.flatMap_append, List.flatMap_singleton]
      exact (calls past c r answer).bind (ih r driven)

end CarriesOn

/-! ## Rules -/

theorem Says.ret {a : α} (after : post (.returned a) []) : (Prog.ret a : Prog C R α).Says env past post :=
  ⟨[], rfl, after⟩

/-- A call, for each way it may be answered. -/
theorem Says.call {k : R c → Prog C R α}
    (answered : ∀ r, env past c = some r →
      (k r).Says env (⟨c, r⟩ :: past) fun o said => post o (said ++ [⟨c, r⟩]))
    (unanswered : env past c = none → post (.stopped c) []) :
    (Prog.call c k).Says env past post := by
  cases answer : env past c with
  | some r =>
    obtain ⟨said, all, after⟩ := answered r answer
    rw [Says, drive_answered answer]
    exact ⟨said ++ [⟨c, r⟩], by rw [all, List.append_assoc, List.singleton_append], after⟩
  | none =>
    rw [Says, drive_unanswered answer]
    exact ⟨[], rfl, unanswered answer⟩

theorem Says.mono {post' : Outcome C α → List (Exchange C R) → Prop} (holds : p.Says env past post)
    (weaker : ∀ o said, post o said → post' o said) : p.Says env past post' := by
  obtain ⟨said, all, after⟩ := holds
  exact ⟨said, all, weaker _ _ after⟩

/-- A part, the program after it, and what holds where the part does not return. -/
theorem Says.bind {last : Outcome C β → List (Exchange C R) → Prop} (first : p.Says env past post)
    (rest : ∀ a said, post (.returned a) said →
      (f a).Says env (said ++ past) fun o said' => last o (said' ++ said))
    (stops : ∀ c said, post (.stopped c) said → last (.stopped c) said) :
    (p >>= f).Says env past last := by
  obtain ⟨said, all, after⟩ := first
  rw [Says, drive_bind]
  cases ended : (p.drive env past).2 with
  | returned a =>
    rw [ended] at after
    obtain ⟨said', all', after'⟩ := rest a said after
    rw [all]
    exact ⟨said' ++ said, by rw [all', List.append_assoc], after'⟩
  | stopped c =>
    rw [ended] at after
    exact ⟨said, all, stops c said after⟩

/-- Both of two things a program says. -/
theorem Says.and {post' : Outcome C α → List (Exchange C R) → Prop} (holds : p.Says env past post)
    (holds' : p.Says env past post') :
    p.Says env past fun o said => post o said ∧ post' o said := by
  obtain ⟨said, all, after⟩ := holds
  obtain ⟨said', all', after'⟩ := holds'
  have same : said' = said := List.append_cancel_right (all'.symm.trans all)
  exact ⟨said, all, after, same ▸ after'⟩

/-- A program that makes only some of the calls says nothing else. -/
theorem Only.said {P : C → Prop} (only : p.Only P) :
    p.Says env past fun o said => (∀ x ∈ said, P x.1) ∧ ∀ c, o = .stopped c → P c := by
  induction p generalizing past with
  | ret a =>
    exact Says.ret ⟨fun x member => absurd member List.not_mem_nil, fun c ended => by cases ended⟩
  | call c k ih =>
    apply Says.call
    · intro r _
      apply (ih r (only.2 r)).mono
      intro o said after
      refine ⟨fun x member => ?_, after.2⟩
      obtain member | member := List.mem_append.mp member
      · exact after.1 x member
      · rw [List.mem_singleton.mp member]
        exact only.1
    · intro _
      refine ⟨fun x member => absurd member List.not_mem_nil, fun c' ended => ?_⟩
      cases ended
      exact only.1

/-! ## Signs -/

section Signs

variable {T : Type} {sign : Exchange C R → Option T}

/-- The signs the program leaves and how it ends satisfy `post`, after whatever was said. -/
def Leaves (env : Env C R) (sign : Exchange C R → Option T) (p : Prog C R α)
    (post : Outcome C α → List T → Prop) : Prop :=
  ∀ past, p.Says env past fun o said => post o (said.filterMap sign)

theorem Leaves.ret {post : Outcome C α → List T → Prop} {a : α} (after : post (.returned a) []) :
    (Prog.ret a : Prog C R α).Leaves env sign post := by
  intro past
  exact Says.ret after

theorem Leaves.mono {post post' : Outcome C α → List T → Prop} (leaves : p.Leaves env sign post)
    (weaker : ∀ o ss, post o ss → post' o ss) : p.Leaves env sign post' := by
  intro past
  exact (leaves past).mono fun o said => weaker o _

/-- A call leaves its own sign before those of the rest. -/
theorem Leaves.call {post : Outcome C α → List T → Prop} {k : R c → Prog C R α}
    (answered : ∀ r past, env past c = some r →
      (k r).Leaves env sign fun o ss => post o (ss ++ (sign ⟨c, r⟩).toList))
    (unanswered : ∀ past, env past c = none → post (.stopped c) []) :
    (Prog.call c k).Leaves env sign post := by
  intro past
  apply Says.call
  · intro r answer
    apply (answered r past answer (⟨c, r⟩ :: past)).mono
    intro o said after
    rw [List.filterMap_append]
    cases made : sign ⟨c, r⟩ <;> simpa [made] using after
  · exact unanswered past

theorem Leaves.bind {mid : Outcome C α → List T → Prop} {last : Outcome C β → List T → Prop}
    (first : p.Leaves env sign mid)
    (rest : ∀ a ss, mid (.returned a) ss →
      (f a).Leaves env sign fun o ss' => last o (ss' ++ ss))
    (stops : ∀ c ss, mid (.stopped c) ss → last (.stopped c) ss) :
    (p >>= f).Leaves env sign last := by
  intro past
  apply (first past).bind
  · intro a said after
    apply (rest a _ after (said ++ past)).mono
    intro o said' after'
    rwa [List.filterMap_append]
  · intro c said after
    exact stops c _ after

/-- The program returns, and `post` holds of its result and the signs. -/
def returning (post : α → List T → Prop) (o : Outcome C α) (ss : List T) : Prop :=
  ∃ a, o = .returned a ∧ post a ss

/-- A part that returns, and the program after it. -/
theorem Leaves.after {mid : α → List T → Prop} {last : Outcome C β → List T → Prop}
    (first : p.Leaves env sign (returning mid))
    (rest : ∀ a ss, mid a ss → (f a).Leaves env sign fun o ss' => last o (ss' ++ ss)) :
    (p >>= f).Leaves env sign last := by
  apply first.bind
  · intro a ss returned
    obtain ⟨a', same, after⟩ := returned
    cases same
    exact rest a ss after
  · intro c ss returned
    obtain ⟨a, same, _⟩ := returned
    cases same

/-- A part that returns and leaves no sign. -/
theorem Leaves.silent {last : Outcome C β → List T → Prop}
    (first : p.Leaves env sign (returning fun _ ss => ss = []))
    (rest : ∀ a, (f a).Leaves env sign last) : (p >>= f).Leaves env sign last := by
  apply first.after
  intro a ss none
  simpa [none] using rest a

/-- A program that makes only calls which are answered and leave no sign. -/
theorem Only.silent {P : C → Prop} (only : p.Only P)
    (answers : ∀ past c, P c → ∃ r, env past c = some r)
    (unsigned : ∀ c r, P c → sign ⟨c, r⟩ = none) :
    p.Leaves env sign (returning fun _ ss => ss = []) := by
  induction p with
  | ret a => exact Leaves.ret ⟨a, rfl, rfl⟩
  | call c k ih =>
    apply Leaves.call
    · intro r past _
      rw [unsigned c r only.1]
      simpa using ih r (only.2 r)
    · intro past unanswered
      obtain ⟨r, answered⟩ := answers past c only.1
      rw [unanswered] at answered
      cases answered

end Signs

end Prog

end CallTree
