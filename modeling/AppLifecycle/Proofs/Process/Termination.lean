import AppLifecycle.Process.Termination
import Mathlib.Tactic

/-!
# Whom a request to end reaches

The number of a foreign process is turned into a signed one of the same width, and into its negative
for a group, without a look at its size. What a signed number means to the system goes by its sign,
and two numbers are special: `0` stands for the sender's own group, and `-1` for every process there
is. So a request reaches the process that is meant, or the group that it leads, only as long as the
number is positive as a signed one and its negative is not `-1`.
-/

namespace AppLifecycle

/-- Whom the system sends a signal to. -/
inductive Target where
  | process (pid : Nat)
  | ownGroup
  | everyone
  | group (leader : Nat)
deriving DecidableEq

/-- What the system takes a number for. -/
def Target.of (whom : Addressee) : Target :=
  if 0 < whom.toInt then .process whom.toInt.natAbs
  else if whom.toInt = 0 then .ownGroup
  else if whom.toInt = -1 then .everyone
  else .group whom.toInt.natAbs

/-- The process leads its group, as the system answers. -/
def SignalAnswers.Leads (answers : SignalAnswers) (pid : UInt32) : Prop :=
  answers.groupOf pid.toInt32 = some pid.toInt32

instance (answers : SignalAnswers) (pid : UInt32) : Decidable (answers.Leads pid) :=
  inferInstanceAs (Decidable (answers.groupOf pid.toInt32 = some pid.toInt32))

namespace Termination

/-- A number stands for the process, or for the group that the process leads. -/
def Aimed (answers : SignalAnswers) (pid : UInt32) (whom : Addressee) : Prop :=
  Target.of whom = .process pid.toNat ∨ answers.Leads pid ∧ Target.of whom = .group pid.toNat

variable {answers : SignalAnswers} {pid : UInt32} {whom : Addressee}

/-! ## The signed numbers -/

/-- The upper half of the numbers becomes negative. -/
lemma toInt_toInt32 (pid : UInt32) :
    pid.toInt32.toInt =
      if pid.toNat < 2 ^ 31 then (pid.toNat : Int) else (pid.toNat : Int) - 2 ^ 32 := by
  have bounded := pid.toNat_lt
  have same : pid.toInt32.toInt = (pid.toNat : Int).bmod (2 ^ 32) :=
    BitVec.toInt_eq_toNat_bmod pid.toBitVec
  rw [same, Int.bmod]
  split <;> omega

/-- The negative of the least number is that number itself. -/
lemma toInt_neg_toInt32 (pid : UInt32) :
    (-pid.toInt32).toInt =
      if pid.toNat ≤ 2 ^ 31 then -(pid.toNat : Int) else 2 ^ 32 - (pid.toNat : Int) := by
  have bounded := pid.toNat_lt
  rw [Int32.toInt_neg, toInt_toInt32, Int.bmod]
  split <;> split <;> omega

/-! ## What they stand for -/

lemma of_toInt32 (positive : 0 < pid.toNat) :
    Target.of pid.toInt32 =
      if pid.toNat < 2 ^ 31 then .process pid.toNat
      else if pid.toNat = 2 ^ 32 - 1 then .everyone
      else .group (2 ^ 32 - pid.toNat) := by
  have bounded := pid.toNat_lt
  rw [Target.of, toInt_toInt32]
  grind

lemma of_neg_toInt32 (positive : 0 < pid.toNat) :
    Target.of (-pid.toInt32) =
      if pid.toNat = 1 then .everyone
      else if pid.toNat ≤ 2 ^ 31 then .group pid.toNat
      else .process (2 ^ 32 - pid.toNat) := by
  have bounded := pid.toNat_lt
  rw [Target.of, toInt_neg_toInt32]
  grind

lemma aimed_toInt32_iff (positive : 0 < pid.toNat) :
    Aimed answers pid pid.toInt32 ↔
      pid.toNat < 2 ^ 31 ∨ answers.Leads pid ∧ pid.toNat = 2 ^ 31 := by
  rw [Aimed, of_toInt32 positive]
  split_ifs with lower last
  · exact iff_of_true (.inl rfl) (.inl lower)
  · simp [last]
  · -- a group that the number is the complement of, which is the number itself in the middle
    simp only [false_or, Target.group.injEq, lower]
    have middle : 2 ^ 32 - pid.toNat = pid.toNat ↔ pid.toNat = 2 ^ 31 := by omega
    rw [middle]

lemma aimed_neg_toInt32_iff (positive : 0 < pid.toNat) (leads : answers.Leads pid) :
    Aimed answers pid (-pid.toInt32) ↔ 1 < pid.toNat ∧ pid.toNat ≤ 2 ^ 31 := by
  rw [Aimed, of_neg_toInt32 positive]
  split_ifs with first lower
  · simp [first]
  · exact iff_of_true (.inr ⟨leads, rfl⟩) ⟨by omega, lower⟩
  · -- a process of another number
    simp only [Target.process.injEq, and_false, or_false, lower, iff_false]
    omega

/-! ## The requests -/

/-- A group is asked first, and the process where it leads none or the group could not be asked. -/
lemma mem_sent : whom ∈ (ofPid answers pid).sent ↔
    answers.Leads pid ∧ whom = -pid.toInt32 ∨
      (answers.Leads pid → answers.send (-pid.toInt32) ≠ .ok ()) ∧ whom = pid.toInt32 := by
  rw [SignalAnswers.Leads]
  by_cases leads : answers.groupOf pid.toInt32 = some pid.toInt32
  · rw [ofPid, if_pos leads]
    cases asked : answers.send (-pid.toInt32) with
    | ok _ => simp [leads]
    | error _ => simp [leads, ofProcess]
  · rw [ofPid, if_neg leads]
    simp [leads, ofProcess]

/-- No request is for the sender's own group. All are for the process or the group that it leads
exactly if the number has a sign of its own and, as the number of a leader, is not that of the first
process. -/
theorem aimed_iff (positive : 0 < pid) :
    (∀ whom ∈ (ofPid answers pid).sent, Target.of whom ≠ .ownGroup) ∧
    ((∀ whom ∈ (ofPid answers pid).sent, Aimed answers pid whom) ↔
      if answers.Leads pid then 1 < pid.toNat ∧ pid.toNat ≤ 2 ^ 31 else pid.toNat < 2 ^ 31) := by
  have positive : 0 < pid.toNat := UInt32.lt_iff_toNat_lt.mp positive
  refine ⟨fun whom sent => ?_, ?_⟩
  · obtain ⟨-, rfl⟩ | ⟨-, rfl⟩ := mem_sent.mp sent
    · rw [of_neg_toInt32 positive]
      split_ifs <;> simp
    · rw [of_toInt32 positive]
      split_ifs <;> simp
  split_ifs with leads
  · rw [← aimed_neg_toInt32_iff positive leads]
    refine ⟨fun all => all _ (mem_sent.mpr (.inl ⟨leads, rfl⟩)), fun group whom sent => ?_⟩
    -- where the group is the one that is meant, so is the process
    obtain ⟨-, rfl⟩ | ⟨-, rfl⟩ := mem_sent.mp sent
    · exact group
    · have small := (aimed_neg_toInt32_iff positive leads).mp group
      rw [aimed_toInt32_iff positive]
      exact (Nat.lt_or_eq_of_le small.2).imp_right fun middle => ⟨leads, middle⟩
  · refine ⟨fun all => ?_, fun lower whom sent => ?_⟩
    · have alone := all _ (mem_sent.mpr (.inr ⟨fun h => absurd h leads, rfl⟩))
      exact ((aimed_toInt32_iff positive).mp alone).resolve_right fun middle => leads middle.1
    · obtain ⟨h, -⟩ | ⟨-, rfl⟩ := mem_sent.mp sent
      · exact absurd h leads
      · exact (aimed_toInt32_iff positive).mpr (.inl lower)

/-- A leader whose group cannot be asked is asked alone, and a process that leads none at once. -/
theorem process_aimed :
    (∀ whom ∈ (ofPid ⟨some, fun _ => .error .notPermitted⟩ 42).sent,
      Aimed ⟨some, fun _ => .error .notPermitted⟩ 42 whom) ∧
    (∀ whom ∈ (ofPid ⟨fun _ => some 7, fun _ => .ok ()⟩ 42).sent,
      Aimed ⟨fun _ => some 7, fun _ => .ok ()⟩ 42 whom) :=
  ⟨(aimed_iff (by decide)).2.mpr (by decide), (aimed_iff (by decide)).2.mpr (by decide)⟩

/-- The last number is that of no process, so that its group is not found, and is taken for every
process there is. So is the group of the first process. -/
theorem everyone_asked :
    (ofPid ⟨fun _ => none, fun _ => .ok ()⟩ 4294967295).sent = [-1] ∧
    (ofPid ⟨some, fun _ => .ok ()⟩ 1).sent = [-1] ∧
    Target.of (-1) = .everyone ∧
    ¬ Aimed ⟨fun _ => none, fun _ => .ok ()⟩ 4294967295 (-1) ∧
    ¬ Aimed ⟨some, fun _ => .ok ()⟩ 1 (-1) := by
  refine ⟨by decide, by decide, by decide, ?_, ?_⟩
  · rintro (process | ⟨-, group⟩)
    · cases process
    · cases group
  · rintro (process | ⟨-, group⟩)
    · cases process
    · cases group

/-- Every process there is gets the request exactly for the first process, if it leads its group,
and for the last number, unless a group is found for it that can be asked. -/
theorem everyone_iff (positive : 0 < pid) :
    (∃ whom ∈ (ofPid answers pid).sent, Target.of whom = .everyone) ↔
      answers.Leads pid ∧ pid.toNat = 1 ∨
      (answers.Leads pid → answers.send (-pid.toInt32) ≠ .ok ()) ∧ pid.toNat = 2 ^ 32 - 1 := by
  have positive : 0 < pid.toNat := UInt32.lt_iff_toNat_lt.mp positive
  have group : Target.of (-pid.toInt32) = .everyone ↔ pid.toNat = 1 := by
    rw [of_neg_toInt32 positive]
    split_ifs <;> simp_all
  have alone : Target.of pid.toInt32 = .everyone ↔ pid.toNat = 2 ^ 32 - 1 := by
    rw [of_toInt32 positive]
    split_ifs with lower <;> simp_all
    omega
  constructor
  · rintro ⟨whom, sent, everyone⟩
    obtain ⟨leads, rfl⟩ | ⟨refused, rfl⟩ := mem_sent.mp sent
    · exact .inl ⟨leads, group.mp everyone⟩
    · exact .inr ⟨refused, alone.mp everyone⟩
  · rintro (⟨leads, first⟩ | ⟨refused, last⟩)
    · exact ⟨_, mem_sent.mpr (.inl ⟨leads, rfl⟩), group.mpr first⟩
    · exact ⟨_, mem_sent.mpr (.inr ⟨refused, rfl⟩), alone.mpr last⟩

end Termination

end AppLifecycle
