import AppLifecycle.Process.Inspector
import AppLifecycle.Proofs.Registry.Authorization

/-!
# The arguments of an application that names itself

An application that was not launched here, and names itself by its command line, is tracked with the
arguments that the system keeps of its process. The empty ones cannot be read back: the record has
the arguments of the process exactly if none of them is empty (`arguments_noted_iff`), and otherwise
those behind an empty one have moved up.
-/

namespace AppLifecycle

namespace Registry

variable {host : Host} {reg reg' : Registry} {pid : Nat} {q : Record}

/-- Where a process that is admitted gets a record of its own, the arguments noted in it are those of
its command line, without the program. -/
lemma Admission.arguments_eq (h : Admission host reg pid reg')
    (tracked : reg'.entries = q :: reg.entries) :
    ∃ line, host.commandLine pid = .ok line ∧ q.arguments = line.args.drop 1 := by
  have longer := congrArg List.length tracked
  cases h with
  | confirmed entries _ _ =>
    rw [entries] at longer
    simp at longer
  | trusted _ _ _ => simp at longer
  | hinted _ _ _ _ place _ =>
    rw [place.entries] at longer
    simp at longer
  | created _ readable _ _ _ _ new =>
    have same := (List.cons.inj tracked).1
    exact ⟨_, readable, by rw [← same, new]; rfl⟩

end Registry

namespace CommandLine

variable {args : List String}

lemma filter_eq_self_iff : args.filter (· ≠ "") = args ↔ "" ∉ args := by
  rw [List.filter_eq_self]
  simp only [decide_eq_true_eq]
  exact ⟨fun all mem => all "" mem rfl, fun none arg harg same => none (same ▸ harg)⟩

/-- Without the program, the arguments that are not empty are all of them only if the program is not
empty either. -/
lemma drop_filter_iff (some : args.filter (· ≠ "") ≠ []) :
    (args.filter (· ≠ "")).drop 1 = args.drop 1 ↔ "" ∉ args := by
  cases args with
  | nil => simp
  | cons program rest =>
    rw [List.mem_cons, not_or]
    by_cases named : program = ""
    · -- one more has moved up to the place of the program
      have fewer : ((program :: rest).filter (· ≠ "")).length ≤ rest.length := by
        rw [List.filter_cons_of_neg (by simp [named])]
        exact List.length_filter_le _ _
      have one := List.length_pos_iff.mpr some
      refine iff_of_false (fun same => ?_) fun both => both.1 named.symm
      have lengths := congrArg List.length same
      rw [List.length_drop, List.length_drop, List.length_cons] at lengths
      omega
    · rw [List.filter_cons_of_pos (by simp [named]), List.drop_one, List.drop_one, List.tail_cons,
        List.tail_cons, filter_eq_self_iff]
      exact (and_iff_right (Ne.symm named)).symm

/-- A process has a command line if some argument of it is not empty. -/
lemma commandLine_kept (plain : ∀ arg ∈ args, '\x00' ∉ arg.toList) (pid : Nat) :
    CommandFile.commandLine pid (.bytes (kept args)) =
      if args.filter (· ≠ "") = [] then .error (.noSuchProcess pid)
      else .ok ⟨args.filter (· ≠ "")⟩ := by
  have read : ofBytes (kept args) = ⟨args.filter (· ≠ "")⟩ :=
    congrArg CommandLine.mk (args_ofBytes_kept plain)
  unfold CommandFile.commandLine
  dsimp only
  rw [read]
  unfold isEmpty
  simp only [List.isEmpty_iff]

end CommandLine

namespace Registry

/-- Of the arguments of a process, none of which has a zero character, those are read back that are
not empty, in their order: all of them exactly if none is empty. So they are noted as they are,
without the program, exactly then, whenever an application that is not known yet names itself by
them. -/
theorem arguments_noted_iff {args : List String} (plain : ∀ arg ∈ args, '\x00' ∉ arg.toList) :
    (CommandLine.ofBytes (CommandLine.kept args)).args = args.filter (· ≠ "") ∧
    ((CommandLine.ofBytes (CommandLine.kept args)).args = args ↔ "" ∉ args) ∧
    ∀ (lifecycle : LifecyclePolicy) (authorization : AuthorizationPolicy)
      (ops : List (Host × Operation)) (host : Host) (reg : Registry) (pid : Nat) (q : Record),
      reg = after lifecycle authorization ops →
      host.commandLine pid = CommandFile.commandLine pid (.bytes (CommandLine.kept args)) →
      (reg.authorizeSession host pid).2.entries = q :: reg.entries →
      (q.arguments = args.drop 1 ↔ "" ∉ args) := by
  have read := CommandLine.args_ofBytes_kept plain
  refine ⟨read, ?_, fun lifecycle authorization ops host reg pid q reached reads tracked => ?_⟩
  · rw [read, CommandLine.filter_eq_self_iff]
  · have admitted : MayOpen host reg pid := by
      by_contra refused
      rw [authorizeSession_refused (authorizeSession_of_not refused)] at tracked
      exact absurd (congrArg List.length tracked) (by simp)
    obtain ⟨reg', admission⟩ := admitted.exists_admission
    have shares : Shares reg := reached ▸ (after_reachable lifecycle authorization ops).shares
    rw [admission.authorizeSession_eq shares.unused] at tracked
    obtain ⟨line, readable, noted⟩ := admission.arguments_eq tracked
    rw [reads, CommandLine.commandLine_kept plain] at readable
    -- a process without any argument that can be read back would have been refused
    split_ifs at readable with none
    cases readable
    rw [noted]
    exact CommandLine.drop_filter_iff none

/-- A machine on which every process has been called with these arguments. -/
def calledWith (args : List String) : Host :=
  { confiding args with
    commandLine := fun pid => CommandFile.commandLine pid (.bytes (CommandLine.kept args)) }

lemma calledWith_eq {args : List String} (plain : ∀ arg ∈ args, '\x00' ∉ arg.toList)
    (some : args.filter (· ≠ "") ≠ []) : calledWith args = confiding (args.filter (· ≠ "")) := by
  unfold calledWith confiding
  simp only [CommandLine.commandLine_kept plain, if_neg some]

/-- The notes are called for the side stage, with a title and a page. -/
def titled : List String := notesLine ++ ["--title", "Notes", "--page=2"]

/-- The notes are called for the side stage, on a page without a title. -/
def untitled : List String := notesLine ++ ["--title", "", "--page=2"]

/-- The arguments of the notes are noted as they are where there is a title, and are not where there
is none. -/
theorem titled_noted :
    (∀ arg ∈ titled, '\x00' ∉ arg.toList) ∧ (∀ arg ∈ untitled, '\x00' ∉ arg.toList) ∧
    (∃ q, ((Registry.empty .standard .standard).authorizeSession (calledWith titled) 9).2.entries =
      [q] ∧ q.arguments = titled.drop 1) ∧
    ∃ q, ((Registry.empty .standard .standard).authorizeSession (calledWith untitled) 9).2.entries =
      [q] ∧ q.arguments ≠ untitled.drop 1 := by
  have plain : ∀ arg ∈ titled, '\x00' ∉ arg.toList := by decide
  have plain' : ∀ arg ∈ untitled, '\x00' ∉ arg.toList := by decide
  have tracked : ∃ q, ((Registry.empty .standard .standard).authorizeSession
      (calledWith titled) 9).2.entries = [q] := by
    rw [calledWith_eq plain (by decide)]
    exact ⟨_, rfl⟩
  have tracked' : ∃ q, ((Registry.empty .standard .standard).authorizeSession
      (calledWith untitled) 9).2.entries = [q] := by
    rw [calledWith_eq plain' (by decide)]
    exact ⟨_, rfl⟩
  obtain ⟨q, hq⟩ := tracked
  obtain ⟨q', hq'⟩ := tracked'
  have noted := (arguments_noted_iff plain).2.2 .standard .standard [] (calledWith titled) _ 9 q rfl
    rfl hq
  have lost := (arguments_noted_iff plain').2.2 .standard .standard [] (calledWith untitled) _ 9 q'
    rfl rfl hq'
  exact ⟨plain, plain', ⟨q, hq, noted.mpr (by decide)⟩, q', hq', lost.not.mpr (by decide)⟩

/-- What stands behind an empty argument moves up when it is read back: the page becomes the title of
the notes. -/
theorem title_lost :
    (∀ arg ∈ untitled, '\x00' ∉ arg.toList) ∧
    (CommandLine.ofBytes (CommandLine.kept untitled)).args ≠ untitled ∧
    (CommandLine.ofBytes (CommandLine.kept untitled)).args = notesLine ++ ["--title", "--page=2"] ∧
    (((Registry.empty .standard .standard).authorizeSession (calledWith untitled) 9).2.entries.map
      Record.arguments) = [(notesLine ++ ["--title", "--page=2"]).drop 1] := by
  have plain : ∀ arg ∈ untitled, '\x00' ∉ arg.toList := by decide
  rw [CommandLine.args_ofBytes_kept plain, calledWith_eq plain (by decide)]
  exact ⟨plain, by decide, by decide, by decide⟩

end Registry

end AppLifecycle
