import AppLifecycle.Proofs.CommandLine
import AppLifecycle.Proofs.Registry.Refusals
import AppLifecycle.Proofs.Registry.WakelockShares

/-!
# Who may open a session

A process may open a session if the controller confirms that it is one of an application that is
starting, if its command line is that of a trusted helper, or if it says itself which application it
is. The rules are tried in this order, and each of them changes one thing only (`Admission`): a
process that is admitted is noted at the record, among the helpers, or in a record of its own.
-/

namespace AppLifecycle

/-- The controller confirms that the process is one of this application, which is starting. -/
def Record.Confirmed (host : Host) (pid : Nat) (r : Record) : Prop :=
  r.state = .starting ∧ host.hasProcess r.id pid = true

instance (host : Host) (pid : Nat) (r : Record) : Decidable (r.Confirmed host pid) :=
  inferInstanceAs (Decidable (_ ∧ _))

namespace AuthorizationPolicy

/-- The program has a trusted name, or a trusted piece occurs in its command line. -/
def Trusts (p : AuthorizationPolicy) (line : CommandLine) : Prop :=
  (∃ start ∈ p.trustedPrefixes, ∃ program rest, line.args = program :: rest ∧
    start.toList <+: program.toList) ∨
  ∃ piece ∈ p.trustedSubstrings, piece.toList <:+: line.joined.toList

/-- The first hint at a desktop file names an application. -/
def Names (p : AuthorizationPolicy) (line : CommandLine) (id : AppId) : Prop :=
  ∃ file, line.Hints p.desktopFileHint file ∧ Registry.idOfDesktopFile file = some id

variable {p : AuthorizationPolicy} {line : CommandLine} {id : AppId}

lemma names_iff : (line.valueOf p.desktopFileHint).bind Registry.idOfDesktopFile = some id ↔
    p.Names line id := by
  rw [Option.bind_eq_some_iff]
  constructor
  · rintro ⟨file, hint, named⟩
    exact ⟨file, CommandLine.valueOf_eq_some_iff.mp hint, named⟩
  · rintro ⟨file, hint, named⟩
    exact ⟨file, CommandLine.valueOf_eq_some_iff.mpr hint, named⟩

end AuthorizationPolicy

namespace Scene

variable {host : Host} {r : Record} {w : Wakelock} {journal : List Effect} {pid : Nat}

/-- What a new record takes of the wakelock, where its share is not in use yet. -/
lemma begin_eq (starting : r.state = .starting) (fresh : r.owner ∉ w.owners) :
    begin host r w journal =
      ⟨r, if r.exempt then w else w.acquire host.grants r.owner, journal⟩ := by
  have wants : r.wantsWakelock = !r.exempt := by
    unfold Record.wantsWakelock
    rw [starting]
    exact Bool.and_true _
  unfold begin syncWakelock
  dsimp only
  rw [wants]
  cases r.exempt with
  | true =>
    have unused : w.release r.owner = w := if_neg fresh
    simp [unused]
  | false => simp

/-- Its process is noted, and the side stage if it is asked for and supported. -/
lemma identify_eq (pid : Nat) (side : Prop) [Decidable side] :
    identify pid side ⟨r, w, journal⟩ =
      ⟨{ r with
        pid
        stage := if side ∧ r.descriptor.stages.supports .side = true then .side else r.stage },
        w, journal⟩ := by
  unfold identify setPid setStage update
  dsimp only
  by_cases asked : side
  · rw [if_pos asked]
    by_cases supported : r.descriptor.stages.supports .side = true
    · rw [if_pos supported, if_pos ⟨asked, supported⟩]
    · rw [if_neg supported, if_neg fun both => supported both.2]
  · rw [if_neg asked, if_neg fun both => asked both.1]

end Scene

namespace Registry

variable {P : Host → Prop} {host : Host} {reg reg' : Registry} {front back : List Record}
variable {r : Record} {line : CommandLine} {id : AppId} {descriptor : Descriptor} {pid : Nat}

/-- The record of an application whose process has named it: it is starting, and nothing is known of
its process but the number and the command line. -/
def identified (reg : Registry) (descriptor : Descriptor) (line : CommandLine) (id : AppId)
    (pid : Nat) : Record where
  id := descriptor.id
  descriptor
  arguments := line.args.drop 1
  state := .starting
  requested := .running
  process := .unknown
  pid
  session := none
  exempt := reg.lifecycle.isExempt id
  stage := if line.Hints reg.authorization.stageHint "side_stage" ∧
    descriptor.stages.supports .side = true then .side else descriptor.stage
  focused := false
  screenshot := 0
  timer := .new reg.lifecycle.closeTimeout
  owner := ⟨reg.nextOwner⟩
  passes := 0
  violations := 0

/-- How a process comes to be admitted, and what changes with it. No rule is tried where one before
it applies. -/
inductive Admission (host : Host) (reg : Registry) (pid : Nat) : Registry → Prop where
  /-- The first record that is confirmed notes the process. -/
  | confirmed {front back : List Record} {r : Record} (entries : reg.entries = front ++ r :: back)
      (confirmed : r.Confirmed host pid) (first : ∀ q ∈ front, ¬ q.Confirmed host pid) :
      Admission host reg pid { reg with entries := front ++ { r with pid } :: back }
  | trusted {line : CommandLine} (unconfirmed : ∀ q ∈ reg.entries, ¬ q.Confirmed host pid)
      (readable : host.commandLine pid = .ok line) (trusted : reg.authorization.Trusts line) :
      Admission host reg pid { reg with helpers := reg.helpers.insert pid }
  /-- The process has named an application that is starting. -/
  | hinted {front back : List Record} {r : Record} {line : CommandLine}
      (unconfirmed : ∀ q ∈ reg.entries, ¬ q.Confirmed host pid)
      (readable : host.commandLine pid = .ok line) (stranger : ¬ reg.authorization.Trusts line)
      (named : reg.authorization.Names line r.id) (place : Located reg front r back)
      (starting : r.state = .starting) :
      Admission host reg pid { reg with entries := front ++ { r with pid } :: back }
  /-- The process has named an application that the registry does not know of. -/
  | created {line : CommandLine} {id : AppId} {descriptor : Descriptor} {r : Record}
      (unconfirmed : ∀ q ∈ reg.entries, ¬ q.Confirmed host pid)
      (readable : host.commandLine pid = .ok line) (stranger : ¬ reg.authorization.Trusts line)
      (named : reg.authorization.Names line id) (untracked : ∀ q ∈ reg.entries, q.id ≠ id)
      (known : host.findMetadata id = some descriptor)
      (new : r = reg.identified descriptor line id pid) :
      Admission host reg pid
        { reg with
          entries := r :: reg.entries
          wakelock := if r.exempt then reg.wakelock else reg.wakelock.acquire host.grants r.owner
          events := reg.events ++ [.added 0 r.id, .countChanged (reg.entries.length + 1)]
          nextOwner := reg.nextOwner + 1 }

/-- A process may be admitted: it is confirmed, a trusted helper, or one of an application that it
names and that is starting, or that only the controller knows of. -/
def MayOpen (host : Host) (reg : Registry) (pid : Nat) : Prop :=
  (∃ r ∈ reg.entries, r.Confirmed host pid) ∨
  ∃ line, host.commandLine pid = .ok line ∧
    (reg.authorization.Trusts line ∨
      ∃ id, reg.authorization.Names line id ∧
        ((∃ front r back, Located reg front r back ∧ r.id = id ∧ r.state = .starting) ∨
          (∀ r ∈ reg.entries, r.id ≠ id) ∧ ∃ descriptor, host.findMetadata id = some descriptor))

/-! ## What the rules come to -/

lemma isTrusted_iff : reg.isTrusted line = true ↔ reg.authorization.Trusts line := by
  unfold isTrusted AuthorizationPolicy.Trusts
  simp only [Bool.or_eq_true, List.any_eq_true, CommandLine.startsWith_iff,
    CommandLine.contains_iff]

/-- The record that the first rule looks for. -/
lemma findIdx?_confirmed (host : Host) (pid : Nat) (reg : Registry) :
    (reg.entries.findIdx? fun r => r.state = .starting && host.hasProcess r.id pid) =
      reg.entries.findIdx? fun r => decide (r.Confirmed host pid) := by
  congr 1
  funext r
  rw [Bool.eq_iff_iff, Bool.and_eq_true, decide_eq_true_iff, decide_eq_true_iff]
  exact Iff.rfl

lemma unconfirmed_iff :
    (reg.entries.findIdx? fun r => decide (r.Confirmed host pid)) = none ↔
      ∀ r ∈ reg.entries, ¬ r.Confirmed host pid := by
  rw [List.findIdx?_eq_none_iff]
  simp only [decide_eq_false_iff_not]

/-- The first rule: it is the first record that the controller confirms. -/
lemma authorizeSession_confirmed (entries : reg.entries = front ++ r :: back)
    (confirmed : r.Confirmed host pid) (first : ∀ q ∈ front, ¬ q.Confirmed host pid) :
    reg.authorizeSession host pid =
      (true, { reg with entries := front ++ { r with pid } :: back }) := by
  have found : (reg.entries.findIdx? fun r => decide (r.Confirmed host pid)) =
      some front.length := by
    rw [entries, List.findIdx?_append, List.findIdx?_eq_none_iff.mpr, List.findIdx?_cons,
      decide_eq_true confirmed]
    · simp
    · intro q hq
      exact decide_eq_false (first q hq)
  unfold authorizeSession
  rw [findIdx?_confirmed, found]
  exact congrArg (Prod.mk true) (setPidAt_eq entries pid)

/-- Whoever may open a session is admitted by one of the rules. -/
lemma MayOpen.exists_admission (h : MayOpen host reg pid) : ∃ reg', Admission host reg pid reg' := by
  cases found : reg.entries.findIdx? fun r => decide (r.Confirmed host pid) with
  | some index =>
    obtain ⟨front, r, back, entries, -, confirmed, first⟩ := exists_append_of_findIdx? found
    exact ⟨_, .confirmed entries (of_decide_eq_true confirmed) fun q hq =>
      of_decide_eq_false (first q hq)⟩
  | none =>
    have unconfirmed := unconfirmed_iff.mp found
    rcases h with ⟨r, hr, confirmed⟩ | ⟨line, readable, rules⟩
    · exact absurd confirmed (unconfirmed r hr)
    · by_cases trusted : reg.authorization.Trusts line
      · exact ⟨_, .trusted unconfirmed readable trusted⟩
      · rcases rules.resolve_left trusted with
          ⟨id, named, ⟨front, r, back, place, rfl, starting⟩ | ⟨untracked, descriptor, known⟩⟩
        · exact ⟨_, .hinted unconfirmed readable trusted named place starting⟩
        · exact ⟨_, .created unconfirmed readable trusted named untracked known rfl⟩

lemma newcomer_identified (fresh : (⟨reg.nextOwner⟩ : WakelockOwner) ∉ reg.wakelock.owners) :
    reg.newcomer host descriptor (line.args.drop 1) (reg.lifecycle.isExempt id)
      (Scene.identify pid (line.valueOf reg.authorization.stageHint = some "side_stage")) =
      ⟨reg.identified descriptor line id pid,
        if reg.lifecycle.isExempt id then reg.wakelock
        else reg.wakelock.acquire host.grants ⟨reg.nextOwner⟩, reg.journal⟩ := by
  unfold newcomer
  rw [Scene.begin_eq rfl fresh, Scene.identify_eq]
  unfold identified
  simp only [CommandLine.valueOf_eq_some_iff]
  rfl

/-- A process that one of the rules admits is told so, and what the rule says is what changes. -/
lemma Admission.authorizeSession_eq (h : Admission host reg pid reg')
    (fresh : (⟨reg.nextOwner⟩ : WakelockOwner) ∉ reg.wakelock.owners) :
    reg.authorizeSession host pid = (true, reg') := by
  -- a rule is come to since those before it do not apply
  cases h with
  | confirmed entries confirmed first => exact authorizeSession_confirmed entries confirmed first
  | trusted unconfirmed readable trusted =>
    unfold authorizeSession
    rw [findIdx?_confirmed, unconfirmed_iff.mpr unconfirmed]
    dsimp only
    rw [readable]
    dsimp only
    rw [if_pos (isTrusted_iff.mpr trusted)]
  | hinted unconfirmed readable stranger named place starting =>
    unfold authorizeSession
    rw [findIdx?_confirmed, unconfirmed_iff.mpr unconfirmed]
    dsimp only
    rw [readable]
    dsimp only
    rw [if_neg (isTrusted_iff.not.mpr stranger), AuthorizationPolicy.names_iff.mpr named]
    dsimp only
    rw [place.indexOf]
    dsimp only
    rw [place.getElem?]
    dsimp only
    rw [if_pos starting]
    exact congrArg (Prod.mk true) (setPidAt_eq place.entries pid)
  | @created line id descriptor r unconfirmed readable stranger named untracked known new =>
    unfold authorizeSession
    rw [findIdx?_confirmed, unconfirmed_iff.mpr unconfirmed]
    dsimp only
    rw [readable]
    dsimp only
    rw [if_neg (isTrusted_iff.not.mpr stranger), AuthorizationPolicy.names_iff.mpr named]
    dsimp only
    rw [indexOf_eq_none.mpr untracked]
    dsimp only
    rw [known]
    show (true, reg.welcome (reg.newcomer host descriptor (line.args.drop 1)
      (reg.lifecycle.isExempt id)
      (Scene.identify pid (line.valueOf reg.authorization.stageHint = some "side_stage")))) = _
    rw [newcomer_identified fresh, new]
    rfl

/-- Whoever may not open a session is told so. -/
lemma authorizeSession_of_not (h : ¬ MayOpen host reg pid) :
    (reg.authorizeSession host pid).1 = false := by
  rw [MayOpen, not_or] at h
  obtain ⟨unconfirmed, unnamed⟩ := h
  push Not at unconfirmed unnamed
  unfold authorizeSession
  rw [findIdx?_confirmed, unconfirmed_iff.mpr unconfirmed]
  dsimp only
  split
  · rfl
  · rename_i line readable
    obtain ⟨stranger, unnamed⟩ := unnamed line readable
    rw [if_neg (isTrusted_iff.not.mpr stranger)]
    split
    · rfl
    · rename_i id named
      obtain ⟨other, unknown⟩ := unnamed id (AuthorizationPolicy.names_iff.mp named)
      split
      · rename_i index hindex
        obtain ⟨front, r, back, place, hid, rfl⟩ := exists_located hindex
        rw [place.getElem?]
        dsimp only
        rw [if_neg (other front r back place hid)]
      · rename_i untracked
        split
        · rfl
        · rename_i descriptor known
          exact absurd known (unknown (indexOf_eq_none.mp untracked) descriptor)

/-- The share of the next record is not in use yet. -/
lemma Shares.unused (h : Shares reg) : (⟨reg.nextOwner⟩ : WakelockOwner) ∉ reg.wakelock.owners := by
  intro used
  obtain ⟨r, hr, owner, -⟩ := (h.mem_iff _).mp used
  have older := h.fresh r hr
  rw [owner] at older
  exact Nat.lt_irrefl _ older

lemma authorizeSession_iff (h : Shares reg) (host : Host) (pid : Nat) :
    (reg.authorizeSession host pid).1 = true ↔ MayOpen host reg pid := by
  constructor
  · intro yes
    by_contra no
    rw [authorizeSession_of_not no] at yes
    cases yes
  · intro may
    obtain ⟨reg', admission⟩ := may.exists_admission
    rw [admission.authorizeSession_eq h.unused]

/-- In every registry that can be reached, a process that asks to open a session is told yes exactly
if it may: if the controller confirms it for an application that is starting, if it is a trusted
helper, or if it names an application that is starting or that only the controller knows of. It is
admitted by the first of these rules that applies, and only what the rule says changes; nothing
changes if it is told no. -/
theorem admitted_iff (h : Reachable P reg) (host : Host) (pid : Nat) :
    ((reg.authorizeSession host pid).1 = true ↔ MayOpen host reg pid) ∧
    (∀ reg', reg.authorizeSession host pid = (true, reg') ↔ Admission host reg pid reg') ∧
    ((reg.authorizeSession host pid).1 = false → (reg.authorizeSession host pid).2 = reg) := by
  have told := authorizeSession_iff h.shares host pid
  refine ⟨told, fun reg' => ⟨fun yes => ?_, fun admission => ?_⟩, authorizeSession_refused⟩
  · have may := told.mp (by rw [yes])
    obtain ⟨reg'', admission⟩ := may.exists_admission
    have same := (admission.authorizeSession_eq h.shares.unused).symm.trans yes
    cases same
    exact admission
  · exact admission.authorizeSession_eq h.shares.unused

/-- A machine that confirms no process, and has one command line for all of them. -/
def confiding (args : List String) : Host :=
  { Host.willing with hasProcess := fun _ _ => false, commandLine := fun _ => .ok ⟨args⟩ }

/-- The notes are called with the name of their desktop file, and ask for the side stage. -/
def notesLine : List String :=
  ["notes", "--desktop_file_hint=notes.desktop", "--stage_hint=side_stage"]

/-- The notes are not known yet and do not support the side stage: they are admitted, and a record
of theirs is added that is on the main stage. -/
theorem notes_admitted :
    Reachable Host.Faithful (.empty .standard .standard) ∧
    MayOpen (confiding notesLine) (.empty .standard .standard) 9 ∧
    (∃ reg', Admission (confiding notesLine) (.empty .standard .standard) 9 reg' ∧
      reg'.entries.map (fun r => (r.id, r.pid, r.stage)) = [(⟨"notes"⟩, 9, .main)] ∧
      reg'.entries.map Record.arguments = [notesLine.drop 1]) ∧
    ¬ MayOpen (confiding ["notes"]) (.empty .standard .standard) 9 := by
  have start : Reachable Host.Faithful (.empty .standard .standard) := .empty _ _
  obtain ⟨told, how, -⟩ := admitted_iff start (confiding notesLine) 9
  have unnamed := (admitted_iff start (confiding ["notes"]) 9).1
  have yes : ((Registry.empty .standard .standard).authorizeSession (confiding notesLine) 9).1 =
      true := by decide
  refine ⟨start, told.mp yes, ⟨((Registry.empty .standard .standard).authorizeSession
    (confiding notesLine) 9).2, (how _).mp (Prod.ext yes rfl), by decide, by decide⟩, ?_⟩
  rw [← unnamed]
  decide

/-- The same machine with an application that is at home on the side stage. -/
def sideways : Host :=
  { confiding ["notes", "--desktop_file_hint=notes.desktop"] with
    findMetadata := fun id =>
      some ((Descriptor.basic id id.text [id.text]).withStages .side ⟨true, true⟩) }

/-- The notes are on the side stage without having asked for it, where that is their own stage. -/
theorem notes_aside_unasked :
    Reachable Host.Faithful
      ((Registry.empty .standard .standard).authorizeSession sideways 9).2 ∧
    ((Registry.empty .standard .standard).authorizeSession sideways 9).1 = true ∧
    (∀ line, sideways.commandLine 9 = .ok line →
      ¬ line.Hints AuthorizationPolicy.standard.stageHint "side_stage") ∧
    ((Registry.empty .standard .standard).authorizeSession sideways 9).2.entries.map
      (fun r => (r.id, r.stage)) = [(⟨"notes"⟩, .side)] := by
  have faithful : sideways.Faithful := by
    intro id descriptor known
    cases known
    rfl
  refine ⟨(Reachable.empty .standard .standard).perform (.authorize 9) faithful, by decide, ?_,
    by decide⟩
  intro line readable
  cases readable
  decide

end Registry

end AppLifecycle
