import AppLifecycle.Proofs.Registry.DesktopFiles
import AppLifecycle.Proofs.Registry.Steps

/-!
# The courses of operations

What an operation does to a registry as a whole. `Course` has a case for every way that an operation
can go, with all that was known when it went that way, and `perform_course` says that there is no
other way. What an operation does at most once to a record, or in one order only, is read off its
course; an invariant needs less, since a course is a chain of steps (`perform_steps`).
-/

namespace AppLifecycle

namespace Registry

variable {host : Host} {op : Operation} {reg reg' : Registry} {front back : List Record}
variable {r q : Record} {id : AppId}

/-! ## Asking to open a session -/

/-- The command line of a process names an application, and is not that of a trusted helper. -/
def Hints (host : Host) (reg : Registry) (pid : Nat) (id : AppId) : Prop :=
  ∃ line, host.commandLine pid = .ok line ∧ reg.isTrusted line = false ∧
    (line.valueOf reg.authorization.desktopFileHint).bind idOfDesktopFile = some id

/-- A process is bound to the record `q`: the controller confirms it to be that of a starting
application, or it says itself to be, or a record is created for the application that it says it
is. -/
inductive Binding (host : Host) (reg : Registry) (pid : Nat) : Record → Registry → Prop where
  | confirmed {front back : List Record} {r : Record} (entries : reg.entries = front ++ r :: back)
      (starting : r.state = .starting) (owns : host.hasProcess r.id pid = true) :
      Binding host reg pid { r with pid } { reg with entries := front ++ { r with pid } :: back }
  | hinted {front back : List Record} {r : Record} (place : Located reg front r back)
      (starting : r.state = .starting) (hint : Hints host reg pid r.id) :
      Binding host reg pid { r with pid } { reg with entries := front ++ { r with pid } :: back }
  | created {id : AppId} {descriptor : Descriptor} (arguments : List String) (side : Prop)
      [Decidable side] (hint : Hints host reg pid id) (untracked : reg.indexOf id = none)
      (known : host.findMetadata id = some descriptor) :
      Binding host reg pid
        (reg.newcomer host descriptor arguments (reg.lifecycle.isExempt id)
          (Scene.identify pid side)).record
        (reg.welcome (reg.newcomer host descriptor arguments (reg.lifecycle.isExempt id)
          (Scene.identify pid side)))

/-- What a process is told that asks to open a session, and what comes of it. -/
inductive Verdict (host : Host) (reg : Registry) (pid : Nat) : Bool × Registry → Prop where
  | refused : Verdict host reg pid (false, reg)
  | trusted {line : CommandLine} (hline : host.commandLine pid = .ok line)
      (trusted : reg.isTrusted line = true) :
      Verdict host reg pid (true, { reg with helpers := reg.helpers.insert pid })
  | bound {q : Record} {reg' : Registry} (binding : Binding host reg pid q reg') :
      Verdict host reg pid (true, reg')

theorem authorizeSession_verdict (host : Host) (pid : Nat) (reg : Registry) :
    Verdict host reg pid (reg.authorizeSession host pid) := by
  unfold authorizeSession
  split
  -- a process of a starting application: the record is found by its state, not by its id
  · rename_i index hindex
    obtain ⟨front, r, back, hentries, rfl, hr, -⟩ := exists_append_of_findIdx? hindex
    rw [Bool.and_eq_true] at hr
    rw [setPidAt_eq hentries]
    exact .bound (.confirmed hentries (of_decide_eq_true hr.1) hr.2)
  · split
    · exact .refused
    · rename_i line hline
      split
      · rename_i trusted
        exact .trusted hline trusted
      · rename_i stranger
        split
        · exact .refused
        · rename_i id hhint
          have hint : Hints host reg pid id := ⟨line, hline, Bool.eq_false_iff.mpr stranger, hhint⟩
          split
          · rename_i index hindex
            obtain ⟨front, r, back, place, rfl, rfl⟩ := exists_located hindex
            rw [place.getElem?]
            dsimp only
            split
            · rename_i starting
              rw [setPidAt_eq place.entries]
              exact .bound (.hinted place starting hint)
            · exact .refused
          · rename_i untracked
            split
            · exact .refused
            · rename_i descriptor known
              exact .bound (.created _ _ hint untracked known)

lemma Hints.short {pid : Nat} (h : Hints host reg pid id) :
    ∃ given : AppId, id = given.normalized := by
  obtain ⟨line, -, -, hhint⟩ := h
  obtain ⟨hint, -, hid⟩ := Option.bind_eq_some_iff.mp hhint
  obtain ⟨given, -, -, short⟩ := idOfDesktopFile_eq_some_iff.mp hid
  exact ⟨given, short.symm⟩

/-! ## The courses -/

/-- What an operation that touches no record makes of the admissions of helpers, and what it does
outside the registry. -/
inductive Note (host : Host) (reg : Registry) : Operation → List Nat → List Effect → Prop where
  /-- The controller fails to launch the application. -/
  | unlaunched {id : AppId} {args : List String} (untracked : reg.indexOf id.normalized = none) :
      Note host reg (.start id args) reg.helpers [.call (.start id.normalized args)]
  | trusted {pid : Nat} {line : CommandLine} (hline : host.commandLine pid = .ok line)
      (trusted : reg.isTrusted line = true) :
      Note host reg (.authorize pid) (reg.helpers.insert pid) []
  /-- The session of a helper is left alone. -/
  | helper {session : Session} (admitted : session.pid ∈ reg.helpers) :
      Note host reg (.sessionStarting session) (reg.helpers.erase session.pid) [.letGo session.id]
  | intruder (session : Session) :
      Note host reg (.sessionStarting session) reg.helpers
        [.ask session .stop, .letGo session.id]

/-- What an operation as a whole does to a registry. -/
inductive Course (host : Host) : Operation → Registry → Registry → Prop where
  | idle {op : Operation} {reg : Registry} : Course host op reg reg
  | note {op : Operation} {reg : Registry} {helpers : List Nat} {effects : List Effect}
      (note : Note host reg op helpers effects) :
      Course host op reg { reg with helpers, journal := reg.journal ++ effects }
  | announce {reg : Registry} (id : AppId) :
      Course host (.process (.focusRequested id)) reg (reg.emit [.focusRequested id.normalized])
  | treat {op : Operation} {reg : Registry} {front back : List Record} {r : Record}
      {f : Scene → Scene} (place : Located reg front r back)
      (treatment : Treatment host reg op r f) :
      Course host op reg (reg.settle front r back (f (reg.scene r)))
  /-- A process starts in place of one that is gone. -/
  | relaunch {reg : Registry} {front back : List Record} {r : Record} {id : AppId}
      (place : Located reg front r back) (hid : r.id = id.normalized)
      (gone : r.state = .stoppedResumable) :
      Course host (.process (.starting id)) reg
        ((reg.emit [.focusRequested r.id]).settle front r back
          (Scene.onProcess host .running (reg.scene r)))
  /-- A process has ended, and a record of its application that is still there is given up. -/
  | finish {reg : Registry} {front back front' back' : List Record} {r q : Record} {id : AppId}
      (place : Located reg front r back) (hid : r.id = id.normalized) (news : keepsExit r = false)
      (left : Located (reg.settle front r back (Scene.onProcess host .stopped (reg.scene r)))
        front' q back') (hq : q.id = r.id) :
      Course host (.process (.stopped id)) reg
        ((reg.settle front r back (Scene.onProcess host .stopped (reg.scene r))).evict
          front' q back')
  | launch {reg : Registry} {id : AppId} {args : List String} {descriptor : Descriptor}
      (untracked : reg.indexOf id.normalized = none)
      (known : host.findMetadata id.normalized = some descriptor) :
      Course host (.start id args) reg
        ((reg.call (.start id.normalized args)).welcome
          ((reg.call (.start id.normalized args)).newcomer host descriptor args
            (reg.lifecycle.isExempt id.normalized) fun s => s))
  | bind {reg reg' : Registry} {pid : Nat} {q : Record} (binding : Binding host reg pid q reg') :
      Course host (.authorize pid) reg reg'
  /-- A process starts that was not asked for. -/
  | appear {reg : Registry} {id : AppId} {descriptor : Descriptor} {s : Scene}
      (untracked : reg.indexOf id.normalized = none)
      (known : host.findMetadata id.normalized = some descriptor)
      (hid : descriptor.id = id.normalized)
      (new : s = reg.newcomer host descriptor [] (reg.lifecycle.isExempt id.normalized)
        fun s => s) :
      Course host (.process (.starting id)) reg
        (((reg.welcome s).emit [.focusRequested id.normalized]).settle [] s.record reg.entries
          (Scene.onProcess host .running
            (((reg.welcome s).emit [.focusRequested id.normalized]).scene s.record)))
  /-- The same with a descriptor of another application. -/
  | stray {reg : Registry} {id : AppId} {descriptor : Descriptor}
      (untracked : reg.indexOf id.normalized = none)
      (known : host.findMetadata id.normalized = some descriptor)
      (hid : descriptor.id ≠ id.normalized) :
      Course host (.process (.starting id)) reg
        ((reg.welcome (reg.newcomer host descriptor [] (reg.lifecycle.isExempt id.normalized)
          fun s => s)).emit [.focusRequested id.normalized])
  | raise {reg : Registry} {front back : List Record} {r : Record} {id : AppId}
      (place : Located reg front r back) (hid : r.id = id.normalized) :
      Course host (.focus id) reg (reg.raise front r back)
  | focus {reg : Registry} {front back : List Record} {r : Record} {id : AppId}
      (place : Located reg front r back) (hid : r.id = id.normalized)
      (elsewhere : reg.focused ≠ some r.id) :
      Course host (.focus id) reg ((reg.raise front r back).passFocus r.id)
  | tick {reg : Registry} (now : Instant) : Course host (.tick now) reg (reg.tick host now)

/-! ## Every operation takes its course -/

lemma course_withRecord {α : Type} (f : Scene → α × Scene)
    (h : ∀ front r back, Located reg front r back → r.id = id →
      Treatment host reg op r fun s => (f s).2) :
    Course host op reg (reg.withRecord id f).2 := by
  cases hindex : reg.indexOf id with
  | none =>
    rw [withRecord_eq_none hindex]
    exact .idle
  | some index =>
    obtain ⟨front, r, back, place, rfl, -⟩ := exists_located hindex
    rw [withRecord_eq place]
    exact .treat place (h front r back place rfl)

lemma course_onRecord (f : Scene → Scene)
    (h : ∀ front r back, Located reg front r back → r.id = id → Treatment host reg op r f) :
    Course host op reg (reg.onRecord id f).2 :=
  course_withRecord (fun s => ((), f s)) h

lemma orNotFound_snd (id : AppId) (r : Bool × Registry) : (orNotFound id r).2 = r.2 := by
  obtain ⟨found, reg⟩ := r
  cases found <;> rfl

lemma setStage_snd (id : AppId) (stage : Stage) (reg : Registry) :
    (reg.setStage id stage).2 = (reg.withRecord id.normalized (Scene.setStage stage)).2 := by
  unfold setStage
  dsimp only
  split <;> rename_i h <;> rw [h]

lemma course_requestState (state : RequestedState) (id : AppId)
    (h : ∀ r : Record, r.id = id.normalized → reg.lifecycle.isExempt r.id = false →
      Treatment host reg op r (Scene.request host state)) :
    Course host op reg (reg.requestState host state id).2 := by
  unfold requestState
  dsimp only
  split
  · exact .idle
  · split
    · exact .idle
    · rename_i subject
      refine course_onRecord _ fun front r back place hid => h r hid ?_
      rw [hid]
      exact Bool.eq_false_iff.mpr subject

lemma course_startApplication (id : AppId) (args : List String) :
    Course host (.start id args) reg (reg.startApplication host id args).2 := by
  unfold startApplication
  dsimp only
  cases hindex : reg.indexOf id.normalized with
  | some index => exact .idle
  | none =>
    cases hknown : host.findMetadata id.normalized with
    | none => exact .idle
    | some descriptor =>
      cases host.start id.normalized args with
      | error e => exact .note (.unlaunched hindex)
      | ok _ => exact .launch hindex hknown

lemma course_moveToFocusFront (id : AppId) :
    Course host (.focus id) reg (reg.moveToFocusFront id).2 := by
  cases hindex : reg.indexOf id.normalized with
  | none =>
    unfold moveToFocusFront
    dsimp only
    rw [hindex]
    exact .idle
  | some index =>
    obtain ⟨front, r, back, place, hid, rfl⟩ := exists_located hindex
    obtain ⟨entries, events, frame⟩ := raise_frame reg front r back
    have focused : (reg.raise front r back).focused = reg.focused := by rw [frame]
    rw [moveToFocusFront_eq place hid, focused]
    split
    · exact .raise place hid
    · rename_i elsewhere
      exact .focus place hid elsewhere

lemma newcomer_launched (descriptor : Descriptor) (arguments : List String) (exempt : Bool) :
    (reg.newcomer host descriptor arguments exempt fun s => s).record =
      Record.launched descriptor arguments exempt reg.lifecycle.closeTimeout ⟨reg.nextOwner⟩ :=
  Scene.syncWakelock_record host _

/-- The process of an application that can be launched again is reported to start. -/
lemma onProcessStarting_of_gone (host : Host) (place : Located reg front r back)
    (hid : r.id = id.normalized) (gone : r.state = .stoppedResumable) :
    reg.onProcessStarting host id =
      (reg.emit [.focusRequested r.id]).settle front r back
        (Scene.onProcess host .running (reg.scene r)) := by
  have still : Located (reg.emit [.focusRequested r.id]) front r back :=
    ⟨place.entries, place.first⟩
  unfold onProcessStarting
  dsimp only
  rw [← hid, place.indexOf]
  dsimp only
  rw [place.getElem?]
  dsimp only
  rw [if_pos gone, onRecord_eq still]
  rfl

lemma course_onProcessStarting (id : AppId) :
    Course host (.process (.starting id)) reg (reg.onProcessStarting host id) := by
  cases hindex : reg.indexOf id.normalized with
  | none =>
    unfold onProcessStarting
    dsimp only
    rw [hindex]
    dsimp only
    cases hknown : host.findMetadata id.normalized with
    | none => exact .idle
    | some descriptor =>
      generalize hnew : reg.newcomer host descriptor [] (reg.lifecycle.isExempt id.normalized)
        (fun s => s) = s
      have named : s.record.id = descriptor.id := by
        rw [← hnew, newcomer_launched]
        rfl
      let tracked : Registry := (reg.welcome s).emit [.focusRequested id.normalized]
      have track : ((reg.track host descriptor [] (reg.lifecycle.isExempt id.normalized)
          fun s => s).1.emit [.focusRequested id.normalized]) = tracked := by
        show ((reg.welcome (reg.newcomer host descriptor []
          (reg.lifecycle.isExempt id.normalized) fun s => s)).emit _) = tracked
        rw [hnew]
      show Course host _ reg (Registry.onRecord id.normalized (Scene.onProcess host .running)
        ((reg.track host descriptor [] (reg.lifecycle.isExempt id.normalized)
          fun s => s).1.emit [.focusRequested id.normalized])).2
      rw [track]
      by_cases hid : descriptor.id = id.normalized
      · have place : Located tracked [] s.record reg.entries :=
          ⟨rfl, fun _ hq => absurd hq List.not_mem_nil⟩
        rw [← hid, ← named, onRecord_eq place]
        exact .appear hindex hknown hid hnew.symm
      · -- no record had the id before, and the new one has another
        have none : tracked.indexOf id.normalized = none := by
          refine indexOf_eq_none.mpr (List.forall_mem_cons.mpr ⟨?_, indexOf_eq_none.mp hindex⟩)
          rw [named]
          exact hid
        unfold onRecord
        rw [withRecord_eq_none none]
        show Course host _ reg ((reg.welcome s).emit _)
        rw [← hnew]
        exact .stray hindex hknown hid
  | some index =>
    obtain ⟨front, r, back, place, hid, rfl⟩ := exists_located hindex
    by_cases gone : r.state = .stoppedResumable
    · rw [onProcessStarting_of_gone host place hid gone]
      exact .relaunch place hid gone
    · unfold onProcessStarting
      dsimp only
      rw [hindex]
      dsimp only
      rw [place.getElem?]
      dsimp only
      rw [if_neg gone]
      split
      · rename_i awaited
        rw [← hid, onRecord_eq place]
        exact .treat place (.started hid (.inr awaited))
      · exact .idle

/-- Where a process has ended, its record is told, unless the exit was to be expected; whichever
record has the id after that is given up. -/
lemma onProcessStopped_cases (host : Host) (id : AppId) (reg : Registry) :
    reg.onProcessStopped host id = reg ∨
    ∃ front r back settled, Located reg front r back ∧ r.id = id.normalized ∧
      keepsExit r = false ∧
      settled = reg.settle front r back (Scene.onProcess host .stopped (reg.scene r)) ∧
      (settled.indexOf r.id = none ∧ reg.onProcessStopped host id = settled ∨
        ∃ front' q back', Located settled front' q back' ∧ q.id = r.id ∧
          reg.onProcessStopped host id = settled.evict front' q back') := by
  unfold onProcessStopped
  dsimp only
  cases hindex : reg.indexOf id.normalized with
  | none => exact .inl rfl
  | some index =>
    obtain ⟨front, r, back, place, hid, rfl⟩ := exists_located hindex
    dsimp only [Option.bind_some]
    rw [place.getElem?]
    dsimp only
    split
    · exact .inl rfl
    · rename_i news
      refine .inr ⟨front, r, back, _, place, hid, Bool.eq_false_iff.mpr news, rfl, ?_⟩
      rw [← hid, onRecord_eq place]
      dsimp only
      generalize reg.settle front r back (Scene.onProcess host .stopped (reg.scene r)) = settled
      cases hagain : settled.indexOf r.id with
      | none => exact .inl ⟨rfl, rfl⟩
      | some index =>
        obtain ⟨front', q, back', left, hq, rfl⟩ := exists_located hagain
        exact .inr ⟨front', q, back', left, hq, removeAt_eq left.entries⟩

lemma course_onProcessStopped (id : AppId) :
    Course host (.process (.stopped id)) reg (reg.onProcessStopped host id) := by
  obtain same | ⟨front, r, back, settled, place, hid, news, rfl, ended⟩ :=
    onProcessStopped_cases host id reg
  · rw [same]
    exact .idle
  · obtain ⟨-, same⟩ | ⟨front', q, back', left, hq, same⟩ := ended <;> rw [same]
    · exact .treat place (.ended hid news)
    · -- a record that is still there, or another one with its id, is given up as well
      exact .finish place hid news left hq

lemma course_onResumeRequested (id : AppId) :
    Course host (.process (.resumeRequested id)) reg (reg.onResumeRequested host id) := by
  unfold onResumeRequested
  cases hfind : reg.find id with
  | none => exact .idle
  | some q =>
    dsimp only
    split
    · rename_i hshown
      obtain ⟨front, back, place, hid⟩ := exists_located_of_find hfind
      rw [← hid, onRecord_eq place]
      exact .treat place (.resumeRequested hid hshown)
    · exact .idle

lemma course_handleProcessEvent (event : ProcessEvent) :
    Course host (.process event) reg (reg.handleProcessEvent host event) := by
  cases event with
  | starting id => exact course_onProcessStarting id
  | stopped id => exact course_onProcessStopped id
  | failed id early => exact course_onRecord _ fun _ _ _ _ hid => .failed early hid
  | suspended id => exact course_onRecord _ fun _ _ _ _ hid => .suspended hid
  | focusRequested id => exact .announce id
  | resumeRequested id => exact course_onResumeRequested id

lemma course_authorizeSession (pid : Nat) :
    Course host (.authorize pid) reg (reg.authorizeSession host pid).2 := by
  have verdict := authorizeSession_verdict host pid reg
  generalize reg.authorizeSession host pid = answer at verdict
  cases verdict with
  | refused => exact .idle
  | trusted hline trusted =>
    rw [← List.append_nil reg.journal]
    exact .note (.trusted hline trusted)
  | bound binding => exact .bind binding

lemma course_sessionStarting (session : Session) :
    Course host (.sessionStarting session) reg (reg.sessionStarting session).2 := by
  unfold sessionStarting
  split
  · rename_i q hq
    have hprop := List.find?_some hq
    rw [Bool.and_eq_true] at hprop
    exact course_onRecord _ fun _ _ _ _ hid => .attach session (List.mem_of_find?_eq_some hq) hid
      (of_decide_eq_true hprop.1) (of_decide_eq_true hprop.2)
  · split
    · rename_i admitted
      exact .note (.helper (List.contains_iff_mem.mp admitted))
    · exact .note (.intruder session)

lemma course_sessionStateChanged (session : SessionId) (state : SessionState)
    (hop : op = .sessionState session state ∨ op = .sessionClosed session ∧ state = .stopped) :
    Course host op reg (reg.sessionStateChanged host session state) := by
  unfold sessionStateChanged idForSession
  cases hq : reg.entries.find? fun r => r.session.map Session.id = some session with
  | none => exact .idle
  | some q =>
    have attached := List.find?_some hq
    exact course_onRecord _ fun _ _ _ _ hid => .reported session state hop
      (List.mem_of_find?_eq_some hq) hid (of_decide_eq_true attached)

theorem perform_course (host : Host) (op : Operation) (reg : Registry) :
    Course host op reg (reg.perform host op).2 := by
  cases op with
  | start id args => exact course_startApplication id args
  | stop id =>
    show Course host _ reg (orNotFound _ _).2
    rw [orNotFound_snd]
    exact course_onRecord _ fun _ _ _ _ hid => .close hid
  | focus id => exact course_moveToFocusFront id
  | suspend id => exact course_requestState _ id fun _ hid subject => .suspend hid subject
  | resume id => exact course_requestState _ id fun _ hid subject => .resume hid subject
  | setExempt id exempt =>
    show Course host _ reg (orNotFound _ _).2
    rw [orNotFound_snd]
    exact course_onRecord _ fun _ _ _ _ hid => .setExempt exempt hid
  | setStage id stage =>
    show Course host _ reg (reg.setStage id stage).2
    rw [setStage_snd]
    exact course_withRecord _ fun _ _ _ _ hid => .setStage stage hid
  | updateScreenshot id =>
    show Course host _ reg (orNotFound _ _).2
    rw [orNotFound_snd]
    exact course_onRecord _ fun _ _ _ _ hid => .updateScreenshot hid
  | tick now => exact .tick now
  | process event => exact course_handleProcessEvent event
  | authorize pid => exact course_authorizeSession pid
  | sessionStarting session => exact course_sessionStarting session
  | sessionState session state => exact course_sessionStateChanged session state (.inl rfl)
  | sessionClosed session => exact course_sessionStateChanged session .stopped (.inr ⟨rfl, rfl⟩)

/-! ## A course is a chain of steps -/

/-- What holds of a registry and is kept wherever a tick looks at a record holds after the tick. -/
theorem tick_invariant {I : Registry → Prop} (now : Instant) (h : I reg)
    (hlook : ∀ reg front r back, Located reg front r back → I reg →
      I (reg.settle front r back ((reg.scene r).tick host now).2)) :
    I (reg.tick host now) := by
  unfold Registry.tick
  dsimp only
  -- the ids are fixed before the first record is looked at, so the induction is over any ids
  generalize (reg.entries.filter (·.timer.isArmed)).map Record.id = armed
  induction armed generalizing reg with
  | nil => exact h
  | cons id armed ih =>
    rw [List.foldl_cons]
    apply ih
    cases hindex : reg.indexOf id with
    | none =>
      rw [withRecord_eq_none hindex]
      exact h
    | some index =>
      obtain ⟨front, r, back, place, rfl, -⟩ := exists_located hindex
      rw [withRecord_eq place]
      exact hlook reg front r back place h

lemma steps_tick (now : Instant) (reg : Registry) :
    Steps host (.tick now) reg (reg.tick host now) := by
  apply tick_invariant now .refl
  intro seen front r back place steps
  exact steps.tail (.treat place (.tick now))

lemma Binding.step {pid : Nat} (h : Binding host reg pid q reg') :
    Step host (.authorize pid) reg reg' := by
  cases h with
  | confirmed entries starting _ => exact .authorize pid entries starting
  | hinted place starting _ => exact .authorize pid place.entries starting
  | created arguments side hint untracked known =>
    exact .track arguments known hint.short untracked (.identified pid side)

lemma Course.steps (course : Course host op reg reg') : Steps host op reg reg' := by
  cases course with
  | idle => exact .refl
  | note _ => exact .single (.note _ _)
  | announce id => exact .single (.announce _)
  | treat place treatment => exact .single (.treat place treatment)
  | @relaunch _ front back r id place hid gone =>
    have announced : Steps host (.process (.starting id)) reg
        (reg.emit [.focusRequested r.id]) := .single (.announce r.id)
    exact announced.tail (.treat ⟨place.entries, place.first⟩ (.started hid (.inl gone)))
  | finish place hid news left hq =>
    exact .tail (.single (.treat place (.ended hid news))) (.evict left (hq.trans hid))
  | @launch _ id args descriptor untracked known =>
    have called : Steps host (.start id args) reg (reg.call (.start id.normalized args)) :=
      .single (.note reg.helpers [.call (.start id.normalized args)])
    exact called.tail (.track args known ⟨id, rfl⟩ untracked (.launched _))
  | bind binding => exact .single binding.step
  | @appear _ id descriptor s untracked known hid new =>
    subst new
    have tracked : Steps host (.process (.starting id)) reg (reg.welcome _) :=
      .single (.track [] known ⟨id, rfl⟩ untracked (.launched _))
    have announced := tracked.tail (.announce id.normalized)
    refine announced.tail (.treat ⟨rfl, fun _ hq => absurd hq List.not_mem_nil⟩ (.started ?_ ?_))
    · rw [newcomer_launched]
      exact hid
    · rw [newcomer_launched]
      exact .inr ⟨rfl, rfl⟩
  | @stray _ id descriptor untracked known _ =>
    have tracked : Steps host (.process (.starting id)) reg (reg.welcome _) :=
      .single (.track [] known ⟨id, rfl⟩ untracked (.launched _))
    exact tracked.tail (.announce _)
  | raise place hid => exact .single (.raise place hid)
  | @focus _ front back r id place hid elsewhere =>
    obtain ⟨entries, events, frame⟩ := raise_frame reg front r back
    have raised : Steps host (.focus id) reg (reg.raise front r back) := .single (.raise place hid)
    refine raised.tail (.focus (raise_entries place.entries) hid ?_)
    rw [frame]
    exact elsewhere
  | tick now => exact steps_tick now reg

/-- What an operation does to a registry is a chain of its steps. -/
theorem perform_steps (host : Host) (op : Operation) (reg : Registry) :
    Steps host op reg (reg.perform host op).2 := (perform_course host op reg).steps

end Registry

end AppLifecycle
