import AppLifecycle.Proofs.Registry.Attendance
import AppLifecycle.Proofs.Registry.Sessions

/-!
# Sessions that are dismissed

Shells and compositors seldom deprive a record of its session: by a session that is opened for the
record, by the order to stop an application without a process, and by the order to resume one that
cannot be launched any more (`Dismisses`). Whatever else they ask for, as many records have a
session with an id afterwards as before (`perform_holders_iff`).
-/

namespace AppLifecycle

/-- The record has a session with the id. -/
def Record.Holds (r : Record) (id : SessionId) : Prop := r.session.map Session.id = some id

instance (r : Record) (id : SessionId) : Decidable (r.Holds id) :=
  inferInstanceAs (Decidable (r.session.map Session.id = some id))

/-- An order to stop the record ends it at once: it has no process, or none that is known and that
the controller can stop. -/
def Record.EndsAtOnce (host : Host) (r : Record) : Prop :=
  r.state = .stoppedResumable ∨
  r.state = .starting ∧ r.process = .unknown ∧ r.pid = 0 ∧ ∃ e, host.stop r.id = .error e

/-- The record should be launched again when it is asked to run, and cannot be. -/
def Record.Unrevivable (host : Host) (r : Record) : Prop :=
  r.requested = .suspended ∧ r.state = .stoppedResumable ∧
    ∃ e, host.start r.id r.arguments = .error e

/-- Shells and compositors ask for the operation, with a command. -/
def Operation.isAsked : Operation → Bool
  | .tick _ => false
  | .process _ => false
  | .sessionState _ _ => false
  | .sessionClosed _ => false
  | _ => true

/-- The operation costs no session. -/
def Operation.isCalm : Operation → Bool
  | .start _ _ => true
  | .focus _ => true
  | .suspend _ => true
  | .setExempt _ _ => true
  | .setStage _ _ => true
  | .updateScreenshot _ => true
  | .authorize _ => true
  | _ => false

namespace Scene

variable {host : Host} {s : Scene}

lemma respawn_stopped_iff : (s.respawn host).record.state = .stopped ↔
    ∃ e, host.start s.record.id s.record.arguments = .error e := by
  have same := enter_sameIdentity host
    (s.update fun r => { r with pid := 0, process := .unknown }) .starting
  have id : ((s.update fun r => { r with pid := 0, process := .unknown }).enter host
      .starting).record.id = s.record.id := same.id
  have arguments : ((s.update fun r => { r with pid := 0, process := .unknown }).enter host
      .starting).record.arguments = s.record.arguments := same.arguments
  unfold respawn
  dsimp only
  rw [call_record, id, arguments]
  cases host.start s.record.id s.record.arguments with
  | ok _ =>
    constructor
    · intro stopped
      have starting : ((s.update fun r => { r with pid := 0, process := .unknown }).enter host
        .starting).record.state = .starting := enter_state _ _ _
      exact absurd (starting.symm.trans stopped) (by decide)
    · rintro ⟨e, no⟩
      cases no
  | error e => exact ⟨fun _ => ⟨e, rfl⟩, fun _ => enter_state _ _ _⟩

/-- A request is the end of a record only if it cannot be launched again as it should. -/
lemma request_stopped_iff (tracked : s.record.state ≠ .stopped) (value : RequestedState) :
    (s.request host value).record.state = .stopped ↔
      value = .running ∧ s.record.Unrevivable host := by
  unfold request
  split
  · rename_i same
    refine iff_of_false tracked ?_
    rintro ⟨rfl, suspended, -⟩
    rw [suspended] at same
    cases same
  · rename_i differs
    have pass := reconcile_cases host (s.update fun r => { r with requested := value })
    by_cases launches : value = .running ∧ s.record.state = .stoppedResumable
    · obtain ⟨rfl, gone⟩ := launches
      have requested : s.record.requested = .suspended := by
        cases requested : s.record.requested with
        | suspended => rfl
        | running => exact absurd requested differs
      have launched : (s.update fun r => { r with requested := .running }).reconcile host =
          ((s.update fun r => { r with requested := .running }).update
            fun r => { r with passes := r.passes + 1 }).respawn host := by
        unfold reconcile
        dsimp only [update]
        rw [gone]
      rw [launched, respawn_stopped_iff]
      exact ⟨fun no => ⟨rfl, requested, gone, no⟩, fun both => both.2.2.2⟩
    · refine iff_of_false ?_ fun both => launches ⟨both.1, both.2.2.1⟩
      intro stopped
      cases pass with
      | wakes _ _ wakes =>
        rw [wakes.1] at stopped
        cases stopped
      | launches requested gone _ _ => exact launches ⟨requested, gone⟩
      | suspends _ _ _ state =>
        rw [stopped] at state
        obtain state | state | state := state <;> cases state
      | stays same _ => exact tracked ((Record.standing_inj.mp same).2.1.symm.trans stopped)

lemma beginClose_tracked (tracked : s.record.state ≠ .stopped) :
    (s.beginClose host).record.state ≠ .stopped := by
  unfold beginClose
  split
  · exact tracked
  · split
    · exact tracked
    · rw [enter_state]
      decide

lemma forceStop_stopped_iff (starting : s.record.state = .starting) :
    (s.forceStop host).record.state = .stopped ↔
      s.record.process = .unknown ∧ s.record.pid = 0 ∧ ∃ e, host.stop s.record.id = .error e := by
  have untouched : s.record.state ≠ .stopped := by
    rw [starting]
    decide
  unfold forceStop
  dsimp only
  split
  · rename_i stops
    have stops : host.stop s.record.id = .ok () := stops
    refine iff_of_false untouched ?_
    rintro ⟨-, -, e, no⟩
    rw [stops] at no
    cases no
  · rename_i e stops
    have stops : host.stop s.record.id = .error e := stops
    split
    · rename_i known
      have known : 0 < s.record.pid := known
      refine iff_of_false ?_ fun both => by omega
      split
      · exact untouched
      · exact untouched
    · rename_i unknown
      have unknown : ¬0 < s.record.pid := unknown
      split
      · rename_i launch
        exact iff_of_true (enter_state _ _ _) ⟨launch.2, by omega, e, stops⟩
      · rename_i other
        exact iff_of_false untouched fun both => other ⟨starting, both.1⟩

/-- An order to stop a record ends it at once only if it has no process. -/
lemma close_stopped_iff (tracked : s.record.state ≠ .stopped) :
    (s.close host).record.state = .stopped ↔ s.record.EndsAtOnce host := by
  unfold Record.EndsAtOnce
  obtain ⟨state, h⟩ | ⟨state, h⟩ | ⟨state, h⟩ | ⟨state, h⟩ | ⟨state, h⟩ := close_eq host s
  · rw [h, forceStop_stopped_iff state, state]
    simp
  · rw [h, state]
    simpa using beginClose_tracked tracked
  · rw [h]
    have present : s.record.state ≠ .stoppedResumable ∧ s.record.state ≠ .starting := by
      obtain asleep | waiting := state
      · obtain same | same | same := Record.asleep_cases asleep <;> rw [same] <;> decide
      · rw [waiting]
        decide
    have asked : (s.request host .running).record.state ≠ .stopped := by
      rw [ne_eq, request_stopped_iff tracked]
      exact fun both => present.1 both.2.2.1
    refine iff_of_false (beginClose_tracked asked) ?_
    rintro (gone | launch)
    · exact present.1 gone
    · exact present.2 launch.1
  · rw [h]
    exact iff_of_true (enter_state _ _ _) (.inl state)
  · rw [h]
    refine iff_of_false tracked ?_
    obtain state | state := state <;> simp [state]

end Scene

namespace Registry

variable {host : Host} {op : Operation} {reg reg' : Registry} {front back : List Record}
variable {r : Record} {s : Scene} {f : Scene → Scene} {app : AppId} {id : SessionId}
variable {opened gone : List Session} {effects : List Effect}

/-- How many records have a session with the id. -/
def holders (reg : Registry) (id : SessionId) : Nat := reg.entries.countP fun r => r.Holds id

lemma holders_eq (reg : Registry) (id : SessionId) :
    reg.holders id = (reg.sessions.map Session.id).count id := by
  unfold holders sessions
  rw [List.count, List.countP_map, List.countP_filterMap]
  refine List.countP_congr fun r _ => ?_
  cases session : r.session <;> simp [Record.Holds, session]

/-- The operation deprives a record of a session with the id. -/
def Dismisses (host : Host) (reg : Registry) (id : SessionId) : Operation → Prop
  | .stop app => ∃ r, reg.find app = some r ∧ r.Holds id ∧ r.EndsAtOnce host
  | .resume app => reg.lifecycle.isExempt app.normalized = false ∧
      ∃ r, reg.find app = some r ∧ r.Holds id ∧ r.Unrevivable host
  | .sessionStarting session => ∃ r, reg.expecting session = some r ∧ r.Holds id
  | _ => False

/-- The hold on a session with the id is given up exactly if fewer records have one afterwards. -/
lemma holders_iff_of_perm (kept : (reg.sessions ++ opened).Perm (reg'.sessions ++ gone))
    (others : ∀ x ∈ opened, x.id ≠ id) :
    id ∉ gone.map Session.id ↔ reg'.holders id = reg.holders id := by
  have counts := (kept.map Session.id).count_eq id
  rw [List.map_append, List.map_append, List.count_append, List.count_append, ← holders_eq,
    ← holders_eq] at counts
  have none : (opened.map Session.id).count id = 0 := by
    refine List.count_eq_zero_of_not_mem fun hid => ?_
    obtain ⟨x, hx, same⟩ := List.mem_map.mp hid
    exact others x hx same
  rw [← List.count_eq_zero]
  omega

/-! ## One record -/

lemma holders_split (reg : Registry) (id : SessionId)
    (entries : reg.entries = front ++ r :: back) :
    reg.holders id = (front ++ back).countP (fun r => r.Holds id) +
      if r.Holds id then 1 else 0 := by
  unfold holders
  rw [entries, List.countP_append, List.countP_cons, List.countP_append, Nat.add_assoc]
  simp

/-- A record that keeps its session loses it only with its end. -/
lemma holders_settle (entries : reg.entries = front ++ r :: back)
    (session : s.record.session = r.session) :
    (reg.settle front r back s).holders id = reg.holders id ↔
      ¬(r.Holds id ∧ s.record.state = .stopped) := by
  have holds : s.record.Holds id ↔ r.Holds id := by
    unfold Record.Holds
    rw [session]
  rw [holders_split reg id entries]
  unfold settle
  split
  · rename_i stopped
    show (front ++ back).countP (fun r => r.Holds id) = _ ↔ _
    by_cases held : r.Holds id <;> simp [held, stopped]
  · rename_i goesOn
    have placed := holders_split (reg.place front r back s) id rfl
    rw [placed]
    simp [holds, goesOn]

/-- A record that neither had nor has a session with the id does not matter. -/
lemma holders_settle_of_not (entries : reg.entries = front ++ r :: back) (before : ¬r.Holds id)
    (after : ¬s.record.Holds id) : (reg.settle front r back s).holders id = reg.holders id := by
  rw [holders_split reg id entries, if_neg before]
  unfold settle
  split
  · rfl
  · rw [holders_split (reg.place front r back s) id rfl, if_neg after]

/-! ## What clients ask for -/

/-- What `f` does to the record of an application costs a session with the id, if the record has it
and ends. -/
lemma holders_onRecord {ends : Record → Prop}
    (session : ∀ s, (f s).record.session = s.record.session)
    (hf : ∀ r ∈ reg.entries, (f (reg.scene r)).record.state = .stopped ↔ ends r) :
    (reg.onRecord app.normalized f).2.holders id = reg.holders id ↔
      ¬∃ r, reg.find app = some r ∧ r.Holds id ∧ ends r := by
  obtain ⟨untracked, same⟩ | ⟨front, r, back, place, found, changed⟩ := onRecord_find app f reg
  · rw [same, untracked]
    exact iff_of_true rfl fun ⟨_, found, _⟩ => Option.some_ne_none _ found.symm
  · rw [changed, holders_settle place.entries (session _), hf r place.mem, found]
    simp

lemma holders_sessionStarting (tracked : ∀ r ∈ reg.entries, r.state ≠ .stopped)
    {session : Session} (other : session.id ≠ id) :
    (reg.sessionStarting session).2.holders id = reg.holders id ↔
      ¬∃ r, reg.expecting session = some r ∧ r.Holds id := by
  obtain ⟨nobody, same⟩ | ⟨front, r, back, place, somebody, changed⟩ :=
    sessionStarting_eq reg session
  · unfold holders
    rw [same, nobody]
    exact iff_of_true rfl fun ⟨_, found, _⟩ => Option.some_ne_none _ found.symm
  · obtain ⟨-, state, attached, -⟩ := (reg.scene r).attach_standing session
    have goesOn : ((reg.scene r).attach session).record.state ≠ .stopped := by
      rw [state]
      exact tracked r place.mem
    have without : ¬((reg.scene r).attach session).record.Holds id := by
      unfold Record.Holds
      rw [attached]
      exact fun same => other (Option.some.inj same)
    have placed := holders_split (reg.place front r back ((reg.scene r).attach session)) id rfl
    unfold settle at changed
    rw [if_neg goesOn] at changed
    rw [changed, placed, if_neg without, holders_split reg id place.entries, somebody]
    by_cases held : r.Holds id <;> simp [held]

/-- What is done to a record by an operation that dismisses no session is not its end. -/
lemma Treatment.goesOn (h : Treatment host reg op r f) (calm : op.isCalm = true)
    (hs : s.record = r) (tracked : r.state ≠ .stopped) :
    (f s).record.state ≠ .stopped ∧ (f s).record.session = r.session := by
  subst hs
  cases h with
  | suspend _ _ =>
    refine ⟨?_, Scene.request_session host _ s⟩
    rw [ne_eq, Scene.request_stopped_iff tracked]
    exact fun both => by cases both.1
  | setExempt exempt _ =>
    obtain ⟨-, state, session, -⟩ := Record.standing_inj.mp (s.setExempt_standing host exempt)
    exact ⟨state ▸ tracked, session⟩
  | setStage stage _ =>
    obtain ⟨-, state, session, -⟩ := Record.standing_inj.mp (s.setStage_standing stage)
    exact ⟨state ▸ tracked, session⟩
  | updateScreenshot _ => exact ⟨tracked, rfl⟩
  | reported _ _ hop _ _ _ => obtain rfl | ⟨rfl, -⟩ := hop <;> cases calm
  | _ => cases calm

lemma Course.holders (course : Course host op reg reg') (calm : op.isCalm = true)
    (tracked : ∀ r ∈ reg.entries, r.state ≠ .stopped) : reg'.holders id = reg.holders id := by
  have kept : ∀ {reg reg' : Registry}, Trades reg [] reg' [] [] →
      reg'.holders id = reg.holders id := fun trades =>
    (holders_iff_of_perm trades.kept fun _ no => absurd no List.not_mem_nil).mp List.not_mem_nil
  cases course with
  | idle => rfl
  | note _ => rfl
  | treat place treatment =>
    obtain ⟨goesOn, session⟩ :=
      treatment.goesOn (s := reg.scene _) calm rfl (tracked _ place.mem)
    exact (holders_settle place.entries session).mpr fun both => goesOn both.2
  | @launch _ app args descriptor _ _ =>
    exact @kept (reg.call _) _ (.welcome host descriptor args _ (.launched (.start app args)))
  | bind binding =>
    cases binding with
    | confirmed entries _ _ => exact kept (.setPid entries _)
    | hinted place _ _ => exact kept (.setPid place.entries _)
    | created arguments side _ _ _ =>
      exact kept (.welcome host _ arguments _ (.identified _ side))
  | raise place _ => exact kept (.raise place.entries)
  | focus place _ _ => exact kept ((Trades.raise place.entries).trans (.passFocus _ _))
  | _ => cases calm

/-- What is asked for costs a session with an id exactly if it is dismissed. -/
theorem perform_holders_iff (host : Host) (op : Operation) (asked : op.isAsked = true)
    (tracked : ∀ r ∈ reg.entries, r.state ≠ .stopped) (others : ∀ x ∈ op.opens, x.id ≠ id) :
    (reg.perform host op).2.holders id = reg.holders id ↔ ¬reg.Dismisses host id op := by
  cases op with
  | stop app =>
    show (orNotFound _ _).2.holders id = _ ↔ _
    rw [orNotFound_snd]
    exact holders_onRecord (Scene.close_session host) fun r hr =>
      Scene.close_stopped_iff (s := reg.scene r) (tracked r hr)
  | resume app =>
    show (reg.requestState host .running app).2.holders id = _ ↔ _
    cases exempt : reg.lifecycle.isExempt app.normalized with
    | true =>
      rw [requestState_exempt host _ exempt]
      exact iff_of_true rfl fun no => Bool.false_ne_true (no.1.symm.trans exempt)
    | false =>
      rw [requestState_snd _ exempt, holders_onRecord (Scene.request_session host _) fun r hr =>
        (Scene.request_stopped_iff (s := reg.scene r) (tracked r hr) _).trans (and_iff_right rfl)]
      exact not_congr (and_iff_right exempt).symm
  | sessionStarting session =>
    exact holders_sessionStarting tracked (others session List.mem_cons_self)
  | tick _ => cases asked
  | process _ => cases asked
  | sessionState _ _ => cases asked
  | sessionClosed _ => cases asked
  | _ => exact iff_of_true ((perform_course host _ reg).holders rfl tracked) not_false

/-! ## What compositors report -/

/-- A report of a session costs no other session. -/
lemma sessionStateChanged_holders (host : Host) (orderly : Orderly reg) {session : SessionId}
    (state : SessionState) (other : session ≠ id) :
    (reg.sessionStateChanged host session state).holders id = reg.holders id := by
  obtain ⟨-, same⟩ | ⟨front, r, back, place, somebody, changed⟩ :=
    sessionStateChanged_eq host reg session state
  · rw [same]
  · have own := attached_session orderly somebody
    have before : ¬r.Holds id := by
      intro holds
      exact other (Option.some.inj (own.symm.trans holds))
    have after : ¬((reg.scene r).hear host state).record.Holds id := by
      intro holds
      obtain ⟨x, attached, named⟩ := Option.map_eq_some_iff.mp holds
      obtain ⟨effects, gone, trades⟩ := Scene.trades_hear host state (reg.scene r)
      have kept : x ∈ (reg.scene r).record.session.toList ++ [] :=
        trades.kept.mem_iff.mpr (List.mem_append_left _
          (by rw [attached]; exact List.mem_singleton_self x))
      rw [List.append_nil, Option.mem_toList] at kept
      have had : r.session = some x := kept
      rw [had] at own
      exact other ((Option.some.inj own).symm.trans named)
    rw [changed]
    exact holders_settle_of_not place.entries before after

end Registry

end AppLifecycle
