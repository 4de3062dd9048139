import AppLifecycle.Proofs.Registry.Authorization
import AppLifecycle.Proofs.Registry.Orderly
import AppLifecycle.Proofs.Registry.Reconciliation

/-!
# The neighbours of an application

An operation concerns one application (`Registry.subject`): the one whose id it is given, the one
that a session is attached to, or the one that a process is found to belong to. The records of all
others are left as they are, in the order in which they are, with their shares in the wakelock
(`others_perform`). Only the focus is taken from one application where another gets it, and only a
tick looks at more than one record.
-/

namespace AppLifecycle

/-- The application that an operation is given the id of. -/
def Operation.addressee : Operation → Option AppId
  | .start id _ => some id.normalized
  | .stop id => some id.normalized
  | .focus id => some id.normalized
  | .suspend id => some id.normalized
  | .resume id => some id.normalized
  | .setExempt id _ => some id.normalized
  | .setStage id _ => some id.normalized
  | .updateScreenshot id => some id.normalized
  | .process event => some event.id.normalized
  | _ => none

namespace Registry

variable {host : Host} {op : Operation} {reg reg' : Registry} {front back : List Record}
variable {r q : Record} {s : Scene} {f : Scene → Scene} {id : AppId} {pid : Nat}

/-- The application that a process is found to belong to: the first one that is starting and that
the controller confirms, or else the one that the process names, unless it is trusted anyway. -/
def claimant (host : Host) (reg : Registry) (pid : Nat) : Option AppId :=
  match reg.entries.find? fun r => decide (r.Confirmed host pid) with
  | some r => some r.id
  | none =>
    match host.commandLine pid with
    | .error _ => none
    | .ok line =>
      if reg.isTrusted line then none
      else (line.valueOf reg.authorization.desktopFileHint).bind idOfDesktopFile

/-- The application that an operation concerns, if there is one. -/
def subject (host : Host) (reg : Registry) (op : Operation) : Option AppId :=
  match op with
  | .authorize pid => reg.claimant host pid
  | .sessionStarting session => (reg.expecting session).map Record.id
  | .sessionState session _ => (reg.attached session).map Record.id
  | .sessionClosed session => (reg.attached session).map Record.id
  | op => op.addressee

/-- The records of all other applications, in focus order. -/
def others (reg : Registry) (subject : Option AppId) : List Record :=
  reg.entries.filter fun r => decide (some r.id ≠ subject)

/-- The record of an application that has the focus loses it, where another one gets it. -/
def unfocus (reg : Registry) (r : Record) : Record :=
  if reg.focused = some r.id then { r with focused := false } else r

/-- What an operation makes of the record of an application that it does not concern. -/
def bystander (reg : Registry) (op : Operation) (r : Record) : Record :=
  match op with
  | .focus id => if (reg.find id).isSome then reg.unfocus r else r
  | _ => r

lemma unfocus_id (reg : Registry) (r : Record) : (reg.unfocus r).id = r.id := by
  unfold unfocus
  split <;> rfl

lemma bystander_of_ne (still : ∀ id, op ≠ .focus id) (r : Record) : reg.bystander op r = r := by
  cases op with
  | focus id => exact absurd rfl (still id)
  | _ => rfl

/-- Nothing but the focus can be taken from it. -/
lemma bystander_cases (reg : Registry) (op : Operation) (r : Record) :
    reg.bystander op r = r ∨
      reg.bystander op r = { r with focused := false } ∧ reg.focused = some r.id ∧
        ∃ id, op = .focus id := by
  cases op with
  | focus id =>
    unfold bystander unfocus
    dsimp only
    split
    · split
      · rename_i own
        exact .inr ⟨rfl, own, id, rfl⟩
      · exact .inl rfl
    · exact .inl rfl
  | _ => exact .inl rfl

lemma bystander_share (reg : Registry) (op : Operation) (r : Record) :
    share (reg.bystander op r) = share r := by
  rcases reg.bystander_cases op r with same | ⟨cleared, -⟩
  · rw [same]
  · rw [cleared]
    rfl

/-! ## What happens at a place -/

lemma filter_others_middle (front : List Record) (r : Record) (back : List Record) :
    ((front ++ r :: back).filter fun q => decide (some q.id ≠ some r.id)) =
      (front ++ back).filter fun q => decide (some q.id ≠ some r.id) := by
  rw [List.filter_append, List.filter_append, List.filter_cons_of_neg]
  simp

lemma others_replace (before : reg.entries = front ++ r :: back)
    (after : reg'.entries = front ++ q :: back) (same : q.id = r.id) :
    reg'.others (some r.id) = reg.others (some r.id) := by
  unfold others
  rw [before, after, filter_others_middle front r back, ← same, filter_others_middle front q back]

lemma others_remove (before : reg.entries = front ++ r :: back)
    (after : reg'.entries = front ++ back) :
    reg'.others (some r.id) = reg.others (some r.id) := by
  unfold others
  rw [before, after, filter_others_middle front r back]

lemma others_settle (entries : reg.entries = front ++ r :: back)
    (same : Record.SameIdentity r s.record) :
    (reg.settle front r back s).others (some r.id) = reg.others (some r.id) := by
  have placed : (reg.place front r back s).others (some r.id) = reg.others (some r.id) :=
    others_replace entries rfl same.id
  unfold settle
  split
  · rw [← placed, ← same.id]
    exact others_remove rfl rfl
  · exact placed

lemma others_treat (place : Located reg front r back) (treatment : Treatment host reg op r f) :
    (reg.settle front r back (f (reg.scene r))).others (some r.id) = reg.others (some r.id) :=
  others_settle place.entries (treatment.moves (reg.scene r)).sameIdentity

lemma others_add (after : reg'.entries = r :: reg.entries) :
    reg'.others (some r.id) = reg.others (some r.id) := by
  unfold others
  rw [after]
  exact filter_others_middle [] r reg.entries

lemma others_welcome (new : s.record.id = id) :
    (reg.welcome s).others (some id) = reg.others (some id) := by
  subst new
  exact others_add rfl

lemma others_raise (entries : reg.entries = front ++ r :: back) :
    (reg.raise front r back).others (some r.id) = reg.others (some r.id) := by
  unfold others
  rw [raise_entries entries, entries, filter_others_middle front r back]
  exact filter_others_middle [] r (front ++ back)

/-! ## The focus -/

lemma others_setFocused (reg : Registry) (id : AppId) (focused : Bool) :
    (reg.setFocused id focused).others (some id) = reg.others (some id) := by
  cases hindex : reg.indexOf id with
  | none => rw [setFocused_eq_self hindex]
  | some index =>
    obtain ⟨front, r, back, place, rfl, -⟩ := exists_located hindex
    rw [setFocused_eq place]
    exact others_replace place.entries rfl rfl

/-- Where ids are distinct, one record at most has the id of the focus. -/
lemma clearFocus_entries (distinct : (reg.entries.map Record.id).Nodup) :
    reg.clearFocus.entries = reg.entries.map reg.unfocus := by
  have spared : ∀ {l : List Record}, (∀ q ∈ l, reg.focused ≠ some q.id) →
      l.map reg.unfocus = l := by
    intro l other
    refine (List.map_congr_left fun q hq => ?_).trans (List.map_id l)
    exact if_neg (other q hq)
  unfold clearFocus
  split
  · rename_i nobody
    refine (spared fun q _ => ?_).symm
    rw [nobody]
    exact (Option.some_ne_none _).symm
  · rename_i old focused
    cases hindex : ({ reg with focused := none } : Registry).indexOf old with
    | none =>
      rw [setFocused_eq_self hindex]
      refine (spared fun q hq => ?_).symm
      rw [focused]
      exact fun same => indexOf_eq_none.mp hindex q hq (Option.some.inj same).symm
    | some index =>
      obtain ⟨front, r, back, place, rfl, -⟩ := exists_located hindex
      have entries : reg.entries = front ++ r :: back := place.entries
      rw [entries] at distinct
      -- the ids are distinct, so that the flags before and behind the record stay as they are
      have own := (nodup_map_split distinct).2
      have apart : ∀ q ∈ front ++ back, reg.focused ≠ some q.id := by
        intro q hq same
        rw [focused] at same
        exact own q hq (Option.some.inj same).symm
      have cleared : reg.unfocus r = { r with focused := false } := if_pos focused
      rw [setFocused_eq place, entries, List.map_append, List.map_cons, cleared,
        spared fun q hq => apart q (List.mem_append_left _ hq),
        spared fun q hq => apart q (List.mem_append_right _ hq)]
      rfl

lemma others_clearFocus (distinct : (reg.entries.map Record.id).Nodup) (subject : Option AppId) :
    reg.clearFocus.others subject = (reg.others subject).map reg.unfocus := by
  unfold others
  rw [clearFocus_entries distinct, List.filter_map]
  congr 2
  funext r
  exact congrArg (fun id => decide (some id ≠ subject)) (reg.unfocus_id r)

lemma others_passFocus (distinct : (reg.entries.map Record.id).Nodup) (id : AppId) :
    (reg.passFocus id).others (some id) = (reg.others (some id)).map reg.unfocus :=
  (others_setFocused _ id true).trans (others_clearFocus distinct _)

/-- The others lose the focus at most. -/
lemma others_focus (orderly : Orderly reg) (id : AppId) :
    (reg.moveToFocusFront id).2.others (some id.normalized) =
      (reg.others (some id.normalized)).map (reg.bystander (.focus id)) := by
  cases hindex : reg.indexOf id.normalized with
  | none =>
    have same : (reg.moveToFocusFront id).2 = reg := by
      unfold moveToFocusFront
      dsimp only
      rw [hindex]
    have unknown : reg.bystander (.focus id) = fun r => r := by
      funext r
      unfold bystander
      dsimp only
      rw [find_eq_none hindex]
      rfl
    rw [same, unknown, List.map_id']
  | some index =>
    obtain ⟨front, r, back, place, hid, -⟩ := exists_located hindex
    obtain ⟨entries, events, frame⟩ := raise_frame reg front r back
    have focused : (reg.raise front r back).focused = reg.focused := by rw [frame]
    have bystander : reg.bystander (.focus id) = reg.unfocus := by
      funext q
      unfold Registry.bystander
      dsimp only
      rw [place.find hid]
      rfl
    have raised := others_raise place.entries
    rw [moveToFocusFront_eq place hid, focused, bystander, ← hid]
    split
    · -- the application has the focus already, so that none of the others has it
      rename_i own
      rw [raised]
      refine ((List.map_congr_left fun q hq => ?_).trans (List.map_id _)).symm
      have other := of_decide_eq_true (List.mem_filter.mp hq).2
      refine if_neg fun same => other ?_
      rw [← same, own]
    · have distinct : ((reg.raise front r back).entries.map Record.id).Nodup :=
        ((raise_perm place.entries).map Record.id).nodup_iff.mpr orderly.distinct
      have unfocus : (reg.raise front r back).unfocus = reg.unfocus := by
        funext q
        unfold Registry.unfocus
        rw [focused]
      rw [others_passFocus distinct, unfocus, raised]

/-! ## Operations that are given an id -/

lemma Treatment.addressed (h : Treatment host reg op r f) (addressed : op.addressee = some id) :
    r.id = id := by
  cases h with
  | tick now => cases addressed
  | attach session _ _ _ _ => cases addressed
  | reported session state hop _ _ _ =>
    obtain rfl | ⟨rfl, -⟩ := hop
    · cases addressed
    · cases addressed
  | close hid => exact hid.trans (Option.some.inj addressed)
  | suspend hid _ => exact hid.trans (Option.some.inj addressed)
  | resume hid _ => exact hid.trans (Option.some.inj addressed)
  | resumeRequested hid _ => exact hid.trans (Option.some.inj addressed)
  | setExempt _ hid => exact hid.trans (Option.some.inj addressed)
  | setStage _ hid => exact hid.trans (Option.some.inj addressed)
  | updateScreenshot hid => exact hid.trans (Option.some.inj addressed)
  | started hid _ => exact hid.trans (Option.some.inj addressed)
  | failed _ hid => exact hid.trans (Option.some.inj addressed)
  | ended hid _ => exact hid.trans (Option.some.inj addressed)
  | suspended hid => exact hid.trans (Option.some.inj addressed)

lemma Course.others (course : Course host op reg reg') (faithful : host.Faithful)
    (addressed : op.addressee = some id) (still : ∀ id, op ≠ .focus id) :
    reg'.others (some id) = reg.others (some id) := by
  cases course with
  | idle => rfl
  | note _ => rfl
  | announce _ => rfl
  | treat place treatment =>
    obtain rfl := treatment.addressed addressed
    exact others_treat place treatment
  | @relaunch _ front back r _ place hid gone =>
    obtain rfl := hid.trans (Option.some.inj addressed)
    have again : Located (reg.emit [.focusRequested r.id]) front r back :=
      ⟨place.entries, place.first⟩
    exact others_treat again (.started hid (.inl gone))
  | finish place hid news left hq =>
    obtain rfl := hid.trans (Option.some.inj addressed)
    rw [← others_treat place (.ended hid news), ← hq]
    exact others_remove left.entries rfl
  | launch _ known =>
    refine others_welcome ?_
    rw [newcomer_launched]
    exact (faithful _ _ known).trans (Option.some.inj addressed)
  | bind _ => cases addressed
  | @appear _ given descriptor s _ known hid new =>
    have named : s.record.id = given.normalized := by
      rw [new, newcomer_launched]
      exact hid
    obtain rfl := named.trans (Option.some.inj addressed)
    have welcomed : (reg.welcome s).others (some s.record.id) = reg.others (some s.record.id) :=
      others_welcome rfl
    rw [← welcomed]
    exact others_settle rfl (Scene.onProcess_sameIdentity host .running _)
  | stray _ known other => exact absurd (faithful _ _ known) other
  | raise _ _ => exact absurd rfl (still _)
  | focus _ _ _ => exact absurd rfl (still _)
  | tick _ => cases addressed

/-! ## Operations on processes and sessions -/

lemma Admission.others (admission : Admission host reg pid reg') (faithful : host.Faithful) :
    reg'.others (reg.claimant host pid) = reg.others (reg.claimant host pid) := by
  -- past the first rule, the process is not confirmed for any record
  have unclaimed : (∀ q ∈ reg.entries, ¬ q.Confirmed host pid) →
      (reg.entries.find? fun r => decide (r.Confirmed host pid)) = none := by
    intro unconfirmed
    exact List.find?_eq_none.mpr fun q hq yes => unconfirmed q hq (of_decide_eq_true yes)
  cases admission with
  | @confirmed front back r entries confirmed first =>
    have found : (reg.entries.find? fun r => decide (r.Confirmed host pid)) = some r := by
      refine List.find?_eq_some_iff_append.mpr
        ⟨decide_eq_true confirmed, front, back, entries, fun q hq => ?_⟩
      rw [decide_eq_false (first q hq)]
      rfl
    have claimed : reg.claimant host pid = some r.id := by
      unfold claimant
      rw [found]
    rw [claimed]
    exact others_replace entries rfl rfl
  | trusted _ _ _ => rfl
  | @hinted front back r line unconfirmed readable stranger named place _ =>
    have claimed : reg.claimant host pid = some r.id := by
      unfold claimant
      rw [unclaimed unconfirmed, readable]
      dsimp only
      rw [if_neg (isTrusted_iff.not.mpr stranger), AuthorizationPolicy.names_iff.mpr named]
    rw [claimed]
    exact others_replace place.entries rfl rfl
  | @created line id descriptor r unconfirmed readable stranger named _ known new =>
    have claimed : reg.claimant host pid = some r.id := by
      unfold claimant
      rw [unclaimed unconfirmed, readable]
      dsimp only
      rw [if_neg (isTrusted_iff.not.mpr stranger), AuthorizationPolicy.names_iff.mpr named, new]
      exact congrArg some (faithful _ _ known).symm
    rw [claimed]
    exact others_add rfl

lemma others_authorize (shares : Shares reg) (faithful : host.Faithful) (pid : Nat) :
    (reg.authorizeSession host pid).2.others (reg.claimant host pid) =
      reg.others (reg.claimant host pid) := by
  cases told : (reg.authorizeSession host pid).1 with
  | false => rw [authorizeSession_refused told]
  | true =>
    obtain ⟨reg', admission⟩ := ((authorizeSession_iff shares host pid).mp told).exists_admission
    rw [admission.authorizeSession_eq shares.unused]
    exact admission.others faithful

lemma others_sessionStarting (reg : Registry) (session : Session) :
    (reg.sessionStarting session).2.others ((reg.expecting session).map Record.id) =
      reg.others ((reg.expecting session).map Record.id) := by
  obtain ⟨-, same⟩ | ⟨front, r, back, place, expected, attached⟩ := sessionStarting_eq reg session
  · unfold others
    rw [same]
  · have moves : Scene.Moves .willing (reg.scene r) ((reg.scene r).attach session) :=
      (Scene.Moves.refl _).attach session
    rw [attached, expected]
    exact others_settle place.entries moves.sameIdentity

lemma others_sessionStateChanged (host : Host) (reg : Registry) (session : SessionId)
    (state : SessionState) :
    (reg.sessionStateChanged host session state).others ((reg.attached session).map Record.id) =
      reg.others ((reg.attached session).map Record.id) := by
  obtain ⟨-, same⟩ | ⟨front, r, back, place, attached, heard⟩ :=
    sessionStateChanged_eq host reg session state
  · rw [same]
  · have moves : Scene.Moves host (reg.scene r) ((reg.scene r).hear host state) :=
      (Scene.Moves.refl _).hear state
    rw [heard, attached]
    exact others_settle place.entries moves.sameIdentity

/-! ## What it comes to -/

/-- The records of the others after any operation but a tick. -/
lemma others_perform_eq (h : Reachable Host.Faithful reg) (faithful : host.Faithful)
    (untimed : ∀ now, op ≠ .tick now) :
    (reg.perform host op).2.others (reg.subject host op) =
      (reg.others (reg.subject host op)).map (reg.bystander op) := by
  by_cases focuses : ∃ id, op = .focus id
  · obtain ⟨id, rfl⟩ := focuses
    exact others_focus h.orderly id
  · have still : ∀ id, op ≠ .focus id := fun id same => focuses ⟨id, same⟩
    have same : reg.bystander op = fun r => r := funext (bystander_of_ne still)
    have addressed : ∀ {id}, op.addressee = some id →
        (reg.perform host op).2.others (some id) = reg.others (some id) :=
      fun addressed => (perform_course host op reg).others faithful addressed still
    rw [same, List.map_id']
    cases op with
    | tick now => exact absurd rfl (untimed now)
    | authorize pid => exact others_authorize h.shares faithful pid
    | sessionStarting session => exact others_sessionStarting reg session
    | sessionState session state => exact others_sessionStateChanged host reg session state
    | sessionClosed session => exact others_sessionStateChanged host reg session .stopped
    | _ => exact addressed rfl

/-- A share is kept with the record. -/
lemma mem_owners_perform (h : Reachable Host.Faithful reg) (faithful : host.Faithful)
    (untimed : ∀ now, op ≠ .tick now) (hr : r ∈ reg.others (reg.subject host op)) :
    r.owner ∈ (reg.perform host op).2.wakelock.owners ↔ r.owner ∈ reg.wakelock.owners := by
  have hmem : reg.bystander op r ∈ (reg.perform host op).2.others (reg.subject host op) := by
    rw [others_perform_eq h faithful untimed]
    exact List.mem_map_of_mem hr
  have later := (h.perform op faithful).shares.mem_owners_iff (List.mem_filter.mp hmem).1
  obtain ⟨owner, wants⟩ := Prod.mk.inj (reg.bystander_share op r)
  rw [owner, wants] at later
  rw [later, h.shares.mem_owners_iff (List.mem_filter.mp hr).1]

/-- In every reachable registry, an operation that is not a tick leaves the records of all the
applications but the one that it concerns as they are and in their order, and leaves them their
shares in the wakelock. Only where an application gets the focus, the one that had it is not
flagged any more. -/
theorem others_perform (h : Reachable Host.Faithful reg) (faithful : host.Faithful)
    (untimed : ∀ now, op ≠ .tick now) :
    (reg.perform host op).2.others (reg.subject host op) =
      (reg.others (reg.subject host op)).map (reg.bystander op) ∧
    (∀ r, reg.bystander op r = r ∨
      reg.bystander op r = { r with focused := false } ∧ reg.focused = some r.id ∧
        ∃ id, op = .focus id) ∧
    ∀ r ∈ reg.others (reg.subject host op),
      (r.owner ∈ (reg.perform host op).2.wakelock.owners ↔ r.owner ∈ reg.wakelock.owners) :=
  ⟨others_perform_eq h faithful untimed, reg.bystander_cases op,
    fun _ hr => mem_owners_perform h faithful untimed hr⟩

/-- The notes get the focus: the clock, which had it, is not flagged any more, and is otherwise as
it was. -/
theorem clock_after_focus_on_notes :
    Reachable Host.Faithful afterErrand ∧ Host.willing.Faithful ∧
    (∀ now, Operation.focus ⟨"notes"⟩ ≠ .tick now) ∧
    (afterErrand.others (some ⟨"notes"⟩)).map (fun r => (r.id.text, r.focused)) =
      [("clock", true)] ∧
    (((afterErrand.perform .willing (.focus ⟨"notes"⟩)).2.others (some ⟨"notes"⟩)).map
      fun r => (r.id.text, r.focused)) = [("clock", false)] ∧
    (afterErrand.perform .willing (.focus ⟨"notes"⟩)).2.others (some ⟨"notes"⟩) =
      (afterErrand.others (some ⟨"notes"⟩)).map fun r => { r with focused := false } := by
  have untimed : ∀ now, Operation.focus ⟨"notes"⟩ ≠ .tick now := fun _ => Operation.noConfusion
  obtain ⟨others, -, -⟩ := others_perform afterErrand_reachable Host.willing_faithful untimed
  refine ⟨afterErrand_reachable, Host.willing_faithful, untimed, by decide, by decide, ?_⟩
  have clock :
      (afterErrand.others (some ⟨"notes"⟩)).map (afterErrand.bystander (.focus ⟨"notes"⟩)) =
        (afterErrand.others (some ⟨"notes"⟩)).map fun r => { r with focused := false } := by
    decide
  rw [← clock]
  exact others

/-! ## Runs -/

/-- No operation of a run concerns the application, or looks at the close timers. -/
def Bypasses (id : AppId) (reg : Registry) : List (Host × Operation) → Prop
  | [] => True
  | (host, op) :: ops =>
    host.Faithful ∧ (∀ now, op ≠ .tick now) ∧ reg.subject host op ≠ some id ∧
      Bypasses id (reg.perform host op).2 ops

/-- As long as no operation concerns an application, its record stays as it is but for the focus,
and has its share in the wakelock if it had it. -/
theorem performAll_of_bypasses (h : Reachable Host.Faithful reg) {ops : List (Host × Operation)}
    (bypasses : Bypasses r.id reg ops) (hr : r ∈ reg.entries) :
    (∃ focused, { r with focused } ∈ (reg.performAll ops).entries) ∧
      (r.owner ∈ (reg.performAll ops).wakelock.owners ↔ r.owner ∈ reg.wakelock.owners) := by
  induction ops generalizing reg r with
  | nil => exact ⟨⟨r.focused, hr⟩, Iff.rfl⟩
  | cons x ops ih =>
    obtain ⟨host, op⟩ := x
    obtain ⟨faithful, untimed, elsewhere, later⟩ := bypasses
    have other : r ∈ reg.others (reg.subject host op) :=
      List.mem_filter.mpr ⟨hr, decide_eq_true elsewhere.symm⟩
    -- the record after the first operation, which differs in its flag at most
    have hmem : reg.bystander op r ∈ (reg.perform host op).2.others (reg.subject host op) := by
      rw [others_perform_eq h faithful untimed]
      exact List.mem_map_of_mem other
    obtain ⟨focused, flagged⟩ : ∃ focused, reg.bystander op r = { r with focused } := by
      rcases reg.bystander_cases op r with same | ⟨cleared, -⟩
      · exact ⟨r.focused, same⟩
      · exact ⟨false, cleared⟩
    rw [flagged] at hmem
    have share := mem_owners_perform h faithful untimed other
    obtain ⟨kept, shareLater⟩ := ih (r := { r with focused }) (h.perform op faithful) later
      (List.mem_filter.mp hmem).1
    exact ⟨kept, shareLater.trans share⟩

end Registry

end AppLifecycle
