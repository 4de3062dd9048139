import AppLifecycle.Daemon.Basic
import AppLifecycle.Proofs.Registry.Reconciliation
import AppLifecycle.Proofs.Scene.Conversation

/-!
# The sessions of a registry

No hold on a session is lost, and none is given up twice: the sessions that the records have, with
one that is opened, are those that they have after an operation, with those whose hold has been
given up (`perform_trades`). On the way nothing is asked of any other session, and each session is
told what suits the state of its record, as long as no two of them have one id.
-/

namespace AppLifecycle

/-- The session that an operation opens. -/
def Operation.opens : Operation → List Session
  | .sessionStarting session => [session]
  | _ => []

namespace Effect

variable {session : Option Session}

lemma released?_of_within {e : Effect} (h : e.Within session) : e.released? = none := by
  cases e <;> first | exact h.elim | rfl

lemma Aside.released? {e : Effect} (h : e.Aside) : e.released? = none := by
  cases e <;> first | exact h.elim | rfl

lemma filterMap_released?_letGo (l : List Session) :
    (l.map fun x => letGo x.id).filterMap released? = l.map Session.id := by
  induction l with
  | nil => rfl
  | cons x l ih =>
    rw [List.map_cons, List.filterMap_cons_some (rfl : (letGo x.id).released? = some x.id), ih]
    rfl

end Effect

namespace Scene

variable {host : Host} {s t : Scene} {opened gone : List Session} {effects : List Effect}

/-- What has become of the session of a record and of one that is opened: they are the session that
the record has now and those whose hold has been given up. Nothing has been asked of others, and the
record is in tune if it was and the session that is opened had not been told anything. -/
structure Trades (s : Scene) (opened : List Session) (t : Scene) (effects : List Effect)
    (gone : List Session) : Prop where
  journal : t.journal = s.journal ++ effects
  released : effects.filterMap Effect.released? = gone.map Session.id
  kept : (s.record.session.toList ++ opened).Perm (t.record.session.toList ++ gone)
  asked : ∀ x action, .ask x action ∈ effects → x ∈ s.record.session.toList ++ opened
  tune : (∀ x ∈ opened, lastBid x.id s.journal = none) → s.InTune → t.InTune

lemma Converses.trades (h : Converses s t) : ∃ effects, Trades s [] t effects [] := by
  obtain ⟨effects, journal, within⟩ := h.effects
  refine ⟨effects, journal, ?_, ?_, fun x action he => ?_, fun _ => h.tune⟩
  · exact List.filterMap_eq_nil_iff.mpr fun e he => Effect.released?_of_within (within e he)
  · rw [h.session]
  · have own : s.record.session = some x := within _ he
    rw [own]
    exact List.mem_cons_self

lemma Loyal.trades_letGoSession (h : Loyal s t) :
    ∃ effects, Trades s [] t.letGoSession effects s.record.session.toList := by
  obtain ⟨effects, journal, within⟩ := h.effects
  have alone : t.letGoSession.record.session = none := by
    rw [letGoSession_record]
  refine ⟨effects ++ s.record.session.toList.map fun x => .letGo x.id, ?_, ?_, ?_,
    fun x action he => ?_, fun _ _ => inTune_of_alone alone⟩
  · rw [letGoSession_journal, journal, h.session, List.append_assoc]
  · rw [List.filterMap_append, Effect.filterMap_released?_letGo, List.filterMap_eq_nil_iff.mpr]
    · rfl
    · exact fun e he => Effect.released?_of_within (within e he)
  · rw [alone, List.append_nil]
    exact .refl _
  · obtain he | he := List.mem_append.mp he
    · have own : s.record.session = some x := within _ he
      rw [own]
      exact List.mem_cons_self
    · obtain ⟨_, -, no⟩ := List.mem_map.mp he
      cases no

/-- A session that is attached takes the place of the one before. -/
lemma trades_attach (s : Scene) (session : Session) :
    ∃ effects, Trades s [session] (s.attach session) effects s.record.session.toList := by
  obtain ⟨-, -, attached, -⟩ := s.attach_standing session
  refine ⟨(s.record.session.toList.map fun x => .letGo x.id) ++
    [.ask session (greeting s.record.state)], ?_, ?_, ?_, fun x action he => ?_,
    fun unheard _ => ?_⟩
  · rw [attach_journal, List.append_assoc]
  · rw [List.filterMap_append, Effect.filterMap_released?_letGo]
    exact List.append_nil _
  · rw [attached]
    exact List.perm_append_comm
  · obtain he | he := List.mem_append.mp he
    · obtain ⟨_, -, no⟩ := List.mem_map.mp he
      cases no
    · cases List.mem_singleton.mp he
      exact List.mem_append_right _ List.mem_cons_self
  · exact attach_inTune s (unheard session List.mem_cons_self)

lemma trades_hear (host : Host) (state : SessionState) (s : Scene) :
    ∃ effects gone, Trades s [] (s.hear host state) effects gone := by
  obtain converses | ⟨-, t, loyal, heard⟩ := hear_converses host state s
  · obtain ⟨effects, trades⟩ := converses.trades
    exact ⟨effects, [], trades⟩
  · obtain ⟨effects, trades⟩ := loyal.trades_letGoSession
    rw [heard]
    exact ⟨effects, _, trades⟩

end Scene

namespace Registry

variable {P : Host → Prop} {host : Host} {op : Operation} {reg reg' reg'' : Registry}
variable {front back : List Record} {r q : Record} {s : Scene} {f : Scene → Scene} {id : AppId}
variable {opened gone gone' : List Session} {effects effects' : List Effect}

/-- The sessions that the records have. -/
def sessions (reg : Registry) : List Session := reg.entries.filterMap Record.session

/-- What each session was told last suits the state of its record. -/
def InTune (reg : Registry) : Prop := ∀ r ∈ reg.entries, (reg.scene r).InTune

/-- What has become of the sessions of all records and of one that is opened. -/
structure Trades (reg : Registry) (opened : List Session) (reg' : Registry)
    (effects : List Effect) (gone : List Session) : Prop where
  journal : reg'.journal = reg.journal ++ effects
  released : effects.filterMap Effect.released? = gone.map Session.id
  kept : (reg.sessions ++ opened).Perm (reg'.sessions ++ gone)
  asked : ∀ x action, .ask x action ∈ effects → x ∈ reg.sessions ++ opened
  tune : ((reg.sessions ++ opened).map Session.id).Nodup →
    (∀ x ∈ opened, lastBid x.id reg.journal = none) → reg.InTune → reg'.InTune

lemma sessions_eq (entries : reg.entries = front ++ r :: back) :
    reg.sessions.Perm (r.session.toList ++ (front ++ back).filterMap Record.session) := by
  have first : (r :: (front ++ back)).filterMap Record.session =
      r.session.toList ++ (front ++ back).filterMap Record.session := by
    rw [List.filterMap_cons]
    cases r.session <;> rfl
  unfold sessions
  rw [entries, ← first]
  exact List.perm_middle.filterMap _

lemma evict_journal (reg : Registry) (front : List Record) (r : Record) (back : List Record) :
    (reg.evict front r back).journal =
      reg.journal ++ r.session.toList.map fun x => .letGo x.id :=
  Scene.letGoSession_journal { reg.scene r with wakelock := _ }

/-- A record that has stopped lets its session go. -/
lemma settle_journal (reg : Registry) (front : List Record) (r : Record) (back : List Record)
    (s : Scene) : (reg.settle front r back s).journal = s.journal ++
      (if s.record.state = .stopped then s.record.session.toList else []).map
        fun x => .letGo x.id := by
  unfold settle
  split
  · exact evict_journal _ _ _ _
  · exact (List.append_nil _).symm

lemma append_perm_swap (a b c : List Session) : (a ++ b ++ c).Perm (a ++ c ++ b) := by
  rw [List.append_assoc, List.append_assoc]
  exact List.perm_append_comm.append_left a

namespace Trades

lemma trans (h : Trades reg opened reg' effects gone) (h' : Trades reg' [] reg'' effects' gone') :
    Trades reg opened reg'' (effects ++ effects') (gone ++ gone') := by
  have kept' := h'.kept
  rw [List.append_nil] at kept'
  refine ⟨?_, ?_, ?_, fun x action he => ?_, fun nodup unheard tune => ?_⟩
  · rw [h'.journal, h.journal, List.append_assoc]
  · rw [List.filterMap_append, h.released, h'.released, List.map_append]
  · refine h.kept.trans ((kept'.append_right gone).trans ?_)
    rw [List.append_assoc]
    exact List.perm_append_comm.append_left _
  · obtain he | he := List.mem_append.mp he
    · exact h.asked x action he
    · have asked := h'.asked x action he
      rw [List.append_nil] at asked
      exact h.kept.mem_iff.mpr (List.mem_append_left _ asked)
  · refine h'.tune ?_ (by simp) (h.tune nodup unheard tune)
    have nodup' := (h.kept.map Session.id).nodup_iff.mp nodup
    rw [List.append_nil]
    exact nodup'.sublist ((List.sublist_append_left _ _).map _)

/-- Where the records differ in their order, and in what is neither their session nor their state,
nothing has become of the sessions. -/
lemma of_perm (journal : reg'.journal = reg.journal)
    (perm : (reg'.entries.map fun r => (r.session, r.state)).Perm
      (reg.entries.map fun r => (r.session, r.state))) : Trades reg [] reg' [] [] := by
  have first : ∀ l : List Record, l.filterMap Record.session =
      (l.map fun r => (r.session, r.state)).filterMap Prod.fst := by
    intro l
    rw [List.filterMap_map]
    rfl
  refine ⟨by rw [journal, List.append_nil], rfl, ?_, fun _ _ no => absurd no List.not_mem_nil,
    fun _ _ tune q hq x attached => ?_⟩
  · rw [List.append_nil, List.append_nil]
    unfold sessions
    rw [first, first]
    exact (perm.filterMap _).symm
  · obtain ⟨r, hr, same⟩ := List.mem_map.mp (perm.mem_iff.mp (List.mem_map_of_mem hq))
    obtain ⟨session, state⟩ := Prod.mk.inj same
    show q.state.Suits (lastBid x.id reg'.journal)
    rw [journal, ← state]
    exact tune r hr x (session.trans attached)

lemma refl (reg : Registry) : Trades reg [] reg [] [] := .of_perm rfl (.refl _)

lemma emit (reg : Registry) (events : List RegistryEvent) :
    Trades reg [] (reg.emit events) [] [] := .of_perm rfl (.refl _)

/-- Effects that are nothing to any session. -/
lemma note (entries : reg'.entries = reg.entries) (journal : reg'.journal = reg.journal ++ effects)
    (aside : ∀ e ∈ effects, e.Aside) : Trades reg [] reg' effects [] := by
  refine ⟨journal, ?_, ?_, fun x action he => (aside _ he).elim, fun _ _ tune q hq x attached => ?_⟩
  · exact List.filterMap_eq_nil_iff.mpr fun e he => (aside e he).released?
  · unfold sessions
    rw [entries]
  · rw [entries] at hq
    show q.state.Suits (lastBid x.id reg'.journal)
    rw [journal, lastBid_append_of_forall fun e he => (aside e he).bid]
    exact tune q hq x attached

/-- What becomes of the session of one record, and of one that is opened for it, becomes of them in
the registry. -/
lemma place (entries : reg.entries = front ++ r :: back)
    (h : (reg.scene r).Trades opened s effects gone) :
    Trades reg opened (reg.place front r back s) effects gone := by
  generalize hrest : (front ++ back).filterMap Record.session = rest
  have before : reg.sessions.Perm (r.session.toList ++ rest) := hrest ▸ sessions_eq entries
  have after : (reg.place front r back s).sessions.Perm (s.record.session.toList ++ rest) :=
    hrest ▸ sessions_eq rfl
  have traded : (reg.sessions ++ opened).Perm (r.session.toList ++ opened ++ rest) :=
    (before.append_right opened).trans (append_perm_swap _ _ _)
  have kept : (r.session.toList ++ opened).Perm (s.record.session.toList ++ gone) := h.kept
  refine ⟨h.journal, h.released, ?_, fun x action he => ?_, fun nodup unheard tune => ?_⟩
  · refine traded.trans ((kept.append_right rest).trans ((append_perm_swap _ _ _).trans ?_))
    exact (after.append_right gone).symm
  · exact traded.mem_iff.mpr (List.mem_append_left rest (h.asked x action he))
  · have nodup := (traded.map Session.id).nodup_iff.mp nodup
    rw [List.map_append, List.nodup_append] at nodup
    intro q hq
    obtain hq | rfl := mem_place hq
    · intro y attached
      -- the session of another record has another id, so that it has not been told anything
      have hy : y ∈ rest := hrest ▸ List.mem_filterMap.mpr ⟨q, hq, attached⟩
      have untold : ∀ e ∈ effects, e.bid y.id = none := by
        intro e he
        cases e with
        | ask x action =>
          exact Effect.bid_ask_of_ne action (nodup.2.2 _
            (List.mem_map_of_mem (h.asked x action he)) _ (List.mem_map_of_mem hy))
        | _ => rfl
      show q.state.Suits (lastBid y.id s.journal)
      rw [h.journal, lastBid_append_of_forall untold]
      exact tune q (mem_of_mem_append entries hq) y attached
    · exact h.tune unheard (tune r (entries ▸ List.mem_append_right _ List.mem_cons_self))

/-- A record that is given up lets its session go. -/
lemma evict (entries : reg.entries = front ++ r :: back) :
    ∃ effects, Trades reg [] (reg.evict front r back) effects r.session.toList := by
  refine ⟨r.session.toList.map fun x => .letGo x.id, ?_, Effect.filterMap_released?_letGo _, ?_,
    fun x action he => ?_, fun _ _ tune q hq y attached => ?_⟩
  · exact evict_journal reg front r back
  · rw [List.append_nil]
    exact (sessions_eq entries).trans List.perm_append_comm
  · obtain ⟨_, -, no⟩ := List.mem_map.mp he
    cases no
  · show q.state.Suits (lastBid y.id (reg.evict front r back).journal)
    rw [evict_journal, lastBid_append_of_forall]
    · exact tune q (mem_of_mem_append entries hq) y attached
    · intro e he
      obtain ⟨_, -, rfl⟩ := List.mem_map.mp he
      rfl

lemma settle (entries : reg.entries = front ++ r :: back)
    (h : (reg.scene r).Trades opened s effects gone) :
    ∃ effects gone, Trades reg opened (reg.settle front r back s) effects gone := by
  have placed := place entries h
  unfold Registry.settle
  split
  · have entries' : (reg.place front r back s).entries = front ++ s.record :: back := rfl
    obtain ⟨_, evicted⟩ := evict entries'
    exact ⟨_, _, placed.trans evicted⟩
  · exact ⟨_, _, placed⟩

/-- A new record has no session. -/
lemma welcome (host : Host) (descriptor : Descriptor) (arguments : List String) (exempt : Bool)
    (introduction : Introduction op f) :
    Trades reg [] (reg.welcome (reg.newcomer host descriptor arguments exempt f)) [] [] := by
  have journal : (reg.newcomer host descriptor arguments exempt f).journal = reg.journal :=
    newcomer_journal introduction
  obtain ⟨pid, stage, record⟩ := introduction.newcomer host reg descriptor arguments exempt
  have alone : (reg.newcomer host descriptor arguments exempt f).record.session = none := by
    rw [record]
    rfl
  refine ⟨by rw [List.append_nil]; exact journal, rfl, ?_, fun _ _ no => absurd no List.not_mem_nil,
    fun _ _ tune q hq x attached => ?_⟩
  · rw [List.append_nil, List.append_nil]
    show reg.sessions.Perm (List.filterMap _ (_ :: reg.entries))
    rw [List.filterMap_cons_none alone]
    exact .refl _
  · show q.state.Suits (lastBid x.id (reg.newcomer host descriptor arguments exempt f).journal)
    rw [journal]
    obtain rfl | hq := List.mem_cons.mp hq
    · exact absurd (alone.symm.trans attached) (Option.some_ne_none x).symm
    · exact tune q hq x attached

end Trades

/-! ## What operations make of the sessions -/

lemma Treatment.trades (h : Treatment host reg op r f) (opens : ∀ x, op ≠ .sessionStarting x)
    (s : Scene) : ∃ effects gone, s.Trades [] (f s) effects gone := by
  have goesOn : ∀ {t : Scene}, Scene.Converses s t → ∃ effects gone, s.Trades [] t effects gone :=
    fun converses => converses.trades.imp fun _ trades => ⟨[], trades⟩
  have start : Scene.Converses s s := .refl s
  cases h with
  | close _ => exact goesOn start.close
  | suspend _ _ => exact goesOn (start.request _)
  | resume _ _ => exact goesOn (start.request _)
  | resumeRequested _ _ => exact goesOn (start.request _)
  | setExempt exempt _ => exact goesOn (start.setExempt exempt)
  | setStage stage _ => exact goesOn (start.setStage stage)
  | updateScreenshot _ => exact goesOn (start.update rfl rfl)
  | tick now => exact goesOn (start.tick now)
  | started _ _ => exact goesOn (start.onProcess _)
  | failed _ _ => exact goesOn ((start.onProcess .failed).update rfl rfl)
  | ended _ _ => exact goesOn (start.onProcess _)
  | suspended _ => exact goesOn (start.onProcess _)
  | attach session _ _ _ _ => exact absurd rfl (opens session)
  | reported _ state _ _ _ _ => exact Scene.trades_hear host state s

lemma Trades.raise (entries : reg.entries = front ++ r :: back) :
    Trades reg [] (reg.raise front r back) [] [] := by
  obtain ⟨_, _, frame⟩ := raise_frame reg front r back
  have journal : (reg.raise front r back).journal = reg.journal := by rw [frame]
  exact .of_perm journal ((raise_perm entries).map _)

lemma Trades.passFocus (reg : Registry) (id : AppId) : Trades reg [] (reg.passFocus id) [] [] := by
  obtain ⟨_, _, frame⟩ := reg.passFocus_frame id
  have journal : (reg.passFocus id).journal = reg.journal := by rw [frame]
  exact .of_perm journal (.of_eq (map_passFocus (fun _ _ => rfl) id))

lemma Trades.setPid (entries : reg.entries = front ++ r :: back) (pid : Nat) :
    Trades reg [] { reg with entries := front ++ { r with pid } :: back } [] [] := by
  refine .of_perm rfl (.of_eq ?_)
  rw [entries, List.map_append, List.map_append]
  rfl

lemma Trades.tick (host : Host) (now : Instant) (reg : Registry) :
    ∃ effects gone, Trades reg [] (reg.tick host now) effects gone := by
  refine tick_invariant (I := fun seen => ∃ effects gone, Trades reg [] seen effects gone) now
    ⟨[], [], .refl reg⟩ ?_
  rintro seen front r back place ⟨effects, gone, trades⟩
  have looks : Scene.Converses (seen.scene r) ((seen.scene r).tick host now).2 :=
    (Scene.Converses.refl _).tick now
  obtain ⟨_, looked⟩ := looks.trades
  obtain ⟨_, _, settled⟩ := Trades.settle place.entries looked
  exact ⟨_, _, trades.trans settled⟩

lemma Course.trades (course : Course host op reg reg') (opens : ∀ x, op ≠ .sessionStarting x) :
    ∃ effects gone, Trades reg [] reg' effects gone := by
  have same : ∀ {reg'}, Trades reg [] reg' [] [] →
      ∃ effects gone, Trades reg [] reg' effects gone := fun trades => ⟨[], [], trades⟩
  -- what happens to a record in a registry with the same records and effects
  have treated : ∀ {seen : Registry} {front back : List Record} {r : Record} {f : Scene → Scene}
      {known : Registry}, Trades reg [] seen [] [] → seen.entries = front ++ r :: back →
      Treatment host known op r f →
      ∃ effects gone, Trades reg [] (seen.settle front r back (f (seen.scene r))) effects gone := by
    intro seen front back r f known before entries treatment
    obtain ⟨_, _, done⟩ := treatment.trades opens (seen.scene r)
    obtain ⟨_, _, settled⟩ := Trades.settle entries done
    exact ⟨_, _, before.trans settled⟩
  cases course with
  | idle => exact same (.refl reg)
  | note note =>
    cases note with
    | unlaunched _ => exact ⟨_, [], .note rfl rfl (by simp [Effect.Aside])⟩
    | trusted _ _ => exact ⟨_, [], .note rfl rfl (by simp)⟩
    | helper _ => exact absurd rfl (opens _)
    | intruder session => exact absurd rfl (opens session)
  | announce _ => exact same (.emit reg _)
  | treat place treatment => exact treated (.refl reg) place.entries treatment
  | @relaunch _ front back r id place hid gone =>
    have started : Treatment host reg (.process (.starting id)) r (Scene.onProcess host .running) :=
      .started hid (.inl gone)
    exact treated (.emit reg _) place.entries started
  | @finish _ _ _ _ _ r _ id place hid news left _ =>
    have ends : Treatment host reg (.process (.stopped id)) r (Scene.onProcess host .stopped) :=
      .ended hid news
    obtain ⟨_, _, ended⟩ := treated (.refl reg) place.entries ends
    obtain ⟨_, evicted⟩ := Trades.evict left.entries
    exact ⟨_, _, ended.trans evicted⟩
  | @launch _ id args descriptor _ _ =>
    have called : Trades reg [] (reg.call (.start id.normalized args)) _ [] :=
      .note rfl rfl (by simp [Effect.Aside])
    exact ⟨_, _, called.trans (.welcome host descriptor args _ (.launched (.start id args)))⟩
  | bind binding =>
    cases binding with
    | confirmed entries _ _ => exact same (.setPid entries _)
    | hinted place _ _ => exact same (.setPid place.entries _)
    | created arguments side _ _ _ =>
      exact same (.welcome host _ arguments _ (.identified _ side))
  | @appear _ id descriptor s _ _ hid new =>
    have introduction : Introduction (.process (.starting id)) fun s => s := .launched _
    have welcomed : Trades reg [] (reg.welcome s) [] [] := by
      rw [new]
      exact .welcome host descriptor [] _ introduction
    have starts : Treatment host (reg.welcome s) (.process (.starting id)) s.record
        (Scene.onProcess host .running) := by
      rw [new, newcomer_launched]
      exact .started hid (.inr ⟨rfl, rfl⟩)
    exact treated (welcomed.trans (.emit _ _)) rfl starts
  | @stray _ id descriptor _ _ _ =>
    have introduction : Introduction (.process (.starting id)) fun s => s := .launched _
    exact same ((Trades.welcome host descriptor [] _ introduction).trans (.emit _ _))
  | raise place _ => exact same (.raise place.entries)
  | focus place _ _ => exact same ((Trades.raise place.entries).trans (.passFocus _ _))
  | tick now => exact Trades.tick host now reg

lemma sessionStarting_trades (session : Session) (reg : Registry) :
    ∃ effects gone, Trades reg [session] (reg.sessionStarting session).2 effects gone := by
  unfold sessionStarting
  split
  · rename_i q hq
    obtain ⟨front, r, back, place, hid⟩ := exists_located_of_mem (List.mem_of_find?_eq_some hq)
    obtain ⟨_, attached⟩ := (reg.scene r).trades_attach session
    dsimp only
    rw [← hid, onRecord_eq place]
    exact Trades.settle place.entries attached
  -- otherwise the session is let go at once
  · have kept : ∀ (helpers : List Nat) (effects : List Effect),
        effects.filterMap Effect.released? = [session.id] →
        (∀ x action, .ask x action ∈ effects → x = session ∧ action = .stop) →
        Trades reg [session] { reg with helpers, journal := reg.journal ++ effects } effects
          [session] := by
      intro helpers effects released asked
      refine ⟨rfl, released, .refl _, fun x action he => ?_, fun _ _ tune q hq y attached => ?_⟩
      · rw [(asked x action he).1]
        exact List.mem_append_right _ List.mem_cons_self
      · show q.state.Suits (lastBid y.id (reg.journal ++ effects))
        rw [lastBid_append_of_forall]
        · exact tune q hq y attached
        · intro e he
          cases e with
          | ask x action =>
            rw [(asked x action he).2]
            rfl
          | _ => rfl
    split
    · exact ⟨_, _, kept _ [.letGo session.id] rfl (by simp)⟩
    · exact ⟨_, _, kept _ [.ask session .stop, .letGo session.id] rfl (by simp)⟩

/-- Every operation trades the sessions of the registry and the one that it opens for those that the
registry has afterwards and those whose hold it gives up. -/
theorem perform_trades (host : Host) (op : Operation) (reg : Registry) :
    ∃ effects gone, Trades reg op.opens (reg.perform host op).2 effects gone := by
  cases op with
  | sessionStarting session => exact sessionStarting_trades session reg
  | _ => exact (perform_course host _ reg).trades fun x no => by cases no

/-! ## Along a run -/

/-- The sessions that have been opened in a run. -/
def announced (run : List (Host × Operation)) : List Session := run.flatMap fun x => x.2.opens

lemma announced_concat (run : List (Host × Operation)) (host : Host) (op : Operation) :
    announced (run ++ [(host, op)]) = announced run ++ op.opens := by
  unfold announced
  rw [List.flatMap_append, List.flatMap_singleton]

/-- Each time that a session has been opened in a run, a record has it still, or the hold on it has
been given up. -/
lemma announced_perm (lifecycle : LifecyclePolicy) (authorization : AuthorizationPolicy)
    (run : List (Host × Operation)) :
    ∃ gone, (announced run).Perm ((after lifecycle authorization run).sessions ++ gone) := by
  induction run using List.reverseRecOn with
  | nil => exact ⟨[], .refl _⟩
  | append_singleton run x ih =>
    obtain ⟨gone, perm⟩ := ih
    obtain ⟨_, gone', trades⟩ := perform_trades x.1 x.2 (after lifecycle authorization run)
    rw [announced_concat, after_concat]
    refine ⟨gone' ++ gone, ((perm.append_right _).trans (append_perm_swap _ _ _)).trans ?_⟩
    rw [← List.append_assoc]
    exact trades.kept.append_right gone

/-- Nothing is asked of a session that has not been opened. -/
lemma announced_of_asked (lifecycle : LifecyclePolicy) (authorization : AuthorizationPolicy)
    {run : List (Host × Operation)} {x : Session} {action : SessionAction}
    (asked : .ask x action ∈ (after lifecycle authorization run).journal) :
    x ∈ announced run := by
  induction run using List.reverseRecOn with
  | nil => exact absurd asked List.not_mem_nil
  | append_singleton run last ih =>
    obtain ⟨gone, perm⟩ := announced_perm lifecycle authorization run
    obtain ⟨_, _, trades⟩ := perform_trades last.1 last.2 (after lifecycle authorization run)
    rw [after_concat, trades.journal] at asked
    rw [announced_concat]
    obtain before | now := List.mem_append.mp asked
    · exact List.mem_append_left _ (ih before)
    · obtain own | opened := List.mem_append.mp (trades.asked x action now)
      · exact List.mem_append_left _ (perm.mem_iff.mpr (List.mem_append_left gone own))
      · exact List.mem_append_right _ opened

/-- Where the sessions that are opened have distinct ids, each of them has been told what suits the
state of its record. -/
theorem after_inTune (lifecycle : LifecyclePolicy) (authorization : AuthorizationPolicy)
    {run : List (Host × Operation)} (distinct : ((announced run).map Session.id).Nodup) :
    (after lifecycle authorization run).InTune := by
  induction run using List.reverseRecOn with
  | nil => exact fun _ hr => absurd hr List.not_mem_nil
  | append_singleton run x ih =>
    obtain ⟨gone, perm⟩ := announced_perm lifecycle authorization run
    obtain ⟨_, _, trades⟩ := perform_trades x.1 x.2 (after lifecycle authorization run)
    rw [announced_concat] at distinct
    rw [after_concat]
    refine trades.tune ?_ (fun y opened => ?_) (ih (distinct.sublist
      ((List.sublist_append_left _ _).map _)))
    · have distinct := ((perm.append_right x.2.opens).map Session.id).nodup_iff.mp distinct
      exact distinct.sublist (((List.sublist_append_left _ gone).append_right _).map _)
    · -- what was told so far was told to sessions with other ids
      rw [List.map_append, List.nodup_append] at distinct
      refine lastBid_of_forall fun e he => ?_
      cases e with
      | ask z action =>
        have heard := announced_of_asked lifecycle authorization he
        exact Effect.bid_ask_of_ne action (distinct.2.2 _ (List.mem_map_of_mem heard) _
          (List.mem_map_of_mem opened))
      | _ => rfl

end Registry

end AppLifecycle
