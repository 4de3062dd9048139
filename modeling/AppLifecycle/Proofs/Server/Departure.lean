import AppLifecycle.Proofs.Daemon.Entries
import AppLifecycle.Proofs.Daemon.Sessions
import AppLifecycle.Proofs.Server.Tasks

/-!
# Clients that have gone

Once the departure of a client has been handled, its sessions count as stopped, and nothing changes
them any more, even if requests of the client are still queued or still being read: a writer takes
its client off the list before it reports the departure, no client returns to the list, and the
requests of a client that is not on the list are dropped.
-/

namespace AppLifecycle

namespace Server

namespace Tasks

variable {t : Tasks} {client : ClientId} {k : Connection}
variable {id : SessionId} {e : SessionEntry}
variable {limiter : RateLimiter ClientId} {lifecycle : LifecyclePolicy}
variable {authorization : AuthorizationPolicy}

/-- The client was on the list once, and is not any more. -/
def Gone (client : ClientId) (t : Tasks) : Prop :=
  ∃ k, t.server.connection? client = some k ∧ k.listed = false

lemma Gone.turn (gone : Gone client t) (turn : Turn) : Gone client (t.turn turn) := by
  obtain ⟨k, found, unlisted⟩ := gone
  obtain ⟨k', still, fades⟩ := turn_connection t turn found
  refine ⟨k', still, Bool.eq_false_iff.mpr fun listed => ?_⟩
  exact absurd ((fades.listed listed).symm.trans unlisted) (by decide)

lemma Gone.client? (gone : Gone client t) : t.server.client? client = none := by
  obtain ⟨k, found, unlisted⟩ := gone
  exact client?_of_unlisted found unlisted

/-! ## A departure is reported when the client is off the list -/

/-- The writer of the client is about to report that it has gone, or has done so. -/
def Departs (client : ClientId) (t : Tasks) : Prop :=
  client ∈ t.leaving ∨ .disconnected client ∈ t.server.queue

lemma leave_gone (writes : (t.server.connection? client).any Connection.writing = true) :
    Gone client (t.leave client) := by
  unfold leave
  rw [if_pos writes]
  cases found : t.server.connection? client with
  | none =>
    rw [found] at writes
    cases writes
  | some k =>
    refine ⟨{ k with writing := false, listed := false }, ?_, rfl⟩
    show (t.server.update client _).connection? client = _
    rw [connection?_update, if_pos rfl, found]
    · rfl
    · exact fun _ => rfl

/-- A client begins to depart with the turn of its writer that takes it off the list. -/
lemma departs_turn (turn : Turn) (departs : Departs client (t.turn turn)) :
    Departs client t ∨ Gone client (t.turn turn) := by
  unfold Departs at departs
  rw [turn_queue, turn_leaving] at departs
  cases turn with
  | leave other =>
    obtain leaves | queued := departs
    · obtain before | now := List.mem_append.mp leaves
      · exact .inl (.inl before)
      · split at now
        · rename_i writes
          cases List.mem_singleton.mp now
          exact .inr (leave_gone writes)
        · cases now
    · exact .inl (.inr queued)
  | report other =>
    obtain leaves | queued := departs
    · exact .inl (.inl (List.mem_of_mem_erase leaves))
    · obtain before | now := List.mem_append.mp queued
      · exact .inl (.inr before)
      · split at now
        · rename_i leaves
          cases List.mem_singleton.mp now
          exact .inl (.inl leaves)
        · cases now
  | submit other =>
    refine .inl (departs.imp_right fun queued => ?_)
    obtain before | now := List.mem_append.mp queued
    · exact before
    · obtain ⟨_, -, no⟩ := Option.map_eq_some_iff.mp (Option.mem_toList.mp now)
      cases no
  | handle host => exact .inl (departs.imp_right List.mem_of_mem_tail)
  | _ => exact .inl departs

/-- Along a run, a client that departs is off the list. -/
lemma gone_of_departs {turns : List Turn}
    (departs : Departs client (after limiter lifecycle authorization turns)) :
    Gone client (after limiter lifecycle authorization turns) := by
  induction turns using List.reverseRecOn with
  | nil => obtain no | no := departs <;> cases no
  | append_singleton turns turn ih =>
    rw [after_concat] at departs ⊢
    obtain before | now := departs_turn turn departs
    · exact (ih before).turn turn
    · exact now

/-! ## Nobody speaks for a client that has gone -/

/-- The client has gone, and all its sessions count as stopped. -/
structure Silent (client : ClientId) (t : Tasks) : Prop where
  gone : Gone client t
  stopped : ∀ id e, t.server.daemon.sessions.get? id = some e → e.compositor = client →
    e.state = .stopped

/-- An entry of a client that has gone was there before, as it is. -/
lemma Silent.entry (silent : Silent client t) (turn : Turn)
    (now : (t.turn turn).server.daemon.sessions.get? id = some e) (own : e.compositor = client) :
    t.server.daemon.sessions.get? id = some e := by
  obtain same | ⟨host, h, listed, done⟩ := turn_daemon t turn
  · rw [same] at now
    exact now
  · -- a command of the client would have to be one of a client on the list
    have unheard : ∀ info command, h = .command info command → info.clientId ≠ client := by
      rintro info command rfl named
      have found := listed info command rfl
      rw [named, silent.gone.client?] at found
      cases found
    rw [done] at now
    have now : (t.server.daemon.happen host h).sessions.get? id = some e := now
    cases Daemon.entry_of_happen now with
    | kept same => exact same
    | announced announced =>
      obtain ⟨info, rfl, -, owner⟩ := Daemon.Happening.mem_announces.mp announced
      exact absurd (owner.trans own) (unheard _ _ rfl)
    | reported _ owner _ _ => exact absurd (owner.symm.trans own) (unheard _ _ rfl)
    | @orphaned e before =>
      have stopped := silent.stopped id e before own
      rw [before, ← stopped]

lemma Silent.turn (silent : Silent client t) (turn : Turn) : Silent client (t.turn turn) where
  gone := silent.gone.turn turn
  stopped id e now own := silent.stopped id e (silent.entry turn now own) own

lemma Silent.run (silent : Silent client t) (turns : List Turn) : Silent client (t.run turns) := by
  induction turns generalizing t with
  | nil => exact silent
  | cons turn turns ih => exact ih (silent.turn turn)

/-- When its departure is handled, a client falls silent. -/
lemma silent_of_handled {queue : List Message} (host : Host) (gone : Gone client t)
    (next : t.server.queue = .disconnected client :: queue) :
    Silent client (t.turn (.handle host)) where
  gone := gone.turn (.handle host)
  stopped id e now own := by
    have orphaned : (t.server.daemon.sessions.orphan client).get? id = some e := by
      have now : (t.server.handleNext host).daemon.sessions.get? id = some e := now
      unfold handleNext at now
      rw [next] at now
      exact now
    rw [SessionTable.get?_orphan] at orphaned
    obtain ⟨before, -, rfl⟩ := Option.map_eq_some_iff.mp orphaned
    split at own
    · rw [if_pos ‹_›]
    · rename_i other
      exact absurd own other

/-- Once the daemon has handled the departure of a client, all its sessions count as stopped, and
whatever turn the tasks take next, in any order, an entry that belongs to the client has been there
since before, as it is. -/
theorem silent_after_departure (limiter : RateLimiter ClientId) (lifecycle : LifecyclePolicy)
    (authorization : AuthorizationPolicy) (before : List Turn) (host : Host) (client : ClientId)
    (queue : List Message) (later : List Turn)
    (next : (after limiter lifecycle authorization before).server.queue =
      .disconnected client :: queue) :
    (∀ id e, (after limiter lifecycle authorization (before ++ .handle host ::
        later)).server.daemon.sessions.get? id = some e →
      e.compositor = client → e.state = .stopped) ∧
    ∀ turn id e, (after limiter lifecycle authorization (before ++ .handle host ::
        (later ++ [turn]))).server.daemon.sessions.get? id = some e →
      e.compositor = client →
      (after limiter lifecycle authorization (before ++ .handle host ::
        later)).server.daemon.sessions.get? id = some e := by
  have departs : Departs client (after limiter lifecycle authorization before) := by
    refine .inr ?_
    rw [next]
    exact List.mem_cons_self
  have split : ∀ turns, after limiter lifecycle authorization (before ++ .handle host :: turns) =
      ((after limiter lifecycle authorization before).turn (.handle host)).run turns :=
    fun turns => run_append _ before (.handle host :: turns)
  have silent : Silent client (after limiter lifecycle authorization (before ++ .handle host ::
      later)) := by
    rw [split]
    exact (silent_of_handled host (gone_of_departs departs) next).run later
  refine ⟨silent.stopped, fun turn id e now own => silent.entry turn ?_ own⟩
  rw [split] at now ⊢
  rw [run_append] at now
  exact now

/-- What the compositor of the clock asks for to show its window. -/
def authorizing : Request := ⟨1, apiVersion, .authorizeSession 7⟩

def announcing : Request := ⟨2, apiVersion, .sessionStarting Registry.windowOfClock.id 7⟩

def reporting : Request :=
  ⟨3, apiVersion, .sessionStateChanged Registry.windowOfClock.id .running⟩

/-- The clock starts, and its compositor shows its window. The writer of the compositor ends while a
report that the window runs is still in the hands of the reader. -/
def parting : List Turn :=
  [.connect Daemon.compositorOfClock, .processEvent .willing (.starting ⟨"clock"⟩),
    .take Daemon.compositorOfClock.clientId authorizing.line,
    .submit Daemon.compositorOfClock.clientId, .handle .willing,
    .take Daemon.compositorOfClock.clientId announcing.line,
    .submit Daemon.compositorOfClock.clientId, .handle .willing,
    .take Daemon.compositorOfClock.clientId reporting.line,
    .leave Daemon.compositorOfClock.clientId, .report Daemon.compositorOfClock.clientId]

/-- The report is passed on when the departure has been handled, and changes nothing. -/
theorem silent_at_parting :
    (after (.new 100 (.ofSeconds 1)) .standard .standard parting).server.queue =
      [.disconnected Daemon.compositorOfClock.clientId] ∧
    (after (.new 100 (.ofSeconds 1)) .standard .standard (parting ++ .handle .willing ::
      ([.submit Daemon.compositorOfClock.clientId] ++
        [.handle .willing]))).server.daemon.sessions.get? Registry.windowOfClock.id =
          some ⟨Daemon.compositorOfClock.clientId, 7, .stopped⟩ ∧
    (after (.new 100 (.ofSeconds 1)) .standard .standard (parting ++ .handle .willing ::
      [.submit Daemon.compositorOfClock.clientId])).server.daemon.sessions.get?
        Registry.windowOfClock.id = some ⟨Daemon.compositorOfClock.clientId, 7, .stopped⟩ := by
  have authorizes : Request.parse authorizing.line = some (.ok authorizing) :=
    Request.parse_line (by decide +kernel)
  have announces : Request.parse announcing.line = some (.ok announcing) :=
    Request.parse_line (by decide +kernel)
  have reports : Request.parse reporting.line = some (.ok reporting) :=
    Request.parse_line (by decide +kernel)
  have next : (after (.new 100 (.ofSeconds 1)) .standard .standard parting).server.queue =
      [.disconnected Daemon.compositorOfClock.clientId] := by
    simp only [after, run, parting, List.foldl_cons, List.foldl_nil, turn, take, authorizes,
      announces, reports]
    decide +kernel
  have held : (after (.new 100 (.ofSeconds 1)) .standard .standard (parting ++ .handle .willing ::
      ([.submit Daemon.compositorOfClock.clientId] ++
        [.handle .willing]))).server.daemon.sessions.get? Registry.windowOfClock.id =
          some ⟨Daemon.compositorOfClock.clientId, 7, .stopped⟩ := by
    simp only [after, run, parting, List.cons_append, List.nil_append, List.foldl_cons,
      List.foldl_nil, turn, take, authorizes, announces, reports]
    decide +kernel
  exact ⟨next, held, (silent_after_departure (.new 100 (.ofSeconds 1)) .standard .standard parting
    .willing Daemon.compositorOfClock.clientId [] [.submit Daemon.compositorOfClock.clientId]
    next).2 (.handle .willing) _ _ held rfl⟩

end Tasks

end Server

end AppLifecycle
