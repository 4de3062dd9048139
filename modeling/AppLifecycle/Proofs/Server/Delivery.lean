import AppLifecycle.Proofs.Server.Subscriptions

/-!
# A writer amid its work

The writer of a connection takes a broadcast, looks whether its client wants it, and sends it, and
others take their turns in between. `Delivery` is a server with the writer of one client amid its
work. What such a writer does in three moves is one turn otherwise (`connection?_moves`), and nobody
else sends its client anything or moves it on (`turn_rests`).
-/

namespace AppLifecycle

namespace Server

/-! ## A writer amid its work -/

/-- What a writer has in hand. -/
inductive Hand where
  | empty
  /-- A broadcast that it has taken. -/
  | taken (payload : EventPayload)
  /-- A broadcast that its client wants. -/
  | due (payload : EventPayload)
deriving DecidableEq

namespace Hand

def payload? : Hand → Option EventPayload
  | .empty => none
  | .taken payload => some payload
  | .due payload => some payload

/-- What is in hand after a broadcast has been looked for. -/
def ofFound : Option EventPayload → Hand
  | none => .empty
  | some payload => .taken payload

end Hand

/-- A server, and what the writer of some client has in hand. -/
structure Delivery where
  tasks : Tasks
  hand : Hand

inductive Move where
  /-- Another task takes a turn, or the writer sends what waits in the outbox. -/
  | turn (turn : Turn)
  | broadcast (payload : EventPayload)
  /-- The writer takes the next broadcast. -/
  | fetch
  /-- The writer looks whether its client wants what it has taken. -/
  | look
  /-- The writer sends what its client wants. -/
  | pass

/-- The turn is one of the writer that cannot be taken now. -/
def Turn.clashes (client : ClientId) (hand : Hand) : Turn → Bool
  | .relay other => other = client
  | .write other => other = client && hand ≠ .empty
  | _ => false

/-- What becomes of a connection when its writer comes for a broadcast. -/
def fetched (broadcasts : List EventPayload) (k : Connection) : Connection :=
  if k.writing then
    if k.seen + backlog < broadcasts.length then { k with seen := broadcasts.length - backlog }
    else if broadcasts[k.seen]?.isSome then { k with seen := k.seen + 1 } else k
  else k

/-- The broadcast that the writer of a connection finds. -/
def found? (broadcasts : List EventPayload) (k : Connection) : Option EventPayload :=
  if k.writing ∧ ¬k.seen + backlog < broadcasts.length then broadcasts[k.seen]? else none

/-- What becomes of a connection when its writer sends an event. -/
def passed (payload : EventPayload) (k : Connection) : Connection :=
  if k.writing then { k with sent := k.sent ++ [.event payload] } else k

namespace Delivery

open Tasks

def connection? (client : ClientId) (d : Delivery) : Option Connection :=
  d.tasks.server.connection? client

def broadcasts (d : Delivery) : List EventPayload := d.tasks.server.broadcasts

def move (client : ClientId) (d : Delivery) : Move → Delivery
  | .turn turn => if turn.clashes client d.hand then d else { d with tasks := d.tasks.turn turn }
  | .broadcast payload => { d with tasks := d.tasks.onServer (Server.broadcast payload) }
  | .fetch =>
    match d.hand with
    | .empty =>
      { tasks := d.tasks.onServer (update client (fetched d.broadcasts))
        hand := .ofFound ((d.connection? client).bind (found? d.broadcasts)) }
    | _ => d
  | .look =>
    match d.hand with
    | .taken payload =>
      let wanted := (d.connection? client).any fun k => k.listed && k.subscribed
      { d with hand := if wanted then .due payload else .empty }
    | _ => d
  | .pass =>
    match d.hand with
    | .due payload => ⟨d.tasks.onServer (update client (passed payload)), .empty⟩
    | _ => d

def run (client : ClientId) (d : Delivery) (moves : List Move) : Delivery :=
  moves.foldl (move client) d

/-- A server that has just started. -/
def start (limiter : RateLimiter ClientId) (lifecycle : LifecyclePolicy)
    (authorization : AuthorizationPolicy) : Delivery :=
  ⟨settled (.start limiter (.start lifecycle authorization)), .empty⟩

variable {client other : ClientId} {d : Delivery} {k : Connection} {s : Server} {t : Tasks}
variable {turn : Turn} {payload : EventPayload}

lemma fetched_info (broadcasts : List EventPayload) (k : Connection) :
    (fetched broadcasts k).info = k.info := by
  unfold fetched
  split_ifs <;> rfl

lemma passed_info (payload : EventPayload) (k : Connection) :
    (passed payload k).info = k.info := by
  unfold passed
  split_ifs <;> rfl

lemma relayed_info (broadcasts : List EventPayload) (k : Connection) :
    (relayed broadcasts k).info = k.info := by
  obtain ⟨seen, payloads, same⟩ := relayed_eq broadcasts k
  rw [same]

/-- A writer that finds nothing has come in vain, or has missed something. -/
lemma relayed_of_found?_none {broadcasts : List EventPayload}
    (nothing : found? broadcasts k = none) : relayed broadcasts k = fetched broadcasts k := by
  unfold found? at nothing
  unfold relayed fetched
  by_cases writes : k.writing = true
  · by_cases behind : k.seen + backlog < broadcasts.length
    · rw [if_pos writes, if_pos writes, if_pos behind, if_pos behind]
    · rw [if_pos ⟨writes, behind⟩] at nothing
      rw [if_pos writes, if_pos writes, if_neg behind, if_neg behind, nothing]
      rfl
  · rw [if_neg writes, if_neg writes]

lemma found?_eq_some {broadcasts : List EventPayload}
    (found : found? broadcasts k = some payload) :
    k.writing = true ∧ ¬k.seen + backlog < broadcasts.length ∧
      broadcasts[k.seen]? = some payload ∧ fetched broadcasts k = { k with seen := k.seen + 1 } := by
  unfold found? at found
  split_ifs at found with ready
  unfold fetched
  rw [if_pos ready.1, if_neg ready.2, found, Option.isSome_some, if_pos rfl]
  exact ⟨ready.1, ready.2, rfl, rfl⟩

/-- A writer that finds something sends it if its client wants it. -/
lemma relayed_of_found?_some {broadcasts : List EventPayload}
    (found : found? broadcasts k = some payload) :
    relayed broadcasts k =
      if k.listed && k.subscribed then passed payload (fetched broadcasts k)
      else fetched broadcasts k := by
  obtain ⟨writes, kept, here, next⟩ := found?_eq_some found
  rw [next]
  unfold relayed passed
  rw [if_pos writes, if_neg kept, here]
  dsimp only
  rw [if_pos writes]
  by_cases wanted : k.listed = true ∧ k.subscribed = true
  · rw [if_pos wanted, if_pos (Bool.and_eq_true_iff.mpr wanted)]
  · rw [if_neg wanted, if_neg (Bool.and_eq_true_iff.not.mpr wanted)]

/-- A writer that finds nothing keeps an empty hand. -/
lemma run_of_nothing
    (nothing : (t.server.connection? client).bind (found? t.server.broadcasts) = none) :
    (Delivery.mk t .empty).run client [.fetch, .look, .pass] =
      ⟨t.onServer (update client (fetched t.server.broadcasts)), .empty⟩ := by
  simp only [run, List.foldl, Delivery.move, connection?, broadcasts, nothing, Hand.ofFound]

/-- A writer that finds something looks at its client after it has taken it. -/
lemma run_of_found (here : t.server.connection? client = some k)
    (found : found? t.server.broadcasts k = some payload) :
    (Delivery.mk t .empty).run client [.fetch, .look, .pass] =
      if k.listed && k.subscribed then
        ⟨t.onServer fun s => (s.update client (fetched s.broadcasts)).update client
          (passed payload), .empty⟩
      else ⟨t.onServer fun s => s.update client (fetched s.broadcasts), .empty⟩ := by
  obtain ⟨-, -, -, next⟩ := found?_eq_some found
  have took : (t.server.update client (fetched t.server.broadcasts)).connection? client =
      some { k with seen := k.seen + 1 } := by
    rw [connection?_update t.server client client (fetched_info t.server.broadcasts), if_pos rfl,
      here, Option.map_some, next]
  simp only [run, List.foldl, Delivery.move, connection?, broadcasts, here, Option.bind_some, found,
    Hand.ofFound, onServer, took, Option.any_some]
  split_ifs <;> rfl

/-- What a writer does in three moves without being interrupted it does in one turn. -/
theorem connection?_moves (idle : d.hand = .empty) (other : ClientId) :
    (d.run client [.fetch, .look, .pass]).connection? other =
      (d.tasks.turn (.relay client)).server.connection? other ∧
    (d.run client [.fetch, .look, .pass]).hand = .empty := by
  obtain ⟨t, hand⟩ := d
  obtain rfl : hand = .empty := idle
  have relay : (t.turn (.relay client)).server.connection? other =
      if other = client then (t.server.connection? other).map (relayed t.server.broadcasts)
      else t.server.connection? other :=
    connection?_update t.server other client (relayed_info t.server.broadcasts)
  have fetch := connection?_update t.server (f := fetched t.server.broadcasts) other client
    (fetched_info t.server.broadcasts)
  cases found : (t.server.connection? client).bind (found? t.server.broadcasts) with
  | none =>
    rw [run_of_nothing found, relay]
    refine ⟨fetch.trans ?_, rfl⟩
    split_ifs with own
    · refine Option.map_congr fun k mem => ?_
      rw [own] at mem
      have nothing := Option.bind_eq_none_iff.mp found k mem
      exact (relayed_of_found?_none nothing).symm
    · rfl
  | some payload =>
    obtain ⟨k, here, news⟩ := Option.bind_eq_some_iff.mp found
    have relays := relayed_of_found?_some news
    rw [run_of_found here news, relay]
    split_ifs at relays fetch ⊢ with wanted own own
    · refine ⟨(connection?_update _ other client (passed_info payload)).trans ?_, rfl⟩
      rw [if_pos own, fetch, own, here]
      exact congrArg some relays.symm
    · refine ⟨(connection?_update _ other client (passed_info payload)).trans ?_, rfl⟩
      rw [if_neg own, fetch]
    · refine ⟨fetch.trans ?_, rfl⟩
      rw [own, here]
      exact congrArg some relays.symm
    · exact ⟨fetch, rfl⟩

/-! ## What others leave alone -/

/-- The writer of a client has not got any further. -/
def Rests (client : ClientId) (k : Connection) (s : Server) : Prop :=
  ∃ k', s.connection? client = some k' ∧ k'.seen = k.seen ∧ k'.sent = k.sent

lemma Rests.of_same (same : s.connection? client = some k) : Rests client k s :=
  ⟨k, same, rfl, rfl⟩

lemma Rests.of_update {f : Connection → Connection}
    (found : t.server.connection? client = some k)
    (same : s.connections = (t.server.update other f).connections)
    (named : ∀ k, (f k).info = k.info) (seen : ∀ k, (f k).seen = k.seen)
    (sent : ∀ k, (f k).sent = k.sent) : Rests client k s := by
  have changed := connection?_of_update found same named
  split at changed
  · exact ⟨f k, changed, seen k, sent k⟩
  · exact .of_same changed

/-- A change of the connection of another client. -/
lemma Rests.of_other {f : Connection → Connection} (found : t.server.connection? client = some k)
    (same : s.connections = (t.server.update other f).connections)
    (named : ∀ k, (f k).info = k.info) (different : client ≠ other) : Rests client k s := by
  have changed := connection?_of_update found same named
  rw [if_neg different] at changed
  exact .of_same changed

/-- Nobody but the writer of a client sends it anything, or looks at broadcasts for it. -/
theorem turn_rests (found : t.server.connection? client = some k)
    (relays : turn ≠ .relay client) (writes : turn ≠ .write client) :
    Rests client k (t.turn turn).server := by
  cases turn with
  | connect info => exact .of_same (connection?_connect t.server info found)
  | take other line =>
    show Rests client k (t.take other line).server
    unfold Tasks.take note
    split
    · split
      · exact .of_same found
      · refine .of_update found rfl (fun k => ?_) (fun k => ?_) (fun k => ?_) <;> split <;> rfl
      · refine .of_update found rfl (fun k => ?_) (fun k => ?_) (fun k => ?_) <;> split <;> rfl
    · exact .of_same found
  | keep other bytes => exact .of_update found rfl (fun _ => rfl) (fun _ => rfl) (fun _ => rfl)
  | submit other =>
    refine .of_same ?_
    show (t.submit other).server.connection? client = _
    unfold submit
    split <;> exact found
  | endReading other => exact .of_update found rfl (fun _ => rfl) (fun _ => rfl) (fun _ => rfl)
  | leave other =>
    show Rests client k (t.leave other).server
    unfold leave
    split
    · exact .of_update found rfl (fun _ => rfl) (fun _ => rfl) (fun _ => rfl)
    · exact .of_same found
  | report other =>
    refine .of_same ?_
    show (t.report other).server.connection? client = _
    unfold report
    split <;> exact found
  | handle host =>
    show Rests client k (t.server.handleNext host)
    unfold handleNext
    split
    · exact .of_same found
    · rename_i message queue _
      obtain same | ⟨receiver, request, line, -, sent⟩ :=
        connections_handle host message { t.server with queue }
      · refine .of_same ?_
        unfold Server.connection? at found ⊢
        rw [same]
        exact found
      · refine .of_update found sent (fun k => ?_) (fun k => ?_) (fun k => ?_) <;> split <;> rfl
  | publish =>
    refine .of_same ?_
    show t.server.publishNext.connection? client = _
    unfold publishNext
    split <;> exact found
  | forward =>
    show Rests client k t.server.forwardNext
    unfold forwardNext
    split
    · exact .of_same found
    · refine .of_update found rfl (fun k => ?_) (fun k => ?_) (fun k => ?_) <;> split <;> rfl
  | write other =>
    refine .of_other found rfl (fun k => ?_) fun own => writes (own ▸ rfl)
    split <;> rfl
  | relay other =>
    refine .of_other found (congrArg Server.connections (relayNext_eq other t.server))
      (relayed_info t.server.broadcasts) fun own => relays (own ▸ rfl)
  | _ => exact .of_same found

lemma handle_broadcasts (host : Host) (message : Message) (s : Server) :
    (s.handle host message).broadcasts = s.broadcasts := by
  unfold handle
  cases message with
  | disconnected client => rfl
  | request client request =>
    dsimp only
    split
    · split <;> rfl
    · rfl

/-- What has been broadcast stays. -/
lemma turn_broadcasts (t : Tasks) (turn : Turn) :
    t.server.broadcasts <+: (t.turn turn).server.broadcasts := by
  have same {s : Server} (kept : s.broadcasts = t.server.broadcasts) :
      t.server.broadcasts <+: s.broadcasts := by
    rw [kept]
  cases turn with
  | take other line =>
    refine same ?_
    show (t.take other line).server.broadcasts = _
    unfold Tasks.take note
    split
    · split <;> rfl
    · rfl
  | submit other =>
    refine same ?_
    show (t.submit other).server.broadcasts = _
    unfold submit
    split <;> rfl
  | leave other =>
    refine same ?_
    show (t.leave other).server.broadcasts = _
    unfold leave
    split <;> rfl
  | report other =>
    refine same ?_
    show (t.report other).server.broadcasts = _
    unfold report
    split <;> rfl
  | handle host =>
    refine same ?_
    show (t.server.handleNext host).broadcasts = _
    unfold handleNext
    split
    · rfl
    · exact handle_broadcasts host _ _
  | publish =>
    show _ <+: t.server.publishNext.broadcasts
    unfold publishNext
    split
    · exact List.prefix_refl _
    · exact List.prefix_append _ _
  | forward =>
    refine same ?_
    show t.server.forwardNext.broadcasts = _
    unfold forwardNext
    split <;> rfl
  | _ => exact same rfl

end Delivery

end Server

end AppLifecycle
