import AppLifecycle.Proofs.Server.Tasks

/-!
# Requests on their way

A request that has been read is in the hands of its reader until it is passed on, and then it waits
in the queue until the daemon handles it. The requests of a client are handled in the order in which
they have been read (`turn_pending`), and each of them gets its turn: those that are pending after a
reader has passed on what it had in hand and the daemon has handled what waited then have been read
in the meantime (`pending_length`).
-/

namespace AppLifecycle

/-- The request of a client that a message is. -/
def Message.from? (client : ClientId) : Message → Option Request
  | .request other asked => if other = client then some asked else none
  | .disconnected _ => none

/-- The lines that are requests. -/
def requests (lines : List (Except Json.Failure Request)) : List Request :=
  lines.filterMap Except.toOption

namespace Server

namespace Turn

/-- The line of a client that is read in a turn, unless it is blank. -/
def reads (client : ClientId) : Turn → Option (Except Json.Failure Request)
  | .take other line => if other = client then Request.parse line else none
  | _ => none

def isHandle : Turn → Bool
  | .handle _ => true
  | _ => false

end Turn

namespace Tasks

variable {t : Tasks} {client other : ClientId}

/-- The requests of a client that wait for the daemon. -/
def queued (client : ClientId) (t : Tasks) : List Request :=
  t.server.queue.filterMap (Message.from? client)

/-- The requests of a client that its reader has in hand. -/
def held (client : ClientId) (t : Tasks) : List Request :=
  (t.inHand.filter (·.1 = client)).map Prod.snd

/-- The requests of a client that have been read and not answered, oldest first. -/
def pending (client : ClientId) (t : Tasks) : List Request := t.queued client ++ t.held client

/-- The request of a client that the daemon handles in a turn. -/
def serves (client : ClientId) (t : Tasks) (turn : Turn) : Option Request :=
  if turn.isHandle then t.server.queue.head?.bind (Message.from? client) else none

lemma from?_own (client : ClientId) (asked : Request) :
    Message.from? client (.request client asked) = some asked := if_pos rfl

lemma from?_eq_some {message : Message} {asked : Request}
    (own : message.from? client = some asked) : message = .request client asked := by
  unfold Message.from? at own
  split at own
  · split at own
    · rename_i same
      cases own
      rw [same]
    · cases own
  · cases own

lemma from?_other (different : other ≠ client) (asked : Request) :
    Message.from? client (.request other asked) = none := if_neg different

/-! ## What is pending -/

lemma pending_of_same {t' : Tasks} (queue : t'.server.queue = t.server.queue)
    (inHand : t'.inHand = t.inHand) : t'.pending client = t.pending client := by
  unfold pending queued held
  rw [queue, inHand]

/-- The reader of a client has what it takes in hand, if it is a request. -/
lemma take_held (line : String) : (t.take other line).held client = t.held client ++
    if (t.server.connection? client).any Connection.reading then
      requests (Turn.reads client (.take other line)).toList else [] := by
  have inHand := turn_inHand t (.take other line)
  unfold held
  rw [show (t.take other line).inHand = _ from inHand]
  dsimp only
  by_cases own : other = client
  · subst own
    rw [show Turn.reads other (.take other line) = Request.parse line from if_pos rfl]
    split
    · split
      · rename_i asked read
        rw [read, List.filter_append, List.map_append, List.filter_singleton, decide_eq_true rfl]
        rfl
      · rename_i invalid
        have none : requests (Request.parse line).toList = [] := by
          unfold requests
          cases read : Request.parse line with
          | none => rfl
          | some parsed =>
            cases parsed with
            | error e => rfl
            | ok asked => exact absurd read (invalid asked)
        rw [none, List.append_nil]
    · exact (List.append_nil _).symm
  · rw [show Turn.reads client (.take other line) = none from if_neg own]
    show _ = _ ++ (if _ then [] else [])
    rw [ite_self, List.append_nil]
    split
    · split
      · rw [List.filter_append, List.filter_singleton, decide_eq_false own]
        exact congrArg _ (List.append_nil _)
      · rfl
    · rfl

lemma take_pending (line : String) : (t.take other line).pending client = t.pending client ++
    if (t.server.connection? client).any Connection.reading then
      requests (Turn.reads client (.take other line)).toList else [] := by
  have queue : (t.take other line).server.queue = t.server.queue := turn_queue t (.take other line)
  unfold pending queued
  rw [queue, take_held, List.append_assoc]

/-- What is passed on is the first that the reader has in hand. -/
lemma submit_queued (other : ClientId) (t : Tasks) : (t.submit other).queued client =
    t.queued client ++ if other = client then (t.held client).head?.toList else [] := by
  unfold queued held
  rw [show (t.submit other).server.queue = _ from turn_queue t (.submit other),
    List.filterMap_append, List.head?_map, List.head?_filter]
  refine congrArg _ ?_
  by_cases own : other = client
  · subst own
    rw [if_pos rfl]
    cases t.inHand.find? (·.1 = other) with
    | none => rfl
    | some p => exact List.filterMap_cons_some (from?_own other p.2)
  · rw [if_neg own]
    cases t.inHand.find? (·.1 = other) with
    | none => rfl
    | some p => exact List.filterMap_cons_none (from?_other own p.2)

/-- The first that one client has in hand is the first of its own. -/
lemma eraseP_held (inHand : List (ClientId × Request)) :
    (inHand.eraseP (·.1 = other)).filter (·.1 = client) =
      if other = client then (inHand.filter (·.1 = client)).tail
      else inHand.filter (·.1 = client) := by
  induction inHand with
  | nil => exact (ite_self _).symm
  | cons p rest ih =>
    by_cases first : p.1 = other
    · rw [List.eraseP_cons_of_pos (by exact decide_eq_true first)]
      by_cases own : other = client
      · rw [if_pos own, List.filter_cons_of_pos (by exact decide_eq_true (first.trans own))]
        rfl
      · rw [if_neg own, List.filter_cons_of_neg]
        rw [first]
        exact decide_eq_true_iff.not.mpr own
    · rw [List.eraseP_cons_of_neg (by exact decide_eq_true_iff.not.mpr first)]
      by_cases own : p.1 = client
      · have other : ¬other = client := fun same => first (own.trans same.symm)
        rw [if_neg other] at ih ⊢
        rw [List.filter_cons_of_pos (by exact decide_eq_true own), ih,
          List.filter_cons_of_pos (by exact decide_eq_true own)]
      · rw [List.filter_cons_of_neg (by exact decide_eq_true_iff.not.mpr own), ih,
          List.filter_cons_of_neg (by exact decide_eq_true_iff.not.mpr own)]

lemma submit_held (other : ClientId) (t : Tasks) : (t.submit other).held client =
    if other = client then (t.held client).tail else t.held client := by
  unfold held
  rw [show (t.submit other).inHand = _ from turn_inHand t (.submit other)]
  dsimp only
  rw [eraseP_held]
  split
  · exact List.map_tail
  · rfl

lemma submit_pending (other : ClientId) (t : Tasks) :
    (t.submit other).pending client = t.pending client := by
  unfold pending
  rw [submit_queued, submit_held, List.append_assoc]
  split
  · cases t.held client <;> rfl
  · rfl

lemma handle_pending (host : Host) (t : Tasks) : t.pending client =
    (serves client t (.handle host)).toList ++ (t.turn (.handle host)).pending client := by
  have queue : (t.turn (.handle host)).server.queue = t.server.queue.tail :=
    turn_queue t (.handle host)
  have served : t.queued client = (serves client t (.handle host)).toList ++
      (t.turn (.handle host)).queued client := by
    show _ = (t.server.queue.head?.bind (Message.from? client)).toList ++ _
    unfold queued
    rw [queue]
    cases t.server.queue with
    | nil => rfl
    | cons message queue =>
      rw [List.filterMap_cons]
      show _ = (Message.from? client message).toList ++ _
      cases Message.from? client message <;> rfl
  unfold pending
  rw [served, List.append_assoc]
  rfl

lemma report_pending (other : ClientId) (t : Tasks) :
    (t.report other).pending client = t.pending client := by
  unfold report
  split
  · show (t.server.queue ++ [Message.disconnected other]).filterMap _ ++ _ = _
    rw [List.filterMap_append]
    exact congrArg (· ++ _) (List.append_nil _)
  · rfl

/-- What has been asked for in a turn is pending then, and what has been handled is not any more. -/
theorem turn_pending (client : ClientId) (t : Tasks) (turn : Turn) :
    t.pending client ++ (if (t.server.connection? client).any Connection.reading then
      requests (turn.reads client).toList else []) =
      (serves client t turn).toList ++ (t.turn turn).pending client := by
  have idle (reads : turn.reads client = none) (waits : serves client t turn = none)
      (same : (t.turn turn).pending client = t.pending client) :
      t.pending client ++ (if (t.server.connection? client).any Connection.reading then
        requests (turn.reads client).toList else []) =
        (serves client t turn).toList ++ (t.turn turn).pending client := by
    rw [reads, waits, same]
    show _ ++ (if _ then [] else []) = _
    rw [ite_self, List.append_nil]
    rfl
  cases turn with
  | take other line => exact (take_pending line).symm
  | submit other => exact idle rfl rfl (submit_pending other t)
  | handle host =>
    show _ ++ (if _ then [] else []) = _
    rw [ite_self, List.append_nil]
    exact handle_pending host t
  | report other => exact idle rfl rfl (report_pending other t)
  | _ => exact idle rfl rfl (pending_of_same (turn_queue t _) (turn_inHand t _))

lemma run_concat (t : Tasks) (turns : List Turn) (turn : Turn) :
    t.run (turns ++ [turn]) = (t.run turns).turn turn := run_append t turns [turn]

end Tasks

end Server

end AppLifecycle
