import AppLifecycle.Proofs.Server.Delivery

/-!
# Broadcasts told and missed

A writer deals with the broadcasts one after the other, by their positions (`Course`): it tells its
client of one, or it finds that it has fallen behind, and misses all those that are not kept any
more. So what a client is told as long as it is subscribed is in order, and it is a block of the
broadcasts exactly if nothing is missed between two of its events (`Deed.told_row_iff`).
-/

namespace AppLifecycle

/-! ## Rows of numbers -/

/-- Numbers that increase and leave none out are in a row. -/
lemma eq_range'_of_gapless {l : List Nat} (increasing : l.Pairwise (· < ·))
    (gapless : ∀ a ∈ l, ∀ b ∈ l, ∀ i, a ≤ i → i ≤ b → i ∈ l) :
    ∃ first, l = List.range' first l.length := by
  induction l with
  | nil => exact ⟨0, rfl⟩
  | cons a l ih =>
    obtain ⟨least, increasing⟩ := List.pairwise_cons.mp increasing
    have others : ∀ b ∈ l, ∀ c ∈ l, ∀ i, b ≤ i → i ≤ c → i ∈ l := by
      intro b hb c hc i above below
      have mem := gapless b (List.mem_cons_of_mem a hb) c (List.mem_cons_of_mem a hc) i above below
      exact (List.mem_cons.mp mem).resolve_left (Nat.ne_of_gt ((least b hb).trans_le above))
    obtain ⟨first, row⟩ := ih increasing others
    cases l with
    | nil => exact ⟨a, rfl⟩
    | cons b l =>
      -- the number after the first one is not left out, and is the least of the others
      obtain rfl : b = first := by
        rw [List.length_cons, List.range'_succ] at row
        exact (List.cons.inj row).1
      have after : a < b := least b List.mem_cons_self
      have next : a + 1 = b := by
        by_contra other
        have mem := gapless a List.mem_cons_self b (List.mem_cons_of_mem a List.mem_cons_self)
          (a + 1) (Nat.le_succ a) after
        have mem := (List.mem_cons.mp mem).resolve_left (Nat.succ_ne_self a)
        rw [row, List.mem_range'_1] at mem
        omega
      refine ⟨a, ?_⟩
      rw [List.length_cons, List.range'_succ, next, ← row]

/-- What stands at positions in a row is a block. -/
lemma infix_of_range' {α : Type} {l block : List α} {first : Nat}
    (row : block.map some = (List.range' first block.length).map (l[·]?)) :
    block <:+: l := by
  have same : block = (l.drop first).take block.length := by
    induction block generalizing first with
    | nil => rfl
    | cons a block ih =>
      rw [List.map_cons, List.length_cons, List.range'_succ, List.map_cons] at row
      obtain ⟨here, rest⟩ := List.cons.inj row
      rw [List.drop_eq_getElem?_toList_append, ← here, Option.toList_some, List.singleton_append,
        List.length_cons, List.take_succ_cons, ← ih rest]
  rw [same]
  exact (List.take_prefix _ _).isInfix.trans (List.drop_suffix _ _).isInfix

namespace Server

/-- What a writer does. -/
inductive Deed where
  /-- It sends something from the outbox. -/
  | posted (line : Outgoing)
  /-- It sends a broadcast. -/
  | told (position : Nat) (payload : EventPayload)
  /-- It misses a broadcast. -/
  | missed (position : Nat)
deriving DecidableEq

namespace Deed

/-- What is sent. -/
def sent? : Deed → Option Outgoing
  | .posted line => some line
  | .told _ payload => some (.event payload)
  | .missed _ => none

/-- The position of the broadcast that is dealt with. -/
def position? : Deed → Option Nat
  | .posted _ => none
  | .told i _ => some i
  | .missed i => some i

/-- The position of a broadcast that is sent. -/
def told? : Deed → Option Nat
  | .told i _ => some i
  | _ => none

/-- The broadcast that is sent. -/
def payload? : Deed → Option EventPayload
  | .told _ payload => some payload
  | _ => none

/-- The position of a broadcast that is missed. -/
def missed? : Deed → Option Nat
  | .missed i => some i
  | _ => none

end Deed

namespace Delivery

open Tasks

variable {client : ClientId} {d d' d'' : Delivery} {k : Connection} {s : Server}
variable {moves : List Move}

/-! ## The course of a writer -/

/-- The client is connected and subscribed. -/
def attended (client : ClientId) (d : Delivery) : Bool :=
  d.tasks.isConnected client && d.tasks.isSubscribed client

/-- The client is connected and subscribed all the time. -/
def attends (client : ClientId) (d : Delivery) : List Move → Bool
  | [] => d.attended client
  | move :: moves => d.attended client && attends client (d.move client move) moves

/-- The position of the first broadcast that the writer has not dealt with. -/
def next (client : ClientId) (d : Delivery) : Nat :=
  ((d.connection? client).map Connection.seen).getD 0 - d.hand.payload?.toList.length

/-- The writer has an empty hand, and the broadcast that comes next is not kept any more. -/
def lags (client : ClientId) (d : Delivery) : Bool :=
  d.hand = .empty && d.next client + backlog < d.broadcasts.length

/-- What the writer does in a move if its client wants all broadcasts. -/
def deeds (client : ClientId) (d : Delivery) : Move → List Deed
  | .turn (.write other) =>
    if other = client ∧ d.hand = .empty then
      ((d.connection? client).bind (·.outbox.head?)).toList.map .posted
    else []
  | .fetch =>
    if d.lags client then
      (List.range' (d.next client) (d.broadcasts.length - backlog - d.next client)).map .missed
    else []
  | .pass =>
    match d.hand with
    | .due payload => [.told (d.next client) payload]
    | _ => []
  | _ => []

/-- What the writer does in a row of moves. -/
def course (client : ClientId) (d : Delivery) : List Move → List Deed
  | [] => []
  | move :: moves => d.deeds client move ++ course client (d.move client move) moves

/-- The writer has in hand what it has looked at last. -/
def Sound (client : ClientId) (d : Delivery) : Prop :=
  ∀ payload, d.hand.payload? = some payload →
    ∃ k, d.connection? client = some k ∧ 0 < k.seen ∧ d.broadcasts[k.seen - 1]? = some payload

/-- From `d` to `d'` a writer has done some deeds: it has sent what they say, and dealt with the
broadcasts one after the other. -/
structure Course (client : ClientId) (d d' : Delivery) (deeds : List Deed) : Prop where
  sent : d'.tasks.sentTo client = d.tasks.sentTo client ++ deeds.filterMap Deed.sent?
  positions : deeds.filterMap Deed.position? =
    List.range' (d.next client) (deeds.filterMap Deed.position?).length
  next : d'.next client = d.next client + (deeds.filterMap Deed.position?).length
  told : ∀ i payload, Deed.told i payload ∈ deeds → d'.broadcasts[i]? = some payload
  grown : d.broadcasts <+: d'.broadcasts

variable {deeds deeds' : List Deed}

namespace Course

lemma idle (sent : d'.tasks.sentTo client = d.tasks.sentTo client)
    (next : d'.next client = d.next client) (grown : d.broadcasts <+: d'.broadcasts) :
    Course client d d' [] where
  sent := sent.trans (List.append_nil _).symm
  positions := rfl
  next := next
  told := nofun
  grown := grown

lemma append (first : Course client d d' deeds) (second : Course client d' d'' deeds') :
    Course client d d'' (deeds ++ deeds') where
  sent := by rw [second.sent, first.sent, List.filterMap_append, List.append_assoc]
  positions := by
    -- the second deeds go on where the first ones have ended
    rw [List.filterMap_append, List.length_append, ← List.range'_append_1, ← first.positions,
      ← first.next, ← second.positions]
  next := by
    rw [second.next, first.next, List.filterMap_append, List.length_append, Nat.add_assoc]
  told := by
    intro i payload mem
    obtain mem | mem := List.mem_append.mp mem
    · obtain ⟨later, grown⟩ := second.grown
      have here := first.told i payload mem
      rw [← grown, List.getElem?_append_left (List.getElem?_eq_some_iff.mp here).1]
      exact here
    · exact second.told i payload mem
  grown := first.grown.trans second.grown

end Course

lemma sentTo_eq (found : d.connection? client = some k) : d.tasks.sentTo client = k.sent := by
  have found : d.tasks.server.connection? client = some k := found
  rw [sentTo, found]
  rfl

lemma next_eq (found : d.connection? client = some k) :
    d.next client = k.seen - d.hand.payload?.toList.length := by
  rw [next, found]
  rfl

/-- A writer that gets no further. -/
lemma Course.of_rests (found : d.connection? client = some k)
    (rests : Rests client k d'.tasks.server) (hand : d'.hand.payload? = d.hand.payload?)
    (grown : d.broadcasts <+: d'.broadcasts) : Course client d d' [] := by
  obtain ⟨k', still, seen, sent⟩ := rests
  have still : d'.connection? client = some k' := still
  refine .idle ?_ ?_ grown
  · rw [sentTo_eq still, sentTo_eq found, sent]
  · rw [next_eq still, next_eq found, seen, hand]

lemma attended_iff_exists : d.attended client = true ↔
    ∃ k, d.connection? client = some k ∧ k.isOpen = true ∧ k.subscribed = true := by
  rw [attended, isConnected, isSubscribed, connection?]
  cases d.tasks.server.connection? client with
  | none => simp
  | some k => simp

/-! ## One move -/

/-- A writer sends the first line of the outbox, if there is one. -/
lemma connection?_writeNext (found : s.connection? client = some k) (writes : k.writing = true) :
    (s.writeNext client).connection? client =
      some { k with outbox := k.outbox.tail, sent := k.sent ++ k.outbox.head?.toList } := by
  have wrote : (s.writeNext client).connection? client = (s.connection? client).map _ :=
    (connection?_update s client client fun k => by split <;> rfl).trans (if_pos rfl)
  rw [wrote, found, Option.map_some]
  obtain ⟨_, _, _, _, writing, _, outbox, _, sent⟩ := k
  obtain rfl : writing = true := writes
  cases outbox with
  | nil => simp
  | cons line outbox => rfl

lemma write_course (found : d.connection? client = some k) (writes : k.writing = true) :
    Course client d { d with tasks := d.tasks.turn (.write client) }
      ((k.outbox.head?).toList.map .posted) := by
  have wrote : ({ d with tasks := d.tasks.turn (.write client) } : Delivery).connection? client =
      some _ := connection?_writeNext found writes
  have sent (l : List Outgoing) : (l.map Deed.posted).filterMap Deed.sent? = l := by
    rw [List.filterMap_map]
    exact List.filterMap_some
  have nothing (l : List Outgoing) : (l.map Deed.posted).filterMap Deed.position? = [] := by
    rw [List.filterMap_map]
    exact List.filterMap_eq_nil_iff.mpr fun _ _ => rfl
  refine ⟨?_, ?_, ?_, fun i payload mem => ?_, List.prefix_refl _⟩
  · rw [sentTo_eq wrote, sentTo_eq found, sent]
  · rw [nothing]
    rfl
  · rw [next_eq wrote, next_eq found, nothing]
    rfl
  · obtain ⟨_, -, other⟩ := List.mem_map.mp mem
    cases other

lemma turn_course (attended : d.attended client = true) (turn : Turn) :
    Course client d (d.move client (.turn turn)) (d.deeds client (.turn turn)) := by
  obtain ⟨k, found, isOpen, -⟩ := attended_iff_exists.mp attended
  have grown := turn_broadcasts d.tasks turn
  by_cases writes : turn = .write client
  · subst writes
    rw [Delivery.deeds]
    by_cases idle : d.hand = .empty
    · have clear : (Turn.write client).clashes client d.hand = false := by simp [Turn.clashes, idle]
      rw [move, clear, if_neg Bool.false_ne_true, if_pos ⟨rfl, idle⟩, found, Option.bind_some]
      exact write_course found (isOpen_iff.mp isOpen).2.2
    · have clash : (Turn.write client).clashes client d.hand = true := by simp [Turn.clashes, idle]
      rw [move, if_pos clash, if_neg fun both => idle both.2]
      exact .idle rfl rfl (List.prefix_refl _)
  · have none : d.deeds client (.turn turn) = [] := by
      cases turn with
      | write other =>
        refine if_neg ?_
        rintro ⟨rfl, -⟩
        exact writes rfl
      | _ => rfl
    rw [none, move]
    split
    · exact .idle rfl rfl (List.prefix_refl _)
    · rename_i clear
      refine .of_rests found (turn_rests found ?_ writes) rfl grown
      rintro rfl
      exact clear (decide_eq_true rfl)

/-- A writer that has fallen behind misses what is not kept. -/
lemma Course.of_missed {n : Nat} (sent : d'.tasks.sentTo client = d.tasks.sentTo client)
    (next : d'.next client = d.next client + n) (grown : d.broadcasts <+: d'.broadcasts) :
    Course client d d' ((List.range' (d.next client) n).map .missed) := by
  have positions (l : List Nat) : (l.map Deed.missed).filterMap Deed.position? = l := by
    rw [List.filterMap_map]
    exact List.filterMap_some
  have nothing (l : List Nat) : (l.map Deed.missed).filterMap Deed.sent? = [] := by
    rw [List.filterMap_map]
    exact List.filterMap_eq_nil_iff.mpr fun _ _ => rfl
  refine ⟨?_, ?_, ?_, fun i payload mem => ?_, grown⟩
  · rw [nothing, sent, List.append_nil]
  · rw [positions, List.length_range']
  · rw [positions, List.length_range', next]
  · obtain ⟨_, -, other⟩ := List.mem_map.mp mem
    cases other

/-- A writer with an empty hand comes for the next broadcast. -/
lemma fetch_found (idle : d.hand = .empty) (found : d.connection? client = some k) :
    (d.move client .fetch).connection? client = some (fetched d.broadcasts k) ∧
      (d.move client .fetch).hand = .ofFound (found? d.broadcasts k) := by
  obtain ⟨t, hand⟩ := d
  obtain rfl : hand = .empty := idle
  have found' : t.server.connection? client = some k := found
  have took := connection?_update t.server client client (fetched_info t.server.broadcasts)
  rw [if_pos rfl, found', Option.map_some] at took
  refine ⟨took, ?_⟩
  rw [move]
  dsimp only
  rw [found, Option.bind_some]

lemma fetch_course (attended : d.attended client = true) :
    Course client d (d.move client .fetch) (d.deeds client .fetch) := by
  obtain ⟨k, found, isOpen, -⟩ := attended_iff_exists.mp attended
  obtain ⟨-, -, writes⟩ := isOpen_iff.mp isOpen
  obtain ⟨t, hand⟩ := d
  cases hand with
  | empty =>
    obtain ⟨took, hand⟩ := fetch_found rfl found
    have next : (Delivery.mk t .empty).next client = k.seen := next_eq found
    rw [Delivery.deeds, Delivery.lags, next]
    by_cases behind : k.seen + backlog < (Delivery.mk t .empty).broadcasts.length
    · have missed : found? (Delivery.mk t .empty).broadcasts k = none :=
        if_neg fun ready => ready.2 behind
      rw [fetched, if_pos writes, if_pos behind] at took
      rw [missed] at hand
      rw [if_pos (by simp [behind]), ← next]
      refine .of_missed ?_ ?_ (List.prefix_refl _)
      · rw [sentTo_eq took, sentTo_eq found]
      · rw [next_eq took, hand, next]
        have less : k.seen ≤ (Delivery.mk t .empty).broadcasts.length - backlog :=
          Nat.le_sub_of_add_le behind.le
        exact (Nat.sub_zero _).trans (Nat.add_sub_of_le less).symm
    · rw [if_neg (by simp [behind])]
      cases news : found? (Delivery.mk t .empty).broadcasts k with
      | none =>
        -- nothing has been broadcast since
        have none : (Delivery.mk t .empty).broadcasts[k.seen]? = none :=
          (if_pos ⟨writes, behind⟩).symm.trans news
        rw [fetched, if_pos writes, if_neg behind, none] at took
        rw [news] at hand
        refine .idle ?_ ?_ (List.prefix_refl _)
        · rw [sentTo_eq took, sentTo_eq found]
          rfl
        · rw [next_eq took, hand, next]
          rfl
      | some payload =>
        obtain ⟨-, -, -, taken⟩ := found?_eq_some news
        rw [taken] at took
        rw [news] at hand
        refine .idle ?_ ?_ (List.prefix_refl _)
        · rw [sentTo_eq took, sentTo_eq found]
        · rw [next_eq took, hand, next]
          rfl
  | taken _ => exact .idle rfl rfl (List.prefix_refl _)
  | due _ => exact .idle rfl rfl (List.prefix_refl _)

/-- A client that is subscribed wants everything. -/
lemma look_course (attended : d.attended client = true) :
    Course client d (d.move client .look) (d.deeds client .look) := by
  obtain ⟨k, found, isOpen, subscribed⟩ := attended_iff_exists.mp attended
  obtain ⟨-, listed, -⟩ := isOpen_iff.mp isOpen
  obtain ⟨t, hand⟩ := d
  cases hand with
  | taken payload =>
    have wanted : (Delivery.mk t (.taken payload)).move client .look = ⟨t, .due payload⟩ := by
      rw [move]
      dsimp only
      rw [found, Option.any_some, listed, subscribed]
      rfl
    rw [wanted]
    exact .of_rests found (.of_same found) rfl (List.prefix_refl _)
  | empty => exact .idle rfl rfl (List.prefix_refl _)
  | due _ => exact .idle rfl rfl (List.prefix_refl _)

lemma pass_course (sound : d.Sound client) (attended : d.attended client = true) :
    Course client d (d.move client .pass) (d.deeds client .pass) := by
  obtain ⟨k, found, isOpen, -⟩ := attended_iff_exists.mp attended
  obtain ⟨-, -, writes⟩ := isOpen_iff.mp isOpen
  obtain ⟨t, hand⟩ := d
  cases hand with
  | due payload =>
    obtain ⟨same, found', looked, here⟩ := sound payload rfl
    obtain rfl := Option.some.inj (found.symm.trans found')
    have wrote := connection?_update t.server client client (passed_info payload)
    have found' : t.server.connection? client = some k := found
    rw [if_pos rfl, found', Option.map_some, passed, if_pos writes] at wrote
    have wrote : ((Delivery.mk t (.due payload)).move client .pass).connection? client =
      some _ := wrote
    have next : (Delivery.mk t (.due payload)).next client = k.seen - 1 := next_eq found
    refine ⟨?_, rfl, ?_, ?_, List.prefix_refl _⟩
    · rw [sentTo_eq wrote, sentTo_eq found]
      rfl
    · rw [next_eq wrote, next]
      exact (Nat.sub_add_cancel looked).symm
    · intro i told mem
      obtain ⟨rfl, rfl⟩ := Deed.told.inj (List.mem_singleton.mp mem)
      rw [next]
      exact here
  | empty => exact .idle rfl rfl (List.prefix_refl _)
  | taken _ => exact .idle rfl rfl (List.prefix_refl _)

/-- What the writer does in a move is said by its deeds, if its client wants all broadcasts. -/
theorem move_course (sound : d.Sound client) (attended : d.attended client = true) (move : Move) :
    Course client d (d.move client move) (d.deeds client move) := by
  cases move with
  | turn turn => exact turn_course attended turn
  | broadcast payload => exact .idle rfl rfl (List.prefix_append _ _)
  | fetch => exact fetch_course attended
  | look => exact look_course attended
  | pass => exact pass_course sound attended

/-- Nothing is in hand. -/
lemma Sound.of_empty (idle : d.hand = .empty) : d.Sound client := by
  intro payload held
  rw [idle] at held
  cases held

lemma Sound.start (limiter : RateLimiter ClientId) (lifecycle : LifecyclePolicy)
    (authorization : AuthorizationPolicy) : (start limiter lifecycle authorization).Sound client :=
  .of_empty rfl

/-- What is in hand stays where it was broadcast. -/
lemma Sound.kept (sound : d.Sound client) (hand : d'.hand.payload? = d.hand.payload?)
    (rests : ∀ k, d.connection? client = some k → Rests client k d'.tasks.server)
    (grown : d.broadcasts <+: d'.broadcasts) : d'.Sound client := by
  intro payload held
  obtain ⟨k, found, looked, here⟩ := sound payload (hand ▸ held)
  obtain ⟨k', still, seen, -⟩ := rests k found
  obtain ⟨later, grown⟩ := grown
  refine ⟨k', still, seen ▸ looked, ?_⟩
  rw [seen, ← grown, List.getElem?_append_left (List.getElem?_eq_some_iff.mp here).1]
  exact here

theorem move_sound (sound : d.Sound client) (move : Move) : (d.move client move).Sound client := by
  obtain ⟨t, hand⟩ := d
  cases move with
  | turn turn =>
    rw [Delivery.move]
    split
    · exact sound
    · rename_i clear
      by_cases writes : turn = .write client
      · -- the outbox waits until nothing is in hand
        subst writes
        obtain rfl : hand = .empty := by simpa [Turn.clashes] using clear
        exact .of_empty rfl
      · refine sound.kept rfl (fun k found => turn_rests found ?_ writes)
          (turn_broadcasts t turn)
        rintro rfl
        exact clear (decide_eq_true rfl)
  | broadcast payload =>
    exact sound.kept rfl (fun k found => .of_same found) (List.prefix_append _ _)
  | fetch =>
    cases hand with
    | empty =>
      rw [Delivery.move]
      dsimp only
      cases news : ((Delivery.mk t .empty).connection? client).bind
          (found? (Delivery.mk t .empty).broadcasts) with
      | none => exact .of_empty rfl
      | some payload =>
        intro payload held
        obtain rfl := Option.some.inj held
        obtain ⟨k, found, news⟩ := Option.bind_eq_some_iff.mp news
        obtain ⟨-, -, here, next⟩ := found?_eq_some news
        have took := (fetch_found rfl found).1
        rw [next] at took
        exact ⟨_, took, Nat.succ_pos k.seen, here⟩
    | taken _ => exact sound
    | due _ => exact sound
  | look =>
    cases hand with
    | taken payload =>
      rw [Delivery.move]
      dsimp only
      split
      · exact sound.kept rfl (fun k found => .of_same found) (List.prefix_refl _)
      · exact .of_empty rfl
    | empty => exact sound
    | due _ => exact sound
  | pass =>
    cases hand with
    | due payload => exact .of_empty rfl
    | empty => exact sound
    | taken _ => exact sound

/-! ## Many moves -/

lemma run_sound (sound : d.Sound client) (moves : List Move) : (d.run client moves).Sound client := by
  induction moves generalizing d with
  | nil => exact sound
  | cons move moves ih => exact ih (move_sound sound move)

/-- So it is in a row of moves. -/
theorem run_course (sound : d.Sound client) (attends : d.attends client moves = true) :
    Course client d (d.run client moves) (d.course client moves) := by
  induction moves generalizing d with
  | nil => exact .idle rfl rfl (List.prefix_refl _)
  | cons move moves ih =>
    obtain ⟨here, later⟩ := Bool.and_eq_true_iff.mp attends
    exact (move_course sound here move).append (ih (move_sound sound move) later)

/-- A writer misses something in a move exactly if it comes for a broadcast and has fallen behind. -/
lemma deeds_missed_iff (move : Move) : (d.deeds client move).filterMap Deed.missed? = [] ↔
    (move = .fetch → d.lags client = false) := by
  cases move with
  | turn turn =>
    refine iff_of_true ?_ nofun
    cases turn with
    | write other =>
      rw [Delivery.deeds]
      split
      · rw [List.filterMap_map]
        exact List.filterMap_eq_nil_iff.mpr fun _ _ => rfl
      · rfl
    | _ => rfl
  | broadcast payload => exact iff_of_true rfl nofun
  | fetch =>
    rw [Delivery.deeds, imp_iff_right rfl]
    cases behind : d.lags client with
    | false => exact iff_of_true rfl rfl
    | true =>
      -- at least one broadcast is not kept any more
      have far : d.next client + backlog < d.broadcasts.length := by
        rw [lags, Bool.and_eq_true] at behind
        exact of_decide_eq_true behind.2
      have some : 0 < d.broadcasts.length - backlog - d.next client := by omega
      rw [if_pos rfl, List.filterMap_map]
      refine iff_of_false (fun none => ?_) Bool.noConfusion
      have first := List.filterMap_eq_nil_iff.mp none (d.next client)
        (List.mem_range'_1.mpr ⟨le_refl _, Nat.lt_add_of_pos_right some⟩)
      cases first
  | look => exact iff_of_true rfl nofun
  | pass =>
    refine iff_of_true ?_ nofun
    rw [Delivery.deeds]
    split <;> rfl

/-- Nothing is missed as long as the writer does not fall behind. -/
lemma course_missed_iff : (d.course client moves).filterMap Deed.missed? = [] ↔
    ∀ before after, moves = before ++ .fetch :: after → (d.run client before).lags client = false := by
  induction moves generalizing d with
  | nil =>
    refine iff_of_true rfl fun before after split => ?_
    cases before <;> cases split
  | cons move moves ih =>
    rw [course, List.filterMap_append, List.append_eq_nil_iff, deeds_missed_iff, ih]
    constructor
    · rintro ⟨here, later⟩ before after split
      cases before with
      | nil => exact here (List.cons.inj split).1
      | cons first before =>
        obtain ⟨rfl, rest⟩ := List.cons.inj split
        exact later before after rest
    · intro all
      refine ⟨?_, fun before after split => all (move :: before) after (split ▸ rfl)⟩
      rintro rfl
      exact all [] moves rfl

end Delivery

namespace Deed

variable {deeds : List Deed} {broadcasts : List EventPayload}

/-- Every broadcast that is dealt with is told or missed. -/
lemma told_append_missed (deeds : List Deed) :
    (deeds.filterMap told? ++ deeds.filterMap missed?).Perm (deeds.filterMap position?) := by
  induction deeds with
  | nil => exact .refl _
  | cons deed deeds ih =>
    cases deed with
    | posted line => exact ih
    | told i payload => exact ih.cons i
    | missed i => exact List.perm_middle.trans (ih.cons i)

lemma told_sublist (deeds : List Deed) :
    (deeds.filterMap told?).Sublist (deeds.filterMap position?) := by
  induction deeds with
  | nil => exact .refl _
  | cons deed deeds ih =>
    cases deed with
    | posted line => exact ih
    | told i payload => exact ih.cons_cons i
    | missed i => exact ih.cons i

/-- What is told is what was broadcast at the positions that are told. -/
lemma payloads_eq (told : ∀ i payload, Deed.told i payload ∈ deeds → broadcasts[i]? = some payload) :
    (deeds.filterMap payload?).map some = (deeds.filterMap told?).map (broadcasts[·]?) := by
  induction deeds with
  | nil => rfl
  | cons deed deeds ih =>
    have rest := ih fun i payload mem => told i payload (List.mem_cons_of_mem deed mem)
    cases deed with
    | posted line => exact rest
    | told i payload =>
      exact (congrArg₂ List.cons (told i payload List.mem_cons_self).symm rest :)
    | missed i => exact rest

/-- Nothing is missed between two broadcasts that are told. -/
def Unbroken (deeds : List Deed) : Prop :=
  ∀ i ∈ deeds.filterMap missed?,
    (∀ j ∈ deeds.filterMap told?, i < j) ∨ ∀ j ∈ deeds.filterMap told?, j < i

/-- Where the broadcasts are dealt with one after the other, those that are told are in a row exactly
if none is missed in between. -/
theorem told_row_iff {first n : Nat}
    (positions : deeds.filterMap position? = List.range' first n) :
    (∃ first, deeds.filterMap told? = List.range' first (deeds.filterMap told?).length) ↔
      Unbroken deeds := by
  have perm := told_append_missed deeds
  rw [positions] at perm
  have apart := List.disjoint_of_nodup_append (perm.nodup_iff.mpr List.nodup_range')
  have dealt (i : Nat) : i ∈ deeds.filterMap told? ∨ i ∈ deeds.filterMap missed? ↔
      first ≤ i ∧ i < first + n := by
    rw [← List.mem_append, perm.mem_iff, List.mem_range'_1]
  constructor
  · rintro ⟨start, row⟩ i missed
    have outside : i ∉ deeds.filterMap told? := fun told => apart told missed
    rw [row, List.mem_range'_1] at outside
    rw [row]
    simp only [List.mem_range'_1]
    rcases Nat.lt_or_ge i start with before | after
    · exact .inl fun j mem => by omega
    · exact .inr fun j mem => by omega
  · intro unbroken
    have increasing : (deeds.filterMap told?).Pairwise (· < ·) := by
      refine List.Pairwise.sublist (told_sublist deeds) ?_
      rw [positions]
      exact List.pairwise_lt_range'
    refine eq_range'_of_gapless increasing fun a ha b hb i above below => ?_
    have here := (dealt a).mp (.inl ha)
    have there := (dealt b).mp (.inl hb)
    refine ((dealt i).mpr ⟨by omega, by omega⟩).resolve_right fun missed => ?_
    -- what is missed is before or behind all that are told
    obtain before | behind := unbroken i missed
    · exact absurd above (Nat.not_le.mpr (before a ha))
    · exact absurd below (Nat.not_le.mpr (behind b hb))

end Deed

namespace Delivery

open Tasks

variable {limiter : RateLimiter ClientId} {lifecycle : LifecyclePolicy}
variable {authorization : AuthorizationPolicy} {history : List Move}

/-- As long as a client is connected and subscribed, what its writer sends from the broadcasts is in
their order, and nothing is sent twice. They are a block of the broadcasts exactly if none of them
is missed in between, and none is missed unless the writer has fallen behind when it comes for the
next one. -/
theorem told_in_row_iff
    (attends : ((start limiter lifecycle authorization).run client history).attends client moves =
      true) :
    let d := (start limiter lifecycle authorization).run client history
    let final := d.run client moves
    let course := d.course client moves
    let told := course.filterMap Deed.told?
    let missed := course.filterMap Deed.missed?
    let payloads := course.filterMap Deed.payload?
    final.tasks.sentTo client = d.tasks.sentTo client ++ course.filterMap Deed.sent? ∧
    payloads.map some = told.map (final.broadcasts[·]?) ∧
    told.Pairwise (· < ·) ∧
    (∀ i, d.next client ≤ i ∧ i < final.next client ↔ i ∈ told ∨ i ∈ missed) ∧
    told.Disjoint missed ∧
    ((∃ first, told = List.range' first told.length) ↔ Deed.Unbroken course) ∧
    (Deed.Unbroken course → payloads <:+: final.broadcasts) ∧
    (missed = [] ↔ ∀ before after, moves = before ++ .fetch :: after →
      (d.run client before).lags client = false) := by
  intro d final course told missed payloads
  have sound : d.Sound client := run_sound (.start limiter lifecycle authorization) history
  have all := run_course sound attends
  have same : payloads.map some = told.map (final.broadcasts[·]?) := Deed.payloads_eq all.told
  have perm : (told ++ missed).Perm _ := Deed.told_append_missed course
  have positions := all.positions
  have row := Deed.told_row_iff positions
  rw [positions] at perm
  refine ⟨all.sent, same, ?_, fun i => ?_, ?_, row, fun unbroken => ?_, course_missed_iff⟩
  · refine List.Pairwise.sublist (Deed.told_sublist course) ?_
    rw [positions]
    exact List.pairwise_lt_range'
  · rw [← List.mem_append, perm.mem_iff, List.mem_range'_1, ← all.next]
  · exact List.disjoint_of_nodup_append (perm.nodup_iff.mpr List.nodup_range')
  · obtain ⟨first, in_row⟩ := row.mpr unbroken
    have in_row : told = List.range' first told.length := in_row
    have many : payloads.length = told.length := by
      simpa using congrArg List.length same
    rw [in_row, ← many] at same
    exact infix_of_range' same

/-- A shell connects and subscribes. -/
def attendance : List Move :=
  [.turn (.connect caller), .turn (.take caller.clientId subscribing.line)]

/-- The server with the shell. -/
def attentive : Delivery :=
  (start (.new 30 (.ofSeconds 1)) .standard .standard).run caller.clientId attendance

lemma attentive_eq : attentive =
    ⟨((settled (.start (.new 30 (.ofSeconds 1)) (.start .standard .standard))).turn
      (.connect caller)).note caller.clientId (some (.ok subscribing)), .empty⟩ := by
  show Delivery.mk (Tasks.take caller.clientId subscribing.line _) .empty = _
  rw [Tasks.take, subscribing_read]
  rfl

/-- Two broadcasts, the second one while the first one is in hand. -/
def twoBroadcasts : List Move :=
  [.broadcast (.countChanged 0), .fetch, .look, .broadcast (.countChanged 1), .pass, .fetch, .look,
    .turn (.write caller.clientId), .pass]

theorem two_told_in_row :
    attentive.attends caller.clientId twoBroadcasts = true ∧
    (attentive.course caller.clientId twoBroadcasts).filterMap Deed.payload? =
      [.countChanged 0, .countChanged 1] ∧
    ((attentive.course caller.clientId twoBroadcasts).filterMap Deed.payload? <:+:
      (attentive.run caller.clientId twoBroadcasts).broadcasts) := by
  have attends : attentive.attends caller.clientId twoBroadcasts = true := by
    rw [attentive_eq]
    decide +kernel
  have missed : (attentive.course caller.clientId twoBroadcasts).filterMap Deed.missed? = [] := by
    rw [attentive_eq]
    decide +kernel
  have unbroken : Deed.Unbroken (attentive.course caller.clientId twoBroadcasts) := by
    rw [Deed.Unbroken, missed]
    exact nofun
  obtain ⟨-, -, -, -, -, -, block, -⟩ := told_in_row_iff attends
  refine ⟨attends, ?_, block unbroken⟩
  rw [attentive_eq]
  decide +kernel

/-- The shell is told of one broadcast; then three hundred come at once. -/
def burst : List Move :=
  [.broadcast (.countChanged 0), .fetch, .look, .pass] ++
    ((List.range' 1 300).map fun count => .broadcast (.countChanged count)) ++
    [.fetch, .fetch, .look, .pass]

/-- The writer of a shell that is subscribed all the time has fallen behind and goes on with the
oldest broadcast that is kept, the forty-fifth behind the one that it has sent. -/
theorem told_after_gap :
    attentive.attends caller.clientId burst = true ∧
    (attentive.course caller.clientId burst).filterMap Deed.told? = [0, 45] ∧
    (attentive.run caller.clientId burst).tasks.sentTo caller.clientId =
      [.event (.countChanged 0), .event (.countChanged 45)] ∧
    ¬ [EventPayload.countChanged 0, .countChanged 45] <:+:
      (attentive.run caller.clientId burst).broadcasts := by
  rw [attentive_eq]
  decide +kernel

end Delivery

end Server

end AppLifecycle
