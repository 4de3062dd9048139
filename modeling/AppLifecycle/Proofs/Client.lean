import AppLifecycle.Proofs.Protocol.Lines
import AppLifecycle.Rehearsal.Network

/-!
# The calls of a client

A client numbers its requests, and takes the first answer that it reads for the answer to the
request it has just written, whatever number the answer has. So calls that succeed get the answers
among the lines they read, in their order, and the events in theirs (`Client.Transcript`). No event
is lost or doubled: it is told, or kept until it is asked for. The answers match the requests
exactly if they are numbered as the requests are; behind answers that nobody has asked for, every
later request gets the answer to an earlier one (`Client.answers_lag`).
-/

namespace AppLifecycle

namespace Incoming

def response? : Incoming → Option Response
  | .response r => some r
  | .event _ => none

def event? : Incoming → Option Event
  | .response _ => none
  | .event e => some e

end Incoming

namespace Client

/-! ## Calls -/

/-- A client writes the request for a command, and reads lines up to an answer. -/
def send (c : Client) (command : Command) (lines : List String) :
    Request × Except ConnectionError Response × List String × Client :=
  let (request, c) := c.request command
  (request, c.awaitResponse lines)

/-- The call of a rehearsed client is such a call, on what the client is sent once the server has
its request. -/
theorem rehearsed_call (n : Network) (p : Peer) (command : Command) :
    (n.call p command).1 =
      let c := p.caller.getD .start
      let n := n.updateServer (Server.receive p.id
        ((c.request command).1.line ++ "\n").toUTF8.toList)
      (c.send command (n.takeLines p).1).2.1 :=
  rfl

/-- What is asked of a client. -/
inductive Call where
  | send (command : Command)
  | nextEvent

/-- What a call that succeeds gives. -/
inductive Reply where
  | answer (request : Request) (response : Response)
  | event (event : Event)

/-- The request that was written, and what was taken for its answer. -/
def Reply.answer? : Reply → Option (Request × Response)
  | .answer request response => some (request, response)
  | .event _ => none

def Reply.event? : Reply → Option Event
  | .answer _ _ => none
  | .event e => some e

/-- A call that succeeds, and the lines and the client after it. -/
def call? (c : Client) (lines : List String) : Call → Option (Reply × List String × Client)
  | .send command =>
    match c.send command lines with
    | (request, .ok response, rest) => some (.answer request response, rest)
    | (_, .error _, _) => none
  | .nextEvent =>
    match c.nextEvent lines with
    | (.ok event, rest) => some (.event event, rest)
    | (.error _, _) => none

/-- Calls that all succeed, one after the other. -/
def run? (c : Client) (lines : List String) : List Call → Option (List Reply × List String × Client)
  | [] => some ([], lines, c)
  | call :: calls => do
    let (reply, lines, c) ← c.call? lines call
    let (replies, rest) ← c.run? lines calls
    return (reply :: replies, rest)

/-- The requests that were written, each with what was taken for its answer. -/
def exchanges (replies : List Reply) : List (Request × Response) :=
  replies.filterMap Reply.answer?

/-- The answers among lines. -/
def answersIn (lines : List String) : List Response :=
  (lines.map Incoming.ofLine).filterMap fun line => line.toOption.bind Incoming.response?

variable {c c' c'' : Client} {command : Command} {call : Call} {calls : List Call}
variable {reply : Reply} {replies replies' : List Reply} {lines read rest : List String}
variable {incoming incoming' : List Incoming} {request : Request} {response : Response}
variable {event : Event}

lemma exchanges_append :
    exchanges (replies ++ replies') = exchanges replies ++ exchanges replies' :=
  List.filterMap_append

lemma answersIn_of_read (held : read.map Incoming.ofLine = incoming.map .ok) :
    answersIn read = incoming.filterMap Incoming.response? := by
  rw [answersIn, held, List.filterMap_map]
  rfl

/-! ## One call -/

/-- A call succeeds if an answer comes; the events before it are kept. -/
lemma awaitResponse_of_read {before : List String} {line : String} {events : List Event}
    (held : before.map Incoming.ofLine = events.map fun e => .ok (.event e))
    (answer : Incoming.ofLine line = .ok (.response response)) :
    c.awaitResponse (before ++ line :: rest) =
      (.ok response, rest, { c with pending := c.pending ++ events }) := by
  induction before generalizing c events with
  | nil =>
    obtain rfl := List.map_eq_nil_iff.mp held.symm
    rw [List.nil_append, awaitResponse, answer, List.append_nil]
  | cons first before ih =>
    obtain ⟨e, events, rfl, one, others⟩ := List.map_eq_cons_iff.mp held.symm
    rw [List.cons_append, awaitResponse, ← one]
    dsimp only
    rw [ih others.symm, List.append_assoc, List.singleton_append]

lemma call?_send_of_awaited
    (awaited : (c.request command).2.awaitResponse lines = (.ok response, rest, c')) :
    c.call? lines (.send command) = some (.answer (c.request command).1 response, rest, c') := by
  rw [call?, send]
  dsimp only
  rw [awaited]

/-- With no event kept, the next event is that of the next line. -/
lemma call?_nextEvent_of_read {line : String} {nextId : Nat}
    (told : Incoming.ofLine line = .ok (.event event)) :
    (Client.mk nextId []).call? (line :: lines) .nextEvent =
      some (.event event, lines, ⟨nextId, []⟩) := by
  simp only [call?, nextEvent, told]

lemma awaitResponse_eq_ok (done : c.awaitResponse lines = (.ok response, rest, c')) :
    ∃ before line events, lines = before ++ line :: rest ∧
      before.map Incoming.ofLine = events.map (fun e => .ok (.event e)) ∧
      Incoming.ofLine line = .ok (.response response) ∧
      c' = { c with pending := c.pending ++ events } := by
  -- the client is general, for it keeps one more event with each line
  induction lines generalizing c with
  | nil => cases done
  | cons line lines ih =>
    rw [awaitResponse] at done
    split at done
    · cases done
    · rename_i answer
      obtain ⟨⟨⟩, rfl, rfl⟩ := done
      exact ⟨[], line, [], rfl, rfl, answer, by rw [List.append_nil]⟩
    · rename_i e told
      obtain ⟨before, last, events, rfl, held, answer, rfl⟩ := ih done
      refine ⟨line :: before, last, e :: events, rfl, ?_, answer, ?_⟩
      · rw [List.map_cons, List.map_cons, told, held]
      · rw [List.append_assoc, List.singleton_append]

/-- What calls that succeed give is what they read: the answers in their order, each for the next
request, and the events in theirs, those first that the client had kept. -/
structure Transcript (c : Client) (replies : List Reply) (incoming : List Incoming) (c' : Client) :
    Prop where
  answers : (exchanges replies).map Prod.snd = incoming.filterMap Incoming.response?
  numbers : (exchanges replies).map (·.1.requestId) =
    List.range' c.nextId (exchanges replies).length
  nextId : c'.nextId = c.nextId + (exchanges replies).length
  events : replies.filterMap Reply.event? ++ c'.pending =
    c.pending ++ incoming.filterMap Incoming.event?

namespace Transcript

lemma none : Transcript c [] [] c where
  answers := rfl
  numbers := rfl
  nextId := rfl
  events := (List.append_nil c.pending).symm

lemma append (first : Transcript c replies incoming c')
    (second : Transcript c' replies' incoming' c'') :
    Transcript c (replies ++ replies') (incoming ++ incoming') c'' where
  answers := by
    rw [exchanges_append, List.filterMap_append, List.map_append, first.answers, second.answers]
  numbers := by
    rw [exchanges_append, List.map_append, first.numbers, second.numbers, first.nextId,
      List.length_append, List.range'_append_1]
  nextId := by
    rw [second.nextId, first.nextId, exchanges_append, List.length_append, Nat.add_assoc]
  events := by
    -- the events that the first calls leave are the first that the second ones find
    rw [List.filterMap_append, List.filterMap_append, List.append_assoc, second.events,
      ← List.append_assoc, first.events, List.append_assoc]

/-- An answer, and the events that came before it. -/
lemma answered (c : Client) (command : Command) (response : Response) (events : List Event) :
    Transcript c [.answer (c.request command).1 response]
      (events.map .event ++ [.response response])
      { (c.request command).2 with pending := c.pending ++ events } where
  answers := by
    have none : (events.map Incoming.event).filterMap Incoming.response? = [] := by
      simp [Incoming.response?]
    rw [List.filterMap_append, none]
    rfl
  numbers := rfl
  nextId := rfl
  events := by
    have all : (events.map Incoming.event).filterMap Incoming.event? = events := by
      simp [List.filterMap_map, Function.comp_def, Incoming.event?]
    rw [List.filterMap_append, all]
    exact congrArg (c.pending ++ ·) (List.append_nil events).symm

end Transcript

/-- The calls have read the lines up to `rest`, and gave what these hold. -/
def Served (c : Client) (lines : List String) (replies : List Reply) (rest : List String)
    (c' : Client) : Prop :=
  ∃ read incoming, lines = read ++ rest ∧ read.map Incoming.ofLine = incoming.map .ok ∧
    Transcript c replies incoming c'

/-- A request that is answered has read the lines up to the answer. -/
lemma served_of_send (done : c.send command lines = (request, .ok response, rest, c')) :
    c.Served lines [.answer request response] rest c' := by
  obtain ⟨rfl, awaited⟩ := Prod.mk.inj done
  obtain ⟨before, line, events, rfl, held, answer, rfl⟩ := awaitResponse_eq_ok awaited
  refine ⟨before ++ [line], events.map .event ++ [.response response], ?_, ?_, ?_⟩
  · rw [List.append_assoc, List.singleton_append]
  · rw [List.map_append, List.map_append, held, List.map_map, List.map_singleton, answer]
    rfl
  · exact .answered c command response events

/-- An event that is told was kept, or is that of the next line. -/
lemma served_of_nextEvent (done : c.nextEvent lines = (.ok event, rest, c')) :
    c.Served lines [.event event] rest c' := by
  obtain ⟨nextId, pending⟩ := c
  cases pending with
  | cons e pending =>
    -- an event that was kept is told without a line being read
    obtain ⟨⟨⟩, rfl, rfl⟩ := done
    exact ⟨[], [], rfl, rfl, rfl, rfl, rfl, by simp [Reply.event?]⟩
  | nil =>
    cases lines with
    | nil => cases done
    | cons line lines =>
      simp only [nextEvent] at done
      split at done
      · cases done
      · rename_i e told
        obtain ⟨⟨⟩, rfl, rfl⟩ := done
        exact ⟨[line], [.event event], rfl, congrArg (fun i => [i]) told, rfl, rfl, rfl, rfl⟩
      · cases done

lemma served_of_call (done : c.call? lines call = some (reply, rest, c')) :
    c.Served lines [reply] rest c' := by
  cases call with
  | send command =>
    rw [call?] at done
    split at done
    · rename_i sent
      obtain ⟨⟨⟩⟩ := done
      exact served_of_send sent
    · cases done
  | nextEvent =>
    rw [call?] at done
    split at done
    · rename_i told
      obtain ⟨⟨⟩⟩ := done
      exact served_of_nextEvent told
    · cases done

/-! ## Many calls -/

lemma run?_nil : c.run? lines [] = some ([], lines, c) := rfl

lemma run?_cons {between : List String} (first : c.call? lines call = some (reply, between, c'))
    (others : c'.run? between calls = some (replies, rest, c'')) :
    c.run? lines (call :: calls) = some (reply :: replies, rest, c'') := by
  rw [run?, first, Option.bind_eq_bind, Option.bind_some]
  dsimp only
  rw [others]
  rfl

/-- Calls that all succeed read a part of the lines, and give what it holds: one call does, and the
next one starts where it ended. -/
theorem served_of_run (done : c.run? lines calls = some (replies, rest, c')) :
    c.Served lines replies rest c' := by
  induction calls generalizing c lines replies with
  | nil =>
    obtain ⟨⟨⟩⟩ := done
    exact ⟨[], [], rfl, rfl, .none⟩
  | cons call calls ih =>
    rw [run?, Option.bind_eq_bind, Option.bind_eq_some_iff] at done
    obtain ⟨⟨reply, between, after⟩, first, done⟩ := done
    obtain ⟨⟨others, last⟩, second, done⟩ := Option.bind_eq_some_iff.mp done
    obtain ⟨⟨⟩⟩ := done
    obtain ⟨read, incoming, rfl, held, transcript⟩ := served_of_call first
    obtain ⟨read', incoming', rfl, held', transcript'⟩ := ih second
    refine ⟨read ++ read', incoming ++ incoming', (List.append_assoc ..).symm, ?_,
      transcript.append transcript'⟩
    rw [List.map_append, List.map_append, held, held']

/-- The requests of calls that all succeed are numbered from the client's next number on, and the
answers that they get are those among the lines that are read. -/
theorem exchanges_of_run (done : c.run? (read ++ rest) calls = some (replies, rest, c')) :
    (exchanges replies).map Prod.snd = answersIn read ∧
    (exchanges replies).map (·.1.requestId) =
      List.range' c.nextId (answersIn read).length := by
  obtain ⟨read', incoming, same, held, transcript⟩ := served_of_run done
  -- what was read is what stands before the rest
  obtain rfl := List.append_cancel_right same
  have answers := transcript.answers.trans (answersIn_of_read held).symm
  refine ⟨answers, ?_⟩
  rw [transcript.numbers, ← answers, List.length_map]

/-- The `k`-th request gets the `k`-th answer, so the answers match the requests exactly if they
are numbered as the requests are. -/
theorem answers_match_iff (done : c.run? (read ++ rest) calls = some (replies, rest, c')) :
    (exchanges replies).map Prod.snd = answersIn read ∧
    ((∀ p ∈ exchanges replies, p.2.requestId = p.1.requestId) ↔
      (answersIn read).map Response.requestId =
        List.range' c.nextId (answersIn read).length) := by
  obtain ⟨answers, numbers⟩ := exchanges_of_run done
  refine ⟨answers, ?_⟩
  rw [← List.map_inj_left, ← numbers, ← answers, List.map_map]
  rfl

/-- The line of an answer to a ping. -/
def pong (requestId : Nat) : String := (Response.success requestId .pong).line

/-- When the events below took place. -/
def noon : String := "2024-01-01T12:00:00Z"

def shutdownEvent : Event := ⟨apiVersion, noon, .shutdown⟩

lemma ofLine_pong {requestId : Nat} (fits : requestId < Nat.pow 2 64) :
    Incoming.ofLine (pong requestId) = .ok (.response (.success requestId .pong)) :=
  have version : apiVersion < Nat.pow 2 32 := by decide
  Incoming.ofLine_line (.response (.success requestId .pong)) ⟨fits, version, trivial⟩

lemma ofLine_shutdownEvent : Incoming.ofLine shutdownEvent.line = .ok (.event shutdownEvent) :=
  Incoming.ofLine_line (.event shutdownEvent) ⟨by decide, trivial⟩

lemma call?_ping {requestId : Nat} (fits : requestId < Nat.pow 2 64) (nextId : Nat)
    (lines : List String) :
    (Client.mk nextId []).call? (pong requestId :: lines) (.send .ping) =
      some (.answer ⟨nextId, apiVersion, .ping⟩ (.success requestId .pong), lines,
        ⟨nextId + 1, []⟩) := by
  apply call?_send_of_awaited
  rw [awaitResponse, ofLine_pong fits]
  rfl

theorem pings_answered :
    start.run? ([shutdownEvent.line, pong 1, pong 2] ++ []) [.send .ping, .nextEvent, .send .ping] =
        some ([.answer ⟨1, apiVersion, .ping⟩ (.success 1 .pong), .event shutdownEvent,
          .answer ⟨2, apiVersion, .ping⟩ (.success 2 .pong)], [], ⟨3, []⟩) ∧
      (answersIn [shutdownEvent.line, pong 1, pong 2]).map Response.requestId =
        List.range' 1 (answersIn [shutdownEvent.line, pong 1, pong 2]).length := by
  refine (and_iff_left_of_imp fun run => (answers_match_iff run).2.mp (by decide)).mpr ?_
  -- the event comes while the first answer is awaited, and is kept
  have first : start.call? [shutdownEvent.line, pong 1, pong 2] (.send .ping) =
      some (.answer ⟨1, apiVersion, .ping⟩ (.success 1 .pong), [pong 2], ⟨2, [shutdownEvent]⟩) := by
    apply call?_send_of_awaited
    rw [awaitResponse, ofLine_shutdownEvent]
    dsimp only
    rw [awaitResponse, ofLine_pong (by decide)]
    rfl
  have second : (Client.mk 2 [shutdownEvent]).call? [pong 2] .nextEvent =
      some (.event shutdownEvent, [pong 2], ⟨2, []⟩) := rfl
  have third := call?_ping (by decide : 2 < Nat.pow 2 64) 2 []
  rw [List.append_nil]
  exact run?_cons first (run?_cons second (run?_cons third run?_nil))

/-- An answer that nobody has asked for is taken for that to the next request, and the answer to
this one for that to the request after it. -/
theorem stray_answer_taken :
    start.run? [pong 7, pong 1] [.send .ping, .send .ping] =
        some ([.answer ⟨1, apiVersion, .ping⟩ (.success 7 .pong),
          .answer ⟨2, apiVersion, .ping⟩ (.success 1 .pong)], [], ⟨3, []⟩) ∧
      (Response.success 7 .pong).requestId ≠ 1 ∧ (Response.success 1 .pong).requestId ≠ 2 := by
  have first := call?_ping (by decide : 7 < Nat.pow 2 64) 1 [pong 1]
  have second := call?_ping (by decide : 1 < Nat.pow 2 64) 2 []
  exact ⟨run?_cons first (run?_cons second run?_nil), by decide, by decide⟩

/-- Where the server numbers its answers as the requests are numbered, but `k` answers that nobody
has asked for come first, each later request gets the answer to the one written `k` requests before,
without an error. -/
theorem answers_lag {strays : List Nat} {m : Nat}
    (done : c.run? (read ++ rest) calls = some (replies, rest, c'))
    (numbered : (answersIn read).map Response.requestId = strays ++ List.range' c.nextId m) :
    ∀ p ∈ (exchanges replies).drop strays.length,
      p.2.requestId + strays.length = p.1.requestId := by
  obtain ⟨answers, numbers⟩ := exchanges_of_run done
  have many : (answersIn read).length = strays.length + m := by
    simpa using congrArg List.length numbered
  -- both sides count on from the number of the request that came `k` requests after the first
  rw [← List.map_inj_left]
  calc
    _ = (((exchanges replies).map Prod.snd).map Response.requestId |>.drop
        strays.length).map (· + strays.length) := by
      simp [List.map_drop, Function.comp_def]
    _ = List.range' (c.nextId + strays.length) m := by
      rw [answers, numbered, List.drop_left]
      simp [List.range'_eq_map_range, Nat.add_right_comm]
    _ = _ := by
      rw [List.map_drop, numbers, many, List.drop_range']
      simp

/-! ## Events -/

lemma map_ofLine_line (fits : ∀ i ∈ incoming, i.Fits) :
    (incoming.map Incoming.line).map Incoming.ofLine = incoming.map .ok := by
  rw [List.map_map, List.map_inj_left]
  intro i mem
  rw [Function.comp_apply]
  exact i.ofLine_line (fits i mem)

/-- Lines that were written are told apart as they were written, and calls that all succeed lose no
event and double none: those told, and then those kept, are those that came, in their order, after
those that were kept at first. -/
theorem events_kept (fits : ∀ i ∈ incoming, i.Fits)
    (done : c.run? (incoming.map Incoming.line) calls = some (replies, rest, c')) :
    (incoming.map Incoming.line).map Incoming.ofLine = incoming.map .ok ∧
    ∃ arrived unread, incoming = arrived ++ unread ∧ rest = unread.map Incoming.line ∧
      replies.filterMap Reply.event? ++ c'.pending =
        c.pending ++ arrived.filterMap Incoming.event? := by
  refine ⟨map_ofLine_line fits, ?_⟩
  obtain ⟨read, arrived, lines, held, transcript⟩ := served_of_run done
  obtain ⟨before, unread, rfl, rfl, rfl⟩ := List.map_eq_append_iff.mp lines
  -- what the calls have read is what the first lines were written from
  rw [map_ofLine_line fun i mem => fits i (List.mem_append_left unread mem)] at held
  obtain rfl := List.map_injective_iff.mpr (fun _ _ => Except.ok.inj) held
  exact ⟨before, unread, rfl, rfl, transcript.events⟩

/-- The event of a number of applications. -/
def counted (count : Nat) : Event := ⟨apiVersion, noon, .countChanged count⟩

/-- Four events, and the answers to two pings between them. -/
def fourEvents : List Incoming :=
  [.event (counted 1), .event (counted 2), .response (.success 1 .pong), .event (counted 3),
    .response (.success 2 .pong), .event (counted 4)]

/-- Events that come before an answer, between two and after them: the first is told, the next two
are kept while answers are awaited, and the last is not read yet. -/
theorem four_events_kept :
    (∀ i ∈ fourEvents, i.Fits) ∧
    start.run? (fourEvents.map Incoming.line) [.nextEvent, .send .ping, .send .ping] =
      some ([.event (counted 1), .answer ⟨1, apiVersion, .ping⟩ (.success 1 .pong),
        .answer ⟨2, apiVersion, .ping⟩ (.success 2 .pong)], [(counted 4).line],
        ⟨3, [counted 2, counted 3]⟩) ∧
    ∃ arrived unread, fourEvents = arrived ++ unread ∧
      [(counted 4).line] = unread.map Incoming.line ∧
      [counted 1, counted 2, counted 3] = arrived.filterMap Incoming.event? := by
  have event (count : Nat) (small : count < Nat.pow 2 64) :
      (Incoming.event (counted count)).Fits := ⟨(by decide : apiVersion < Nat.pow 2 32), small⟩
  have answer (requestId : Nat) (small : requestId < Nat.pow 2 64) :
      (Incoming.response (.success requestId .pong)).Fits :=
    ⟨small, (by decide : apiVersion < Nat.pow 2 32), trivial⟩
  have fits : ∀ i ∈ fourEvents, i.Fits := by
    simp [fourEvents, event, answer]
  have read (i : Incoming) (mem : i ∈ fourEvents) := i.ofLine_line (fits i mem)
  have first : start.call? (fourEvents.map Incoming.line) .nextEvent =
      some (.event (counted 1), [(counted 2).line] ++ pong 1 ::
        ([(counted 3).line] ++ pong 2 :: [(counted 4).line]), start) :=
    call?_nextEvent_of_read (read (.event (counted 1)) (by simp [fourEvents]))
  -- an event that comes while an answer is awaited is kept
  have later (nextId requestId count : Nat) (events : List Event) (rest : List String)
      (small : requestId < Nat.pow 2 64) (mem : .event (counted count) ∈ fourEvents) :
      (Client.mk nextId events).call? ([(counted count).line] ++ pong requestId :: rest)
          (.send .ping) =
        some (.answer ⟨nextId, apiVersion, .ping⟩ (.success requestId .pong), rest,
          ⟨nextId + 1, events ++ [counted count]⟩) := by
    have held : [(counted count).line].map Incoming.ofLine =
        [counted count].map fun e => .ok (.event e) :=
      congrArg (fun i => [i]) (read (.event (counted count)) mem)
    exact call?_send_of_awaited (awaitResponse_of_read held (ofLine_pong small))
  have second := later 1 1 2 [] ([(counted 3).line] ++ pong 2 :: [(counted 4).line])
    (by decide) (by simp [fourEvents])
  have third := later 2 2 3 [counted 2] [(counted 4).line] (by decide) (by simp [fourEvents])
  have run := run?_cons first (run?_cons second (run?_cons third run?_nil))
  exact ⟨fits, run, (events_kept fits run).2⟩

end Client

end AppLifecycle
