import AppLifecycle.Client
import AppLifecycle.Proofs.Protocol.Messages
import AppLifecycle.Proofs.Server.Tasks
import AppLifecycle.Proofs.Text.Utf8

/-!
# Messages in lines

Messages are sent as lines of bytes and read line by line. Whatever strings the messages hold, the
reader gets the messages that were sent, in their order (`messages_read_back`): a written message
has no newline of its own, its bytes are those of its text, and trimming takes nothing off it.
-/

namespace AppLifecycle

open Json (Value Decoder Decodes)

/-! ## Writing and reading lines -/

/-- Values, each in a line of its own. -/
def writeLines (values : List Value) : List UInt8 :=
  values.flatMap fun v => (v.text ++ "\n").toUTF8.toList

/-- What a reader makes of a line; nothing of a blank one. -/
def parseLine {α : Type} (d : Decoder α) (line : String) : Option (Except Json.Failure α) :=
  match Text.trim line.toList with
  | [] => none
  | text => some (Json.decodeText d (String.ofList text))

/-- What a reader makes of all that is sent to it, up to the end of the connection, which ends a
line too. Nothing comes of bytes that are no text. -/
def readLines {α : Type} (d : Decoder α) (bytes : List UInt8) :
    Option (List (Except Json.Failure α)) := do
  let (lines, last) := Server.splitLines bytes
  let texts ← (if last.isEmpty then lines else lines ++ [last]).mapM Text.decode?
  return texts.filterMap (parseLine d)

/-- This is how the server reads requests. -/
lemma parseLine_request : parseLine Request.decoder = Request.parse := rfl

/-! ## Splitting -/

/-- The lines before the first newline. -/
lemma splitLines_line {line : List UInt8} (one : 10 ∉ line) (rest : List UInt8) :
    Server.splitLines (line ++ 10 :: rest) =
      (line :: (Server.splitLines rest).1, (Server.splitLines rest).2) := by
  induction line with
  | nil => rfl
  | cons b line ih =>
    rw [List.mem_cons, not_or] at one
    have others := ih one.2
    rw [List.cons_append, Server.splitLines, others]
    exact if_neg (Ne.symm one.1)

/-- The bytes of a text of one line are one line. -/
lemma newline_notMem_encode {cs : List Char} (one : '\n' ∉ cs) : 10 ∉ Text.encode cs :=
  fun mem => one (Text.mem_of_mem_encode (by decide) mem)

lemma splitLines_writeLines (values : List Value) (plain : ∀ v ∈ values, ∃ n, v.Plain n) :
    Server.splitLines (writeLines values) =
      (values.map fun v => Text.encode (v.write []), []) := by
  induction values with
  | nil => rfl
  | cons v values ih =>
    obtain ⟨n, hv⟩ := plain v List.mem_cons_self
    have others := ih fun w mem => plain w (List.mem_cons_of_mem v mem)
    -- so the only newline of the line is the one that ends it
    have one : '\n' ∉ v.write [] := fun mem => nomatch (hv.newline_mem_write []).mp mem
    have bytes : (v.text ++ "\n").toUTF8.toList = Text.encode (v.write []) ++ [10] := by
      have chars : (v.text ++ "\n").toList = v.write [] ++ ['\n'] := by
        rw [String.toList_append]
        exact congrArg (· ++ ['\n']) String.toList_ofList
      rw [Text.toList_toUTF8, chars, Text.encode, List.flatMap_append]
      rfl
    rw [writeLines, List.flatMap_cons, bytes, List.append_assoc, List.singleton_append,
      splitLines_line (newline_notMem_encode one), ← writeLines, others]
    rfl

/-! ## Trimming -/

lemma suffix_write (v : Value) (rest : List Char) : rest <:+ v.write rest :=
  ⟨v.write [], (v.write_append rest).symm⟩

lemma suffix_writeString (s : String) (rest : List Char) : rest <:+ Json.writeString s rest :=
  ⟨'"' :: Json.writeChars s.toList [], by
    rw [List.cons_append, ← Json.writeChars_append]
    rfl⟩

/-- The last character of an object is its closing brace. -/
lemma brace_suffix_writeMembers (ms : List (String × Value)) :
    ['\x7d'] <:+ Json.writeMembers ms [] := by
  induction ms with
  | nil => exact List.suffix_refl _
  | cons m ms ih =>
    have value := ih.trans (suffix_write m.2 _)
    have member := (value.trans (List.suffix_cons ':' _)).trans (suffix_writeString m.1 _)
    exact member.trans (List.suffix_cons ',' _)

lemma brace_suffix_write (ms : List (String × Value)) :
    ['\x7d'] <:+ (Value.object ms).write [] := by
  cases ms with
  | nil => exact ⟨['\x7b'], rfl⟩
  | cons m ms =>
    have value := (brace_suffix_writeMembers ms).trans (suffix_write m.2 _)
    have member := (value.trans (List.suffix_cons ':' _)).trans (suffix_writeString m.1 _)
    exact member.trans (List.suffix_cons '\x7b' _)

lemma brace_head_write (ms : List (String × Value)) :
    ∃ cs, (Value.object ms).write [] = '\x7b' :: cs := by
  cases ms <;> exact ⟨_, rfl⟩

/-- A text between visible characters is as long as it was. -/
lemma trim_eq_self {c d : Char} {cs : List Char} (first : Text.isBlank c = false)
    (last : Text.isBlank d = false) (ends : [d] <:+ c :: cs) : Text.trim (c :: cs) = c :: cs := by
  obtain ⟨before, whole⟩ := ends
  have back : (c :: cs).reverse = d :: before.reverse := by rw [← whole, List.reverse_append]; rfl
  rw [Text.trim, List.dropWhile_cons_of_neg (by simp [first]), back,
    List.dropWhile_cons_of_neg (by simp [last]), ← back, List.reverse_reverse]

lemma trim_write (ms : List (String × Value)) :
    Text.trim ((Value.object ms).write []) = (Value.object ms).write [] := by
  obtain ⟨cs, written⟩ := brace_head_write ms
  have ends := brace_suffix_write ms
  rw [written] at ends ⊢
  exact trim_eq_self (by decide) (by decide) ends

/-! ## Messages -/

/-- `d` reads the text of `v` as `a`, once it is trimmed. -/
lemma parseLine_text {α : Type} {d : Decoder α} {levels : Nat} {v : Value} {a : α}
    (h : Decodes d levels v a) (few : levels < Json.maxDepth) (object : ∃ ms, v = .object ms) :
    parseLine d (String.ofList (v.write [])) = some (.ok a) := by
  obtain ⟨ms, rfl⟩ := object
  obtain ⟨cs, written⟩ := brace_head_write ms
  have read := h.decodeText few
  rw [Value.text] at read
  rw [parseLine, String.toList_ofList, trim_write]
  rw [written] at read ⊢
  exact congrArg some read

/-- Messages that are read as they are written are read back from their lines, in their order. -/
theorem readLines_writeLines {α : Type} {d : Decoder α} {levels : Nat} {toJson : α → Value}
    (few : levels < Json.maxDepth) (object : ∀ a, ∃ ms, toJson a = .object ms) (messages : List α)
    (h : ∀ a ∈ messages, Decodes d levels (toJson a) a) :
    readLines d (writeLines (messages.map toJson)) = some (messages.map .ok) := by
  have split := splitLines_writeLines (messages.map toJson) fun v mem => by
    obtain ⟨a, ha, rfl⟩ := List.mem_map.mp mem
    exact ⟨levels, (h a ha).plain⟩
  -- the bytes of a line are those of its text
  have texts : ((messages.map toJson).map fun v => Text.encode (v.write [])).mapM Text.decode? =
      some (messages.map fun a => String.ofList ((toJson a).write [])) := by
    clear h split
    induction messages with
    | nil => rfl
    | cons a messages ih =>
      rw [List.map_cons, List.map_cons, List.mapM_cons, Text.decode?_encode, ih]
      rfl
  have read : (messages.map fun a => String.ofList ((toJson a).write [])).filterMap (parseLine d) =
      messages.map .ok := by
    clear texts split
    induction messages with
    | nil => rfl
    | cons a messages ih =>
      have first := parseLine_text (h a List.mem_cons_self) few (object a)
      have others := ih fun b mem => h b (List.mem_cons_of_mem a mem)
      rw [List.map_cons, List.filterMap_cons_some first, others]
      rfl
  rw [readLines, split]
  simp only [List.isEmpty_nil, if_true]
  rw [texts, ← read]
  rfl

/-- Requests, responses and events that are sent as lines are read back as they were, all of them
and in their order. -/
theorem messages_read_back :
    (∀ requests : List Request, (∀ r ∈ requests, r.Fits) →
      readLines Request.decoder (writeLines (requests.map Request.toJson)) =
        some (requests.map .ok)) ∧
    (∀ responses : List Response, (∀ r ∈ responses, r.Fits) →
      readLines Response.decoder (writeLines (responses.map Response.toJson)) =
        some (responses.map .ok)) ∧
    (∀ events : List EventPayload, (∀ e ∈ events, e.Fits) →
      readLines EventPayload.decoder (writeLines (events.map EventPayload.toJson)) =
        some (events.map .ok)) := by
  refine ⟨fun requests fits => ?_, fun responses fits => ?_, fun events fits => ?_⟩
  · exact readLines_writeLines (by decide) (fun r => ⟨_, rfl⟩) requests
      fun r mem => r.decodes (fits r mem)
  · exact readLines_writeLines (by decide) (fun r => ⟨_, rfl⟩) responses
      fun r mem => r.decodes (fits r mem)
  · exact readLines_writeLines (by decide) (fun e => by cases e <;> exact ⟨_, rfl⟩) events
      fun e mem => e.decodes (fits e mem)

/-- Numbers that fill their fields, and strings that would break a line. -/
def wideRequest : Request :=
  ⟨18446744073709551615, 4294967295, .startApplication ⟨"\"a\\b\n"⟩ ["\t\x1f", "é☃😀", ""]⟩

/-- A view of which some fields are missing. -/
def wideView : ApplicationView where
  id := ⟨"org.example_é_1"⟩
  name := "\x7f\\u0041"
  comment := none
  icon := some "null"
  state := .suspended
  internal := .suspendingWaitProcess
  requested := .suspended
  process := .running
  pid := 4294967295
  focused := true
  stage := .side
  stages := [.side, .main]
  orientations := []
  exempt := false
  canBeResumed := true
  screenshot := 18446744073709551615

def wideResponses : List Response :=
  [⟨18446744073709551615, 1, .ok (.applications [wideView, wideView])⟩,
    ⟨0, 4294967295, .err ⟨.launchFailed, "\r\n\\\"\x00"⟩⟩]

theorem wide_messages_read_back :
    (∀ r ∈ [wideRequest, wideRequest], r.Fits) ∧ (∀ r ∈ wideResponses, r.Fits) ∧
    (∀ e ∈ [EventPayload.focusChanged none, .applicationMoved 18446744073709551615 0], e.Fits) ∧
    readLines Request.decoder (writeLines ([wideRequest, wideRequest].map Request.toJson)) =
      some [.ok wideRequest, .ok wideRequest] ∧
    readLines Response.decoder (writeLines (wideResponses.map Response.toJson)) =
      some (wideResponses.map .ok) ∧
    readLines EventPayload.decoder (writeLines
      ([EventPayload.focusChanged none, .applicationMoved 18446744073709551615 0].map
        EventPayload.toJson)) =
      some [.ok (.focusChanged none), .ok (.applicationMoved 18446744073709551615 0)] := by
  have request : wideRequest.Fits := ⟨by decide, by decide, trivial⟩
  have requests : ∀ r ∈ [wideRequest, wideRequest], r.Fits := by simpa using request
  have view : wideView.Fits := ⟨by decide, by decide⟩
  have views : ∀ v ∈ [wideView, wideView], v.Fits := by simpa using view
  have responses : ∀ r ∈ wideResponses, r.Fits :=
    List.forall_mem_cons.mpr ⟨⟨by decide, by decide, views⟩,
      List.forall_mem_singleton.mpr ⟨by decide, by decide, trivial⟩⟩
  have events : ∀ e ∈ [EventPayload.focusChanged none, .applicationMoved 18446744073709551615 0],
      e.Fits := by
    simp [EventPayload.Fits]
  exact ⟨requests, responses, events, messages_read_back.1 _ requests,
    messages_read_back.2.1 _ responses, messages_read_back.2.2 _ events⟩

/-! ## The server -/

/-- A line that holds a request is queued as the request. -/
lemma Server.readLine_of_parse (s : Server) (client : ClientId) {line : String} {r : Request}
    (parsed : Request.parse line = some (.ok r)) :
    s.readLine client line = { s.update client (fun c =>
        if c.listed then { c with subscribed := subscription r.command c.subscribed } else c) with
      queue := s.queue ++ [.request client r] } := by
  unfold Request.parse at parsed
  unfold Server.readLine
  cases trimmed : Text.trim line.toList with
  | nil =>
    rw [trimmed] at parsed
    cases parsed
  | cons c cs =>
    rw [trimmed] at parsed
    dsimp only
    rw [Option.some.inj parsed]
    rfl

/-- The reader of a connection takes a request off its line, and reads on. -/
lemma Server.readBytes_request (s : Server) {client : ClientId} {r : Request} (fits : r.Fits)
    (reading : (s.connection? client).any Connection.reading = true) :
    (s.readBytes client (Text.encode (r.toJson.write []))).queue =
        s.queue ++ [.request client r] ∧
      ((s.readBytes client (Text.encode (r.toJson.write []))).connection? client).any
        Connection.reading = true := by
  have parsed : Request.parse (String.ofList (r.toJson.write [])) = some (.ok r) := by
    rw [← parseLine_request]
    exact parseLine_text (r.decodes fits) (by decide) ⟨_, rfl⟩
  rw [readBytes, if_pos reading, Text.decode?_encode]
  dsimp only
  rw [readLine_of_parse s client parsed]
  refine ⟨rfl, ?_⟩
  -- a reader may change the subscription of its client, and nothing else of the connection
  unfold connection?
  dsimp only
  rw [← connection?, Tasks.connection?_update _ _ _ fun k => by split <;> rfl, if_pos rfl]
  cases found : s.connection? client with
  | none => rw [found] at reading; cases reading
  | some c =>
    rw [found] at reading
    rw [Option.map_some, Option.any_some]
    split <;> exact reading

/-- Requests that arrive in full are handed to the daemon as they were sent. -/
theorem Server.receive_requests (s : Server) {client : ClientId} {c : Connection}
    (found : s.connection? client = some c) (reading : c.reading = true)
    (idle : c.unfinished = []) (requests : List Request) (fits : ∀ r ∈ requests, r.Fits) :
    (s.receive client (writeLines (requests.map Request.toJson))).queue =
      s.queue ++ requests.map (.request client) := by
  have split := splitLines_writeLines (requests.map Request.toJson) fun v mem => by
    obtain ⟨r, hr, rfl⟩ := List.mem_map.mp mem
    exact ⟨3, (r.decodes (fits r hr)).plain⟩
  have queued : ∀ s : Server, (s.connection? client).any Connection.reading = true →
      ((requests.map fun r => Text.encode (r.toJson.write [])).foldl (readBytes client) s).queue =
        s.queue ++ requests.map (.request client) := by
    clear split
    induction requests with
    | nil => exact fun s _ => (List.append_nil s.queue).symm
    | cons r requests ih =>
      intro s reads
      obtain ⟨queue, still⟩ := s.readBytes_request (fits r List.mem_cons_self) reads
      have others := ih (fun q mem => fits q (List.mem_cons_of_mem r mem)) _ still
      rw [List.map_cons, List.foldl_cons, others, queue, List.append_assoc]
      rfl
  have all := queued s (by rw [found]; exact reading)
  rw [receive, found]
  dsimp only
  rw [idle, List.nil_append, split, List.map_map]
  exact all

/-! ## The client -/

/-- The numbers of a line fit the width of their fields. -/
def Incoming.Fits : Incoming → Prop
  | .response r => r.Fits
  | .event e => e.Fits

/-- A line is parsed to the value that was written, and then read by its members. -/
lemma Incoming.ofLine_text {levels : Nat} {ms : List (String × Value)}
    (plain : (Value.object ms).Plain levels) (few : levels < Json.maxDepth) :
    Incoming.ofLine (Value.object ms).text =
      if ms.any (·.1 = "result") then
        match Json.decodeValue Response.decoder (.object ms) with
        | .ok r => .ok (.response r)
        | .error failure => .error (.json failure)
      else
        match Json.decodeValue Event.decoder (.object ms) with
        | .ok e => .ok (.event e)
        | .error failure => .error (.json failure) := by
  have trimmed : String.ofList (Text.trim (Value.object ms).text.toList) =
      (Value.object ms).text := by
    rw [Value.text, String.toList_ofList, trim_write]
  rw [Incoming.ofLine, trimmed, Json.parse_text plain few]
  rfl

/-- A client, which looks for a result before it knows the type of a line, reads each line as it was
written. -/
theorem Incoming.ofLine_line (i : Incoming) (fits : i.Fits) : Incoming.ofLine i.line = .ok i := by
  cases i with
  | response r =>
    have written := r.decodes fits
    have read := written.decodeValue (by decide)
    rw [Incoming.line, Response.line, Response.toJson]
    rw [Response.toJson] at written read
    rw [Incoming.ofLine_text written.plain (by decide), if_pos (by simp), read]
  | event e =>
    have written := e.decodes fits
    have read := written.decodeValue (by decide)
    rw [Incoming.line, Event.line, Event.toJson]
    rw [Event.toJson] at written read
    rw [Incoming.ofLine_text written.plain (by decide), if_neg (by simp), read]

end AppLifecycle
