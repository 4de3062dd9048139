import AppLifecycle.Proofs.Json.Decoding
import AppLifecycle.Protocol.Wire

/-!
# Messages are read as they are written

For each type of message, and for each type that occurs in one, its decoder reads its written form
back. Numbers have to fit the width of their fields; `Fits` says so for the types that have numbers.
-/

namespace AppLifecycle

open Json (Value Decoder Fields Decodes)

/-! ## Names -/

/-- A name is read back if no two members of the enumeration share it. -/
lemma decodes_namesOf {α : Type} {all : List α} {name : α → String} {a : α} (levels : Nat)
    (known : (namesOf all name).find? (·.1 = name a) = some (name a, a)) :
    Decodes (Json.name (namesOf all name)) levels (.string (name a)) a :=
  Json.decodes_name known levels

lemma Stage.decodes (s : Stage) (levels : Nat) : Decodes Stage.decoder levels s.toJson s :=
  decodes_namesOf levels (by cases s <;> decide)

lemma Orientation.decodes (o : Orientation) (levels : Nat) :
    Decodes Orientation.decoder levels o.toJson o :=
  decodes_namesOf levels (by cases o <;> decide)

lemma InternalState.decodes (s : InternalState) (levels : Nat) :
    Decodes InternalState.decoder levels s.toJson s :=
  decodes_namesOf levels (by cases s <;> decide)

lemma PublicState.decodes (s : PublicState) (levels : Nat) :
    Decodes PublicState.decoder levels s.toJson s :=
  decodes_namesOf levels (by cases s <;> decide)

lemma RequestedState.decodes (s : RequestedState) (levels : Nat) :
    Decodes RequestedState.decoder levels s.toJson s :=
  decodes_namesOf levels (by cases s <;> decide)

lemma ProcessState.decodes (s : ProcessState) (levels : Nat) :
    Decodes ProcessState.decoder levels s.toJson s :=
  decodes_namesOf levels (by cases s <;> decide)

lemma SessionState.decodes (s : SessionState) (levels : Nat) :
    Decodes SessionState.decoder levels s.toJson s :=
  decodes_namesOf levels (by cases s <;> decide)

lemma SessionAction.decodes (a : SessionAction) (levels : Nat) :
    Decodes SessionAction.decoder levels a.toJson a :=
  decodes_namesOf levels (by cases a <;> decide)

lemma ModelField.decodes (f : ModelField) (levels : Nat) :
    Decodes ModelField.decoder levels f.toJson f :=
  decodes_namesOf levels (by cases f <;> decide)

lemma ErrorCode.decodes (c : ErrorCode) (levels : Nat) :
    Decodes ErrorCode.decoder levels c.toJson c :=
  decodes_namesOf levels (by cases c <;> decide)

/-! ## Ids -/

lemma AppId.decodes (id : AppId) (levels : Nat) : Decodes AppId.decoder levels id.toJson id :=
  (Json.decodes_text id.text levels).map AppId.mk

namespace Uuid

lemma digit?_digitChar (d : Fin 16) : digit? (digitChar d) = some d := by
  revert d
  decide

lemma digitChar_ne_hyphen (d : Fin 16) : digitChar d ≠ '-' := by
  revert d
  decide

/-- The groups of a text are read back, from any digit on. -/
lemma readGroups_writeFrom (ds : List (Fin 16)) : ∀ i, readGroups i (writeFrom i ds) = some ds := by
  induction ds with
  | nil => exact fun _ => rfl
  | cons d ds ih =>
    intro i
    have others := ih (i + 1)
    by_cases group : startsGroup i = true
    · rw [writeFrom, if_pos group, readGroups, if_pos group, digit?_digitChar, others]
      rfl
    · have plain : readGroups i (digitChar d :: writeFrom (i + 1) ds) = (do
          let d ← digit? (digitChar d)
          let ds ← readGroups (i + 1) (writeFrom (i + 1) ds)
          return d :: ds) := by
        rw [readGroups, if_neg group]
        exact fun c rest same => absurd same (digitChar_ne_hyphen d)
      rw [writeFrom, if_neg group, plain, digit?_digitChar, others]
      rfl

/-- A text has its digits and a hyphen for each group that begins after the first digit. -/
lemma length_writeFrom (ds : List (Fin 16)) : ∀ i, (writeFrom i ds).length =
    ds.length + ((List.range' i ds.length).countP startsGroup) := by
  induction ds with
  | nil => exact fun _ => rfl
  | cons d ds ih =>
    intro i
    have others := ih (i + 1)
    rw [List.length_cons, List.range'_succ, List.countP_cons]
    by_cases group : startsGroup i = true
    · rw [writeFrom, if_pos group, if_pos group, List.length_cons, List.length_cons, others]
      omega
    · rw [writeFrom, if_neg group, if_neg group, List.length_cons, others]
      omega

/-- A digit begins neither braces nor `urn:uuid:`. -/
lemma no_wrapping (d : Fin 16) (cs : List Char) :
    dropBraces? (digitChar d :: cs) = none ∧ dropUrn? (digitChar d :: cs) = none := by
  have brace : digitChar d ≠ '\x7b' := by
    revert d
    decide
  have urn : (digitChar d).toLower ≠ 'u' := by
    revert d
    decide
  constructor
  · unfold dropBraces?
    split
    next same => exact absurd (List.cons.inj same).1 brace
    next => rfl
  · exact if_neg fun same => urn (List.cons.inj same).1

/-- A written identifier is read back. -/
theorem ofChars?_text (u : Uuid) : ofChars? u.text.toList = some u := by
  obtain ⟨ds, size⟩ := u
  have chars : (Uuid.mk ds size).text.toList = writeFrom 0 ds := String.toList_ofList
  have long : (writeFrom 0 ds).length = 36 := by
    rw [length_writeFrom, size]
    rfl
  obtain ⟨d, others, rfl⟩ := List.exists_cons_of_length_pos (by omega : 0 < ds.length)
  have first : writeFrom 0 (d :: others) = digitChar d :: writeFrom 1 others := rfl
  obtain ⟨braces, urn⟩ := no_wrapping d (writeFrom 1 others)
  rw [← first] at braces urn
  rw [chars, ofChars?, if_neg (by omega), braces, urn, Option.or_none, Option.getD_none]
  dsimp only
  rw [readGroups_writeFrom, Option.bind_some, ofDigits?, dif_pos size]

lemma decodes (u : Uuid) (levels : Nat) : Decodes Uuid.decoder levels u.toJson u := by
  refine ⟨.string u.text, fun site _ => ?_⟩
  have text : Json.ofRead (Json.Token.ok u.text).read = .ok u.text := rfl
  rw [Uuid.toJson, Json.Node.ofValue, decoder, text, Json.ok_bind]
  dsimp only
  rw [ofChars?_text]

end Uuid

lemma SessionId.decodes (id : SessionId) (levels : Nat) :
    Decodes SessionId.decoder levels id.toJson id :=
  (id.uuid.decodes levels).map SessionId.mk

lemma ClientId.decodes (id : ClientId) (levels : Nat) :
    Decodes ClientId.decoder levels id.toJson id :=
  (id.uuid.decodes levels).map ClientId.mk

/-! ## Fields -/

/-- A field that may be missing is written all the same, as `null`. -/
lemma decodes_option {α : Type} {d : Decoder α} {f : α → Value} {levels : Nat} (o : Option α)
    (h : ∀ a, Decodes d levels (f a) a) (other : ∀ a, f a ≠ .null) :
    Decodes (Json.option d) levels (.option f o) o :=
  match o with
  | none => Json.decodes_none d levels
  | some a => Json.decodes_some (h a) (other a)

lemma decodes_word32 {n : Nat} (fits : n < Nat.pow 2 32) (levels : Nat) :
    Decodes Json.word32 levels (.nat n) n :=
  Json.decodes_natural "u32" fits (by decide) levels

lemma decodes_word64 {n : Nat} (fits : n < Nat.pow 2 64) (levels : Nat) :
    Decodes Json.word64 levels (.nat n) n :=
  Json.decodes_natural "u64" fits (Nat.le_refl _) levels

lemma decodes_count {n : Nat} (fits : n < Nat.pow 2 64) (levels : Nat) :
    Decodes Json.count levels (.nat n) n :=
  Json.decodes_natural "usize" fits (Nat.le_refl _) levels

/-! ## Tagged values -/

section Tagged

variable {α : Type} {bodies : List (String × Json.Body α)} {key : String} {a : α}

/-- A tagged value without fields. -/
lemma decodes_bare (expected : String) (levels : Nat)
    (known : bodies.find? (·.1 = key) = some (key, .bare a)) :
    Decodes (Json.tagged expected bodies) (levels + 1) (Command.tag key []) a :=
  Json.decodes_tagged expected known ⟨rfl, rfl⟩ fun _ mem => nomatch mem

/-- A tagged value with fields. -/
lemma decodes_fields {fields : Fields α} {levels : Nat} {members : List (String × Value)}
    {expected described : String} (h : fields.Holds levels members a)
    (known : bodies.find? (·.1 = key) = some (key, .fields described fields))
    (distinct : ("type" :: members.map Prod.fst).Nodup) :
    Decodes (Json.tagged expected bodies) (levels + 1) (Command.tag key members) a := by
  obtain ⟨other, names⟩ := List.nodup_cons.mp distinct
  refine Json.decodes_tagged expected known ⟨h, names⟩ fun m mem same => ?_
  exact other (same ▸ List.mem_map_of_mem mem)

end Tagged

/-! ## Requests -/

namespace Command

/-- The numbers of a command fit the width of their fields. -/
def Fits : Command → Prop
  | .authorizeSession pid => pid < Nat.pow 2 32
  | .sessionStarting _ pid => pid < Nat.pow 2 32
  | _ => True

lemma idField_holds (id : AppId) (levels : Nat) :
    idField.Holds levels [("app_id", id.toJson)] id :=
  .required "app_id" (id.decodes levels)

lemma sessionField_holds (id : SessionId) (levels : Nat) :
    sessionField.Holds levels [("session_id", id.toJson)] id :=
  .required "session_id" (id.decodes levels)

lemma pidField_holds {pid : Nat} (fits : pid < Nat.pow 2 32) (levels : Nat) :
    pidField.Holds levels [("pid", .nat pid)] pid :=
  .required "pid" (decodes_word32 fits levels)

/-- A command is read as it is written. -/
theorem decodes (c : Command) (fits : c.Fits) : Decodes decoder 2 c.toJson c := by
  cases c with
  | listApplications | subscribeEvents | unsubscribeEvents | getHealth | ping =>
    exact decodes_bare _ 1 rfl
  | getApplication id | stopApplication id | focusApplication id | suspendApplication id
  | resumeApplication id | updateScreenshot id =>
    exact decodes_fields ((idField_holds id 1).map _) rfl (by simp)
  | startApplication id args =>
    have texts := Json.decodes_list args fun s _ => Json.decodes_text s 0
    exact decodes_fields (((idField_holds id 1).map _).seq (.defaulted "args" [] texts)) rfl
      (by simp)
  | setExemptFromLifecycle id exempt =>
    have exempts := Json.decodes_boolean exempt 1
    exact decodes_fields (((idField_holds id 1).map _).seq (.required "exempt" exempts)) rfl
      (by simp)
  | setStage id stage =>
    have stages := stage.decodes 1
    exact decodes_fields (((idField_holds id 1).map _).seq (.required "stage" stages)) rfl
      (by simp)
  | authorizeSession pid => exact decodes_fields ((pidField_holds fits 1).map _) rfl (by simp)
  | sessionStarting session pid =>
    exact decodes_fields (((sessionField_holds session 1).map _).seq (pidField_holds fits 1)) rfl
      (by simp)
  | sessionStateChanged session state =>
    have states := state.decodes 1
    exact decodes_fields (((sessionField_holds session 1).map _).seq (.required "state" states))
      rfl (by simp)
  | sessionCloseCompleted session =>
    exact decodes_fields ((sessionField_holds session 1).map _) rfl (by simp)

end Command

namespace Request

/-- The numbers of a request fit the width of their fields. -/
structure Fits (r : Request) : Prop where
  requestId : r.requestId < Nat.pow 2 64
  apiVersion : r.apiVersion < Nat.pow 2 32
  command : r.command.Fits

/-- A request is read as it is written. -/
theorem decodes (r : Request) (fits : r.Fits) : Decodes decoder 3 r.toJson r := by
  have fields := (((Fields.Holds.required "request_id" (decodes_word64 fits.requestId 2)).map
    Request.mk).seq (.required "api_version" (decodes_word32 fits.apiVersion 2))).seq
    (.required "command" (r.command.decodes fits.command))
  exact Json.decodes_record _ fields (by simp)

end Request

/-! ## Responses -/

namespace ApplicationView

/-- The numbers of a view fit the width of their fields. -/
structure Fits (v : ApplicationView) : Prop where
  pid : v.pid < Nat.pow 2 32
  screenshot : v.screenshot < Nat.pow 2 64

lemma fields_holds (v : ApplicationView) (fits : v.Fits) : fields.Holds 1 v.members v := by
  have comment := decodes_option v.comment (fun s => Json.decodes_text s 1) nofun
  have icon := decodes_option v.icon (fun s => Json.decodes_text s 1) nofun
  have stages := Json.decodes_list v.stages fun s _ => s.decodes 0
  have orientations := Json.decodes_list v.orientations fun o _ => o.decodes 0
  have named := ((Fields.Holds.required "app_id" (v.id.decodes 1)).map ApplicationView.mk).seq
    (.required "name" (Json.decodes_text v.name 1))
  have described := (named.seq (.optional "comment" comment)).seq (.optional "icon" icon)
  have states := (((described.seq (.required "state" (v.state.decodes 1))).seq
    (.required "internal_state" (v.internal.decodes 1))).seq
    (.required "requested_state" (v.requested.decodes 1))).seq
    (.required "process_state" (v.process.decodes 1))
  have focus := (states.seq (.required "pid" (decodes_word32 fits.pid 1))).seq
    (.required "focused" (Json.decodes_boolean v.focused 1))
  have places := ((focus.seq (.required "stage" (v.stage.decodes 1))).seq
    (.required "supported_stages" stages)).seq
    (.defaulted "supported_orientations" [] orientations)
  have all := ((places.seq (.required "exempt_from_lifecycle"
    (Json.decodes_boolean v.exempt 1))).seq
    (.required "can_be_resumed" (Json.decodes_boolean v.canBeResumed 1))).seq
    (.required "screenshot_generation" (decodes_word64 fits.screenshot 1))
  -- the members in one list, as they are written
  simp only [List.cons_append, List.nil_append] at all
  exact all

/-- No two members of a view share a name, and none is called like a tag. -/
lemma members_distinct (v : ApplicationView) : ("type" :: v.members.map Prod.fst).Nodup := by
  simp [members]

lemma decodes (v : ApplicationView) (fits : v.Fits) : Decodes decoder 2 v.toJson v :=
  Json.decodes_record expected (v.fields_holds fits) (List.nodup_cons.mp v.members_distinct).2

end ApplicationView

lemma HealthStatus.fields_holds (h : HealthStatus) (fits : h.applicationCount < Nat.pow 2 64) :
    HealthStatus.fields.Holds 1 h.members h :=
  ((((Fields.Holds.required "live" (Json.decodes_boolean h.live 1)).map HealthStatus.mk).seq
    (.required "ready" (Json.decodes_boolean h.ready 1))).seq
    (.required "application_count" (decodes_count fits 1))).seq
    (.required "wakelock_held" (Json.decodes_boolean h.wakelockHeld 1))

lemma ErrorInfo.decodes (e : ErrorInfo) : Decodes ErrorInfo.decoder 1 e.toJson e :=
  Json.decodes_record _ (((Fields.Holds.required "code" (e.code.decodes 0)).map ErrorInfo.mk).seq
    (.required "message" (Json.decodes_text e.message 0))) (by simp)

namespace ResponsePayload

/-- The numbers of a payload fit the width of their fields. -/
def Fits : ResponsePayload → Prop
  | .applications views => ∀ v ∈ views, v.Fits
  | .application view => view.Fits
  | .started view => view.Fits
  | .health status => status.applicationCount < Nat.pow 2 64
  | _ => True

/-- A payload is read as it is written. -/
theorem decodes (p : ResponsePayload) (fits : p.Fits) : Decodes decoder 4 p.toJson p := by
  cases p with
  | applications views =>
    have list := Json.decodes_list views fun v mem => v.decodes (fits v mem)
    exact decodes_fields ((Fields.Holds.required "applications" list).map _) rfl (by simp)
  | application view | started view =>
    exact (decodes_fields ((view.fields_holds fits).map _) rfl view.members_distinct).mono
      (by decide)
  | accepted b =>
    exact decodes_fields ((Fields.Holds.required "accepted" (Json.decodes_boolean b 3)).map _) rfl
      (by simp)
  | authorization b =>
    exact decodes_fields ((Fields.Holds.required "approved" (Json.decodes_boolean b 3)).map _) rfl
      (by simp)
  | sessionAttached id =>
    exact decodes_fields ((Fields.Holds.required "app_id" (id.decodes 3)).map _) rfl (by simp)
  | subscribed client =>
    exact decodes_fields ((Fields.Holds.required "client_id" (client.decodes 3)).map _) rfl
      (by simp)
  | unsubscribed | ack | pong => exact decodes_bare _ 3 rfl
  | health status =>
    exact (decodes_fields ((status.fields_holds fits).map _) rfl
      (by simp [HealthStatus.members])).mono (by decide)

end ResponsePayload

namespace Outcome

/-- The numbers of an outcome fit the width of their fields. -/
def Fits : Outcome → Prop
  | .ok payload => payload.Fits
  | .err _ => True

lemma decodes (o : Outcome) (fits : o.Fits) : Decodes decoder 5 o.toJson o := by
  cases o with
  | ok payload =>
    have read := (payload.decodes fits).map Outcome.ok
    exact Json.decodes_variant rfl read
  | err e =>
    have read := (e.decodes.mono (by decide : 1 ≤ 4)).map Outcome.err
    exact Json.decodes_variant rfl read

end Outcome

namespace Response

/-- The numbers of a response fit the width of their fields. -/
structure Fits (r : Response) : Prop where
  requestId : r.requestId < Nat.pow 2 64
  apiVersion : r.apiVersion < Nat.pow 2 32
  result : r.result.Fits

/-- A response is read as it is written. -/
theorem decodes (r : Response) (fits : r.Fits) : Decodes decoder 6 r.toJson r := by
  have fields := (((Fields.Holds.required "request_id" (decodes_word64 fits.requestId 5)).map
    Response.mk).seq (.required "api_version" (decodes_word32 fits.apiVersion 5))).seq
    (.required "result" (r.result.decodes fits.result))
  exact Json.decodes_record _ fields (by simp)

end Response

/-! ## Events -/

namespace EventPayload

/-- The numbers of an event fit the width of their fields. -/
def Fits : EventPayload → Prop
  | .applicationAdded index _ => index < Nat.pow 2 64
  | .applicationRemoved index _ => index < Nat.pow 2 64
  | .applicationMoved source target => source < Nat.pow 2 64 ∧ target < Nat.pow 2 64
  | .countChanged count => count < Nat.pow 2 64
  | _ => True

lemma indexField_holds {index : Nat} (fits : index < Nat.pow 2 64) (levels : Nat) :
    indexField.Holds levels [("index", .nat index)] index :=
  .required "index" (decodes_count fits levels)

/-- An event is read as it is written. -/
theorem decodes (p : EventPayload) (fits : p.Fits) : Decodes decoder 1 p.toJson p := by
  cases p with
  | applicationAdded index id | applicationRemoved index id =>
    exact decodes_fields (((indexField_holds fits 0).map _).seq (Command.idField_holds id 0)) rfl
      (by simp)
  | applicationMoved source target =>
    exact decodes_fields (((Fields.Holds.required "from" (decodes_count fits.1 0)).map _).seq
      (.required "to" (decodes_count fits.2 0))) rfl (by simp)
  | countChanged count =>
    exact decodes_fields ((Fields.Holds.required "count" (decodes_count fits 0)).map _) rfl
      (by simp)
  | focusChanged id =>
    have app := decodes_option id (fun id => id.decodes 0) nofun
    exact decodes_fields ((Fields.Holds.optional "app_id" app).map _) rfl (by simp)
  | fieldChanged id field =>
    exact decodes_fields (((Command.idField_holds id 0).map _).seq
      (.required "field" (field.decodes 0))) rfl (by simp)
  | focusRequested id => exact decodes_fields ((Command.idField_holds id 0).map _) rfl (by simp)
  | sessionRequest session action =>
    exact decodes_fields (((Command.sessionField_holds session 0).map _).seq
      (.required "action" (action.decodes 0))) rfl (by simp)
  | shutdown => exact decodes_bare _ 0 rfl

end EventPayload

namespace Event

/-- The numbers of an event fit the width of their fields. -/
structure Fits (e : Event) : Prop where
  apiVersion : e.apiVersion < Nat.pow 2 32
  payload : e.payload.Fits

/-- An event as it is sent is read as it is written. -/
theorem decodes (e : Event) (fits : e.Fits) : Decodes decoder 2 e.toJson e := by
  have fields := (((Fields.Holds.required "api_version" (decodes_word32 fits.apiVersion 1)).map
    Event.mk).seq (.required "timestamp" (Json.decodes_text e.timestamp 1))).seq
    (.required "payload" (e.payload.decodes fits.payload))
  exact Json.decodes_record _ fields (by simp)

end Event

end AppLifecycle
