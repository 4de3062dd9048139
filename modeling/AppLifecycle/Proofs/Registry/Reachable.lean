import AppLifecycle.Proofs.Registry.Course
import Mathlib.Data.List.Induction
import Mathlib.Data.List.Infix
import Mathlib.Data.List.Nodup

/-!
# Reachable registries

`Reachable P` holds of every registry that operations lead to from an empty one, in any number and
order, as long as the answers that each operation gets satisfy `P`. An invariant is proved of the
empty registry and of the steps (`Reachable.invariant`); one that speaks of each record by itself is
proved of what is done to a record (`Step.forall_entries`).
-/

namespace AppLifecycle

/-- The descriptor found for an application is that of the application. -/
def Host.Faithful (host : Host) : Prop :=
  ∀ id descriptor, host.findMetadata id = some descriptor → descriptor.id = id

/-- A machine that knows every application and does what it is asked to. -/
def Host.willing : Host where
  now := ⟨0⟩
  findMetadata id := some (.basic id id.text [id.text])
  start _ _ := .ok ()
  stop _ := .ok ()
  terminate _ := .ok ()
  hasProcess _ _ := true
  commandLine pid := .error (.noSuchProcess pid)
  sessionState _ := .running
  grants _ := true

lemma Host.willing_faithful : Host.willing.Faithful := by
  intro id descriptor h
  have same : Descriptor.basic id id.text [id.text] = descriptor := Option.some.inj h
  rw [← same]
  rfl

namespace Registry

inductive Reachable (P : Host → Prop) : Registry → Prop where
  | empty (lifecycle : LifecyclePolicy) (authorization : AuthorizationPolicy) :
      Reachable P (.empty lifecycle authorization)
  | perform {reg : Registry} {host : Host} (op : Operation) :
      Reachable P reg → P host → Reachable P (reg.perform host op).2
  | takeEvents {reg : Registry} : Reachable P reg → Reachable P reg.takeEvents.2
  | takeJournal {reg : Registry} : Reachable P reg → Reachable P reg.takeJournal.2

variable {P : Host → Prop} {host : Host} {op : Operation} {reg reg' : Registry}
variable {front back : List Record} {r q : Record} {id : AppId} {s : Scene}

lemma Reachable.mono {Q : Host → Prop} (h : Reachable P reg) (weaker : ∀ host, P host → Q host) :
    Reachable Q reg := by
  induction h with
  | empty lifecycle authorization => exact .empty lifecycle authorization
  | perform op _ hhost ih => exact ih.perform op (weaker _ hhost)
  | takeEvents _ ih => exact ih.takeEvents
  | takeJournal _ ih => exact ih.takeJournal

lemma Reachable.performAll (h : Reachable P reg) {ops : List (Host × Operation)}
    (hosts : ∀ x ∈ ops, P x.1) : Reachable P (reg.performAll ops) := by
  induction ops generalizing reg with
  | nil => exact h
  | cons x ops ih =>
    rw [List.forall_mem_cons] at hosts
    exact ih (h.perform x.2 hosts.1) hosts.2

/-- What steps keep is kept by operations. -/
lemma Steps.invariant {I : Registry → Prop}
    (hstep : ∀ reg reg', Step host op reg reg' → I reg → I reg')
    (steps : Steps host op reg reg') (h : I reg) : I reg' := by
  induction steps with
  | refl => exact h
  | tail _ step ih => exact hstep _ _ step ih

/-- What holds of an empty registry and is kept by every step holds of every reachable registry,
unless it speaks of the events or the effects that have gathered. -/
theorem Reachable.invariant {I : Registry → Prop} (h : Reachable P reg)
    (hempty : ∀ lifecycle authorization, I (.empty lifecycle authorization))
    (hstep : ∀ host op reg reg', P host → Step host op reg reg' → I reg → I reg')
    (htake : ∀ (reg : Registry) events journal, I reg → I { reg with events, journal }) :
    I reg := by
  induction h with
  | empty lifecycle authorization => exact hempty lifecycle authorization
  | perform op _ hhost ih =>
    exact Steps.invariant (fun _ _ step => hstep _ op _ _ hhost step) (perform_steps _ op _) ih
  | takeEvents _ ih => exact htake _ [] _ ih
  | takeJournal _ ih => exact htake _ _ [] ih

/-! ## The focus flag -/

lemma setFocused_eq (h : Located reg front r back) (focused : Bool) :
    reg.setFocused r.id focused =
      ({ reg with entries := front ++ { r with focused } :: back }).emit
        (if r.focused ≠ focused then [.fieldChanged r.id .focused] else []) := by
  have hindex : reg.entries.findIdx? (fun q => decide (q.id = r.id)) = some front.length :=
    h.indexOf
  have hset : reg.entries.set front.length { r with focused } =
      front ++ { r with focused } :: back := by
    rw [h.entries, List.set_append_right _ _ (Nat.le_refl _), Nat.sub_self, List.set_cons_zero]
  unfold setFocused
  rw [hindex]
  dsimp only
  rw [h.getElem?]
  dsimp only
  rw [hset]

lemma setFocused_eq_self (h : reg.indexOf id = none) (focused : Bool) :
    reg.setFocused id focused = reg := by
  have hindex : reg.entries.findIdx? (fun q => decide (q.id = id)) = none := h
  unfold setFocused
  rw [hindex]

lemma setFocused_frame (reg : Registry) (id : AppId) (focused : Bool) :
    ∃ entries events, reg.setFocused id focused = { reg with entries, events } := by
  cases hindex : reg.indexOf id with
  | none => exact ⟨reg.entries, reg.events, setFocused_eq_self hindex focused⟩
  | some index =>
    obtain ⟨front, r, back, place, rfl, -⟩ := exists_located hindex
    exact ⟨_, _, setFocused_eq place focused⟩

lemma clearFocus_frame (reg : Registry) :
    ∃ entries events focused, reg.clearFocus = { reg with entries, events, focused } := by
  unfold clearFocus
  split
  · exact ⟨reg.entries, reg.events, reg.focused, rfl⟩
  · rename_i old _
    obtain ⟨entries, events, h⟩ :=
      ({ reg with focused := none } : Registry).setFocused_frame old false
    exact ⟨entries, events, none, h⟩

/-- Nothing but the records, the events and the focus is touched where the focus moves. -/
lemma passFocus_frame (reg : Registry) (id : AppId) :
    ∃ entries events, reg.passFocus id = { reg with entries, events, focused := some id } := by
  obtain ⟨entries, events, focused, hclear⟩ := reg.clearFocus_frame
  obtain ⟨entries', events', hset⟩ := reg.clearFocus.setFocused_frame id true
  refine ⟨entries', events' ++ [.focusChanged (some id)], ?_⟩
  unfold passFocus
  rw [hset, hclear]
  rfl

/-- What the focus flag does not matter to survives a change of the focus. -/
lemma forall_setFocused {Q : Record → Prop}
    (hfocus : ∀ (r : Record) focused, Q r → Q { r with focused }) (focused : Bool)
    (h : ∀ r ∈ reg.entries, Q r) : ∀ r ∈ (reg.setFocused id focused).entries, Q r := by
  cases hindex : reg.indexOf id with
  | none =>
    rw [setFocused_eq_self hindex]
    exact h
  | some index =>
    obtain ⟨front, r, back, place, rfl, -⟩ := exists_located hindex
    rw [setFocused_eq place]
    rw [place.entries] at h
    intro q hq
    obtain hq | hq := List.mem_append.mp hq
    · exact h q (List.mem_append_left _ hq)
    · obtain rfl | hq := List.mem_cons.mp hq
      · exact hfocus r focused (h r (List.mem_append_right _ List.mem_cons_self))
      · exact h q (List.mem_append_right _ (List.mem_cons_of_mem _ hq))

lemma forall_passFocus {Q : Record → Prop}
    (hfocus : ∀ (r : Record) focused, Q r → Q { r with focused }) (id : AppId)
    (h : ∀ r ∈ reg.entries, Q r) : ∀ r ∈ (reg.passFocus id).entries, Q r := by
  refine forall_setFocused hfocus true ?_
  unfold clearFocus
  split
  · exact h
  · exact forall_setFocused hfocus false h

/-- What the focus flag does not matter to is the same for every record after a change of the
focus. -/
lemma map_setFocused {α : Type} {g : Record → α}
    (hfocus : ∀ (r : Record) focused, g { r with focused } = g r) (focused : Bool) :
    (reg.setFocused id focused).entries.map g = reg.entries.map g := by
  cases hindex : reg.indexOf id with
  | none => rw [setFocused_eq_self hindex]
  | some index =>
    obtain ⟨front, r, back, place, rfl, -⟩ := exists_located hindex
    rw [setFocused_eq place]
    show (front ++ { r with focused } :: back).map g = reg.entries.map g
    rw [place.entries, List.map_append, List.map_append, List.map_cons, List.map_cons, hfocus]

lemma map_clearFocus {α : Type} {g : Record → α}
    (hfocus : ∀ (r : Record) focused, g { r with focused } = g r) :
    reg.clearFocus.entries.map g = reg.entries.map g := by
  unfold clearFocus
  split
  · rfl
  · exact map_setFocused hfocus false

lemma map_passFocus {α : Type} {g : Record → α}
    (hfocus : ∀ (r : Record) focused, g { r with focused } = g r) (id : AppId) :
    (reg.passFocus id).entries.map g = reg.entries.map g :=
  (map_setFocused hfocus true).trans (map_clearFocus hfocus)

/-! ## Membership after a step -/

/-- Where the records differ in something, the others differ from the one at hand. -/
lemma nodup_map_split {α : Type} {g : Record → α} (h : ((front ++ r :: back).map g).Nodup) :
    ((front ++ back).map g).Nodup ∧ ∀ q ∈ front ++ back, g q ≠ g r := by
  rw [List.map_append, List.map_cons, List.nodup_middle, List.nodup_cons, ← List.map_append] at h
  refine ⟨h.2, fun q hq same => h.1 ?_⟩
  rw [← same]
  exact List.mem_map_of_mem hq

lemma mem_place (h : q ∈ (reg.place front r back s).entries) :
    q ∈ front ++ back ∨ q = s.record :=
  (mem_middle_iff.mp h).symm

/-- A record that has stopped is not in the registry any more. -/
lemma mem_settle (h : q ∈ (reg.settle front r back s).entries) :
    q ∈ front ++ back ∨ q = s.record ∧ s.record.state ≠ .stopped := by
  unfold settle at h
  split at h
  · exact .inl h
  · rename_i running
    exact (mem_place h).imp_right fun hq => ⟨hq, running⟩

lemma mem_settle_self (running : s.record.state ≠ .stopped) :
    s.record ∈ (reg.settle front r back s).entries := by
  unfold settle
  rw [if_neg running]
  exact List.mem_append_right _ List.mem_cons_self

lemma mem_settle_of_mem (h : q ∈ front ++ back) :
    q ∈ (reg.settle front r back s).entries := by
  unfold settle
  split
  · exact h
  · exact mem_middle_iff.mpr (.inr h)

/-- Where something holds of all records, and of any that has stopped, it is the record at hand that
matters. -/
lemma forall_settle {Q : Record → Prop} (h : ∀ q ∈ reg.entries, Q q)
    (entries : reg.entries = front ++ r :: back) (gone : s.record.state = .stopped → Q s.record) :
    (∀ q ∈ (reg.settle front r back s).entries, Q q) ↔ Q s.record := by
  constructor
  · intro settled
    by_cases stopped : s.record.state = .stopped
    · exact gone stopped
    · exact settled _ (mem_settle_self stopped)
  · intro holds q hq
    obtain hq | ⟨rfl, -⟩ := mem_settle hq
    · exact h q (Registry.mem_of_mem_append entries hq)
    · exact holds

lemma Located.mem_of_mem_append (place : Located reg front r back) (h : q ∈ front ++ back) :
    q ∈ reg.entries :=
  Registry.mem_of_mem_append place.entries h

/-- What holds of each record is kept by a step if it is kept by what the step does to a record,
and holds of a new one. -/
theorem Step.forall_entries {Q : Record → Prop}
    (hfocus : ∀ (r : Record) focused, Q r → Q { r with focused })
    (hpid : ∀ (r : Record) pid, r.state = .starting → Q r → Q { r with pid })
    (hnew : ∀ (id : AppId) descriptor arguments exempt f,
      host.findMetadata id.normalized = some descriptor → Introduction op f →
      Q (reg.newcomer host descriptor arguments exempt f).record)
    (htreat : ∀ r f, r ∈ reg.entries → Treatment host reg op r f → Q r →
      (f (reg.scene r)).record.state ≠ .stopped → Q (f (reg.scene r)).record)
    (step : Step host op reg reg') (h : ∀ r ∈ reg.entries, Q r) : ∀ r ∈ reg'.entries, Q r := by
  cases step with
  | note helpers effects => exact h
  | announce id => exact h
  | treat place treatment =>
    intro q hq
    obtain hq | ⟨rfl, running⟩ := mem_settle hq
    · exact h q (place.mem_of_mem_append hq)
    · exact htreat _ _ place.mem treatment (h _ place.mem) running
  | evict place _ => exact fun q hq => h q (place.mem_of_mem_append hq)
  | track arguments known short _ introduction =>
    obtain ⟨given, rfl⟩ := short
    intro q hq
    obtain rfl | hq := List.mem_cons.mp hq
    · exact hnew given _ _ _ _ known introduction
    · exact h q hq
  | authorize pid entries starting =>
    rw [entries] at h
    intro q hq
    obtain hq | hq := List.mem_append.mp hq
    · exact h q (List.mem_append_left _ hq)
    · obtain rfl | hq := List.mem_cons.mp hq
      · exact hpid _ pid starting (h _ (List.mem_append_right _ List.mem_cons_self))
      · exact h q (List.mem_append_right _ (List.mem_cons_of_mem _ hq))
  | raise place _ =>
    rw [raise_entries place.entries]
    intro q hq
    obtain rfl | hq := List.mem_cons.mp hq
    · exact h _ place.mem
    · exact h q (place.mem_of_mem_append hq)
  | focus _ _ _ => exact forall_passFocus hfocus _ h

/-! ## A run -/

/-- What holds at first, and is kept by each step of a run, holds all along. -/
lemma forall_prefix_foldl {σ ε : Type} {step : σ → ε → σ} {start : σ} {I : σ → Prop}
    {ops : List ε} (hstart : I start) (hstep : ∀ (run : List ε) e, run ++ [e] <+: ops →
      I (run.foldl step start) → I (step (run.foldl step start) e))
    {run : List ε} (hrun : run <+: ops) : I (run.foldl step start) := by
  induction run using List.reverseRecOn with
  | nil => exact hstart
  | append_singleton run e ih =>
    rw [List.foldl_append]
    exact hstep run e hrun (ih ((List.prefix_append run [e]).trans hrun))

/-- What does not hold at first, but after a run, was brought about in the run at some time, and has
held ever since. -/
lemma exists_cause_foldl {σ ε : Type} {step : σ → ε → σ} {start : σ} (holds : σ → Prop)
    (cause : σ → ε → Prop) (hstart : ¬holds start)
    (hstep : ∀ (run : List ε) e, holds (step (run.foldl step start) e) →
      holds (run.foldl step start) ∨ cause (run.foldl step start) e)
    {run : List ε} (h : holds (run.foldl step start)) :
    ∃ before e later, run = before ++ e :: later ∧ cause (before.foldl step start) e ∧
      ∀ mid, mid <+: later → holds ((before ++ e :: mid).foldl step start) := by
  induction run using List.reverseRecOn with
  | nil => exact absurd h hstart
  | append_singleton run last ih =>
    have now : holds (step (run.foldl step start) last) := by
      rw [List.foldl_append] at h
      exact h
    by_cases held : holds (run.foldl step start)
    · -- it held before the last step, so that the cause is further back
      obtain ⟨before, e, later, rfl, caused, since⟩ := ih held
      refine ⟨before, e, later ++ [last], by simp, caused, fun mid hmid => ?_⟩
      obtain rfl | hmid := List.prefix_concat_iff.mp hmid
      · simpa using h
      · exact since mid hmid
    · have caused := (hstep run last now).resolve_left held
      refine ⟨run, last, [], rfl, caused, fun mid hmid => ?_⟩
      rw [List.prefix_nil.mp hmid]
      exact h

/-- An empty registry after a run of operations. -/
def after (lifecycle : LifecyclePolicy) (authorization : AuthorizationPolicy)
    (run : List (Host × Operation)) : Registry :=
  (Registry.empty lifecycle authorization).performAll run

lemma performAll_concat (reg : Registry) (run : List (Host × Operation)) (host : Host)
    (op : Operation) :
    reg.performAll (run ++ [(host, op)]) = ((reg.performAll run).perform host op).2 :=
  List.foldl_append

lemma after_concat (lifecycle : LifecyclePolicy) (authorization : AuthorizationPolicy)
    (run : List (Host × Operation)) (host : Host) (op : Operation) :
    after lifecycle authorization (run ++ [(host, op)]) =
      ((after lifecycle authorization run).perform host op).2 :=
  performAll_concat _ run host op

lemma after_reachable (lifecycle : LifecyclePolicy) (authorization : AuthorizationPolicy)
    (run : List (Host × Operation)) :
    Reachable (fun _ => True) (after lifecycle authorization run) :=
  (Reachable.empty lifecycle authorization).performAll fun _ _ => trivial

/-- What does not hold of an empty registry, but after a run, was brought about by an operation of
the run, and has held ever since. -/
theorem exists_cause (holds : Registry → Prop) {cause : Registry → Host → Operation → Prop}
    {lifecycle : LifecyclePolicy} {authorization : AuthorizationPolicy}
    (hempty : ¬holds (.empty lifecycle authorization))
    (hstep : ∀ reg host op, Reachable (fun _ => True) reg → holds (reg.perform host op).2 →
      holds reg ∨ cause reg host op)
    {run : List (Host × Operation)} (h : holds (after lifecycle authorization run)) :
    ∃ before host op later, run = before ++ (host, op) :: later ∧
      cause (after lifecycle authorization before) host op ∧
      ∀ mid, mid <+: later →
        holds (after lifecycle authorization (before ++ (host, op) :: mid)) := by
  obtain ⟨before, ⟨host, op⟩, later, rfl, caused, since⟩ :=
    exists_cause_foldl holds (fun reg x => cause reg x.1 x.2) hempty
      (fun run x => hstep _ x.1 x.2 (after_reachable lifecycle authorization run)) h
  exact ⟨before, host, op, later, rfl, caused, since⟩

/-- A run on a machine that is always willing. -/
lemma willing_reachable (ops : List Operation) :
    Reachable Host.Faithful (after .standard .standard (ops.map (Prod.mk .willing))) := by
  refine (Reachable.empty .standard .standard).performAll fun x hx => ?_
  obtain ⟨op, -, rfl⟩ := List.mem_map.mp hx
  exact Host.willing_faithful

/-- The session of the process 7. -/
def windowOfClock : Session where
  id := ⟨⟨List.replicate 32 (Fin.last 15), rfl⟩⟩
  pid := 7
  compositor := ⟨⟨List.replicate 32 (Fin.last 15), rfl⟩⟩

/-- The mail fails to start. The clock is launched, opens its session and is focused; then the notes
are launched, and the clock is to be suspended. -/
def errand : List (Host × Operation) :=
  [.start ⟨"mail"⟩ [], .process (.failed ⟨"mail"⟩ true), .start ⟨"clock"⟩ [],
    .process (.starting ⟨"clock"⟩), .authorize 7, .sessionStarting windowOfClock,
    .sessionState windowOfClock.id .running, .focus ⟨"clock"⟩,
    .start ⟨"notes"⟩ [], .suspend ⟨"clock"⟩].map (Prod.mk .willing)

def afterErrand : Registry := after .standard .standard errand

lemma afterErrand_reachable : Reachable Host.Faithful afterErrand := willing_reachable _

end Registry

end AppLifecycle
