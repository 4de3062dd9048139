import AppLifecycle.Json.Decode
import AppLifecycle.Proofs.Json.Written

/-!
# What decoders read

`Decodes d levels v a` says that a decoder reads the value `v` as `a`, wherever there is room for
its levels of nesting. A record is put together from its fields, and so is what is known of it:
`Fields.Holds` lists the members that make up a record, and grows along with the record.
-/

namespace AppLifecycle.Json

variable {α β : Type}

lemma ok_bind {ε : Type} (a : α) (f : α → Except ε β) : (Except.ok a >>= f) = f a := rfl

/-- `d` reads the plain value `v` as `a`. -/
structure Decodes (d : Decoder α) (levels : Nat) (v : Value) (a : α) : Prop where
  plain : v.Plain levels
  read : ∀ site : Site, levels < site.depth → d site (Node.ofValue v) = .ok a

namespace Decodes

lemma mono {d : Decoder α} {levels deeper : Nat} {v : Value} {a : α} (h : Decodes d levels v a)
    (le : levels ≤ deeper) : Decodes d deeper v a :=
  ⟨h.plain.mono le, fun site room => h.read site (by omega)⟩

lemma map {d : Decoder α} {levels : Nat} {v : Value} {a : α} (h : Decodes d levels v a)
    (f : α → β) : Decodes (fun site node => f <$> d site node) levels v (f a) :=
  ⟨h.plain, fun site room => by
    show f <$> d site (Node.ofValue v) = _
    rw [h.read site room]
    rfl⟩

end Decodes

/-! ## Plain values -/

lemma decodes_text (s : String) (levels : Nat) : Decodes text levels (.string s) s :=
  ⟨.string s, fun _ _ => rfl⟩

lemma decodes_boolean (b : Bool) (levels : Nat) : Decodes boolean levels (.bool b) b :=
  ⟨.bool b, fun _ _ => rfl⟩

lemma decodes_natural {bound n : Nat} (name : String) (small : n < bound)
    (fits : bound ≤ Nat.pow 2 64) (levels : Nat) :
    Decodes (natural bound name) levels (.nat n) n := by
  refine ⟨.nat (by omega), fun site _ => ?_⟩
  have range : (0 : Int) ≤ n ∧ (n : Int) < bound := by omega
  show (if (0 : Int) ≤ n ∧ (n : Int) < bound then Except.ok (n : Int).toNat else _) = _
  rw [if_pos range, Int.toNat_natCast]

lemma decodes_none (d : Decoder α) (levels : Nat) : Decodes (option d) levels .null none :=
  ⟨.null, fun _ _ => rfl⟩

lemma decodes_some {d : Decoder α} {levels : Nat} {v : Value} {a : α} (h : Decodes d levels v a)
    (other : v ≠ .null) : Decodes (option d) levels v (some a) := by
  refine ⟨h.plain, fun site room => ?_⟩
  have read := h.read site room
  cases v with
  | null => exact absurd rfl other
  | _ =>
    simp only [Node.ofValue, option] at read ⊢
    rw [read]
    rfl

/-- Entering a value leaves room for the rest of its levels. -/
lemma enter_site {levels : Nat} {site : Site} (room : levels + 1 < site.depth) :
    ∃ inner, site.enter = .ok inner ∧ levels < inner.depth := by
  unfold Site.enter
  split
  · exact ⟨site, rfl, by omega⟩
  · obtain ⟨less, entered, deep⟩ := enter_succ room
    rw [entered]
    exact ⟨_, rfl, deep⟩

lemma decodeItems_map {d : Decoder α} {site : Site} {f : α → Value} (as : List α)
    (read : ∀ a ∈ as, d site (Node.ofValue (f a)) = .ok a) :
    decodeItems d site (ofItems (as.map f)) = .ok as := by
  induction as with
  | nil => rfl
  | cons a as ih =>
    have first := read a List.mem_cons_self
    have others := ih fun b mem => read b (List.mem_cons_of_mem a mem)
    rw [List.map_cons, ofItems, decodeItems, first, others]
    rfl

lemma decodes_list {d : Decoder α} {levels : Nat} {f : α → Value} (as : List α)
    (h : ∀ a ∈ as, Decodes d levels (f a) a) :
    Decodes (list d) (levels + 1) (.array (as.map f)) as := by
  refine ⟨.array fun v mem => ?_, fun site room => ?_⟩
  · obtain ⟨a, ha, rfl⟩ := List.mem_map.mp mem
    exact (h a ha).plain
  · obtain ⟨inner, entered, deep⟩ := enter_site room
    have items := decodeItems_map as fun a mem => (h a mem).read inner deep
    rw [Node.ofValue, list, entered]
    change (do let as ← decodeItems d inner (ofItems (as.map f)); _) = _
    rw [items]
    rfl

/-! ## Names -/

lemma decodes_name {names : List (String × α)} {key : String} {a : α}
    (known : names.find? (·.1 = key) = some (key, a)) (levels : Nat) :
    Decodes (name names) levels (.string key) a := by
  refine ⟨.string key, fun site _ => ?_⟩
  have found : lookupName names key = .ok a := by
    rw [lookupName, known]
  show (do let a ← lookupName names key; Except.ok a) = _
  rw [found]
  rfl

/-- A name with a payload is the only member of its object. -/
lemma decodes_variant {names : List (String × α)} {bare : α → Except Failure β}
    {payload : α → Decoder β} {key : String} {a : α} {v : Value} {b : β} {levels : Nat}
    (known : names.find? (·.1 = key) = some (key, a)) (h : Decodes (payload a) levels v b) :
    Decodes (variant names bare payload) (levels + 1) (.object [(key, v)]) b := by
  refine ⟨.object fun m mem => ?_, fun site room => ?_⟩
  · obtain rfl := List.mem_singleton.mp mem
    exact h.plain
  · obtain ⟨inner, entered, deep⟩ := enter_site room
    have found : lookupName names key = .ok a := by
      rw [lookupName, known]
    have read := h.read inner deep
    have one : ofMembers [(key, v)] = [(Token.ok key, Node.ofValue v)] := rfl
    rw [Node.ofValue, one, variant, entered, ok_bind, if_neg (by simp)]
    show (do
      let a ← lookupName names key
      let b ← payload a inner (Node.ofValue v)
      endSingle [] none
      return b) = _
    rw [found, ok_bind, read]
    rfl

/-! ## Records -/

/-- `members` are the fields of a record that makes `a`, in the order in which it lists them. -/
structure Fields.Holds (fields : Fields α) (levels : Nat) (members : List (String × Value))
    (a : α) : Prop where
  plain : ∀ m ∈ members, m.2.Plain levels
  slots : ∀ site : Site, levels < site.depth →
    List.Forall₂ (fun slot m => slot.name = m.1 ∧ slot.check site (Node.ofValue m.2) = .ok ())
      fields.slots members
  build : ∀ (site : Site) (get : String → Option Node), levels < site.depth →
    (∀ m ∈ members, get m.1 = some (Node.ofValue m.2)) → fields.build site get = .ok a

namespace Fields

lemma verdict_ok {d : Decoder α} {site : Site} {node : Node} {a : α} (h : d site node = .ok a) :
    verdict d site node = .ok () := by
  rw [verdict, h]
  rfl

namespace Holds

/-- A record of one field; `missing` is what becomes of it without its member. -/
lemma single {d : Decoder α} {levels : Nat} {v : Value} {a : α} (name : String) (hasDefault : Bool)
    (missing : Except Failure α) (h : Decodes d levels v a) :
    Holds ⟨[⟨name, verdict d, hasDefault⟩], fun site get =>
      match get name with
      | some node => d site node
      | none => missing⟩ levels [(name, v)] a where
  plain := by simpa using h.plain
  slots site room := .cons ⟨rfl, verdict_ok (h.read site room)⟩ .nil
  build site get room found := by
    have node := found (name, v) List.mem_cons_self
    dsimp only at node ⊢
    rw [node]
    exact h.read site room

lemma required {d : Decoder α} {levels : Nat} {v : Value} {a : α} (name : String)
    (h : Decodes d levels v a) : (Fields.required name d).Holds levels [(name, v)] a :=
  single name false (fail (.missingField name)) h

lemma optional {d : Decoder α} {levels : Nat} {v : Value} {a : Option α} (name : String)
    (h : Decodes (option d) levels v a) : (Fields.optional name d).Holds levels [(name, v)] a :=
  single name false (.ok none) h

lemma defaulted {d : Decoder α} {levels : Nat} {v : Value} {a : α} (name : String) (value : α)
    (h : Decodes d levels v a) : (Fields.defaulted name value d).Holds levels [(name, v)] a :=
  single name true (.ok value) h

lemma map {fields : Fields α} {levels : Nat} {members : List (String × Value)} {a : α}
    (h : fields.Holds levels members a) (f : α → β) :
    (f <$> fields).Holds levels members (f a) where
  plain := h.plain
  slots := h.slots
  build site get room found := by
    show f <$> fields.build site get = _
    rw [h.build site get room found]
    rfl

lemma seq {f : Fields (α → β)} {fields : Fields α} {levels : Nat}
    {before members : List (String × Value)} {g : α → β} {a : α} (hf : f.Holds levels before g)
    (h : fields.Holds levels members a) :
    (f <*> fields).Holds levels (before ++ members) (g a) where
  plain m mem := (List.mem_append.mp mem).elim (hf.plain m) (h.plain m)
  slots site room := List.rel_append (hf.slots site room) (h.slots site room)
  build site get room found := by
    have first := hf.build site get room fun m mem => found m (List.mem_append_left members mem)
    have second := h.build site get room fun m mem => found m (List.mem_append_right before mem)
    show (do
      let g ← f.build site get
      let a ← fields.build site get
      return g a) = _
    rw [first, second]
    rfl

end Holds

/-- A member of a record is the field of its name. -/
lemma find?_slot {slots : List Slot} {members : List (String × Value)} {site : Site}
    (laid : List.Forall₂ (fun slot m => slot.name = m.1 ∧
      slot.check site (Node.ofValue m.2) = .ok ()) slots members)
    (distinct : (members.map Prod.fst).Nodup) {m : String × Value} (mem : m ∈ members) :
    ∃ slot, slots.find? (·.name = m.1) = some slot ∧
      slot.check site (Node.ofValue m.2) = .ok () := by
  induction laid with
  | nil => cases mem
  | @cons slot first slots members this _ ih =>
    rw [List.map_cons, List.nodup_cons] at distinct
    rcases List.mem_cons.mp mem with rfl | mem
    · exact ⟨slot, List.find?_cons_of_pos (by simpa using this.1), this.2⟩
    · have other : slot.name ≠ m.1 := fun same =>
        distinct.1 (List.mem_map.mpr ⟨m, mem, same.symm.trans this.1⟩)
      obtain ⟨found, eq, ok⟩ := ih distinct.2 mem
      exact ⟨found, (List.find?_cons_of_neg (by simpa using other)).trans eq, ok⟩

/-- The members of a record with what they are, the last one first. -/
def entries (members : List (String × Value)) : List (String × Node) :=
  (members.map fun m => (m.1, Node.ofValue m.2)).reverse

lemma ofMembers_ofMembers {slots : List Slot} {site : Site} (members : List (String × Value))
    (known : ∀ m ∈ members, ∃ slot, slots.find? (·.name = m.1) = some slot ∧
      slot.check site (Node.ofValue m.2) = .ok ()) :
    ∀ seen : List (String × Node), (members.map Prod.fst).Nodup →
      (∀ m ∈ members, ∀ e ∈ seen, e.1 ≠ m.1) →
      ofMembers slots site (Json.ofMembers members) seen = .ok (entries members ++ seen) := by
  induction members with
  | nil => exact fun seen _ _ => rfl
  | cons m members ih =>
    intro seen distinct fresh
    obtain ⟨k, v⟩ := m
    obtain ⟨slot, found, ok⟩ := known (k, v) List.mem_cons_self
    rw [List.map_cons, List.nodup_cons] at distinct
    have unseen : ¬ (seen.any (·.1 = k)) = true := by
      simpa using fun node mem => fresh (k, v) List.mem_cons_self (k, node) mem rfl
    have others := ih (fun m mem => known m (List.mem_cons_of_mem _ mem))
      ((k, Node.ofValue v) :: seen) distinct.2 fun m mem e he => by
        rcases List.mem_cons.mp he with rfl | he
        · exact fun same => distinct.1 (List.mem_map.mpr ⟨m, mem, same.symm⟩)
        · exact fresh m (List.mem_cons_of_mem _ mem) e he
    have read : ofRead (Token.ok k).read = .ok k := rfl
    dsimp only at found ok
    have order : entries ((k, v) :: members) ++ seen =
        entries members ++ (k, Node.ofValue v) :: seen := by simp [entries]
    -- the newest member stands in front of those seen before
    rw [order, ← others, Json.ofMembers, ofMembers, read, ok_bind, found]
    dsimp only
    rw [if_neg unseen, ok]
    rfl

lemma lookup_entries {members : List (String × Value)} (distinct : (members.map Prod.fst).Nodup)
    {m : String × Value} (mem : m ∈ members) :
    lookup (entries members) m.1 = some (Node.ofValue m.2) := by
  have names : ((entries members).map Prod.fst).Nodup := by
    rw [entries, List.map_reverse, List.nodup_reverse, List.map_map]
    exact distinct
  have there : (m.1, Node.ofValue m.2) ∈ entries members :=
    List.mem_reverse.mpr (List.mem_map_of_mem mem)
  cases found : (entries members).find? (·.1 = m.1) with
  | none => simpa using List.find?_eq_none.mp found _ there
  | some e =>
    have same : e.1 = m.1 := by simpa using List.find?_some found
    obtain rfl : e = (m.1, Node.ofValue m.2) :=
      List.inj_on_of_nodup_map names (List.mem_of_find?_eq_some found) there same
    rw [lookup, found]
    rfl

/-- The members of a record make up the record. -/
theorem Holds.decodeMembers {fields : Fields α} {levels : Nat} {members : List (String × Value)}
    {a : α} (h : fields.Holds levels members a) (distinct : (members.map Prod.fst).Nodup)
    {site : Site} (room : levels < site.depth) :
    fields.decodeMembers site (Json.ofMembers members) none = .ok a := by
  have known := fun m mem => find?_slot (h.slots site room) distinct (m := m) mem
  have seen := ofMembers_ofMembers members known [] distinct fun m mem e he => nomatch he
  have made := h.build site (lookup (entries members)) room fun m mem => lookup_entries distinct mem
  rw [List.append_nil] at seen
  rw [Fields.decodeMembers, seen, ok_bind]
  exact made

end Fields

lemma decodes_record {fields : Fields α} {levels : Nat} {members : List (String × Value)} {a : α}
    (expected : String) (h : fields.Holds levels members a)
    (distinct : (members.map Prod.fst).Nodup) :
    Decodes (record expected fields) (levels + 1) (.object members) a := by
  refine ⟨.object h.plain, fun site room => ?_⟩
  obtain ⟨inner, entered, deep⟩ := enter_site room
  rw [Node.ofValue, record, entered, ok_bind]
  exact h.decodeMembers distinct deep

/-! ## Tagged values -/

/-- What stands beside a tag makes `a`. -/
def Body.Holds (levels : Nat) (members : List (String × Value)) (a : α) : Body α → Prop
  | .bare b => members = [] ∧ b = a
  | .fields _ f => f.Holds levels members a ∧ (members.map Prod.fst).Nodup

lemma tagOfMembers_ofMembers {tagKey : String} (bodies : List (String × Body α)) {site : Site}
    {levels : Nat} (room : levels < site.depth) (tag : Option (Body α))
    (members : List (String × Value)) (plain : ∀ m ∈ members, m.2.Plain levels)
    (other : ∀ m ∈ members, m.1 ≠ tagKey) :
    ∀ seen, tagOfMembers tagKey bodies site (ofMembers members) tag seen =
      .ok (tag, seen.reverse ++ members) := by
  induction members with
  | nil => exact fun seen => by rw [List.append_nil]; rfl
  | cons m members ih =>
    intro seen
    -- a member beside the tag is read through, which takes room for all its levels
    have key : ofRead (Token.ok m.1).read = .ok m.1 := rfl
    have value : ofRead ((Node.ofValue m.2).value site.depth) = .ok m.2 := by
      rw [value_ofValue (plain m List.mem_cons_self) room]
      rfl
    have others := ih (fun n mem => plain n (List.mem_cons_of_mem m mem))
      (fun n mem => other n (List.mem_cons_of_mem m mem)) (m :: seen)
    rw [List.reverse_cons, List.append_assoc] at others
    rw [ofMembers, tagOfMembers, key, ok_bind, if_neg (other m List.mem_cons_self), value, ok_bind]
    exact others

/-- A tagged value is read by its tag, which comes first. -/
lemma decodes_tagged {bodies : List (String × Body α)} {key : String} {body : Body α} {levels : Nat}
    {members : List (String × Value)} {a : α} (expected : String)
    (known : bodies.find? (·.1 = key) = some (key, body)) (h : body.Holds levels members a)
    (other : ∀ m ∈ members, m.1 ≠ "type") :
    Decodes (tagged expected bodies) (levels + 1)
      (.object (("type", .string key) :: members)) a := by
  have plain : ∀ m ∈ members, m.2.Plain levels := by
    cases body with
    | bare b => exact fun m mem => by rw [h.1] at mem; cases mem
    | fields _ fields => exact h.1.plain
  refine ⟨.object ?_, fun site room => ?_⟩
  · exact List.forall_mem_cons.mpr ⟨.string key, plain⟩
  · obtain ⟨inner, entered, deep⟩ := enter_site room
    have tag : identifier bodies inner (Node.ofValue (.string key)) = .ok body := by
      show lookupName bodies key = _
      rw [lookupName, known]
    have others := tagOfMembers_ofMembers bodies deep (some body) members plain other []
    have all : tagOfMembers "type" bodies inner (ofMembers (("type", .string key) :: members)) none
        [] = .ok (some body, members) := by
      have head : ofRead (Token.ok "type").read = .ok "type" := rfl
      rw [ofMembers, tagOfMembers, head, ok_bind, if_pos rfl, tag]
      exact others
    -- the body is read from values that were read through, without a limit on their depth
    have made : bodyOfMembers inner members body = .ok a := by
      cases body with
      | bare b => exact congrArg Except.ok h.2
      | fields _ fields =>
        exact h.1.decodeMembers h.2 deep
    rw [Node.ofValue, tagged, taggedBy, entered, ok_bind, all, ok_bind]
    exact made

/-! ## Whole texts -/

/-- The text of a value of few levels is read as the value is. -/
theorem Decodes.decodeText {d : Decoder α} {levels : Nat} {v : Value} {a : α}
    (h : Decodes d levels v a) (few : levels < maxDepth) : decodeText d v.text = .ok a := by
  have chars : v.text.toList = v.write [] := String.toList_ofList
  have read := h.read ⟨maxDepth, false, false⟩ few
  unfold Json.decodeText
  rw [chars, ofChars_write h.plain]
  dsimp only
  rw [read]
  rfl

/-- A value that was read before is read as it is written. -/
theorem Decodes.decodeValue {d : Decoder α} {levels : Nat} {v : Value} {a : α}
    (h : Decodes d levels v a) (few : levels < maxDepth) : decodeValue d v = .ok a :=
  h.read ⟨maxDepth, true, false⟩ few

end AppLifecycle.Json
