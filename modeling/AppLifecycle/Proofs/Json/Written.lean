import AppLifecycle.Proofs.Json.Tokens

/-!
# Reading written values back

The compact text of a value is read as a text without faults that holds the value, and the reader
stops where the text ends (`readNode_write`). This is about the values that messages are made of:
their only numbers are whole ones of 64 bits. What follows a number must not go on with it, so the
statements are about all texts that may follow.
-/

namespace AppLifecycle.Json

/-! ## Values -/

/-- A value as messages have it: at most `depth` levels of nesting, and natural numbers of 64 bits
only. -/
inductive Value.Plain : Nat → Value → Prop where
  | null {depth : Nat} : Plain depth .null
  | bool {depth : Nat} (b : Bool) : Plain depth (.bool b)
  | nat {depth n : Nat} (fits : n < Nat.pow 2 64) : Plain depth (.nat n)
  | string {depth : Nat} (s : String) : Plain depth (.string s)
  | array {depth : Nat} {items : List Value} (plain : ∀ v ∈ items, Plain depth v) :
    Plain (depth + 1) (.array items)
  | object {depth : Nat} {members : List (String × Value)}
    (plain : ∀ m ∈ members, Plain depth m.2) : Plain (depth + 1) (.object members)

lemma Value.Plain.mono {v : Value} {depth : Nat} (plain : Value.Plain depth v) :
    ∀ {deeper}, depth ≤ deeper → Value.Plain deeper v := by
  induction plain with
  | null => exact fun _ => .null
  | bool b => exact fun _ => .bool b
  | nat fits => exact fun _ => .nat fits
  | string s => exact fun _ => .string s
  | @array depth items _ ih =>
    intro deeper le
    obtain ⟨deeper, rfl⟩ := Nat.exists_eq_succ_of_ne_zero (by omega : deeper ≠ 0)
    exact .array fun v mem => ih v mem (by omega)
  | @object depth members _ ih =>
    intro deeper le
    obtain ⟨deeper, rfl⟩ := Nat.exists_eq_succ_of_ne_zero (by omega : deeper ≠ 0)
    exact .object fun m mem => ih m mem (by omega)

mutual

/-- What follows a written value does not change it. -/
theorem Value.write_append : ∀ (v : Value) (rest : List Char), v.write rest = v.write [] ++ rest
  | .null, _ => rfl
  | .bool true, _ => rfl
  | .bool false, _ => rfl
  | .number n, rest => by simp [Value.write]
  | .string s, rest => by
    simp only [Value.write, writeString]
    rw [writeChars_append, List.cons_append]
  | .array [], _ => rfl
  | .array (v :: vs), rest => by
    simp only [Value.write]
    rw [Value.write_append v (writeItems vs rest), Value.write_append v (writeItems vs []),
      writeItems_append vs rest, List.cons_append, List.append_assoc]
  | .object [], _ => rfl
  | .object ((k, v) :: ms), rest => by
    simp only [Value.write, writeString]
    rw [Value.write_append v (writeMembers ms rest), Value.write_append v (writeMembers ms []),
      writeMembers_append ms rest, writeChars_append, writeChars_append k.toList (_ :: _)]
    simp

theorem writeItems_append :
    ∀ (vs : List Value) (rest : List Char), writeItems vs rest = writeItems vs [] ++ rest
  | [], _ => rfl
  | v :: vs, rest => by
    simp only [writeItems]
    rw [Value.write_append v (writeItems vs rest), Value.write_append v (writeItems vs []),
      writeItems_append vs rest, List.cons_append, List.append_assoc]

theorem writeMembers_append : ∀ (ms : List (String × Value)) (rest : List Char),
    writeMembers ms rest = writeMembers ms [] ++ rest
  | [], _ => rfl
  | (k, v) :: ms, rest => by
    simp only [writeMembers, writeString]
    rw [Value.write_append v (writeMembers ms rest), Value.write_append v (writeMembers ms []),
      writeMembers_append ms rest, writeChars_append, writeChars_append k.toList (_ :: _)]
    simp

end

lemma length_le_writeItems (vs : List Value) (rest : List Char) :
    rest.length ≤ (writeItems vs rest).length := by
  rw [writeItems_append, List.length_append]
  omega

lemma length_le_writeMembers (ms : List (String × Value)) (rest : List Char) :
    rest.length ≤ (writeMembers ms rest).length := by
  rw [writeMembers_append, List.length_append]
  omega

/-- How a written value begins. -/
lemma Value.Plain.write_head {depth : Nat} {v : Value} (plain : Value.Plain depth v)
    (rest : List Char) :
    ∃ c cs, v.write rest = c :: cs ∧ isBlank c = false ∧ c ≠ ']' := by
  cases plain with
  | null => exact ⟨_, _, rfl, by decide, by decide⟩
  | bool b => cases b <;> exact ⟨_, _, rfl, by decide, by decide⟩
  | string s => exact ⟨_, _, rfl, by decide, by decide⟩
  | @nat _ n fits =>
    obtain ⟨d, ds, written, digit⟩ := toDigits_eq_cons n
    refine ⟨d, ds ++ rest, ?_, ?_⟩
    · exact congrArg (· ++ rest) written
    · have := digit_cases digit
      fin_cases this <;> decide
  | @array _ items _ => cases items <;> exact ⟨_, _, rfl, by decide, by decide⟩
  | @object _ members _ => cases members <;> exact ⟨_, _, rfl, by decide, by decide⟩

/-- A value that begins with a digit is a number. -/
lemma readNode_digit {d : Char} (digit : d.isDigit = true) (fuel : Nat) (cs : List Char) :
    readNode (fuel + 1) (d :: cs) =
      (.number (readNumber (d :: cs)).1, (readNumber (d :: cs)).2) := by
  have := digit_cases digit
  fin_cases this <;> rfl

/-- The text of a value is read as the value, with fuel for two steps a character. An array takes
three steps on the way to its first item, and the closing bracket pays for the third. -/
def Value.ReadsBack (v : Value) : Prop :=
  ∀ rest fuel, EndsNumber rest → 2 * (v.write rest).length ≤ fuel + 2 * rest.length →
    readNode fuel (v.write rest) = (Node.ofValue v, some rest)

lemma Value.Plain.length_lt_write {depth : Nat} {v : Value} (plain : Value.Plain depth v)
    (rest : List Char) : rest.length < (v.write rest).length := by
  obtain ⟨c, cs, written, -, -⟩ := plain.write_head []
  rw [Value.write_append, written, List.length_append, List.length_cons]
  omega

/-- There is fuel for one step at least. -/
lemma Value.ReadsBack.of_step {depth : Nat} {v : Value} (plain : v.Plain depth)
    (step : ∀ rest fuel, EndsNumber rest → 2 * (v.write rest).length ≤ fuel + 1 + 2 * rest.length →
      readNode (fuel + 1) (v.write rest) = (Node.ofValue v, some rest)) : v.ReadsBack := by
  intro rest fuel ends enough
  have longer := plain.length_lt_write rest
  obtain ⟨fuel, rfl⟩ := Nat.exists_eq_succ_of_ne_zero (by omega : fuel ≠ 0)
  exact step rest fuel ends enough

/-- The items of an array, the first of which is `v`, are read up to the closing bracket. -/
lemma readItem_write {depth : Nat} (vs : List Value) (rest : List Char) :
    ∀ v fuel, (∀ w ∈ v :: vs, w.Plain depth ∧ w.ReadsBack) →
      2 * (v.write (writeItems vs rest)).length ≤ fuel + 2 * rest.length →
      readItem fuel (v.write (writeItems vs rest)) = (ofItems (v :: vs), none, some rest) := by
  induction vs with
  | nil =>
    intro v fuel items enough
    obtain ⟨plain, reads⟩ := items v List.mem_cons_self
    have longer := plain.length_lt_write (']' :: rest)
    rw [List.length_cons] at longer
    -- the bracket behind the last item is one character of its text, but none of what follows
    simp only [writeItems] at enough ⊢
    obtain ⟨fuel, rfl⟩ := Nat.exists_eq_succ_of_ne_zero (by omega : fuel ≠ 0)
    have first := reads (']' :: rest) fuel (endsNumber_cons (by decide)) (by
      rw [List.length_cons]; omega)
    rw [readItem, first]
    rfl
  | cons w vs ih =>
    intro v fuel items enough
    obtain ⟨plain, reads⟩ := items v List.mem_cons_self
    have longer := plain.length_lt_write (writeItems (w :: vs) rest)
    have next := (items w (by simp)).1.length_lt_write (writeItems vs rest)
    have last := length_le_writeItems vs rest
    simp only [writeItems, List.length_cons] at longer enough ⊢
    obtain ⟨fuel, rfl⟩ := Nat.exists_eq_succ_of_ne_zero (by omega : fuel ≠ 0)
    have first := reads (',' :: w.write (writeItems vs rest)) fuel (endsNumber_cons (by decide)) (by
      rw [List.length_cons]; omega)
    have others := ih w fuel (fun u mem => items u (List.mem_cons_of_mem v mem)) (by omega)
    rw [readItem, first]
    simp only [skipBlanks]
    rw [List.dropWhile_cons_of_neg (by decide)]
    simp only [others]
    rfl

/-- The members of an object, the first of which is `v` under `k`, are read up to the closing
brace. -/
lemma readMember_write {depth : Nat} (ms : List (String × Value)) (rest : List Char) :
    ∀ k v fuel, (∀ m ∈ (k, v) :: ms, m.2.Plain depth ∧ m.2.ReadsBack) →
      2 * (writeChars k.toList (':' :: v.write (writeMembers ms rest))).length ≤
        fuel + 2 * rest.length →
      readMember fuel (writeChars k.toList (':' :: v.write (writeMembers ms rest))) =
        (ofMembers ((k, v) :: ms), none, some rest) := by
  induction ms with
  | nil =>
    intro k v fuel members enough
    obtain ⟨plain, reads⟩ := members (k, v) List.mem_cons_self
    dsimp only at plain reads
    have longer := plain.length_lt_write ('\x7d' :: rest)
    rw [List.length_cons] at longer
    have key := length_lt_writeChars k.toList (':' :: v.write ('\x7d' :: rest))
    rw [List.length_cons] at key
    simp only [writeMembers] at enough ⊢
    obtain ⟨fuel, rfl⟩ := Nat.exists_eq_succ_of_ne_zero (by omega : fuel ≠ 0)
    have first := reads ('\x7d' :: rest) fuel (endsNumber_cons (by decide)) (by
      rw [List.length_cons]; omega)
    rw [readMember, readString_writeChars]
    simp only [skipBlanks]
    rw [List.dropWhile_cons_of_neg (by decide)]
    simp only [first]
    rfl
  | cons m ms ih =>
    intro k v fuel members enough
    obtain ⟨k', v'⟩ := m
    obtain ⟨plain, reads⟩ := members (k, v) List.mem_cons_self
    dsimp only at plain reads
    have longer := plain.length_lt_write (writeMembers ((k', v') :: ms) rest)
    have value : (writeMembers ms rest).length < (v'.write (writeMembers ms rest)).length :=
      (members (k', v') (by simp)).1.length_lt_write (writeMembers ms rest)
    have last := length_le_writeMembers ms rest
    have key := length_lt_writeChars k.toList (':' :: v.write (writeMembers ((k', v') :: ms) rest))
    have next := length_lt_writeChars k'.toList (':' :: v'.write (writeMembers ms rest))
    simp only [writeMembers, writeString, List.length_cons] at longer enough key next ⊢
    obtain ⟨fuel, rfl⟩ := Nat.exists_eq_succ_of_ne_zero (by omega : fuel ≠ 0)
    -- the value ends at the comma, whatever key comes behind it
    have first := reads (writeMembers ((k', v') :: ms) rest) fuel (endsNumber_cons (by decide)) (by
      simp only [writeMembers, writeString, List.length_cons]; omega)
    have others := ih k' v' fuel (fun u mem => members u (List.mem_cons_of_mem _ mem)) (by omega)
    simp only [writeMembers, writeString] at first
    rw [readMember, readString_writeChars]
    simp only [skipBlanks]
    rw [List.dropWhile_cons_of_neg (by decide)]
    simp only [first]
    rw [List.dropWhile_cons_of_neg (by decide)]
    simp only []
    rw [List.dropWhile_cons_of_neg (by decide)]
    simp only [others]
    rfl

/-- The text of a plain value is read as the value. -/
theorem readNode_write {depth : Nat} {v : Value} (plain : v.Plain depth) : v.ReadsBack := by
  induction plain with
  | @null depth => exact .of_step (Value.Plain.null : Value.Plain depth _) fun _ _ _ _ => rfl
  | @bool depth b =>
    refine .of_step (Value.Plain.bool b : Value.Plain depth _) fun _ _ _ _ => ?_
    cases b <;> rfl
  | @nat depth n fits =>
    refine .of_step (Value.Plain.nat fits : Value.Plain depth _) fun rest fuel ends _ => ?_
    have number := readNumber_toDigits fits ends
    have text : (Value.nat n).write rest = Nat.toDigits 10 n ++ rest := rfl
    obtain ⟨d, ds, written, digit⟩ := toDigits_eq_cons n
    rw [text, written, List.cons_append, readNode_digit digit, ← List.cons_append, ← written,
      number]
    rfl
  | @string depth s =>
    refine .of_step (Value.Plain.string s : Value.Plain depth _) fun rest fuel _ _ => ?_
    have text := readString_writeChars s rest
    simp only [Value.write, writeString, readNode, skipBlanks]
    rw [List.dropWhile_cons_of_neg (by decide)]
    simp only [text]
    rfl
  | @array depth items plain ih =>
    refine .of_step (Value.Plain.array plain) fun rest fuel _ enough => ?_
    cases items with
    | nil =>
      simp only [Value.write, List.length_cons] at enough
      obtain ⟨fuel, rfl⟩ := Nat.exists_eq_succ_of_ne_zero (by omega : fuel ≠ 0)
      rfl
    | cons v vs =>
      obtain ⟨c, cs, first, visible, other⟩ :=
        (plain v List.mem_cons_self).write_head (writeItems vs rest)
      have longer := (plain v List.mem_cons_self).length_lt_write (writeItems vs rest)
      simp only [Value.write, List.length_cons] at enough ⊢
      have last := length_le_writeItems vs rest
      obtain ⟨fuel, rfl⟩ := Nat.exists_eq_succ_of_ne_zero (by omega : fuel ≠ 0)
      have items := readItem_write vs rest v fuel (fun w mem => ⟨plain w mem, ih w mem⟩) (by omega)
      -- the first item is not taken for a closing bracket
      have begun : readItems (fuel + 1) (v.write (writeItems vs rest)) =
          readItem fuel (v.write (writeItems vs rest)) := by
        rw [first, readItems, skipBlanks, List.dropWhile_cons_of_neg (by simp [visible])]
        simp [other]
      simp only [readNode, skipBlanks]
      rw [List.dropWhile_cons_of_neg (by decide)]
      simp only [begun, items]
      rfl
  | @object depth members plain ih =>
    refine .of_step (Value.Plain.object plain) fun rest fuel _ enough => ?_
    cases members with
    | nil => rfl
    | cons m ms =>
      obtain ⟨k, v⟩ := m
      have members := readMember_write ms rest k v fuel (fun m mem => ⟨plain m mem, ih m mem⟩) (by
        simp only [Value.write, writeString, List.length_cons] at enough
        omega)
      simp only [Value.write, writeString, readNode, skipBlanks]
      rw [List.dropWhile_cons_of_neg (by decide)]
      simp only []
      rw [List.dropWhile_cons_of_neg (by decide)]
      simp only [members]
      rfl

/-- The text of a plain value is nothing but the value. -/
theorem ofChars_write {depth : Nat} {v : Value} (plain : v.Plain depth) :
    Node.ofChars (v.write []) = (Node.ofValue v, some []) :=
  readNode_write plain [] _ (by rintro c ⟨⟩) (by simp)

/-! ## Reading through -/

lemma itemValues_ofItems {depth : Nat} (items : List Value)
    (same : ∀ v ∈ items, (Node.ofValue v).value depth = .ok v) :
    itemValues (ofItems items) depth = .ok items := by
  induction items with
  | nil => rfl
  | cons v vs ih =>
    have first := same v List.mem_cons_self
    have others := ih fun w mem => same w (List.mem_cons_of_mem v mem)
    rw [ofItems, itemValues, first, others]
    rfl

lemma memberValues_ofMembers {depth : Nat} (members : List (String × Value))
    (same : ∀ m ∈ members, (Node.ofValue m.2).value depth = .ok m.2) :
    memberValues (ofMembers members) depth = .ok members := by
  induction members with
  | nil => rfl
  | cons m ms ih =>
    have first := same m List.mem_cons_self
    have others := ih fun w mem => same w (List.mem_cons_of_mem m mem)
    rw [ofMembers, memberValues, first, others]
    rfl

lemma enter_succ {levels depth : Nat} (deep : levels + 1 < depth) :
    ∃ less, enter depth = .ok less ∧ levels < less :=
  ⟨depth - 1, if_neg (by omega), by omega⟩

/-- A plain value is read through as itself, wherever there is room for its levels. -/
theorem value_ofValue {levels : Nat} {v : Value} (plain : v.Plain levels) :
    ∀ {depth}, levels < depth → (Node.ofValue v).value depth = .ok v := by
  induction plain with
  | null => exact fun _ => rfl
  | bool b => exact fun _ => rfl
  | nat fits => exact fun _ => rfl
  | string s => exact fun _ => rfl
  | @array levels items plain ih =>
    intro depth deep
    obtain ⟨less, entered, room⟩ := enter_succ deep
    have through := itemValues_ofItems items fun v mem => ih v mem room
    rw [Node.ofValue, Node.value, entered]
    change (do let items ← itemValues (ofItems items) less; _) = _
    rw [through]
    rfl
  | @object levels members plain ih =>
    intro depth deep
    obtain ⟨less, entered, room⟩ := enter_succ deep
    have through := memberValues_ofMembers members fun v mem => ih v mem room
    rw [Node.ofValue, Node.value, entered]
    change (do let members ← memberValues (ofMembers members) less; _) = _
    rw [through]
    rfl

/-- The text of a plain value of few levels parses to the value. -/
theorem parse_text {depth : Nat} {v : Value} (plain : v.Plain depth) (few : depth < maxDepth) :
    Value.parse v.text = .ok v := by
  have chars : v.text.toList = v.write [] := String.toList_ofList
  unfold Value.parse
  rw [chars, ofChars_write plain]
  dsimp only
  rw [value_ofValue plain few]
  rfl

/-! ## One line -/

/-- A written value has no newline: those of its strings are escaped. -/
lemma Value.Plain.newline_mem_write {depth : Nat} {v : Value} (plain : v.Plain depth) :
    ∀ rest, '\n' ∈ v.write rest ↔ '\n' ∈ rest := by
  induction plain with
  | null => exact fun rest => by simp [Value.write]
  | bool b => exact fun rest => by cases b <;> simp [Value.write]
  | @nat _ n _ =>
    intro rest
    have digits : '\n' ∉ Nat.toDigits 10 n := fun mem =>
      absurd (toDigits_isDigit '\n' mem) (by decide)
    have text : (Value.nat n).write rest = Nat.toDigits 10 n ++ rest := rfl
    rw [text, List.mem_append, or_iff_right digits]
  | string s => exact fun rest => by simp [Value.write, writeString, newline_mem_writeChars]
  | @array _ items _ ih =>
    intro rest
    have after : ∀ vs, (∀ v ∈ vs, v ∈ items) → ('\n' ∈ writeItems vs rest ↔ '\n' ∈ rest) := by
      intro vs
      induction vs with
      | nil => simp [writeItems]
      | cons v vs others =>
        intro mem
        simp only [List.forall_mem_cons] at mem
        simp [writeItems, ih v mem.1, others mem.2]
    cases items with
    | nil => simp [Value.write]
    | cons v vs =>
      simp [Value.write, ih v, after vs fun w mem => List.mem_cons_of_mem v mem]
  | @object _ members _ ih =>
    intro rest
    have after : ∀ ms, (∀ m ∈ ms, m ∈ members) → ('\n' ∈ writeMembers ms rest ↔ '\n' ∈ rest) := by
      intro ms
      induction ms with
      | nil => simp [writeMembers]
      | cons m ms others =>
        intro mem
        simp only [List.forall_mem_cons] at mem
        simp [writeMembers, writeString, newline_mem_writeChars, ih m mem.1, others mem.2]
    cases members with
    | nil => simp [Value.write]
    | cons m ms =>
      simp [Value.write, writeString, newline_mem_writeChars, ih m,
        after ms fun w mem => List.mem_cons_of_mem m mem]

end AppLifecycle.Json
