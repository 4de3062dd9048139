import AppLifecycle.Text.Utf8
import Mathlib.Data.List.Basic

/-!
# Reading the bytes of a text

The bytes of a text are read as the text (`decode?_encode`), and a byte of them that is ASCII stands
where the text has this character (`mem_of_mem_encode`).
-/

namespace AppLifecycle.Text

/-! ## Sequences of bytes -/

variable {b c d e : UInt8}

/-- The first byte decides how many follow it. -/
lemma nextChar?_one (h : b.toNat < 0x80) (rest : List UInt8) :
    nextChar? b rest = (some (Char.ofNat b.toNat), rest) :=
  if_pos h

lemma nextChar?_two (low : 0xC2 ≤ b.toNat) (high : b.toNat ≤ 0xDF) (hc : isContinuation c = true)
    (rest : List UInt8) :
    nextChar? b (c :: rest) = (some (Char.ofNat (b.toNat % 32 * 64 + payload c)), rest) := by
  unfold nextChar?
  rw [if_neg (by simp [UInt8.lt_iff_toNat_lt]; omega),
    if_pos (by simp [UInt8.le_iff_toNat_le]; omega)]
  exact if_pos hc

lemma nextChar?_three (low : 0xE0 ≤ b.toNat) (high : b.toNat ≤ 0xEF) (fits : fitsThree b c = true)
    (hd : isContinuation d = true) (rest : List UInt8) :
    nextChar? b (c :: d :: rest) =
      (some (Char.ofNat ((b.toNat % 16 * 64 + payload c) * 64 + payload d)), rest) := by
  unfold nextChar?
  rw [if_neg (by simp [UInt8.lt_iff_toNat_lt]; omega),
    if_neg (by simp [UInt8.le_iff_toNat_le]; omega),
    if_pos (by simp [UInt8.le_iff_toNat_le]; omega)]
  dsimp only
  rw [if_pos fits]
  exact if_pos hd

lemma nextChar?_four (low : 0xF0 ≤ b.toNat) (high : b.toNat ≤ 0xF4) (fits : fitsFour b c = true)
    (hd : isContinuation d = true) (he : isContinuation e = true) (rest : List UInt8) :
    nextChar? b (c :: d :: e :: rest) =
      (some (Char.ofNat (((b.toNat % 8 * 64 + payload c) * 64 + payload d) * 64 + payload e)),
        rest) := by
  unfold nextChar?
  rw [if_neg (by simp [UInt8.lt_iff_toNat_lt]; omega),
    if_neg (by simp [UInt8.le_iff_toNat_le]; omega),
    if_neg (by simp [UInt8.le_iff_toNat_le]; omega),
    if_pos (by simp [UInt8.le_iff_toNat_le]; omega)]
  dsimp only
  rw [if_pos fits, if_pos hd]
  exact if_pos he

/-! ## One character -/

lemma toNat_ofNat {n : Nat} (small : n < 256) : (UInt8.ofNat n).toNat = n := by
  rw [UInt8.toNat_ofNat']
  omega

/-- The byte for six bits of a character. -/
lemma continuation_ofNat (n : Nat) :
    isContinuation (UInt8.ofNat (n % 64 + 128)) = true ∧
      payload (UInt8.ofNat (n % 64 + 128)) = n % 64 := by
  have byte : (UInt8.ofNat (n % 64 + 128)).toNat = n % 64 + 128 := toNat_ofNat (by omega)
  constructor
  · simp only [isContinuation, UInt8.le_iff_toNat_le, byte, Bool.and_eq_true, decide_eq_true_eq]
    exact ⟨Nat.le_add_left 128 _, by show n % 64 + 128 ≤ 191; omega⟩
  · rw [payload, byte]
    omega

/-- A character of three bytes is neither too small for them nor a surrogate. -/
lemma fitsThree_ofNat {n : Nat} (low : 0x800 ≤ n) (high : n < 0x10000)
    (valid : n < 0xD800 ∨ 0xDFFF < n) :
    fitsThree (UInt8.ofNat (n / 4096 % 16 + 224)) (UInt8.ofNat (n / 64 % 64 + 128)) = true := by
  have first : (UInt8.ofNat (n / 4096 % 16 + 224)).toNat = n / 4096 % 16 + 224 :=
    toNat_ofNat (by omega)
  have second : (UInt8.ofNat (n / 64 % 64 + 128)).toNat = n / 64 % 64 + 128 :=
    toNat_ofNat (by omega)
  unfold fitsThree
  split_ifs with overlong surrogate
  · have top := congrArg UInt8.toNat overlong
    rw [first] at top
    simp only [UInt8.le_iff_toNat_le, second, Bool.and_eq_true, decide_eq_true_eq]
    exact ⟨by show 160 ≤ _; simp at top; omega, by show _ ≤ 191; omega⟩
  · have top := congrArg UInt8.toNat surrogate
    rw [first] at top
    simp only [UInt8.le_iff_toNat_le, second, Bool.and_eq_true, decide_eq_true_eq]
    exact ⟨by show 128 ≤ _; omega, by show _ ≤ 159; simp at top; omega⟩
  · exact (continuation_ofNat (n / 64)).1

/-- A character of four bytes is neither too small for them nor too great. -/
lemma fitsFour_ofNat {n : Nat} (low : 0x10000 ≤ n) (high : n < 0x110000) :
    fitsFour (UInt8.ofNat (n / 262144 % 8 + 240)) (UInt8.ofNat (n / 4096 % 64 + 128)) = true := by
  have first : (UInt8.ofNat (n / 262144 % 8 + 240)).toNat = n / 262144 % 8 + 240 :=
    toNat_ofNat (by omega)
  have second : (UInt8.ofNat (n / 4096 % 64 + 128)).toNat = n / 4096 % 64 + 128 :=
    toNat_ofNat (by omega)
  unfold fitsFour
  split_ifs with overlong beyond
  · have top := congrArg UInt8.toNat overlong
    rw [first] at top
    simp only [UInt8.le_iff_toNat_le, second, Bool.and_eq_true, decide_eq_true_eq]
    exact ⟨by show 144 ≤ _; simp at top; omega, by show _ ≤ 191; omega⟩
  · have top := congrArg UInt8.toNat beyond
    rw [first] at top
    simp only [UInt8.le_iff_toNat_le, second, Bool.and_eq_true, decide_eq_true_eq]
    exact ⟨by show 128 ≤ _; omega, by show _ ≤ 143; simp at top; omega⟩
  · exact (continuation_ofNat (n / 4096)).1

/-- The bytes of a character. -/
lemma utf8EncodeChar_eq (c : Char) : String.utf8EncodeChar c =
    if c.toNat ≤ 0x7F then [UInt8.ofNat c.toNat]
    else if c.toNat ≤ 0x7FF then
      [UInt8.ofNat (c.toNat / 64 % 32 + 192), UInt8.ofNat (c.toNat % 64 + 128)]
    else if c.toNat ≤ 0xFFFF then
      [UInt8.ofNat (c.toNat / 4096 % 16 + 224), UInt8.ofNat (c.toNat / 64 % 64 + 128),
        UInt8.ofNat (c.toNat % 64 + 128)]
    else
      [UInt8.ofNat (c.toNat / 262144 % 8 + 240), UInt8.ofNat (c.toNat / 4096 % 64 + 128),
        UInt8.ofNat (c.toNat / 64 % 64 + 128), UInt8.ofNat (c.toNat % 64 + 128)] := rfl

/-- A character is read back from its bytes. -/
theorem nextChar?_utf8EncodeChar (c : Char) (rest : List UInt8) :
    ∃ b bytes, String.utf8EncodeChar c = b :: bytes ∧
      nextChar? b (bytes ++ rest) = (some c, rest) := by
  have valid : c.toNat < 0xD800 ∨ 0xDFFF < c.toNat ∧ c.toNat < 0x110000 := c.valid
  have whole {n : Nat} (same : n = c.toNat) : Char.ofNat n = c := by rw [same, Char.ofNat_toNat]
  obtain ⟨second, payload₂⟩ := continuation_ofNat (c.toNat / 4096)
  obtain ⟨third, payload₃⟩ := continuation_ofNat (c.toNat / 64)
  obtain ⟨fourth, payload₄⟩ := continuation_ofNat c.toNat
  rw [utf8EncodeChar_eq]
  -- one case for each number of bytes
  split_ifs with one two three
  · have byte : (UInt8.ofNat c.toNat).toNat = c.toNat := toNat_ofNat (by omega)
    refine ⟨_, _, rfl, ?_⟩
    rw [List.nil_append, nextChar?_one (by omega), byte, Char.ofNat_toNat]
  · have byte : (UInt8.ofNat (c.toNat / 64 % 32 + 192)).toNat = c.toNat / 64 % 32 + 192 :=
      toNat_ofNat (by omega)
    refine ⟨_, _, rfl, ?_⟩
    rw [List.cons_append, List.nil_append, nextChar?_two (by omega) (by omega) fourth, byte,
      payload₄, whole (by omega)]
  · have byte : (UInt8.ofNat (c.toNat / 4096 % 16 + 224)).toNat = c.toNat / 4096 % 16 + 224 :=
      toNat_ofNat (by omega)
    have fits := fitsThree_ofNat (n := c.toNat) (by omega) (by omega) (by omega)
    refine ⟨_, _, rfl, ?_⟩
    rw [List.cons_append, List.cons_append, List.nil_append,
      nextChar?_three (by omega) (by omega) fits fourth, byte, payload₃, payload₄,
      whole (by omega)]
  · have byte : (UInt8.ofNat (c.toNat / 262144 % 8 + 240)).toNat = c.toNat / 262144 % 8 + 240 :=
      toNat_ofNat (by omega)
    have fits := fitsFour_ofNat (n := c.toNat) (by omega) (by omega)
    refine ⟨_, _, rfl, ?_⟩
    rw [List.cons_append, List.cons_append, List.cons_append, List.nil_append,
      nextChar?_four (by omega) (by omega) fits third fourth, byte, payload₂, payload₃, payload₄,
      whole (by omega)]

/-- A byte below 128 is the only one of its character. -/
lemma toNat_of_mem_utf8EncodeChar {b : UInt8} {c : Char} (low : b.toNat < 128)
    (mem : b ∈ String.utf8EncodeChar c) : c.toNat = b.toNat := by
  have same {n : Nat} (small : n < 256) (h : b = UInt8.ofNat n) : n = b.toNat := by
    rw [h, toNat_ofNat small]
  rw [utf8EncodeChar_eq] at mem
  split_ifs at mem <;> simp only [List.mem_cons, List.not_mem_nil, or_false] at mem
  -- every byte of a longer sequence is 128 at least
  · exact same (by omega) mem
  · rcases mem with h | h <;> have := same (by omega) h <;> omega
  · rcases mem with h | h | h <;> have := same (by omega) h <;> omega
  · rcases mem with h | h | h | h <;> have := same (by omega) h <;> omega

/-! ## A text -/

/-- The bytes of a text. -/
def encode (cs : List Char) : List UInt8 := cs.flatMap String.utf8EncodeChar

/-- A text has an ASCII character wherever its bytes have that of the character. -/
lemma mem_of_mem_encode {b : UInt8} {cs : List Char} (low : b.toNat < 128)
    (mem : b ∈ encode cs) : Char.ofNat b.toNat ∈ cs := by
  obtain ⟨c, hc, byte⟩ := List.mem_flatMap.mp mem
  rw [← toNat_of_mem_utf8EncodeChar low byte, Char.ofNat_toNat]
  exact hc

lemma decodeChars_encode (cs : List Char) : decodeChars (encode cs) = cs.map some := by
  induction cs with
  | nil => rw [encode, List.flatMap_nil, decodeChars]; rfl
  | cons c cs ih =>
    obtain ⟨b, bytes, written, read⟩ := nextChar?_utf8EncodeChar c (encode cs)
    have first : encode (c :: cs) = b :: (bytes ++ encode cs) := by
      rw [encode, List.flatMap_cons, written]
      rfl
    rw [first, decodeChars, read, ih]
    rfl

/-- A text is read back from its bytes, and nothing is replaced. -/
lemma decodeLossy_encode (cs : List Char) : decodeLossy (encode cs) = String.ofList cs := by
  rw [decodeLossy, decodeChars_encode, List.map_map]
  congr 1
  exact List.map_id cs

/-- Only the empty text has no bytes. -/
lemma encode_eq_nil {cs : List Char} : encode cs = [] ↔ cs = [] := by
  cases cs with
  | nil => exact iff_of_true rfl rfl
  | cons c cs =>
    obtain ⟨b, bytes, written, -⟩ := nextChar?_utf8EncodeChar c []
    rw [encode, List.flatMap_cons, written]
    exact iff_of_false (List.cons_ne_nil _ _) (List.cons_ne_nil _ _)

lemma toList_loop (bytes : ByteArray) (i : Nat) (r : List UInt8) :
    ByteArray.toList.loop bytes i r = r.reverse ++ bytes.data.toList.drop i := by
  induction left : bytes.size - i generalizing i r with
  | zero =>
    have done : bytes.data.toList.length ≤ i := by
      rw [Array.length_toList]
      exact Nat.le_of_sub_eq_zero left
    rw [ByteArray.toList.loop, if_neg (by omega), List.drop_eq_nil_of_le done, List.append_nil]
  | succ n ih =>
    have more : i < bytes.data.toList.length := by
      rw [Array.length_toList]
      show i < bytes.size
      omega
    have byte : bytes.get! i = bytes.data.toList[i] := by
      rw [Array.getElem_toList]
      exact getElem!_pos bytes.data i _
    rw [ByteArray.toList.loop, if_pos (by omega), ih _ _ (by omega), List.drop_eq_getElem_cons more,
      byte, List.reverse_cons, List.append_assoc]
    rfl

lemma toList_toUTF8 (s : String) : s.toUTF8.toList = encode s.toList := by
  have bytes : s.toUTF8.data.toList = encode s.toList := by
    have same : s.toUTF8 = s.toList.utf8Encode := by
      rw [← String.toByteArray_ofList, String.ofList_toList]
      rfl
    rw [same]
    exact List.toList_data_toByteArray
  rw [← bytes]
  exact toList_loop s.toUTF8 0 []

lemma decode?_encode (cs : List Char) : decode? (encode cs) = some (String.ofList cs) := by
  have all : (cs.map some).mapM id = some cs := by
    induction cs with
    | nil => rfl
    | cons c cs ih => simp [ih]
  rw [decode?, decodeChars_encode, all]
  rfl

end AppLifecycle.Text
