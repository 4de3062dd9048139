import AppLifecycle.Json.Node
import Mathlib.Data.List.Basic
import Mathlib.Data.Nat.Digits.Defs
import Mathlib.Tactic.FinCases
import Mathlib.Tactic.IntervalCases

/-!
# Reading written strings and numbers back

A written string is read back up to its closing quote (`readString_writeChars`). A number has no end
of its own, so it is read back where no number goes on with what follows it (`readNumber_toDigits`).
-/

namespace AppLifecycle.Json

/-! ## Strings -/

/-- Every character takes a byte at least. -/
lemma hasBytes_of_le_length (s : List Char) : ∀ n ≤ s.length, hasBytes n s = true := by
  induction s with
  | nil =>
    intro n short
    rw [Nat.le_zero.mp short, hasBytes]
  | cons c s ih =>
    intro n short
    cases n with
    | zero => rfl
    | succ n =>
      have size := c.utf8Size_pos
      exact ih _ (by rw [List.length_cons] at short; omega)

lemma hexValue?_hexDigit (n : Nat) : hexValue? (hexDigit n) = some (n % 16) := by
  unfold hexDigit
  have small : n % 16 < 16 := Nat.mod_lt n (by decide)
  generalize n % 16 = digit at small
  interval_cases digit <;> rfl

/-- The escape of a control character is read as its number. -/
lemma hexEscape_control {n : Nat} (small : n < 32) (rest : List Char) :
    hexEscape ('0' :: '0' :: hexDigit (n / 16) :: hexDigit n :: rest) = .ok (n, rest) := by
  have enough : 4 ≤ ('0' :: '0' :: hexDigit (n / 16) :: hexDigit n :: rest).length := by simp
  have zero : hexValue? '0' = some 0 := rfl
  have sum : ((0 * 16 + 0) * 16 + n / 16 % 16) * 16 + n % 16 = n := by omega
  rw [hexEscape, if_pos (hasBytes_of_le_length _ 4 enough)]
  simp only [zero, hexValue?_hexDigit, sum]

/-- One step of the reader undoes one step of the writer. -/
lemma stringStep_escape (c : Char) (rest : List Char) :
    stringStep (escape c ++ rest) = .char c rest := by
  unfold escape
  split_ifs with quote backslash backspace formFeed newline return_ tab control
  · subst quote; rfl
  · subst backslash; rfl
  · subst backspace; rfl
  · subst formFeed; rfl
  · subst newline; rfl
  · subst return_; rfl
  · subst tab; rfl
  · have small : c.toNat < 32 := control
    simp only [List.cons_append, List.nil_append, stringStep, hexEscape_control small]
    rw [if_neg (by omega), if_neg (by omega), Char.ofNat_toNat]
  · -- all others stand for themselves
    simp [stringStep, backslash, control]

lemma readChars_writeChars (cs rest : List Char) :
    ∀ fuel, cs.length < fuel → readChars fuel (writeChars cs rest) = (.ok cs, some rest) := by
  induction cs with
  | nil =>
    intro fuel enough
    obtain ⟨fuel, rfl⟩ := Nat.exists_eq_succ_of_ne_zero (by omega : fuel ≠ 0)
    rfl
  | cons c cs ih =>
    intro fuel enough
    obtain ⟨fuel, rfl⟩ := Nat.exists_eq_succ_of_ne_zero (by omega : fuel ≠ 0)
    have others := ih fuel (by simpa using enough)
    rw [writeChars, readChars, stringStep_escape]
    simp only [others]
    rfl

lemma escape_ne_nil (c : Char) : escape c ≠ [] := by
  unfold escape
  split_ifs <;> simp

/-- Every character of a string takes one at least, and so does the closing quote. -/
lemma length_lt_writeChars (cs rest : List Char) :
    cs.length + rest.length < (writeChars cs rest).length := by
  induction cs with
  | nil => simp [writeChars]
  | cons c cs ih =>
    have := List.length_pos_iff.mpr (escape_ne_nil c)
    simp only [writeChars, List.length_append, List.length_cons]
    omega

/-- A written string is read back, up to its closing quote. -/
lemma readString_writeChars (s : String) (rest : List Char) :
    readString (writeChars s.toList rest) = (.ok s, some rest) := by
  have longer := length_lt_writeChars s.toList rest
  have chars := readChars_writeChars s.toList rest ((writeChars s.toList rest).length + 1) (by
    omega)
  unfold readString
  rw [chars]
  simp [Token.ok, Except.map]

lemma writeChars_append (cs rest : List Char) : writeChars cs rest = writeChars cs [] ++ rest := by
  induction cs with
  | nil => rfl
  | cons c cs ih => rw [writeChars, writeChars, ih, List.append_assoc]

lemma newline_notMem_escape (c : Char) : '\n' ∉ escape c := by
  have hex : ∀ n, '\n' ≠ hexDigit n := fun n same => by
    have value := hexValue?_hexDigit n
    rw [← same] at value
    cases value
  unfold escape
  split_ifs <;> simp_all [eq_comm]

lemma newline_mem_writeChars (cs rest : List Char) :
    '\n' ∈ writeChars cs rest ↔ '\n' ∈ rest := by
  induction cs with
  | nil => simp [writeChars]
  | cons c cs ih => simp [writeChars, ih, newline_notMem_escape c]

/-! ## Numbers -/

/-- No number goes on with this text. -/
def EndsNumber (rest : List Char) : Prop :=
  ∀ c ∈ rest.head?, c.isDigit = false ∧ c ≠ '.' ∧ c ≠ 'e' ∧ c ≠ 'E'

lemma endsNumber_cons {c : Char} {rest : List Char}
    (h : c.isDigit = false ∧ c ≠ '.' ∧ c ≠ 'e' ∧ c ≠ 'E') : EndsNumber (c :: rest) := by
  rintro d ⟨⟩
  exact h

/-- The digits of a number are all it takes, if it fits. -/
lemma absorb_eq (ds : List Char) : ∀ n, Nat.ofDigitChars 10 ds n < Nat.pow 2 64 →
    absorb n ds = (Nat.ofDigitChars 10 ds n, []) := by
  induction ds with
  | nil => intro n _; rfl
  | cons d ds ih =>
    intro n fits
    have next : Nat.ofDigitChars 10 (d :: ds) n =
        Nat.ofDigitChars 10 ds (n * 10 + (d.toNat - 48)) := by
      rw [Nat.ofDigitChars_cons, Nat.mul_comm]
      rfl
    rw [next] at fits ⊢
    have grows : n * 10 + (d.toNat - 48) ≤ Nat.ofDigitChars 10 ds (n * 10 + (d.toNat - 48)) := by
      rw [Nat.ofDigitChars_eq_ofDigitChars_zero]
      have := Nat.le_mul_of_pos_left (n * 10 + (d.toNat - 48)) (Nat.pow_pos (n := ds.length)
        (show 0 < 10 by decide))
      omega
    rw [absorb, if_pos (by omega)]
    exact ih _ fits

lemma toDigits_isDigit {n : Nat} : ∀ d ∈ Nat.toDigits 10 n, d.isDigit = true := fun _ mem =>
  Nat.isDigit_of_mem_toDigits (by decide) (by decide) mem

/-- A number begins with a digit. -/
lemma toDigits_eq_cons (n : Nat) : ∃ d ds, Nat.toDigits 10 n = d :: ds ∧ d.isDigit = true := by
  cases written : Nat.toDigits 10 n with
  | nil => exact absurd written Nat.toDigits_ne_nil
  | cons d ds => exact ⟨d, ds, rfl, toDigits_isDigit d (by rw [written]; exact List.mem_cons_self)⟩

lemma digit_cases {d : Char} (digit : d.isDigit = true) :
    d ∈ ['0', '1', '2', '3', '4', '5', '6', '7', '8', '9'] := by
  obtain ⟨low, high⟩ : 48 ≤ d.toNat ∧ d.toNat ≤ 57 := by
    simpa [Char.isDigit, UInt32.le_iff_toNat_le] using digit
  rw [← Char.ofNat_toNat d]
  interval_cases d.toNat <;> decide

lemma toDigits_leading {n : Nat} (zero : (Nat.toDigits 10 n).head? = some '0') : n = 0 := by
  induction n using Nat.strong_induction_on with
  | _ n ih =>
    by_cases small : n < 10
    · rw [Nat.toDigits_of_lt_base small] at zero
      interval_cases n <;> first | rfl | exact absurd zero (by decide)
    · rw [Nat.toDigits_of_base_le (by decide) (by omega),
        List.head?_append_of_ne_nil _ Nat.toDigits_ne_nil] at zero
      have := ih (n / 10) (by omega) zero
      omega

lemma splitDigits_append {ds rest : List Char} (digits : ∀ d ∈ ds, d.isDigit = true)
    (ends : EndsNumber rest) : splitDigits (ds ++ rest) = (ds, rest) := by
  unfold splitDigits
  rw [List.takeWhile_append_of_pos digits, List.dropWhile_append_of_pos digits]
  cases rest with
  | nil => simp
  | cons c rest =>
    have other := (ends c rfl).1
    simp [other]

/-- What follows is neither a fraction nor an exponent. -/
lemma readFraction_of_ends {rest : List Char} (ends : EndsNumber rest) (negative : Bool)
    (whole : List Char) :
    readFraction negative whole rest = finishNumber ⟨negative, whole, none, none⟩ rest := by
  cases rest with
  | nil => rfl
  | cons c rest =>
    obtain ⟨-, dot, e, bigE⟩ := ends c rfl
    unfold readFraction
    split
    · simp_all
    · unfold readExponent
      exact if_neg (by simp [e, bigE])

/-- Only zero itself begins with a zero. -/
lemma readMagnitude_toDigits {n : Nat} {rest : List Char} (ends : EndsNumber rest) :
    readMagnitude false (Nat.toDigits 10 n ++ rest) =
      finishNumber ⟨false, Nat.toDigits 10 n, none, none⟩ rest := by
  unfold readMagnitude
  rw [splitDigits_append toDigits_isDigit ends]
  dsimp only
  split
  next none => exact absurd none Nat.toDigits_ne_nil
  next d ds zeros =>
    -- several digits with a zero in front would be malformed
    obtain rfl := toDigits_leading (by rw [zeros]; rfl)
    exact absurd zeros (by simp [Nat.toDigits_zero])
  next => exact readFraction_of_ends ends false _

/-- A number that is no part of a greater one is read back. -/
lemma readNumber_toDigits {n : Nat} (fits : n < Nat.pow 2 64) {rest : List Char}
    (ends : EndsNumber rest) :
    readNumber (Nat.toDigits 10 n ++ rest) = (.ok (.integer n), some rest) := by
  have size : absorb 0 (Nat.toDigits 10 n) = (n, []) := by
    have same : Nat.ofDigitChars 10 (Nat.toDigits 10 n) 0 = n := Nat.ofDigitChars_ten_toDigits
    have all := absorb_eq (Nat.toDigits 10 n) 0
    rw [same] at all
    exact all fits
  have value : finishNumber ⟨false, Nat.toDigits 10 n, none, none⟩ rest =
      (.ok (.integer n), some rest) := by
    simp [finishNumber, Digits.value, size, Token.ok]
  obtain ⟨d, ds, written, digit⟩ := toDigits_eq_cons n
  have sign : d ≠ '-' := fun h => by rw [h] at digit; exact absurd digit (by decide)
  rw [← value, ← readMagnitude_toDigits ends, written, List.cons_append, readNumber]
  simpa using sign

end AppLifecycle.Json
