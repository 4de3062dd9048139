/-!
# Reading bytes as text

Bytes are read as UTF-8. Where they are no UTF-8, each longest start of a sequence that could still
have become a character is shown as one replacement character.
-/

namespace AppLifecycle.Text

/-- What stands in the text for bytes that are no character. -/
def replacement : Char := '\ufffd'

/-- A byte that continues a sequence. -/
def isContinuation (b : UInt8) : Bool := 0x80 ≤ b && b ≤ 0xBF

/-- Whether `second` may follow the first byte of a sequence of three: neither an overlong form nor
a surrogate begins with the two. -/
def fitsThree (first second : UInt8) : Bool :=
  if first = 0xE0 then 0xA0 ≤ second && second ≤ 0xBF
  else if first = 0xED then 0x80 ≤ second && second ≤ 0x9F
  else isContinuation second

/-- Whether `second` may follow the first byte of a sequence of four: neither an overlong form nor
a code point above U+10FFFF begins with the two. -/
def fitsFour (first second : UInt8) : Bool :=
  if first = 0xF0 then 0x90 ≤ second && second ≤ 0xBF
  else if first = 0xF4 then 0x80 ≤ second && second ≤ 0x8F
  else isContinuation second

/-- The payload of a continuation byte. -/
def payload (b : UInt8) : Nat := b.toNat % 64

/-- The next character, or `none` where the bytes are no UTF-8, and the bytes after it. -/
def nextChar? (b : UInt8) (rest : List UInt8) : Option Char × List UInt8 :=
  if b < 0x80 then (some (Char.ofNat b.toNat), rest)
  else if 0xC2 ≤ b && b ≤ 0xDF then
    match rest with
    | c :: rest' =>
      if isContinuation c then (some (Char.ofNat (b.toNat % 32 * 64 + payload c)), rest')
      else (none, rest)
    | [] => (none, [])
  else if 0xE0 ≤ b && b ≤ 0xEF then
    match rest with
    | c :: rest' =>
      if fitsThree b c then
        match rest' with
        | d :: rest'' =>
          if isContinuation d then
            (some (Char.ofNat ((b.toNat % 16 * 64 + payload c) * 64 + payload d)), rest'')
          else (none, rest')
        | [] => (none, [])
      else (none, rest)
    | [] => (none, [])
  else if 0xF0 ≤ b && b ≤ 0xF4 then
    match rest with
    | c :: rest' =>
      if fitsFour b c then
        match rest' with
        | d :: rest'' =>
          if isContinuation d then
            match rest'' with
            | e :: rest''' =>
              if isContinuation e then
                (some (Char.ofNat
                  (((b.toNat % 8 * 64 + payload c) * 64 + payload d) * 64 + payload e)), rest''')
              else (none, rest'')
            | [] => (none, [])
          else (none, rest')
        | [] => (none, [])
      else (none, rest)
    | [] => (none, [])
  else (none, rest)

/-- Reading a character never gives bytes back. -/
theorem length_nextChar?_le (b : UInt8) (rest : List UInt8) :
    (nextChar? b rest).2.length ≤ rest.length := by
  unfold nextChar?
  repeat' split
  all_goals simp <;> omega

/-- The characters of `bytes`, one `none` for each place that is no UTF-8. -/
def decodeChars (bytes : List UInt8) : List (Option Char) :=
  match bytes with
  | [] => []
  | b :: rest => (nextChar? b rest).1 :: decodeChars (nextChar? b rest).2
termination_by bytes.length
decreasing_by
  have := length_nextChar?_le b rest
  simp only [List.length_cons]
  omega

/-- The text of `bytes`, with replacement characters where they are no UTF-8. -/
def decodeLossy (bytes : List UInt8) : String :=
  String.ofList ((decodeChars bytes).map (·.getD replacement))

/-- The text of `bytes` if all of them are UTF-8. -/
def decode? (bytes : List UInt8) : Option String :=
  ((decodeChars bytes).mapM id).map String.ofList

end AppLifecycle.Text
