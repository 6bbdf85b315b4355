/-!
# Bytes and texts

Files and the output of commands are bytes.  Bytes that are well-formed UTF-8
are a text; where a text is wanted in any case, each ill-formed stretch becomes
one replacement character.

## Main definitions

* `decodeFirst` — the character at the front of a list of bytes, or how much of
  it to give up.
* `decodeChars` — all of them.
* `text?`, `lossyText` — the strict and the forgiving reading.
* `bytes` — the bytes of a text.
-/

namespace HarnessRepair.Text

/-- A byte that continues a character. -/
def isContinuation (b : UInt8) : Bool := 0x80 ≤ b && b ≤ 0xBF

/-- The payload of a continuation byte. -/
def continuationBits (b : UInt8) : Nat := b.toNat - 0x80

/-- Which second bytes may follow a first byte of a three-byte character. -/
def allowsSecondOfThree (b c : UInt8) : Bool :=
  if b == 0xE0 then 0xA0 ≤ c && c ≤ 0xBF
  else if b == 0xED then 0x80 ≤ c && c ≤ 0x9F
  else isContinuation c

/-- Which second bytes may follow a first byte of a four-byte character. -/
def allowsSecondOfFour (b c : UInt8) : Bool :=
  if b == 0xF0 then 0x90 ≤ c && c ≤ 0xBF
  else if b == 0xF4 then 0x80 ≤ c && c ≤ 0x8F
  else isContinuation c

/-- The character that starts with byte `b`, and how many of the bytes behind it
belong to it.  Without a character, the count is that of the bytes behind `b`
that are given up together with it. -/
def decodeFirst (b : UInt8) (rest : List UInt8) : Option Char × Nat :=
  if b < 0x80 then (some (Char.ofNat b.toNat), 0)
  else if 0xC2 ≤ b && b ≤ 0xDF then
    match rest with
    | c :: _ =>
      if isContinuation c then
        (some (Char.ofNat ((b.toNat - 0xC0) * 64 + continuationBits c)), 1)
      else (none, 0)
    | [] => (none, 0)
  else if 0xE0 ≤ b && b ≤ 0xEF then
    match rest with
    | c :: rest' =>
      if allowsSecondOfThree b c then
        match rest' with
        | d :: _ =>
          if isContinuation d then
            (some (Char.ofNat ((b.toNat - 0xE0) * 4096 + continuationBits c * 64 +
              continuationBits d)), 2)
          else (none, 1)
        | [] => (none, 1)
      else (none, 0)
    | [] => (none, 0)
  else if 0xF0 ≤ b && b ≤ 0xF4 then
    match rest with
    | c :: rest' =>
      if allowsSecondOfFour b c then
        match rest' with
        | d :: rest'' =>
          if isContinuation d then
            match rest'' with
            | e :: _ =>
              if isContinuation e then
                (some (Char.ofNat ((b.toNat - 0xF0) * 262144 + continuationBits c * 4096 +
                  continuationBits d * 64 + continuationBits e)), 3)
              else (none, 2)
            | [] => (none, 2)
          else (none, 1)
        | [] => (none, 1)
      else (none, 0)
    | [] => (none, 0)
  else (none, 0)

/-- The characters of a list of bytes; `none` stands for one ill-formed stretch. -/
def decodeChars : List UInt8 → List (Option Char)
  | [] => []
  | b :: rest =>
    let (c, n) := decodeFirst b rest
    c :: decodeChars (rest.drop n)
termination_by bytes => bytes.length
decreasing_by simp only [List.length_drop, List.length_cons]; omega

/-- The text that the bytes encode, if they are well-formed. -/
def text? (bytes : List UInt8) : Option String :=
  ((decodeChars bytes).mapM id).map String.ofList

/-- The text that the bytes encode, each ill-formed stretch replaced. -/
def lossyText (bytes : List UInt8) : String :=
  String.ofList ((decodeChars bytes).map fun c => c.getD '\uFFFD')

/-- The bytes of a text. -/
def bytes (s : String) : List UInt8 := s.toUTF8.toList

end HarnessRepair.Text
