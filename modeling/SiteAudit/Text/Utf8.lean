/-!
# UTF-8 with located faults

Bytes are read one character at a time.  Where the bytes are no character, the fault covers the
longest start of one that is there, and says why it cannot go on.

* `encode` writes a text as bytes.
* `readFrom` reads one character or finds one fault.
* `decode` reads a whole text and stops at the first fault.
* `decodeSkipping` leaves faults out and reads on behind them.
-/
namespace SiteAudit.Text.Utf8

/-- Why some bytes are no character. -/
inductive Reason where
  /-- The first byte starts no character. -/
  | invalidStart
  /-- A later byte does not continue the character. -/
  | invalidContinuation
  /-- The bytes end inside the character. -/
  | unexpectedEnd
  deriving DecidableEq, Repr

/-- What the front of a byte sequence holds. -/
inductive Front where
  /-- A character, and how many bytes it takes. -/
  | char (c : Char) (size : Nat)
  /-- Bytes that are no character, and how many they are. -/
  | fault (reason : Reason) (size : Nat)

/-- Whether a byte can follow the first byte of a character. -/
def isTail (b : UInt8) : Bool := 0x80 ≤ b && b ≤ 0xBF

/-- Whether `b` can be the second byte after the first byte `a` of a long character: the
overlong forms, the surrogates and what lies beyond the last code point are left out. -/
def isSecond (a b : UInt8) : Bool :=
  isTail b && !(a == 0xE0 && b < 0xA0) && !(a == 0xED && 0xA0 ≤ b) &&
    !(a == 0xF0 && b < 0x90) && !(a == 0xF4 && 0x90 ≤ b)

/-- The six payload bits of a later byte. -/
def payload (b : UInt8) : Nat := b.toNat % 64

/-- Reads the character that the first byte `a` announces from the bytes `r` behind it. -/
def readFrom (a : UInt8) (r : List UInt8) : Front :=
  if a < 0x80 then .char (Char.ofNat a.toNat) 1
  else if a < 0xC2 then .fault .invalidStart 1
  else if a < 0xE0 then
    match r with
    | [] => .fault .unexpectedEnd 1
    | b :: _ =>
      if isTail b then .char (Char.ofNat (a.toNat % 32 * 64 + payload b)) 2
      else .fault .invalidContinuation 1
  else if a < 0xF0 then
    match r with
    | [] => .fault .unexpectedEnd 1
    | b :: r =>
      if !isSecond a b then .fault .invalidContinuation 1
      else match r with
        | [] => .fault .unexpectedEnd 2
        | c :: _ =>
          if isTail c then
            .char (Char.ofNat ((a.toNat % 16 * 64 + payload b) * 64 + payload c)) 3
          else .fault .invalidContinuation 2
  else if a < 0xF5 then
    match r with
    | [] => .fault .unexpectedEnd 1
    | b :: r =>
      if !isSecond a b then .fault .invalidContinuation 1
      else match r with
        | [] => .fault .unexpectedEnd 2
        | c :: r =>
          if !isTail c then .fault .invalidContinuation 2
          else match r with
            | [] => .fault .unexpectedEnd 3
            | d :: _ =>
              if isTail d then
                .char (Char.ofNat
                  (((a.toNat % 8 * 64 + payload b) * 64 + payload c) * 64 + payload d)) 4
              else .fault .invalidContinuation 3
  else .fault .invalidStart 1

/-- Bytes that are no text: which, where, and why. -/
structure Fault where
  /-- The first byte of the fault. -/
  byte : UInt8
  start : Nat
  size : Nat
  reason : Reason

def encode (s : List Char) : List UInt8 := s.flatMap String.utf8EncodeChar

/-- Reads all bytes, the first of which stands at offset `at`. -/
def decodeFrom (start : Nat) : List UInt8 → Except Fault (List Char)
  | [] => .ok []
  | a :: r =>
    match readFrom a r with
    | .fault reason size => .error { byte := a, start, size, reason }
    | .char c size => (decodeFrom (start + size) (r.drop (size - 1))).map (c :: ·)
termination_by bytes => bytes.length
decreasing_by simp only [List.length_drop, List.length_cons]; omega

/-- Reads bytes as a text, or gives the first fault. -/
def decode (bytes : List UInt8) : Except Fault (List Char) := decodeFrom 0 bytes

/-- Reads bytes as a text and leaves out what is none. -/
def decodeSkipping : List UInt8 → List Char
  | [] => []
  | a :: r =>
    match readFrom a r with
    | .fault _ size => decodeSkipping (r.drop (size - 1))
    | .char c size => c :: decodeSkipping (r.drop (size - 1))
termination_by bytes => bytes.length
decreasing_by all_goals simp only [List.length_drop, List.length_cons]; omega

/-! ## Wording -/

def Reason.message : Reason → String
  | .invalidStart => "invalid start byte"
  | .invalidContinuation => "invalid continuation byte"
  | .unexpectedEnd => "unexpected end of data"

def hexByte (b : UInt8) : String :=
  String.ofList [Nat.digitChar (b.toNat / 16), Nat.digitChar (b.toNat % 16)]

def Fault.message (f : Fault) : String :=
  if f.size ≤ 1 then
    "'utf-8' codec can't decode byte 0x" ++ hexByte f.byte ++ " in position " ++
      toString f.start ++ ": " ++ f.reason.message
  else
    "'utf-8' codec can't decode bytes in position " ++ toString f.start ++ "-" ++
      toString (f.start + f.size - 1) ++ ": " ++ f.reason.message

end SiteAudit.Text.Utf8
