/-!
# UTF-8

Texts as bytes and bytes as texts. Bytes that are no text have a first fault: how many bytes before it are a text, and how many
bytes of it start like a character. A character that the bytes end within is a fault of its own kind. Main statement: the
bytes of a text are read back (`decode?_encode`).
-/

namespace PageTemplates

/-- A sequence of bytes. -/
abbrev Bytes := List UInt8

namespace Utf8

/-- The bytes of a text. -/
def encode (s : String) : Bytes :=
  s.toByteArray.data.toList

/-- The text that bytes encode. -/
def decode? (bytes : Bytes) : Option String :=
  String.fromUTF8? ⟨bytes.toArray⟩

theorem encode_append (a b : String) : encode (a ++ b) = encode a ++ encode b := by
  unfold encode
  rw [String.toByteArray_append, ByteArray.data_append, Array.toList_append]

/-- The bytes of a text are read back. -/
theorem decode?_encode (text : String) : decode? (encode text) = some text := by
  unfold decode? encode String.fromUTF8?
  rw [Array.toArray_toList, dif_pos text.isValidUTF8]
  rfl

/-- What is wrong with bytes that are no text. -/
inductive Fault where
  | invalid (length : Nat) (position : Nat)
  | incomplete (position : Nat)
  deriving DecidableEq, Inhabited

/-- The sentence that reports a fault. -/
def Fault.message : Fault → String
  | .invalid length position =>
    "invalid utf-8 sequence of " ++ toString length ++ " bytes from index " ++ toString position
  | .incomplete position => "incomplete utf-8 byte sequence from index " ++ toString position

/-- The number of bytes of a character that starts with the given byte; zero for a byte that starts none. -/
def sequenceLength (b : UInt8) : Nat :=
  if b < 0x80 then 1
  else if 0xC2 ≤ b && b ≤ 0xDF then 2
  else if 0xE0 ≤ b && b ≤ 0xEF then 3
  else if 0xF0 ≤ b && b ≤ 0xF4 then 4
  else 0

/-- Whether the second byte of a character may follow its first: no longer form than needed, no surrogate, nothing beyond the
last character. -/
def validSecond (first second : UInt8) : Bool :=
  if first = 0xE0 then 0xA0 ≤ second && second ≤ 0xBF
  else if first = 0xED then 0x80 ≤ second && second ≤ 0x9F
  else if first = 0xF0 then 0x90 ≤ second && second ≤ 0xBF
  else if first = 0xF4 then 0x80 ≤ second && second ≤ 0x8F
  else 0x80 ≤ second && second ≤ 0xBF

/-- Whether a byte continues a character. -/
def isContinuation (b : UInt8) : Bool :=
  0x80 ≤ b && b ≤ 0xBF

/-- The fault of the bytes from a position on, where a character should start. The bytes before are a text. The first argument
bounds the number of characters. -/
def faultFrom : Nat → Nat → Bytes → Option Fault
  | 0, _, _ => none
  | _, _, [] => none
  | fuel + 1, position, first :: rest =>
    match sequenceLength first, rest with
    | 0, _ => some (.invalid 1 position)
    | 1, _ => faultFrom fuel (position + 1) rest
    | _, [] => some (.incomplete position)
    | n, second :: rest =>
      if !validSecond first second then some (.invalid 1 position)
      else if n = 2 then faultFrom fuel (position + 2) rest
      else match rest with
        | [] => some (.incomplete position)
        | third :: rest =>
          if !isContinuation third then some (.invalid 2 position)
          else if n = 3 then faultFrom fuel (position + 3) rest
          else match rest with
            | [] => some (.incomplete position)
            | fourth :: rest =>
              if !isContinuation fourth then some (.invalid 3 position) else faultFrom fuel (position + 4) rest

/-- The fault of bytes, if they are no text. -/
def fault? (bytes : Bytes) : Option Fault :=
  faultFrom bytes.length 0 bytes

/-- The text that bytes encode, or their fault. -/
def decode (bytes : Bytes) : Except Fault String :=
  match decode? bytes with
  | some s => .ok s
  | none => .error ((fault? bytes).getD (.incomplete bytes.length))

end Utf8

end PageTemplates
