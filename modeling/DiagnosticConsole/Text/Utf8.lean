import DiagnosticConsole.Text.Basic

/-!
# UTF-8

A character is one to four bytes. Reading bytes back goes step by step: a step
gives either a character, or the bytes that cannot begin one together with the
reason. Strict reading stops at the first such step and names it; lenient
reading puts U+FFFD in its place, so that a character that is cut short counts
once, however many of its bytes are there.
-/

namespace DiagnosticConsole.Text

/-- Bytes of a file or of a line. -/
abbrev Bytes := List UInt8

namespace Utf8

/-- The byte that ends with the six lowest bits of a number. -/
def trailing (n : Nat) : UInt8 := (0x80 + n % 0x40).toUInt8

/-- The bytes of a character. -/
def encodeChar (c : Char) : Bytes :=
  let n := c.toNat
  if n < 0x80 then [n.toUInt8]
  else if n < 0x800 then [(0xC0 + n / 0x40).toUInt8, trailing n]
  else if n < 0x10000 then
    [(0xE0 + n / 0x1000).toUInt8, trailing (n / 0x40), trailing n]
  else
    [(0xF0 + n / 0x40000).toUInt8, trailing (n / 0x1000), trailing (n / 0x40),
      trailing n]

/-- The bytes of a text. -/
def encode (t : Text) : Bytes := t.flatMap encodeChar

/-- Why bytes do not begin a character. -/
inductive Reason where
  | invalidStart
  | invalidContinuation
  | unexpectedEnd
  deriving DecidableEq, Repr

/-- The wording of a reason. -/
def Reason.message : Reason → Text
  | .invalidStart => ofString "invalid start byte"
  | .invalidContinuation => ofString "invalid continuation byte"
  | .unexpectedEnd => ofString "unexpected end of data"

/-- What the bytes at hand begin with: a character of so many bytes, or so many
bytes that are none. -/
inductive Step where
  | character (c : Char) (length : Nat)
  | invalid (reason : Reason) (length : Nat)
  deriving DecidableEq, Repr

/-- How many bytes follow a first byte, and between which bounds the first of
them lies. Past the first, any continuation byte will do. -/
def follow? (first : Nat) : Option (Nat × Nat × Nat) :=
  if first < 0xC2 then none
  else if first < 0xE0 then some (1, 0x80, 0xBF)
  else if first = 0xE0 then some (2, 0xA0, 0xBF)
  else if first = 0xED then some (2, 0x80, 0x9F)
  else if first < 0xF0 then some (2, 0x80, 0xBF)
  else if first = 0xF0 then some (3, 0x90, 0xBF)
  else if first < 0xF4 then some (3, 0x80, 0xBF)
  else if first = 0xF4 then some (3, 0x80, 0x8F)
  else none

/-- The bits a first byte contributes when so many bytes follow it. -/
def leadingBits (first follow : Nat) : Nat :=
  first - (if follow = 1 then 0xC0 else if follow = 2 then 0xE0 else 0xF0)

/-- Reads the bytes that follow a first one: `value` holds the bits so far,
`taken` counts the bytes so far and `low` and `high` bound the next. -/
def continuation : Nat → Nat → Nat → Nat → Nat → Bytes → Step
  | 0, value, taken, _, _, _ => .character (Char.ofNat value) taken
  | _ + 1, _, taken, _, _, [] => .invalid .unexpectedEnd taken
  | left + 1, value, taken, low, high, b :: rest =>
      let n := b.toNat
      if low ≤ n ∧ n ≤ high then
        continuation left (value * 0x40 + (n - 0x80)) (taken + 1) 0x80 0xBF rest
      else .invalid .invalidContinuation taken

/-- What a first byte and the bytes behind it begin with. -/
def step (first : UInt8) (rest : Bytes) : Step :=
  let n := first.toNat
  if n < 0x80 then .character (Char.ofNat n) 1
  else
    match follow? n with
    | none => .invalid .invalidStart 1
    | some (follow, low, high) =>
        continuation follow (leadingBits n follow) 1 low high rest

/-- How many bytes a step takes. -/
def Step.length : Step → Nat
  | .character _ n => n
  | .invalid _ n => n

/-- The steps that bytes fall into, `skip` bytes of which were taken by the
step before. -/
def stepsFrom : Nat → Bytes → List Step
  | _, [] => []
  | skip + 1, _ :: rest => stepsFrom skip rest
  | 0, b :: rest =>
      let s := step b rest
      s :: stepsFrom (s.length - 1) rest

/-- The steps that bytes fall into. -/
def steps (bytes : Bytes) : List Step := stepsFrom 0 bytes

/-- Lenient reading: U+FFFD for each step that is no character. -/
def decodeLenient (bytes : Bytes) : Text :=
  (steps bytes).map fun
    | .character c _ => c
    | .invalid .. => '\uFFFD'

/-- Bytes that are no text: where the first bad ones are and why. -/
structure Fault where
  reason : Reason
  position : Nat
  length : Nat
  /-- The first of the bad bytes. -/
  byte : Nat
  deriving DecidableEq, Repr

/-- The wording of a fault: one bad byte is shown, several are only placed. -/
def Fault.message (fault : Fault) : Text :=
  let subject :=
    if fault.length = 1 then
      ofString "byte 0x" ++ hex 2 fault.byte ++ ofString " in position "
        ++ ofNat fault.position
    else
      ofString "bytes in position " ++ ofNat fault.position ++ ['-']
        ++ ofNat (fault.position + fault.length - 1)
  ofString "\x27utf-8\x27 codec can\x27t decode " ++ subject ++ ofString ": "
    ++ fault.reason.message

/-- Reads steps up to the first bad one; `position` is where they begin. -/
def collect (bytes : Bytes) : Nat → List Step → Except Fault Text
  | _, [] => .ok []
  | position, .character c n :: rest =>
      match collect bytes (position + n) rest with
      | .ok t => .ok (c :: t)
      | .error e => .error e
  | position, .invalid reason n :: _ =>
      .error ⟨reason, position, n, (bytes.getD position 0).toNat⟩

/-- Strict reading. -/
def decode (bytes : Bytes) : Except Fault Text := collect bytes 0 (steps bytes)

end Utf8

end DiagnosticConsole.Text
