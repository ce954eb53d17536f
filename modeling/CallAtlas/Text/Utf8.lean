import CallAtlas.Text.Quoted

/-!
# Decoding bytes

Bytes of a file as characters.  What is no character is an error that covers the longest beginning
of a character at that place, or a single byte; readers differ in what they do with errors.
-/

namespace CallAtlas.Text.Utf8

/-- The least and greatest second byte of a character that starts with the given byte, and the
number of bytes that follow it; `none` if no longer character starts with it. -/
def second? (first : Nat) : Option (Nat × Nat × Nat) :=
  if first < 0xc2 then none
  else if first < 0xe0 then some (0x80, 0xbf, 1)
  else if first = 0xe0 then some (0xa0, 0xbf, 2)
  else if first = 0xed then some (0x80, 0x9f, 2)
  else if first < 0xf0 then some (0x80, 0xbf, 2)
  else if first = 0xf0 then some (0x90, 0xbf, 3)
  else if first < 0xf4 then some (0x80, 0xbf, 3)
  else if first = 0xf4 then some (0x80, 0x8f, 3)
  else none

/-- Reads `count` continuation bytes, the next one between `least` and `greatest`. -/
def continuation (least greatest : Nat) : Nat → Nat → List UInt8 → Option Nat × List UInt8
  | 0, value, rest => (some value, rest)
  | _ + 1, _, [] => (none, [])
  | count + 1, value, b :: rest =>
    if least ≤ b.toNat ∧ b.toNat ≤ greatest then
      continuation 0x80 0xbf count (64 * value + b.toNat % 64) rest
    else (none, b :: rest)

/-- The character at the start of a list of bytes, or an error, and the bytes after it. -/
def step (first : UInt8) (rest : List UInt8) : Option Nat × List UInt8 :=
  let n := first.toNat
  if n < 0x80 then (some n, rest)
  else
    match second? n with
    | none => (none, rest)
    | some (least, greatest, count) =>
      continuation least greatest count (n % (if count = 1 then 32 else if count = 2 then 16 else 8))
        rest

/-- The characters and errors of a list of bytes, last one first and before those given, by at most
`fuel` steps. -/
def decodeFrom : Nat → List UInt8 → List (Option Char) → List (Option Char)
  | 0, _, done => done
  | _ + 1, [], done => done
  | fuel + 1, b :: rest, done =>
    let (value, after) := step b rest
    decodeFrom fuel after (value.map Char.ofNat :: done)

def decode (bytes : List UInt8) : List (Option Char) :=
  (decodeFrom bytes.length bytes []).reverse

/-- The text of bytes with a replacement character for every error. -/
def replacing (bytes : List UInt8) : List Char :=
  (decode bytes).map fun c => c.getD (Char.ofNat 0xfffd)

def ignoring (bytes : List UInt8) : List Char :=
  (decode bytes).filterMap id

/-! ## Bytes that must hold no error -/

inductive Reason where
  | start
  | continuation
  | endOfData
deriving DecidableEq

def Reason.text : Reason → String
  | .start => "invalid start byte"
  | .continuation => "invalid continuation byte"
  | .endOfData => "unexpected end of data"

/-- The first error of a list of bytes. -/
structure Fault where
  /-- Number of bytes before the error. -/
  position : Nat
  first : UInt8
  /-- Number of bytes the error covers. -/
  size : Nat
  reason : Reason
deriving DecidableEq

def Fault.message (f : Fault) : String :=
  "'utf-8' codec can't decode byte" ++
    (if f.size = 1 then
      " 0x" ++ String.ofList (hexDigits 2 f.first.toNat) ++ " in position " ++ toString f.position
    else
      "s in position " ++ toString f.position ++ "-" ++ toString (f.position + f.size - 1)) ++
    ": " ++ f.reason.text

/-- The characters of a list of bytes up to its first error, after those given, last one first, and
the bytes from the error on, by at most `fuel` steps. -/
def readFrom : Nat → List UInt8 → List Char → List Char × List UInt8
  | 0, rest, done => (done.reverse, rest)
  | _ + 1, [], done => (done.reverse, [])
  | fuel + 1, b :: rest, done =>
    match step b rest with
    | (some n, after) => readFrom fuel after (Char.ofNat n :: done)
    | (none, _) => (done.reverse, b :: rest)

/-- The characters of a list of bytes up to its first error, and the bytes from the error on. -/
def upToError (bytes : List UInt8) : List Char × List UInt8 :=
  readFrom bytes.length bytes []

def reasonAt (first : UInt8) (rest : List UInt8) : Reason :=
  if (second? first.toNat).isNone then .start
  else if (step first rest).2.isEmpty then .endOfData
  else .continuation

/-- The error that bytes begin with, where `position` counts the bytes before it. -/
def faultAt (position : Nat) (first : UInt8) (rest : List UInt8) : Fault :=
  ⟨position, first, (first :: rest).length - (step first rest).2.length, reasonAt first rest⟩

def strict (bytes : List UInt8) : Except Fault (List Char) :=
  match upToError bytes with
  | (text, []) => .ok text
  | (_, first :: rest) => .error (faultAt (bytes.length - (first :: rest).length) first rest)

/-- Whether an error at the end of some bytes is judged only when more bytes are known.  This is so
where they break off inside a character, and also after the first two bytes of a surrogate, which no
byte makes a character. -/
def isOpen (first : UInt8) (rest : List UInt8) : Bool :=
  reasonAt first rest == .endOfData ||
    match rest with
    | [second] => first == 0xed && 0xa0 ≤ second && second ≤ 0xbf
    | _ => false

/-- The text of bytes that more bytes may follow, and the bytes at their end that wait for these; or
their first error. -/
def begun (bytes : List UInt8) : Except Fault (List Char × List UInt8) :=
  match upToError bytes with
  | (text, []) => .ok (text, [])
  | (text, first :: rest) =>
    if isOpen first rest then .ok (text, first :: rest)
    else .error (faultAt (bytes.length - (first :: rest).length) first rest)

end CallAtlas.Text.Utf8
