import CallAtlas.Text.Split
import CallAtlas.Text.Utf8

/-!
# Text files that are read line by line

A text file is read in portions, and each portion is decoded when a line is asked for that those
before do not complete.  So bytes that are no text end the lines where their portion begins, not
where they stand, and the lines before have been given out by then.
-/

namespace CallAtlas.Text

/-- The lines of a text that are complete, with their ends, and what follows the last line feed. -/
def cutLines (text : List Char) : List (List Char) × List Char :=
  let pieces := splitChars '\n' text
  (pieces.dropLast.map (· ++ ['\n']), pieces.getLastD [])

/-- The lines of a text with their ends.  Nothing follows the last line feed. -/
def fileLines (text : List Char) : List (List Char) :=
  let (complete, last) := cutLines text
  complete ++ (if last.isEmpty then [] else [last])

/-- A text without a carriage return at its end, which may belong to a line feed after it, and this
carriage return. -/
def holdReturn (text : List Char) : List Char × List Char :=
  if text.getLast? = some '\r' then (text.dropLast, ['\r']) else (text, [])

/-- What a reader of lines has taken up and not given out. -/
structure Stream where
  /-- Bytes that may begin a character. -/
  bytes : List UInt8
  /-- A carriage return that a line feed may follow, or nothing. -/
  held : List Char
  /-- The beginning of a line. -/
  line : List Char

namespace Stream

def start : Stream := ⟨[], [], []⟩

/-- Takes up a portion of a file and gives out the lines that it completes. -/
def feed (s : Stream) (portion : List UInt8) : Except Utf8.Fault (List (List Char) × Stream) :=
  match Utf8.begun (s.bytes ++ portion) with
  | .error f => .error f
  | .ok (text, bytes) =>
    let (text, held) := holdReturn (s.held ++ text)
    let (complete, line) := cutLines (s.line ++ unifyLineEnds text)
    .ok (complete, ⟨bytes, held, line⟩)

/-- What is given out at the end of a file: its last line, or the error it breaks off in. -/
def close (s : Stream) : List (List Char) × Option Utf8.Fault :=
  match s.bytes with
  | first :: rest => ([], some (Utf8.faultAt 0 first rest))
  | [] => (fileLines (s.line ++ unifyLineEnds s.held), none)

/-- The lines that are given out from now on until the file ends, or until the error that ends
them. -/
def lines (s : Stream) : List (List UInt8) → List (List Char) × Option Utf8.Fault
  | [] => s.close
  | portion :: portions =>
    match s.feed portion with
    | .error f => ([], some f)
    | .ok (complete, s) =>
      let (more, fault) := s.lines portions
      (complete ++ more, fault)

end Stream

def portionSize : Nat := 8192

/-- Bytes in portions, at most `fuel` of them. -/
def portionsFrom : Nat → List UInt8 → List (List UInt8)
  | 0, _ => []
  | _ + 1, [] => []
  | fuel + 1, bytes => bytes.take portionSize :: portionsFrom fuel (bytes.drop portionSize)

def portions (bytes : List UInt8) : List (List UInt8) := portionsFrom bytes.length bytes

/-- The lines of a file with the given bytes, and the error that ends them if they are no text. -/
def readLines (bytes : List UInt8) : List (List Char) × Option Utf8.Fault :=
  Stream.start.lines (portions bytes)

end CallAtlas.Text
