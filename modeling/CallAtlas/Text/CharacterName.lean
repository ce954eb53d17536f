import CallAtlas.Text.CharacterName.Data
import CallAtlas.Text.RangeTable

/-!
# Character names

A character may be written by its name.  Most names are listed; an ideograph is named by its code
point and a Hangul syllable by its letters, so those names are computed.  Listed names are read
without regard to case, computed ones are written in capitals.
-/

namespace CallAtlas.Text.CharacterName

/-- The name of an entry that follows a name with the words `previous`. -/
def Entry.words (previous : List String) (entry : String) : List String :=
  match entry.toList with
  | [] => []
  | kept :: rest => previous.take (kept.toNat - '0'.toNat) ++ (String.ofList rest).splitOn " "

/-- The names that a sequence of entries spells, the first after a name with the words
`previous`; an empty entry names nothing. -/
def spell (previous : List String) : List String → List String
  | [] => []
  | entry :: rest =>
    let words := Entry.words previous entry
    " ".intercalate words :: spell words rest

namespace Block

def names (block : Block) : List String :=
  spell [] (block.entries.flatMap (·.splitOn ";"))

/-- The code point of a block that has the given name. -/
def find? (block : Block) (name : String) : Option Nat :=
  (block.names.findIdx? (· == name)).map (block.start + ·)

end Block

/-- The code point that has `name` in a list of further names. -/
def alias? (name : String) : Option Nat :=
  (aliases.find? fun (_, names) => names.contains name).map (·.1)

/-- Value of a numeral of four or five hexadecimal digits, letters in upper case. -/
def pointNumeral? (digits : List Char) : Option Nat :=
  if (digits.length == 4 || digits.length == 5)
      && digits.all (fun c => c.isDigit || ('A' ≤ c && c ≤ 'F')) then
    some (hexValue (digits.map Char.toLower))
  else
    none

def unifiedIdeographs : List (Nat × Nat) :=
  [(0x3400, 0x4dbf), (0x4e00, 0x9fff), (0x20000, 0x2a6df), (0x2a700, 0x2b738),
   (0x2b740, 0x2b81d), (0x2b820, 0x2cea1), (0x2ceb0, 0x2ebe0), (0x30000, 0x3134a)]

def compatibilityIdeographs : List (Nat × Nat) :=
  [(0xf900, 0xfa6d), (0xfa70, 0xfad9), (0x2f800, 0x2fa1d)]

/-- Reads `head` followed by the numeral of a point in one of the ranges. -/
def numbered? (head : String) (ranges : List (Nat × Nat)) (name : String) : Option Nat :=
  if head.toList.isPrefixOf name.toList then
    (pointNumeral? (name.toList.drop head.length)).filter fun n =>
      ranges.any fun (first, last) => first ≤ n && n ≤ last
  else
    none

/-- Names of the leading consonants of a syllable, in order. -/
def leadingLetters : List String :=
  ["G", "GG", "N", "D", "DD", "R", "M", "B", "BB", "S", "SS", "", "J", "JJ", "C", "K", "T", "P",
   "H"]

def vowelLetters : List String :=
  ["A", "AE", "YA", "YAE", "EO", "E", "YEO", "YE", "O", "WA", "WAE", "OE", "YO", "U", "WEO",
   "WE", "WI", "YU", "EU", "YI", "I"]

/-- Names of the trailing consonants of a syllable, in order, the first being none. -/
def trailingLetters : List String :=
  ["", "G", "GG", "GS", "N", "NJ", "NH", "D", "L", "LG", "LM", "LB", "LS", "LT", "LP", "LH",
   "M", "B", "BS", "S", "SS", "NG", "J", "C", "K", "T", "P", "H"]

/-- The longest of the given letters at the front of a text: its index and what follows it. -/
def longestLetter? (letters : List String) (text : List Char) : Option (Nat × List Char) :=
  let fitting := letters.zipIdx.filter fun (letter, _) => letter.toList.isPrefixOf text
  let best := fitting.foldl (fun best new =>
    match best with
    | none => some new
    | some old => if old.1.length < new.1.length then some new else some old) none
  best.map fun (letter, index) => (index, text.drop letter.length)

/-- The code point of the syllable spelled by a text: consonant, vowel, and perhaps a consonant. -/
def syllable? (text : List Char) : Option Nat :=
  match longestLetter? leadingLetters text with
  | none => none
  | some (leading, text) =>
    match longestLetter? vowelLetters text with
    | none => none
    | some (vowel, text) =>
      match longestLetter? trailingLetters text with
      | some (trailing, []) => some (0xac00 + (leading * 21 + vowel) * 28 + trailing)
      | _ => none

def hangul? (name : String) : Option Nat :=
  if "HANGUL SYLLABLE ".toList.isPrefixOf name.toList then
    syllable? (name.toList.drop 16)
  else
    none

def listed? (name : String) : Option Nat :=
  if name.isEmpty then none
  else
    match blocks.findSome? (·.find? name) with
    | some n => some n
    | none =>
      match alias? name with
      | some n => some n
      | none => numbered? "CJK COMPATIBILITY IDEOGRAPH-" compatibilityIdeographs name

def find? (name : String) : Option Nat :=
  match hangul? name with
  | some n => some n
  | none =>
    match numbered? "CJK UNIFIED IDEOGRAPH-" unifiedIdeographs name with
    | some n => some n
    | none => listed? (name.map Char.toUpper)

end CallAtlas.Text.CharacterName
