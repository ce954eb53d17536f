import CallAtlas.Text.Compatibility.Data
import CallAtlas.Text.RangeTable

/-!
# Compatibility form of identifiers

Two identifiers denote the same name when their compatibility compositions agree: every character
is decomposed, marks are put into canonical order, and what can be joined is joined again.
-/

namespace CallAtlas.Text.Compatibility

/-- Neighbouring code points that share one table entry. -/
structure Entry where
  start : Nat
  count : Nat
  image : List Nat

/-- Splits a word `gap*count=points`; a missing count is one. -/
def splitWord (word : String) : Option (Nat × Nat × List Nat) :=
  match word.splitOn "=" with
  | [head, points] =>
    let image := (points.splitOn "+").map fun p => hexValue p.toList
    match head.splitOn "*" with
    | [gap] => some (hexValue gap.toList, 1, image)
    | [gap, count] => some (hexValue gap.toList, hexValue count.toList, image)
    | _ => none
  | _ => none

def decompositionEntries (last : Nat) : List String → List Entry
  | [] => []
  | word :: rest =>
    match splitWord word with
    | some (gap, count, image) =>
      ⟨last + gap, count, image⟩ :: decompositionEntries (last + gap + count - 1) rest
    | none => decompositionEntries last rest

def combiningEntries (base : Nat) : List String → List Entry
  | [] => []
  | word :: rest =>
    match splitWord word with
    | some (gap, count, image) => ⟨base + gap, count, image⟩ :: combiningEntries (base + gap) rest
    | none => combiningEntries base rest

/-- Composites as triples of first, second and joined code point. -/
def compositeEntries (base : Nat) : List String → List (Nat × Nat × Nat)
  | [] => []
  | word :: rest =>
    match word.splitOn "=" with
    | [parts, whole] =>
      match parts.splitOn "+" with
      | [gap, second] =>
        let first := base + hexValue gap.toList
        (first, hexValue second.toList, hexValue whole.toList) :: compositeEntries first rest
      | _ => compositeEntries base rest
    | _ => compositeEntries base rest

def decompositions : Array Entry :=
  (decompositionEntries 0 (decompositionWords.flatMap (·.splitOn " "))).toArray

def combiningClasses : Array Entry :=
  (combiningEntries 0 (combiningWords.flatMap (·.splitOn " "))).toArray

def composites : List (Nat × Nat × Nat) :=
  compositeEntries 0 (compositeWords.flatMap (·.splitOn " "))

def decompositionStarts : Array Nat :=
  decompositions.map (·.start)

def combiningStarts : Array Nat :=
  combiningClasses.map (·.start)

def entry? (starts : Array Nat) (entries : Array Entry) (n : Nat) : Option Entry :=
  match RangeTable.rank starts n 0 starts.size with
  | 0 => none
  | i + 1 =>
    match entries[i]? with
    | some e => if n < e.start + e.count then some e else none
    | none => none

def hangulBase : Nat := 0xac00

def hangulCount : Nat := 11172

/-- Full decomposition of a code point; Hangul syllables decompose by arithmetic. -/
def decompose (n : Nat) : List Nat :=
  if hangulBase ≤ n && n < hangulBase + hangulCount then
    let i := n - hangulBase
    let tail := i % 28
    [0x1100 + i / 588, 0x1161 + i % 588 / 28] ++ (if tail = 0 then [] else [0x11a7 + tail])
  else
    match entry? decompositionStarts decompositions n with
    | some e => e.image.map (· + (n - e.start))
    | none => [n]

def combiningClass (n : Nat) : Nat :=
  match entry? combiningStarts combiningClasses n with
  | some e => e.image.headD 0
  | none => 0

/-- Inserts a mark behind the marks of its own or a smaller class that directly precede it. -/
def insertMark (mark : Nat × Nat) : List (Nat × Nat) → List (Nat × Nat)
  | [] => [mark]
  | other :: rest =>
    if mark.2 < other.2 then other :: insertMark mark rest else mark :: other :: rest

/-- Puts marks into canonical order; the accumulator holds the points seen so far with their
classes, last one first. -/
def reorder (done : List (Nat × Nat)) : List Nat → List (Nat × Nat)
  | [] => done.reverse
  | n :: rest =>
    let k := combiningClass n
    reorder (if k = 0 then (n, 0) :: done else insertMark (n, k) done) rest

/-- The point that two points join to; Hangul syllables join by arithmetic. -/
def join? (first second : Nat) : Option Nat :=
  if 0x1100 ≤ first && first < 0x1113 && 0x1161 ≤ second && second < 0x1176 then
    some (hangulBase + ((first - 0x1100) * 21 + (second - 0x1161)) * 28)
  else if hangulBase ≤ first && first < hangulBase + hangulCount &&
      (first - hangulBase) % 28 == 0 && 0x11a7 < second && second < 0x11c3 then
    some (first + (second - 0x11a7))
  else
    (composites.find? fun t => t.1 == first && t.2.1 == second).map (·.2.2)

/-- Joins what can be joined.  `starter` is the last starter, `marks` are the points after it with
their classes, last one first, and `done` is the output before it, reversed. -/
def compose (done : List Nat) (starter : Option Nat) (marks : List (Nat × Nat)) :
    List (Nat × Nat) → List Nat
  | [] => done.reverse ++ starter.toList ++ (marks.reverse.map (·.1))
  | (n, k) :: rest =>
    let free := match marks with
      | [] => true
      | (_, last) :: _ => last < k
    match starter with
    | some s =>
      match if free then join? s n else none with
      | some whole => compose done (some whole) marks rest
      | none =>
        if k = 0 then compose (marks.map (·.1) ++ s :: done) (some n) [] rest
        else compose done starter ((n, k) :: marks) rest
    | none =>
      if k = 0 then compose (marks.map (·.1) ++ done) (some n) [] rest
      else compose done none ((n, k) :: marks) rest

def normalize (s : List Char) : List Char :=
  if s.all (·.val < 128) then s
  else
    (compose [] none [] (reorder [] (s.flatMap fun c => decompose c.toNat))).map Char.ofNat

end CallAtlas.Text.Compatibility
