import CallAtlas.Decimal.Notation
import CallAtlas.Decimal.Numeral
import CallAtlas.Layout.Words
import CallAtlas.Text.Split

/-!
# Plain layouts

The answer of a layout program: a line `graph scale width height` and lines `node id x y`.  Further
fields and other lines do not matter.  Of several lines `graph` the first counts, and of several
lines for one node the last.
-/

namespace CallAtlas.Layout

inductive Malformed where
  | words (number : Nat) (line : String) (e : WordError)
  | shortGraphLine (number : Nat) (line : String)
  | shortNodeLine (number : Nat) (line : String)
  | notANumber (number : Nat) (line word : String)
  | sizeNotPositive (number : Nat) (width height : Float)
  | noGraphLine

def atLine (number : Nat) (what : String) : String :=
  "Line " ++ toString number ++ ": " ++ what

def Malformed.message : Malformed → String
  | .words number line e => atLine number (e.message ++ ": " ++ Text.quoted line)
  | .shortGraphLine number line =>
    atLine number ("graph line needs a width and height: " ++ Text.quoted line)
  | .shortNodeLine number line =>
    atLine number ("node line needs an ID and a position: " ++ Text.quoted line)
  | .notANumber number line word =>
    atLine number ("expected a number, got " ++ Text.quoted word ++ ": " ++ Text.quoted line)
  | .sizeNotPositive number width height =>
    atLine number
      ("graph size must be positive, got " ++ Decimal.text width ++ " x " ++ Decimal.text height)
  | .noGraphLine => "Layout output has no graph line"

/-- A size or a place, in the units of the layout program. -/
structure Pair where
  x : Float
  y : Float

/-- What a line says. -/
inductive Line where
  | graph (size : Pair)
  | node (id : String) (place : Pair)
  | other

def readPair (number : Nat) (line x y : String) : Except Malformed Pair :=
  match Decimal.readNumber x with
  | none => .error (.notANumber number line x)
  | some a =>
    match Decimal.readNumber y with
    | none => .error (.notANumber number line y)
    | some b => .ok ⟨a, b⟩

/-- Whether a number is zero or below. -/
def notPositive (x : Float) : Bool := x ≤ 0.0

def Line.ofWords (number : Nat) (line : String) (words : List String) : Except Malformed Line :=
  match words with
  | "graph" :: rest =>
    match rest with
    | _ :: width :: height :: _ =>
      match readPair number line width height with
      | .error e => .error e
      | .ok size =>
        if notPositive size.x || notPositive size.y then
          .error (.sizeNotPositive number size.x size.y)
        else .ok (.graph size)
    | _ => .error (.shortGraphLine number line)
  | "node" :: rest =>
    match rest with
    | id :: x :: y :: _ =>
      match readPair number line x y with
      | .error e => .error e
      | .ok place => .ok (.node id place)
    | _ => .error (.shortNodeLine number line)
  | _ => .ok .other

def Line.read (number : Nat) (line : String) : Except Malformed Line :=
  match words line with
  | .error e => .error (.words number line e)
  | .ok ws => Line.ofWords number line ws

def readLines : Nat → List String → Except Malformed (List Line)
  | _, [] => .ok []
  | number, line :: rest =>
    match Line.read number line with
    | .error e => .error e
    | .ok l =>
      match readLines (number + 1) rest with
      | .error e => .error e
      | .ok ls => .ok (l :: ls)

structure Plain where
  size : Pair
  /-- Places by node, in the order of their first mention. -/
  positions : List (String × Pair)

/-- Replaces the place of a node, or adds the node at the end. -/
def setPlace (id : String) (place : Pair) : List (String × Pair) → List (String × Pair)
  | [] => [(id, place)]
  | (k, p) :: rest => if k = id then (k, place) :: rest else (k, p) :: setPlace id place rest

def firstSize? (lines : List Line) : Option Pair :=
  lines.findSome? fun
    | .graph size => some size
    | _ => none

def places (lines : List Line) : List (String × Pair) :=
  lines.foldl (fun ps l =>
    match l with
    | .node id place => setPlace id place ps
    | _ => ps) []

def Plain.parse (text : String) : Except Malformed Plain :=
  match readLines 1 (Text.lines text) with
  | .error e => .error e
  | .ok lines =>
    match firstSize? lines with
    | none => .error .noGraphLine
    | some size => .ok ⟨size, places lines⟩

/-- Places as parts of the whole size, stretched by the scales. -/
def Plain.normalized (p : Plain) (scale : Pair) : List (String × Pair) :=
  p.positions.map fun (id, place) =>
    (id, ⟨scale.x * place.x / p.size.x, scale.y * place.y / p.size.y⟩)

end CallAtlas.Layout
