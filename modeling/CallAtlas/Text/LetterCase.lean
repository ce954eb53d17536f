import CallAtlas.Text.RangeTable

/-!
# Lower and upper case

Case mapping for all scripts.  Almost all mappings move a code point by a fixed distance, and
neighbouring letters move by the same one, so the tables hold runs; the few characters that map to
several are listed apart.  The capital sigma is the only letter whose lower case depends on its
neighbours.
-/

namespace CallAtlas.Text

/-- Letters `start, start + stride, …` (`count` of them), each of which maps to the letter
`shift` further on. -/
structure CaseRun where
  start : Nat
  count : Nat
  stride : Nat
  shift : Int

/-- Value of a hexadecimal numeral that may carry a minus sign. -/
def signedHexValue : List Char → Int
  | '-' :: digits => -(hexValue digits : Int)
  | digits => (hexValue digits : Int)

/-- Reads the runs off words `gap,count,stride,shift`, the gap being taken from the start of the
run before. -/
def caseRuns (base : Nat) : List String → List CaseRun
  | [] => []
  | word :: rest =>
    match (word.splitOn ",").map String.toList with
    | [gap, count, stride, shift] =>
      let start := base + hexValue gap
      ⟨start, hexValue count, hexValue stride, signedHexValue shift⟩ :: caseRuns start rest
    | _ => caseRuns base rest

def CaseRun.holds (run : CaseRun) (n : Nat) : Bool :=
  run.start ≤ n && (n - run.start) % run.stride == 0 && (n - run.start) / run.stride < run.count

/-- Letters with a one-character lower case (Unicode 14). -/
def lowerRuns : List CaseRun := caseRuns 0 <| List.flatMap (·.splitOn " ") [
  "41,1a,1,20 7f,17,1,20 18,7,1,20 28,18,2,1 32,3,2,1 7,8,2,1 11,17,2,1 2e,1,1,-79 1,3,2,1",
  "8,1,1,d2 1,2,2,1 4,1,1,ce 1,1,1,1 2,2,1,cd 2,1,1,1 3,1,1,4f 1,1,1,ca 1,1,1,cb 1,1,1,1",
  "2,1,1,cd 1,1,1,cf 2,1,1,d3 1,1,1,d1 1,1,1,1 4,1,1,d3 1,1,1,d5 2,1,1,d6 1,3,2,1 6,1,1,da",
  "1,1,1,1 2,1,1,da 3,1,1,1 2,1,1,da 1,1,1,1 2,2,1,d9 2,2,2,1 4,1,1,db 1,1,1,1 4,1,1,1 8,1,1,2",
  "1,1,1,1 2,1,1,2 1,1,1,1 2,1,1,2 1,9,2,1 13,9,2,1 13,1,1,2 1,2,2,1 4,1,1,-61 1,1,1,-38",
  "1,14,2,1 28,1,1,-82 2,9,2,1 18,1,1,2a2b 1,1,1,1 2,1,1,-a3 1,1,1,2a28 3,1,1,1 2,1,1,-c3",
  "1,1,1,45 1,1,1,47 1,5,2,1 12a,2,2,1 6,1,1,1 9,1,1,74 7,1,1,26 2,3,1,25 4,1,1,40 2,2,1,3f",
  "3,11,1,20 12,9,1,20 2c,1,1,8 9,c,2,1 1c,1,1,-3c 3,1,1,1 2,1,1,-7 1,1,1,1 3,3,1,-82 3,10,1,50",
  "10,20,1,20 50,11,2,1 2a,1b,2,1 36,1,1,f 1,7,2,1 f,30,2,1 61,26,1,30 b6f,26,1,1c60",
  "27,1,1,1c60 6,1,1,1c60 2d3,50,1,97d0 50,6,1,8 8a0,2b,1,-bc0 2d,3,1,-bc0 143,4b,2,1",
  "9e,1,1,-1dbf 2,30,2,1 68,8,1,-8 10,6,1,-8 10,8,1,-8 10,8,1,-8 10,6,1,-8 11,4,2,-8 f,8,1,-8",
  "20,8,1,-8 10,8,1,-8 10,8,1,-8 10,2,1,-8 2,2,1,-4a 2,1,1,-9 c,4,1,-56 4,1,1,-9 c,2,1,-8",
  "2,2,1,-64 e,2,1,-8 2,2,1,-70 2,1,1,-7 c,2,1,-80 2,2,1,-7e 2,1,1,-9 12a,1,1,-1d5d 4,1,1,-20bf",
  "1,1,1,-2046 7,1,1,1c 2e,10,1,10 23,1,1,1 333,1a,1,1a 74a,30,1,30 60,1,1,1 2,1,1,-29f7",
  "1,1,1,-ee6 1,1,1,-29e7 3,3,2,1 6,1,1,-2a1c 1,1,1,-29fd 1,1,1,-2a1f 1,1,1,-2a1e 2,1,1,1",
  "3,1,1,1 9,2,1,-2a3f 2,32,2,1 6b,2,2,1 7,1,1,1 794e,17,2,1 40,e,2,1 a2,7,2,1 10,1f,2,1",
  "47,2,2,1 4,1,1,-8a04 1,5,2,1 d,1,1,1 2,1,1,-a528 3,2,2,1 6,a,2,1 14,1,1,-a544 1,1,1,-a54f",
  "1,1,1,-a54b 1,1,1,-a541 1,1,1,-a544 2,1,1,-a512 1,1,1,-a52a 1,1,1,-a515 1,1,1,3a0 1,8,2,1",
  "10,1,1,-30 1,1,1,-a543 1,1,1,-8a38 1,2,2,1 9,1,1,1 6,2,2,1 1f,1,1,1 572c,1a,1,20 4df,28,1,28",
  "b0,24,1,28 c0,b,1,27 c,f,1,27 10,7,1,27 8,2,1,27 6ec,33,1,40 c20,20,1,20 55a0,20,1,20",
  "7ac0,22,1,22"]

/-- Letters whose lower case has several characters. -/
def lowerSpecial : List (Nat × List Nat) := [
  (0x130, [0x69, 0x307])]

/-- Letters with a one-character upper case (Unicode 14). -/
def upperRuns : List CaseRun := caseRuns 0 <| List.flatMap (·.splitOn " ") [
  "61,1a,1,-20 54,1,1,2e7 2b,17,1,-20 18,7,1,-20 7,1,1,79 2,18,2,-1 30,1,1,-e8 2,3,2,-1",
  "7,8,2,-1 11,17,2,-1 2f,3,2,-1 5,1,1,-12c 1,1,1,c3 3,2,2,-1 5,1,1,-1 4,1,1,-1 6,1,1,-1",
  "3,1,1,61 4,1,1,-1 1,1,1,a3 4,1,1,82 3,3,2,-1 7,1,1,-1 5,1,1,-1 3,1,1,-1 4,2,2,-1 5,1,1,-1",
  "4,1,1,-1 2,1,1,38 6,1,1,-1 1,1,1,-2 2,1,1,-1 1,1,1,-2 2,1,1,-1 1,1,1,-2 2,8,2,-1 f,1,1,-4f",
  "2,9,2,-1 13,1,1,-1 1,1,1,-2 2,1,1,-1 4,14,2,-1 2a,9,2,-1 19,1,1,-1 3,2,1,2a3f 3,1,1,-1",
  "5,5,2,-1 9,1,1,2a1f 1,1,1,2a1c 1,1,1,2a1e 1,1,1,-d2 1,1,1,-ce 2,2,1,-cd 3,1,1,-ca 2,1,1,-cb",
  "1,1,1,a54f 4,1,1,-cd 1,1,1,a54b 2,1,1,-cf 2,1,1,a528 1,1,1,a544 2,1,1,-d1 1,1,1,-d3",
  "1,1,1,a544 1,1,1,29f7 1,1,1,a541 3,1,1,-d3 2,1,1,29fd 1,1,1,-d5 3,1,1,-d6 8,1,1,29e7",
  "3,1,1,-da 2,1,1,a543 1,1,1,-da 4,1,1,a52a 1,1,1,-da 1,1,1,-45 1,2,1,-d9 2,1,1,-47 6,1,1,-db",
  "b,1,1,a515 1,1,1,a512 a7,1,1,54 2c,2,2,-1 6,1,1,-1 4,3,1,82 31,1,1,-26 1,3,1,-25 4,11,1,-20",
  "11,1,1,-1f 1,9,1,-20 9,1,1,-40 1,2,1,-3f 3,1,1,-3e 1,1,1,-39 4,1,1,-2f 1,1,1,-36 1,1,1,-8",
  "2,c,2,-1 17,1,1,-56 1,1,1,-50 1,1,1,7 1,1,1,-74 2,1,1,-60 3,1,1,-1 3,1,1,-1 35,20,1,-20",
  "20,10,1,-50 11,11,2,-1 2a,1b,2,-1 37,7,2,-1 d,1,1,-f 2,30,2,-1 90,26,1,-30 b6f,2b,1,bc0",
  "2d,3,1,bc0 2fb,6,1,-8 888,1,1,-186e 1,1,1,-186d 1,1,1,-1864 1,2,1,-1862 2,1,1,-1863",
  "1,1,1,-185c 1,1,1,-1825 1,1,1,89c2 f1,1,1,8a04 4,1,1,ee6 11,1,1,8a38 73,4b,2,-1 9a,1,1,-3b",
  "6,30,2,-1 5f,8,1,8 10,6,1,8 10,8,1,8 10,8,1,8 10,6,1,8 11,4,2,8 f,8,1,8 10,2,1,4a 2,4,1,56",
  "4,2,1,64 2,2,1,80 2,2,1,70 2,2,1,7e 34,2,1,8 e,1,1,-1c25 12,2,1,8 10,2,1,8 5,1,1,7",
  "169,1,1,-1c 22,10,1,-10 14,1,1,-1 34c,1a,1,-1a 760,30,1,-30 31,1,1,-1 4,1,1,-2a2b",
  "1,1,1,-2a28 2,3,2,-1 b,1,1,-1 3,1,1,-1 b,32,2,-1 6b,2,2,-1 7,1,1,-1 d,26,1,-1c60",
  "27,1,1,-1c60 6,1,1,-1c60 7914,17,2,-1 40,e,2,-1 a2,7,2,-1 10,1f,2,-1 47,2,2,-1 5,5,2,-1",
  "d,1,1,-1 5,2,2,-1 3,1,1,30 3,a,2,-1 1e,8,2,-1 13,2,2,-1 9,1,1,-1 6,2,2,-1 1f,1,1,-1",
  "35d,1,1,-3a0 1d,50,1,-97d0 53d1,1a,1,-20 4e7,28,1,-28 b0,24,1,-28 bf,b,1,-27 c,f,1,-27",
  "10,7,1,-27 8,2,1,-27 705,33,1,-40 c00,20,1,-20 55a0,20,1,-20 7ac2,22,1,-22"]

/-- Letters whose upper case has several characters. -/
def upperSpecial : List (Nat × List Nat) := [
  (0xdf, [0x53, 0x53]), (0x149, [0x2bc, 0x4e]), (0x1f0, [0x4a, 0x30c]),
  (0x390, [0x399, 0x308, 0x301]), (0x3b0, [0x3a5, 0x308, 0x301]), (0x587, [0x535, 0x552]),
  (0x1e96, [0x48, 0x331]), (0x1e97, [0x54, 0x308]), (0x1e98, [0x57, 0x30a]),
  (0x1e99, [0x59, 0x30a]), (0x1e9a, [0x41, 0x2be]), (0x1f50, [0x3a5, 0x313]),
  (0x1f52, [0x3a5, 0x313, 0x300]), (0x1f54, [0x3a5, 0x313, 0x301]),
  (0x1f56, [0x3a5, 0x313, 0x342]), (0x1f80, [0x1f08, 0x399]), (0x1f81, [0x1f09, 0x399]),
  (0x1f82, [0x1f0a, 0x399]), (0x1f83, [0x1f0b, 0x399]), (0x1f84, [0x1f0c, 0x399]),
  (0x1f85, [0x1f0d, 0x399]), (0x1f86, [0x1f0e, 0x399]), (0x1f87, [0x1f0f, 0x399]),
  (0x1f88, [0x1f08, 0x399]), (0x1f89, [0x1f09, 0x399]), (0x1f8a, [0x1f0a, 0x399]),
  (0x1f8b, [0x1f0b, 0x399]), (0x1f8c, [0x1f0c, 0x399]), (0x1f8d, [0x1f0d, 0x399]),
  (0x1f8e, [0x1f0e, 0x399]), (0x1f8f, [0x1f0f, 0x399]), (0x1f90, [0x1f28, 0x399]),
  (0x1f91, [0x1f29, 0x399]), (0x1f92, [0x1f2a, 0x399]), (0x1f93, [0x1f2b, 0x399]),
  (0x1f94, [0x1f2c, 0x399]), (0x1f95, [0x1f2d, 0x399]), (0x1f96, [0x1f2e, 0x399]),
  (0x1f97, [0x1f2f, 0x399]), (0x1f98, [0x1f28, 0x399]), (0x1f99, [0x1f29, 0x399]),
  (0x1f9a, [0x1f2a, 0x399]), (0x1f9b, [0x1f2b, 0x399]), (0x1f9c, [0x1f2c, 0x399]),
  (0x1f9d, [0x1f2d, 0x399]), (0x1f9e, [0x1f2e, 0x399]), (0x1f9f, [0x1f2f, 0x399]),
  (0x1fa0, [0x1f68, 0x399]), (0x1fa1, [0x1f69, 0x399]), (0x1fa2, [0x1f6a, 0x399]),
  (0x1fa3, [0x1f6b, 0x399]), (0x1fa4, [0x1f6c, 0x399]), (0x1fa5, [0x1f6d, 0x399]),
  (0x1fa6, [0x1f6e, 0x399]), (0x1fa7, [0x1f6f, 0x399]), (0x1fa8, [0x1f68, 0x399]),
  (0x1fa9, [0x1f69, 0x399]), (0x1faa, [0x1f6a, 0x399]), (0x1fab, [0x1f6b, 0x399]),
  (0x1fac, [0x1f6c, 0x399]), (0x1fad, [0x1f6d, 0x399]), (0x1fae, [0x1f6e, 0x399]),
  (0x1faf, [0x1f6f, 0x399]), (0x1fb2, [0x1fba, 0x399]), (0x1fb3, [0x391, 0x399]),
  (0x1fb4, [0x386, 0x399]), (0x1fb6, [0x391, 0x342]), (0x1fb7, [0x391, 0x342, 0x399]),
  (0x1fbc, [0x391, 0x399]), (0x1fc2, [0x1fca, 0x399]), (0x1fc3, [0x397, 0x399]),
  (0x1fc4, [0x389, 0x399]), (0x1fc6, [0x397, 0x342]), (0x1fc7, [0x397, 0x342, 0x399]),
  (0x1fcc, [0x397, 0x399]), (0x1fd2, [0x399, 0x308, 0x300]), (0x1fd3, [0x399, 0x308, 0x301]),
  (0x1fd6, [0x399, 0x342]), (0x1fd7, [0x399, 0x308, 0x342]), (0x1fe2, [0x3a5, 0x308, 0x300]),
  (0x1fe3, [0x3a5, 0x308, 0x301]), (0x1fe4, [0x3a1, 0x313]), (0x1fe6, [0x3a5, 0x342]),
  (0x1fe7, [0x3a5, 0x308, 0x342]), (0x1ff2, [0x1ffa, 0x399]), (0x1ff3, [0x3a9, 0x399]),
  (0x1ff4, [0x38f, 0x399]), (0x1ff6, [0x3a9, 0x342]), (0x1ff7, [0x3a9, 0x342, 0x399]),
  (0x1ffc, [0x3a9, 0x399]), (0xfb00, [0x46, 0x46]), (0xfb01, [0x46, 0x49]),
  (0xfb02, [0x46, 0x4c]), (0xfb03, [0x46, 0x46, 0x49]), (0xfb04, [0x46, 0x46, 0x4c]),
  (0xfb05, [0x53, 0x54]), (0xfb06, [0x53, 0x54]), (0xfb13, [0x544, 0x546]),
  (0xfb14, [0x544, 0x535]), (0xfb15, [0x544, 0x53b]), (0xfb16, [0x54e, 0x546]),
  (0xfb17, [0x544, 0x53d])]

/-- Image of a character under a case mapping. -/
def mapCase (runs : List CaseRun) (special : List (Nat × List Nat)) (c : Char) : List Char :=
  match special.lookup c.toNat with
  | some points => points.map Char.ofNat
  | none =>
    match runs.find? (·.holds c.toNat) with
    | some run => [Char.ofNat (c.toNat + run.shift).toNat]
    | none => [c]

def lowerChar (c : Char) : List Char :=
  if c.val < 128 then [c.toLower] else mapCase lowerRuns lowerSpecial c

def upperChar (c : Char) : List Char :=
  if c.val < 128 then [c.toUpper] else mapCase upperRuns upperSpecial c

/-- Letters of one case or another (Unicode 14). -/
def casedTable : RangeTable := .ofGaps [
  "41 1a 6 1a 2f 1 a 1 4 1 5 17 1 1f 1 c3 1 4 4 d0 1 24 7 2 1e 5 60 1 2a 4 2 2 2 4 1 1 6 1 1 3",
  "1 1 1 14 1 53 1 8b 8 a6 1 26 9 29 b17 26 1 1 5 1 2 2b 2 3 2a0 56 2 6 882 9 7 2b 2 3 40 c0 40",
  "116 2 6 2 26 2 6 2 8 1 1 1 1 1 1 1 1f 2 35 1 7 1 1 3 3 1 7 3 4 2 6 4 d 5 3 1 7 74 1 d 1 10 d",
  "65 1 4 1 2 a 1 1 3 5 6 1 1 1 1 1 1 4 1 6 4 1 2 4 5 5 4 1 11 20 3 2 331 34 716 e5 6 4 3 2 c",
  "26 1 1 5 1 7912 2e 12 1e 84 66 3 4 1 3b 5 2 1 1 1 5 1b 2 1 3 335 2b 1 d 7 50 4f40 7 c 5 409",
  "1a 6 1a 4a5 50 60 24 4 24 74 b 1 f 1 7 1 2 1 b 1 f 1 7 1 2 1c3 1 2 3 1 2a 1 9 4c5 33 d 33",
  "bad 40 5560 40 6580 55 1 47 1 2 2 1 2 2 2 4 1 c 1 1 1 7 1 41 1 4 2 8 1 7 1 1c 1 4 1 5 1 1 3",
  "7 1 154 2 19 1 19 1 1f 1 19 1 1f 1 19 1 1f 1 19 1 1f 1 19 1 8 734 a 1 14 9e1 44 7ec 1a 6 1a",
  "6 1a"]

/-- Characters that do not end a word of such letters, accents and apostrophes among them
(Unicode 14). -/
def caseIgnorableTable : RangeTable := .ofGaps [
  "27 1 6 1 b 1 23 1 1 1 47 1 4 1 1 1 4 1 2 2 1f7 c0 4 2 4 1 9 2 1 1 fb 7 cf 1 5 1 31 2d 1 1 1",
  "2 1 2 1 1 2c 1 b 6 a b 1 1 23 1 a 15 10 1 65 8 1 a 1 4 21 1 1 1 1e 1b 5b b 3a b 4 1 2 1 18",
  "18 2b 3 2c 1 7 2 6 8 29 3a 37 1 1 1 4 8 4 1 3 7 a 2 d 1 f 1 3a 1 4 4 8 1 14 2 1a 1 2 2 39 1",
  "4 2 4 2 2 3 3 1 1e 2 3 1 b 2 39 1 4 5 1 2 4 1 14 2 16 6 1 1 3a 1 2 1 1 4 8 1 7 2 b 2 1e 1 3d",
  "1 c 1 32 1 3 1 37 1 1 3 5 3 1 4 7 2 b 2 1d 1 3a 1 2 1 6 1 5 2 14 2 1c 2 39 2 4 4 8 1 14 2 1d",
  "1 48 1 7 3 1 1 5a 1 2 7 b 9 62 1 2 9 9 1 1 6 4a 2 1b 1 1 1 1 1 37 e 1 5 1 2 5 b 1 24 9 1 66",
  "4 1 6 1 2 2 2 19 2 4 3 10 4 d 1 2 2 6 1 f 1 5e 1 260 3 3b2 3 1d 2 1e 2 1e 2 40 2 1 7 8 1 2 b",
  "3 1 5 1 2d 5 33 1 41 2 22 1 76 3 4 2 9 1 6 3 db 2 2 1 3a 1 1 7 1 1 1 1 2 8 6 a 2 1 27 1 8 1f",
  "31 4 30 1 1 5 1 1 5 1 28 9 c 2 20 4 2 2 1 3 38 1 1 2 3 1 1 3 3a 8 2 2 40 6 52 3 1 d 1 7 4 1",
  "6 1 3 2 32 3f d 1 22 65 1bd 1 1 3 b 3 d 3 d 3 d 2 c 5 8 2 a 1 2 1 2 5 31 5 1 a 1 1 d 1 10 d",
  "33 21 b8b 2 71 3 7d 1 f 1 60 20 2f 1 1d5 1 24 4 3 5 5 1 5d 6 5d 3 6f16 1 4e2 6 10e 1 62 4 1",
  "a 1 1 1c 4 50 2 e 22 4e 1 17 3 67 3 3 2 8 1 3 1 4 1 19 2 5 1 97 2 1a 12 d 1 26 8 19 b 2e 3",
  "30 1 2 4 2 2 11 1 15 2 42 6 2 2 2 2 c 1 8 1 23 1 b 1 33 1 1 3 2 2 5 2 1 1 1b 1 e 2 5 2 1 1",
  "64 5 9 3 79 1 2 1 4 1 4f30 1 93 11 23d 10 3 1 c 10 22 1 2 1 a9 1 7 1 6 1 b 1 23 1 1 1 2f 1",
  "2d 2 43 1 15 3 201 1 e2 1 95 5 405 6 1 2a 1 9 246 3 1 2 5 4 28 3 4 1 a5 2 23d 4 183 2 99 b",
  "31 4 7b 1 36 f 29 1 2 2 a 3 31 4 2 2 2 1 4 1 a 1 32 3 24 5 1 8 3e 1 c 2 34 9 a 4 2 1 5f 3 2",
  "1 1 2 6 1 a0 1 3 8 15 2 39 2 3 1 25 7 3 5 c3 8 2 3 1 1 17 1 54 6 1 1 4 2 1 2 ee 4 6 2 1 2 1b",
  "2 55 8 2 1 1 2 6a 1 1 1 2 6 1 1 65 3 2 4 1 5 103 9 1 2 100 2 1 1 4 1 90 4 2 2 4 1 20 a 28 6",
  "2 4 8 1 9 6 2 3 2e d 1 2 196 7 1 6 1 1 52 16 2 7 1 2 1 2 7a 6 3 1 1 2 1 7 1 1 48 2 3 1 1 1",
  "15b 2 153b 9 36b7 5 3b 7 9 4 40b 1 3f 11 40 2 1 2 400b 4 1 7 1 2 c9e 2 1 4 125c 2e 2 17 220",
  "3 9 10 2 7 1e 4 94 3 7bb 37 4 32 8 1 e 1 16 5 1 f 550 7 1 11 2 7 1 2 1 5 105 e 170 1 3d 4",
  "5e0 7 6d 8 aaf 5 c0c01 1 1e 60 80 f0"]

/-- Whether the first character is cased that may end a word. -/
def beginsCased (s : List Char) : Bool :=
  match s.find? fun c => !caseIgnorableTable.contains c.toNat with
  | some c => casedTable.contains c.toNat
  | none => false

def capitalSigma : Char := Char.ofNat 0x3a3

/-- Lower case of a capital sigma between other characters, those before it last one first.  It has
a form of its own at the end of a word. -/
def lowerSigma (before after : List Char) : Char :=
  Char.ofNat (if beginsCased before && !beginsCased after then 0x3c2 else 0x3c3)

/-- Lower case of characters, given those before them, last one first. -/
def lowerFrom (before : List Char) : List Char → List Char
  | [] => []
  | c :: rest =>
    (if c = capitalSigma then [lowerSigma before rest] else lowerChar c) ++
      lowerFrom (c :: before) rest

def lower (s : String) : String :=
  String.ofList (lowerFrom [] s.toList)

def upper (s : String) : String :=
  String.ofList (s.toList.flatMap upperChar)

end CallAtlas.Text
