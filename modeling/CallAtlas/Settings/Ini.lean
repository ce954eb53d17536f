import CallAtlas.Text.Blank
import CallAtlas.Text.LetterCase
import CallAtlas.Text.Quoted
import CallAtlas.Text.Split

/-!
# Settings files

Sections in brackets hold options `name = value` or `name : value`.  Option names do not distinguish
case.  A line that is indented more than its option continues the value, blank lines inside a value
belong to it, and lines that start with `#` or `;` are comments.  The section `DEFAULT` gives values
to all others.  In a value `%(name)s` stands for the value of another option and `%%` for a percent
sign.
-/

namespace CallAtlas.Settings

/-- Why a settings file cannot be used.  Lines are counted from 1. -/
inductive IniError where
  /-- The first line that says something stands outside all sections. -/
  | missingSectionHeader (number : Nat) (line : String)
  | duplicateSection (number : Nat) (sect : String)
  | duplicateOption (number : Nat) (sect option : String)
  /-- Some lines are neither sections, options nor continuations. -/
  | unreadableLines (lines : List (Nat × String))
  /-- A percent sign, shown with all that follows it, starts no reference. -/
  | strayPercent (rest : String)
  /-- A reference, shown with all that follows it, has no end or no name. -/
  | malformedReference (rest : String)
  | missingReference (sect option raw reference : String)
  | referencesTooDeep (sect option raw : String)
deriving DecidableEq

/-- Deepest nesting of references between options. -/
def referenceDepthLimit : Nat := 10

def paddedNumber (n : Nat) : String :=
  (if n < 10 then " " else "") ++ toString n

def shownPath (path : String) : String :=
  "PosixPath(" ++ Text.quoted path ++ ")"

def IniError.message (path : String) : IniError → String
  | .missingSectionHeader number line =>
    "File contains no section headers.\nfile: " ++ shownPath path ++ ", line: " ++
      toString number ++ "\n" ++ Text.quoted line
  | .duplicateSection number sect =>
    "While reading from " ++ shownPath path ++ " [line " ++ paddedNumber number ++
      "]: section " ++ Text.quoted sect ++ " already exists"
  | .duplicateOption number sect option =>
    "While reading from " ++ shownPath path ++ " [line " ++ paddedNumber number ++
      "]: option " ++ Text.quoted option ++ " in section " ++ Text.quoted sect ++
      " already exists"
  | .unreadableLines lines =>
    "Source contains parsing errors: " ++ shownPath path ++
      String.join (lines.map fun (number, line) =>
        "\n\t[line " ++ paddedNumber number ++ "]: " ++ Text.quoted line)
  | .strayPercent rest =>
    "'%' must be followed by '%' or '(', found: " ++ Text.quoted rest
  | .malformedReference rest => "bad interpolation variable reference " ++ Text.quoted rest
  | .missingReference sect option raw reference =>
    "Bad value substitution: option " ++ Text.quoted option ++ " in section " ++
      Text.quoted sect ++ " contains an interpolation key " ++ Text.quoted reference ++
      " which is not a valid option name. Raw value: " ++ Text.quoted raw
  | .referencesTooDeep sect option raw =>
    "Recursion limit exceeded in value substitution: option " ++ Text.quoted option ++
      " in section " ++ Text.quoted sect ++
      " contains an interpolation key which cannot be substituted in " ++
      toString referenceDepthLimit ++ " steps. Raw value: " ++ Text.quoted raw

abbrev Options := List (String × String)

/-- A settings file. -/
structure Ini where
  defaults : Options
  sections : List (String × Options)

namespace Ini

/-- Name of the section that gives values to all others. -/
def defaultSection : String := "DEFAULT"

def empty : Ini := ⟨[], []⟩

/-! ## Reading -/

/-- Options being read: the lines of each value, last one first, in the order of the options. -/
abbrev Draft := List (String × List String)

/-- Changes the lines of an option, which is added at the end if it is new. -/
def putLines (name : String) (change : List String → List String) : Draft → Draft
  | [] => [(name, change [])]
  | (n, ls) :: rest =>
    if n = name then (n, change ls) :: rest else (n, ls) :: putLines name change rest

/-- Position of the reader. -/
structure Reader where
  /-- Sections read so far, the default section among them. -/
  sections : List (String × Draft)
  /-- The current section. -/
  current : Option String
  /-- The option that a continuation line would continue. -/
  option : Option String
  indent : Nat
  /-- Section headers seen, and options seen in their sections. -/
  headers : List String
  options : List (String × String)
  /-- Number of the next line. -/
  number : Nat
  /-- Lines that could not be read, last one first. -/
  faults : List (Nat × String)

def Reader.start : Reader := ⟨[], none, none, 0, [], [], 1, []⟩

def putSection (name : String) (change : Draft → Draft) :
    List (String × Draft) → List (String × Draft)
  | [] => [(name, change [])]
  | (n, d) :: rest =>
    if n = name then (n, change d) :: rest else (n, d) :: putSection name change rest

def Reader.continueValue (r : Reader) (line : String) : Reader :=
  match r.current, r.option with
  | some s, some o => { r with sections := putSection s (putLines o (line :: ·)) r.sections }
  | _, _ => r

/-- The name in a section header: everything between the first bracket and the last one. -/
def header? (line : List Char) : Option String :=
  match line with
  | '[' :: rest =>
    match rest.reverse.dropWhile (· != ']') with
    | _ :: name => if name.isEmpty then none else some (String.ofList name.reverse)
    | [] => none
  | _ => none

def isDelimiter (c : Char) : Bool := c == '=' || c == ':'

def option? (line : List Char) : Option (String × String) :=
  match line.dropWhile (fun c => !isDelimiter c) with
  | _ :: value =>
    some (Text.lower (String.ofList (Text.trimEnd (line.takeWhile fun c => !isDelimiter c))),
      String.ofList (Text.trimChars value))
  | [] => none

def Reader.enter (r : Reader) (name : String) : Except IniError Reader :=
  if name = defaultSection then
    .ok { r with sections := putSection name id r.sections, current := some name, option := none }
  else if name ∈ r.headers then .error (.duplicateSection r.number name)
  else
    .ok { r with
      sections := putSection name id r.sections, current := some name, option := none
      headers := name :: r.headers }

/-- Notes that the current line could not be read. -/
def Reader.fault (r : Reader) (line : List Char) : Reader :=
  { r with faults := (r.number, String.ofList line) :: r.faults }

/-- Begins an option of the current section.  No line continues an option without a name. -/
def Reader.begin (r : Reader) (sect name value : String) : Except IniError Reader :=
  if (sect, name) ∈ r.options then .error (.duplicateOption r.number sect name)
  else
    .ok { r with
      sections := putSection sect (putLines name fun _ => [value]) r.sections
      option := if name = "" then none else some name
      options := (sect, name) :: r.options }

/-- Reads one line, which is given with its end. -/
def Reader.line (r : Reader) (line : List Char) : Except IniError Reader :=
  let value := Text.trimChars line
  let isComment := value.head? == some '#' || value.head? == some ';'
  if isComment then .ok r
  else if value.isEmpty then .ok (r.continueValue "")
  else
    let indent := (line.takeWhile Text.isBlank).length
    if r.current.isSome && r.option.isSome && r.indent < indent then
      .ok (r.continueValue (String.ofList value))
    else
      let r := { r with indent := indent }
      match header? value, r.current with
      | some name, _ => r.enter name
      | none, none => .error (.missingSectionHeader r.number (String.ofList line))
      | none, some sect =>
        match option? value with
        | some (name, text) => (if name = "" then r.fault line else r).begin sect name text
        | none => .ok (r.fault line)

/-- Reads one line and counts it. -/
def Reader.step (r : Reader) (line : List Char) : Except IniError Reader := do
  let r ← r.line line
  return { r with number := r.number + 1 }

/-- The value that lines make up, given last one first. -/
def joinLines (lines : List String) : String :=
  String.ofList (Text.trimEnd (String.intercalate "\n" lines.reverse).toList)

def readLines (lines : List (List Char)) : Except IniError Reader :=
  lines.foldlM Reader.step Reader.start

def Reader.finish (r : Reader) : Except IniError Ini := do
  if !r.faults.isEmpty then throw (.unreadableLines r.faults.reverse)
  let finish (d : Draft) : Options := d.map fun (n, ls) => (n, joinLines ls)
  return ⟨((r.sections.lookup defaultSection).map finish).getD [],
    (r.sections.filter fun s => s.1 ≠ defaultSection).map fun (n, d) => (n, finish d)⟩

/-- Reads a settings file, given its lines with their ends. -/
def read (lines : List (List Char)) : Except IniError Ini := do
  let r ← readLines lines
  r.finish

/-! ## Values -/

/-- The options that hold in a section, its own ones first; `none` if there is no such section. -/
def scope? (ini : Ini) (sect : String) : Option Options :=
  (ini.sections.lookup sect).map (· ++ ini.defaults)

/-- The option whose value is being expanded. -/
structure Subject where
  sect : String
  option : String
  raw : String
  options : Options

/-- The value of a text in which references to options are replaced; `levels` is how many more
levels of references may be opened, and `fuel` bounds the length of the text. -/
def expand (subject : Subject) : Nat → Nat → List Char → Except IniError (List Char)
  | 0, _, _ => .error (.referencesTooDeep subject.sect subject.option subject.raw)
  | _ + 1, 0, _ => .ok []
  | levels + 1, fuel + 1, text =>
    match text.dropWhile (· != '%') with
    | [] => .ok text
    | _ :: '%' :: rest => do
      let tail ← expand subject (levels + 1) fuel rest
      return text.takeWhile (· != '%') ++ '%' :: tail
    | percent :: '(' :: rest =>
      let name := rest.takeWhile (· != ')')
      let malformed := .error (.malformedReference (String.ofList (percent :: '(' :: rest)))
      match rest.dropWhile (· != ')') with
      | ')' :: 's' :: after =>
        if name.isEmpty then malformed
        else
          let reference := Text.lower (String.ofList name)
          match subject.options.lookup reference with
          | none =>
            .error (.missingReference subject.sect subject.option subject.raw reference)
          | some value => do
            let middle ← if value.toList.contains '%' then
                expand subject levels (value.length + 1) value.toList
              else .ok value.toList
            let tail ← expand subject (levels + 1) fuel after
            return text.takeWhile (· != '%') ++ middle ++ tail
      | _ => malformed
    | rest => .error (.strayPercent (String.ofList rest))

/-- The value of an option in a section; `none` if the section is absent or the option is set in
neither it nor the defaults. -/
def get (ini : Ini) (sect name : String) : Except IniError (Option String) :=
  match ini.scope? sect with
  | none => .ok none
  | some options =>
    match options.lookup name with
    | none => .ok none
    | some raw => do
      let value ← expand ⟨sect, name, raw, options⟩ referenceDepthLimit (raw.length + 1) raw.toList
      return some (String.ofList value)

end Ini

end CallAtlas.Settings
