import CallAtlas.Text.Blank
import CallAtlas.Text.Quoted

/-!
# Selections

A user's choice of what to analyse, with its written form.
-/

namespace CallAtlas.Project

/-- Kinds of selections. -/
inductive ScopeKind where
  | withTests
  | withoutTests
  | oneModule
  | oneDirectory
deriving DecidableEq

namespace ScopeKind

def all : List ScopeKind := [.withTests, .withoutTests, .oneModule, .oneDirectory]

def text : ScopeKind → String
  | .withTests => "whole-project-with-tests"
  | .withoutTests => "whole-project-without-tests"
  | .oneModule => "module"
  | .oneDirectory => "directory"

def ofText? (s : String) : Option ScopeKind :=
  all.find? fun k => k.text = s

def label : ScopeKind → String
  | .withTests => "Whole project (test files included)"
  | .withoutTests => "Whole project (test files excluded)"
  | .oneModule => "Module"
  | .oneDirectory => "Directory"

end ScopeKind

/-- A choice of what to analyse. -/
structure Selection where
  kind : ScopeKind
  moduleName : Option String
  directory : Option String
deriving DecidableEq

inductive SelectionError where
  | unknown (text : String)
  | unexpectedArgument (kind : ScopeKind)
  | unknownKind (name : String)
deriving DecidableEq

def SelectionError.message : SelectionError → String
  | .unknown text => "Unknown scope: " ++ Text.quoted text
  | .unexpectedArgument kind => "Scope " ++ Text.quoted kind.text ++ " takes no argument"
  | .unknownKind name => Text.quoted name ++ " is not a valid ScopeKind"

namespace Selection

def wholeProject : Selection := ⟨.withTests, none, none⟩

def make (kind : String) (moduleName directory : Option String) :
    Except SelectionError Selection :=
  match ScopeKind.ofText? kind with
  | some k => .ok ⟨k, moduleName, directory⟩
  | none => .error (.unknownKind kind)

/-- The text before the first colon, and the text after it if there is one. -/
def splitColon (s : List Char) : List Char × Option (List Char) :=
  match s.dropWhile (· != ':') with
  | _ :: argument => (s.takeWhile (· != ':'), some argument)
  | [] => (s, none)

def parse (value : String) : Except SelectionError Selection :=
  let s := Text.trimChars value.toList
  let (kind, argument) := splitColon s
  let name := String.ofList (Text.trimChars (argument.getD []))
  match ScopeKind.ofText? (String.ofList kind), argument with
  | none, _ => .error (.unknown (String.ofList s))
  | some .oneModule, _ => .ok ⟨.oneModule, some name, none⟩
  | some .oneDirectory, _ => .ok ⟨.oneDirectory, none, some name⟩
  | some k, some _ => .error (.unexpectedArgument k)
  | some k, none => .ok ⟨k, none, none⟩

def argument? (s : Selection) : Option String :=
  match s.kind with
  | .oneModule => some (s.moduleName.getD "")
  | .oneDirectory => some (s.directory.getD "")
  | _ => none

def label (s : Selection) : String :=
  match s.argument? with
  | some a => s.kind.label ++ " [" ++ a ++ "]"
  | none => s.kind.label

def text (s : Selection) : String :=
  match s.argument? with
  | some a => s.kind.text ++ ":" ++ a
  | none => s.kind.text

end Selection

end CallAtlas.Project
