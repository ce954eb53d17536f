import CallAtlas.Text.Search

/-!
# Test files

Which paths of a project belong to its tests: everything below a directory `test` or `tests`, files
`test_….py` and `…_test.py` with their stubs, and `conftest.py`.  The rules are searches in the text
of the path; a line feed at its very end does not count.
-/

namespace CallAtlas.Project

open Text

/-- Whether what stands at the start of the text, or after one of its slashes, has a property. -/
def atComponent (p : List Char → Bool) (s : List Char) : Bool :=
  p s || anyTail (fun
    | '/' :: rest => p rest
    | _ => false) s

def sourceEndings : List (List Char) := [".py".toList, ".pyi".toList]

def startsTestDirectory (s : List Char) : Bool :=
  "test/".toList.isPrefixOf s || "tests/".toList.isPrefixOf s

/-- Whether a text is the name of a file `test_….py`. -/
def isTestName (s : List Char) : Bool :=
  match after? "test_".toList s with
  | none => false
  | some rest =>
    !rest.contains '/' && (endings rest).any fun name =>
      sourceEndings.any fun e => e.isSuffixOf name && e.length < name.length

def endsTestName (s : List Char) : Bool :=
  (endings s).any fun path => sourceEndings.any fun e => ("_test".toList ++ e).isSuffixOf path

/-- Whether a text is the name of the file that configures tests. -/
def isTestSetup (s : List Char) : Bool :=
  (endings s).any fun name => name == "conftest.py".toList

def isTestFile (path : String) : Bool :=
  let s := path.toList
  atComponent startsTestDirectory s || atComponent isTestName s || endsTestName s ||
    atComponent isTestSetup s

end CallAtlas.Project
