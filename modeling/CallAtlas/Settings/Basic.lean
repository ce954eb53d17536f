import CallAtlas.Decimal.Notation
import CallAtlas.Settings.Ini
import CallAtlas.Text.Quoted

/-!
# Settings

The settings of an analysis with their defaults and bounds, and why a setting is refused.
-/

namespace CallAtlas.Settings

structure Analysis where
  maxWorkers : Int
  maxNestingDepth : Int
  includeStubs : Bool
deriving DecidableEq

structure Layout where
  prog : String
  rankDir : String
  gridScaleX : Float
  gridScaleY : Float

structure Files where
  maxFileSizeKb : Int
  binaryCheckBytes : Int
  minifiedLineLength : Int
deriving DecidableEq

structure Paths where
  ignoreFile : String
deriving DecidableEq

/-- All settings. -/
structure Config where
  /-- Path text of the workspace. -/
  workspacePath : String
  /-- Text shown to users in place of the workspace path. -/
  displayOverride : Option String
  analysis : Analysis
  layout : Layout
  files : Files
  paths : Paths

/-- An integer setting with its bounds. -/
structure IntegerField where
  sect : String
  key : String
  default : Int
  least : Int
  greatest : Int

structure NumberField where
  sect : String
  key : String
  default : Float
  least : Float
  greatest : Float

/-! ## The schema -/

def maxWorkersField : IntegerField := ⟨"analysis", "max_workers", 4, 1, 64⟩
def maxNestingDepthField : IntegerField := ⟨"analysis", "max_nesting_depth", 32, 1, 1000⟩
def gridScaleXField : NumberField := ⟨"layout", "grid_scale_x", 1.0, 0.01, 100.0⟩
def gridScaleYField : NumberField := ⟨"layout", "grid_scale_y", 2.0, 0.01, 100.0⟩
def maxFileSizeField : IntegerField := ⟨"files", "max_file_size_kb", 500, 1, 10000⟩
def binaryCheckField : IntegerField := ⟨"files", "binary_check_bytes", 1024, 64, 8192⟩
def minifiedLengthField : IntegerField := ⟨"files", "minified_line_length", 500, 100, 5000⟩

/-- The rank directions, in upper case. -/
def rankDirs : List String := ["LR", "RL", "TB", "BT"]

def Analysis.default : Analysis :=
  ⟨maxWorkersField.default, maxNestingDepthField.default, true⟩

def Layout.default : Layout :=
  ⟨"dot", "LR", gridScaleXField.default, gridScaleYField.default⟩

def Files.default : Files :=
  ⟨maxFileSizeField.default, binaryCheckField.default, minifiedLengthField.default⟩

def Paths.default : Paths := ⟨".callscopeignore"⟩

def Config.default (workspacePath : String) : Config :=
  ⟨workspacePath, none, .default, .default, .default, .default⟩

def Config.displayPath (c : Config) : String :=
  match c.displayOverride with
  | some text => if text = "" then c.workspacePath else text
  | none => c.workspacePath

/-- Why the value of a setting is refused. -/
inductive Issue where
  | invalidValue (sect key raw type : String)
  | belowMinimum (sect key value least : String)
  | aboveMaximum (sect key value greatest : String)
  | unknownRankDir (value : String)
  | invalidWorkers (raw : String)
  | tooFewWorkers (count : Int)
deriving DecidableEq

def Issue.message : Issue → String
  | .invalidValue sect key raw type =>
    "Invalid value for [" ++ sect ++ "]." ++ key ++ ": " ++ Text.quoted raw ++
      " (expected " ++ type ++ ")"
  | .belowMinimum sect key value least =>
    "Value for [" ++ sect ++ "]." ++ key ++ " is " ++ value ++ ", but minimum is " ++ least
  | .aboveMaximum sect key value greatest =>
    "Value for [" ++ sect ++ "]." ++ key ++ " is " ++ value ++ ", but maximum is " ++ greatest
  | .unknownRankDir value =>
    "Value for [layout].rank_dir is " ++ Text.quoted value ++ ", expected one of " ++
      String.intercalate ", " rankDirs
  | .invalidWorkers raw =>
    "Invalid value for CALLSCOPE_MAX_WORKERS: " ++ Text.quoted raw ++ " (expected int)"
  | .tooFewWorkers count =>
    "CALLSCOPE_MAX_WORKERS is " ++ toString count ++ ", but minimum is 1"

end CallAtlas.Settings
