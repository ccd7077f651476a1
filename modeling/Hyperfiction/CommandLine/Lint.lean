import Hyperfiction.CommandLine.Outcome
import Hyperfiction.Lint
import Hyperfiction.StoryFile

/-! # Linting from the command line

    The program that checks a story: it loads the story and prints what it holds and
    what the check found. Errors fail the run, and so do warnings if the run is
    strict.
-/

namespace Hyperfiction.CommandLine

/-- How the program is used. -/
def lintUsage : String :=
  "Usage: story_linter <story.ron|story.json> [--strict]"

/-- The argument that makes warnings fail the run. -/
def strictFlag : String := "--strict"

/-- What is said about a passage with a special name. -/
def specialLine (story : Story) (name : String) : String :=
  let place := match story.passageNamed? name with
    | some p => "passage " ++ toString p.id.toNat
    | none => "none"
  "  " ++ name ++ ": " ++ place

/-- What a story holds. -/
def summaryLines (edition : Edition) : List String :=
  let story := edition.story
  ["Loaded '" ++ story.name ++ "' with " ++ toString story.size ++ " passages"] ++
    [headerName, footerName, configName].map (specialLine story) ++
    ["  Helpers: " ++ ", ".intercalate (Table.keys edition.helpers)]

/-- What a check found. -/
def reportLines (report : Lint.Report) : List String :=
  ["", "=== Story Lint Report ===", ""] ++
    (if report.errors.isEmpty && report.warnings.isEmpty then ["All checks passed!"] else []) ++
    report.warnings.map (fun warning => "WARNING: " ++ warning.message) ++
    report.errors.map (fun error => "ERROR: " ++ error.message) ++
    ["", "Summary: " ++ toString report.errors.length ++ " errors, " ++
      toString report.warnings.length ++ " warnings"]

/-- Whether a run passes. -/
def passes (strict : Bool) (report : Lint.Report) : Bool :=
  report.errors.isEmpty && !(strict && !report.warnings.isEmpty)

/-- Checks the story that the arguments name. -/
def lint (arguments : List String) (tree : FileTree) : Outcome :=
  match arguments with
  | [] => { output := textOfLines [lintUsage], tree }
  | path :: rest =>
    if asksForUsage arguments then { output := textOfLines [lintUsage], tree }
    else
      match StoryFile.load (.ofText path) tree with
      | .error e => .unloaded e.message tree
      | .ok edition =>
        let report := Lint.report edition.story
        { exitCode := if passes (rest.contains strictFlag) report then 0 else 1
          output := textOfLines (summaryLines edition ++ reportLines report)
          tree }

end Hyperfiction.CommandLine
