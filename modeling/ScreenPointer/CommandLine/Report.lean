/-
# Carrying out a command line

An invocation and the content of its settings file determine everything that is
printed and the exit code: nothing else is read.  Arguments that make no sense
end with code 2, whatever else fails with code 1 and one line of explanation.
-/

import ScreenPointer.CommandLine.Demonstration
import ScreenPointer.Settings.Document

namespace ScreenPointer.CommandLine

structure Report where
  code : Nat := 0
  output : List String := []
  session : List String := []
  failure : Option String := none
  deriving DecidableEq, Repr

namespace Report

def failed (explanation : String) : Report :=
  { code := 1, failure := some ("Error: " ++ explanation) }

def ofStop : Stop → Report
  | .usage => { code := 2 }
  | .help level => { output := helpText level }
  | .helpOnHelp => { output := helpOnHelpText }
  | .version => { output := [versionText] }

/-- The settings in force: those of the file, or the defaults. -/
def settingsOf (path : Option String) (content : Settings.FileContent) :
    Except String Settings :=
  match path with
  | none => .ok {}
  | some path =>
    match Settings.ofFile path content with
    | .ok s => .ok s
    | .error _ => .error ("Failed to load config from " ++ path)

def ofTask (settings : Settings) : Task → Report
  | .config =>
    match settings.toText with
    | .ok text => { output := text.splitOn "\n" }
    | .error _ => failed "Failed to serialize config"
  | .run options =>
    if options.width ≤ 0 ∨ options.height ≤ 0 then
      failed ("Invalid display size " ++ toString options.width ++ "x" ++ toString options.height)
    else
      { session := demonstrate settings options }

def ofInvocation (i : Invocation) (content : Settings.FileContent) : Report :=
  match settingsOf i.configPath content with
  | .ok settings => ofTask settings i.task
  | .error explanation => failed explanation

/-- Carry out a command line, given what reading a file gives. -/
def ofArguments (args : List String) (read : String → Settings.FileContent) : Report :=
  match parse args with
  | .error stop => ofStop stop
  | .ok i => ofInvocation i (read (i.configPath.getD ""))

end Report

end ScreenPointer.CommandLine
