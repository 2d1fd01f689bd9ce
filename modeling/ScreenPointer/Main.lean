/-
# The program

Reads the settings file that the arguments name, prints what the report says, and
exits with its code.
-/

import ScreenPointer.CommandLine.Report

namespace ScreenPointer.CommandLine

def readSettings (path : String) : IO Settings.FileContent := do
  try
    pure (.bytes (← IO.FS.readBinFile path))
  catch error =>
    pure (.failed error.toString)

def reportOn (args : List String) : IO Report := do
  match parse args with
  | .error stop => pure (.ofStop stop)
  | .ok i =>
    match i.configPath with
    | some path => pure (.ofInvocation i (← readSettings path))
    | none => pure (.ofInvocation i (.failed ""))

end ScreenPointer.CommandLine

def main (args : List String) : IO UInt32 := do
  let report ← ScreenPointer.CommandLine.reportOn args
  for line in report.output do
    IO.println line
  for line in report.session do
    IO.println ("INFO " ++ line)
  match report.failure with
  | some explanation => IO.eprintln explanation
  | none => pure ()
  pure report.code.toUInt32
