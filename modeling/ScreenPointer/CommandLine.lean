/-
# The command line

What the arguments of `pointerctl` mean.  Options are long or short, take their
value after an equals sign, in the next argument, or right behind a short name,
and may be given once at each level; the general ones may stand before and after
the subcommand, and then the latter counts.  Reading the arguments has no effect:
it gives an invocation or the reason to stop.
-/

import ScreenPointer.Keyed

namespace ScreenPointer.CommandLine

inductive Flag
  | verbose | config | refreshHz | touches | rotate | width | height | help | version
  deriving DecidableEq, Repr

namespace Flag

def takesValue : Flag → Bool
  | verbose | help | version => false
  | config | refreshHz | touches | rotate | width | height => true

def long : Flag → String
  | verbose => "verbose"
  | config => "config"
  | refreshHz => "refresh-hz"
  | touches => "touches"
  | rotate => "rotate"
  | width => "width"
  | height => "height"
  | help => "help"
  | version => "version"

def short? : Flag → Option Char
  | verbose => some 'v'
  | config => some 'c'
  | touches => some 't'
  | rotate => some 'r'
  | help => some 'h'
  | version => some 'V'
  | refreshHz | width | height => none

end Flag

inductive Subcommand
  | run | config
  deriving DecidableEq, Repr

/-- Where an option stands: before any subcommand, or after one. -/
inductive Level
  | top
  | under (s : Subcommand)
  deriving DecidableEq, Repr

namespace Level

def flags : Level → List Flag
  | top => [.verbose, .config, .help, .version]
  | under .run => [.refreshHz, .verbose, .config, .touches, .rotate, .width, .height, .help]
  | under .config => [.verbose, .config, .help]

end Level

inductive Stop
  | usage
  | help (level : Level)
  | helpOnHelp
  | version
  deriving DecidableEq, Repr

/-- The options given at one level. -/
abbrev Given := Keyed Flag String

/-- An integer as arguments write it: perhaps a sign, and digits. -/
def integer? (text : String) : Option Int :=
  let (negative, digits) := match text.toList with
    | '-' :: rest => (true, rest)
    | '+' :: rest => (false, rest)
    | rest => (false, rest)
  if digits.isEmpty || !digits.all Char.isDigit then none
  else
    let n : Int := digits.foldl (fun n c => n * 10 + (c.toNat - '0'.toNat)) 0
    some (if negative then -n else n)

def within? (low high : Int) (text : String) : Option Int :=
  (integer? text).filter fun i => low ≤ i && i ≤ high

namespace Flag

def accepts (flag : Flag) (value : String) : Bool :=
  match flag with
  | config => !value.isEmpty
  | refreshHz | touches | rotate => (within? 0 0xFFFFFFFF value).isSome
  | width | height => (within? (-0x80000000) 0x7FFFFFFF value).isSome
  | verbose | help | version => true

end Flag

/-- Take note of an option.  Help and version stop at once. -/
def note (level : Level) (given : Given) (flag : Flag) (value : String) : Except Stop Given :=
  match flag with
  | .help => .error (.help level)
  | .version => .error .version
  | _ =>
    if (given.find? flag).isSome || !flag.accepts value then .error .usage
    else .ok (given.insert flag value)

/-- An option and its value, seen but not yet noted. -/
abbrev Held := Option (Flag × String)

/-- Take note of what is held. -/
def settle (level : Level) (given : Given) : Held → Except Stop Given
  | none => .ok given
  | some (flag, value) => note level given flag value

/-- What an argument with a leading dash amounts to. -/
inductive Effect
  | noted (given : Given)
  /-- The value of its last option is the next argument. -/
  | awaits (given : Given) (flag : Flag)

def longOption (level : Level) (given : Given) (text : List Char) : Except Stop Effect :=
  let name := String.ofList (text.takeWhile (· ≠ '='))
  let value := (text.dropWhile (· ≠ '=')).tail
  let attached := text.contains '='
  match level.flags.find? fun f => f.long = name with
  | none => .error .usage
  | some flag =>
    match flag.takesValue, attached with
    | true, true => .noted <$> note level given flag (String.ofList value)
    | true, false => .ok (.awaits given flag)
    | false, true => .error .usage
    | false, false => .noted <$> note level given flag ""

/-- A row of short options, without its dash.  The first that takes a value takes
the rest of the row, if there is any. -/
def shortOptions (level : Level) : Given → List Char → Except Stop Effect
  | given, [] => .ok (.noted given)
  | given, c :: rest =>
    match level.flags.find? fun f => f.short? = some c with
    | none => .error .usage
    | some flag =>
      if flag.takesValue then
        match rest with
        | [] => .ok (.awaits given flag)
        | '=' :: value => .noted <$> note level given flag (String.ofList value)
        | value => .noted <$> note level given flag (String.ofList value)
      else do
        let given ← note level given flag ""
        shortOptions level given rest

/-- Read arguments up to a subcommand.  Gives the options noted, the one held, and
what is left from the subcommand on. -/
def scan (level : Level) : Given → Held → List String → Except Stop (Given × Held × List String)
  | given, held, [] => .ok (given, held, [])
  | given, held, arg :: rest =>
    match arg.toList with
    | ['-', '-'] => if rest.isEmpty then .ok (given, held, []) else .error .usage
    | '-' :: c :: more => do
      let given ← settle level given held
      let effect ← match c with
        | '-' => longOption level given more
        | _ => shortOptions level given (c :: more)
      match effect with
      | .noted given => scan level given none rest
      | .awaits given flag =>
        match rest with
        | [] => .error .usage
        | value :: rest =>
          match value.toList with
          | '-' :: _ :: _ => .error .usage
          | _ => scan level given (some (flag, value)) rest
    | _ =>
      match level with
      | .top => .ok (given, held, arg :: rest)
      | .under _ => .error .usage

def scanUnder (s : Subcommand) (args : List String) : Except Stop Given := do
  let (given, held, _) ← scan (.under s) [] none args
  settle (.under s) given held

structure RunOptions where
  refreshHz : Nat := 60
  touches : Nat := 3
  rotations : Nat := 4
  width : Int := 1080
  height : Int := 1920
  deriving DecidableEq, Repr

inductive Task
  | config
  | run (options : RunOptions)
  deriving DecidableEq, Repr

structure Invocation where
  verbose : Bool
  configPath : Option String
  task : Task
  deriving DecidableEq, Repr

def numberOf (given : Given) (flag : Flag) (default : Int) : Int :=
  ((given.find? flag).bind integer?).getD default

def taskOf (s : Subcommand) (given : Given) : Task :=
  match s with
  | .config => .config
  | .run => .run {
      refreshHz := (numberOf given .refreshHz 60).toNat
      touches := (numberOf given .touches 3).toNat
      rotations := (numberOf given .rotate 4).toNat
      width := numberOf given .width 1080
      height := numberOf given .height 1920 }

def subcommand? : String → Option Subcommand
  | "run" => some .run
  | "config" => some .config
  | _ => none

/-- What `help` was asked about. -/
def helpAbout : List String → Stop
  | [] => .help .top
  | ["help"] => .helpOnHelp
  | [name] =>
    match subcommand? name with
    | some s => .help (.under s)
    | none => .usage
  | _ => .usage

def parse (args : List String) : Except Stop Invocation := do
  let (given, held, rest) ← scan .top [] none args
  match rest with
  | [] => .error .usage
  | "help" :: about => .error (helpAbout about)
  | name :: rest =>
    match subcommand? name with
    | none => .error .usage
    | some s =>
      let under ← scanUnder s rest
      let given ← settle .top given held
      .ok {
        verbose := (given.find? .verbose).isSome || (under.find? .verbose).isSome
        configPath := (under.find? .config).or (given.find? .config)
        task := taskOf s under }

def versionText : String := "pointerctl 0.1.0"

def helpText : Level → List String
  | .top => [
      "Pointer controller session runner",
      "",
      "Usage: pointerctl [OPTIONS] <COMMAND>",
      "",
      "Commands:",
      "  run     Run a scripted session and print a summary",
      "  config  Print the effective controller config as TOML",
      "  help    Print this message or the help of the given subcommand(s)",
      "",
      "Options:",
      "  -v, --verbose          Enable verbose output",
      "  -c, --config <CONFIG>  Controller config file (TOML)",
      "  -h, --help             Print help",
      "  -V, --version          Print version"]
  | .under .run => [
      "Run a scripted session and print a summary",
      "",
      "Usage: pointerctl run [OPTIONS]",
      "",
      "Options:",
      "      --refresh-hz <REFRESH_HZ>  Emulated display refresh rate [default: 60]",
      "  -v, --verbose                  Enable verbose output",
      "  -c, --config <CONFIG>          Controller config file (TOML)",
      "  -t, --touches <TOUCHES>        Number of simultaneous touch contacts to simulate [default: 3]",
      "  -r, --rotate <ROTATE>          Quarter turns to rotate the display through [default: 4]",
      "      --width <WIDTH>            Display width in pixels [default: 1080]",
      "      --height <HEIGHT>          Display height in pixels [default: 1920]",
      "  -h, --help                     Print help"]
  | .under .config => [
      "Print the effective controller config as TOML",
      "",
      "Usage: pointerctl config [OPTIONS]",
      "",
      "Options:",
      "  -v, --verbose          Enable verbose output",
      "  -c, --config <CONFIG>  Controller config file (TOML)",
      "  -h, --help             Print help"]

def helpOnHelpText : List String := [
  "Print this message or the help of the given subcommand(s)",
  "",
  "Usage: pointerctl help [COMMAND]...",
  "",
  "Arguments:",
  "  [COMMAND]...  Print help for the subcommand(s)"]

end ScreenPointer.CommandLine
