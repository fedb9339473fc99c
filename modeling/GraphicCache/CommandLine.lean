/-
The command line: `config` shows the configuration that the environment asks for, and `simulate`
runs a simulation and shows the statistics. Arguments are read from left to right, and the first
that is wrong, or asks for help or the version, decides.
-/
import GraphicCache.Simulation

namespace GraphicCache.CommandLine

/-! ## Commands -/

/-- What the arguments ask for. -/
inductive Command where
  | config
  | simulate (simulation : Simulation)
  | version
  | help
  deriving DecidableEq, Repr

def asksForHelp (arg : String) : Bool := arg == "--help" || arg.startsWith "-h"

def asksForVersion (arg : String) : Bool := arg == "--version" || arg.startsWith "-V"

/-! ## Options -/

/-- The options of a simulation. -/
inductive OptionName where
  | count
  | size
  | limit
  | idleSeconds
  | active
  deriving DecidableEq, Repr

/-- The option that is written in the given way. -/
def OptionName.ofText? : String → Option OptionName
  | "--count" => some .count
  | "--size" => some .size
  | "--limit" => some .limit
  | "--idle-secs" => some .idleSeconds
  | "--active" => some .active
  | _ => none

/-- A simulation with the value of one option, if the text is one. A size is a number of at
most 32 bits, a limit any amount, the others are counts. -/
def OptionName.set? (name : OptionName) (value : String) (s : Simulation) : Option Simulation :=
  match name with
  | .count => (Text.readUnsigned64 value.toList).map fun n => { s with count := n }
  | .size =>
    ((Text.readSigned64 value.toList).filter fun n => 0 ≤ n && n < 4294967296).map fun n =>
      { s with size := n.toNat }
  | .limit => (Text.readSigned64 value.toList).map fun n => { s with limit := some n }
  | .idleSeconds => (Text.readUnsigned64 value.toList).map fun n => { s with idleSeconds := n }
  | .active => (Text.readUnsigned64 value.toList).map fun n => { s with active := n }

/-- Whether an argument is an option rather than the value of one; a lone dash is a value. -/
def looksLikeOption (arg : String) : Bool := arg.startsWith "-" && arg != "-"

/-- An argument split at its first equals sign. -/
def splitAtEquals (arg : String) : String × Option String :=
  let name := arg.toList.takeWhile (· != '=')
  let rest := arg.toList.dropWhile (· != '=')
  (String.ofList name, if rest = [] then none else some (String.ofList (rest.drop 1)))

/-- The command that the arguments after `simulate` ask for. Every option is given once at most, its
value after an equals sign or as the next argument. -/
def readOptions (given : List OptionName) (s : Simulation) : List String → Option Command
  | [] => some (.simulate s)
  | ["--"] => some (.simulate s)
  | arg :: rest =>
    if asksForHelp arg then some .help
    else
      let (text, inline) := splitAtEquals arg
      match OptionName.ofText? text with
      | none => none
      | some name =>
        if given.contains name then none
        else match inline with
          | some value => (name.set? value s).bind fun s => readOptions (name :: given) s rest
          | none => match rest with
            | value :: rest =>
              if looksLikeOption value then none
              else (name.set? value s).bind fun s => readOptions (name :: given) s rest
            | [] => none

/-- The command that the arguments after `config` ask for. -/
def readNothing : List String → Option Command
  | [] => some .config
  | ["--"] => some .config
  | arg :: _ => if asksForHelp arg then some .help else none

/-- Whether the arguments after `help` name a command. -/
def readTopic : List String → Option Command
  | [] => some .help
  | [topic] => if ["config", "simulate", "help"].contains topic then some .help else none
  | _ => none

/-- The command that the arguments ask for, if they are right. -/
def read : List String → Option Command
  | [] => none
  | "config" :: rest => readNothing rest
  | "simulate" :: rest => readOptions [] .standard rest
  | "help" :: rest => readTopic rest
  | arg :: _ =>
    if asksForHelp arg then some .help
    else if asksForVersion arg then some .version
    else none

/-! ## Answers -/

/-- What the program does in the end. -/
inductive Response where
  /-- It shows a text and ends well. -/
  | shown (text : String)
  /-- It ends with an exit code. -/
  | failed (code : Nat)
  deriving DecidableEq, Repr

def versionText : String := "gfxswap 0.1.0\n"

def usageText : String :=
  "Inspect and exercise the graphic swap cache\n\n" ++
  "Usage: gfxswap <COMMAND>\n\n" ++
  "Commands:\n" ++
  "  config    Print the configuration resolved from the environment\n" ++
  "  simulate  Register synthetic bitmaps, age them and run one sweep\n"

/-- The answer to arguments, for the variables of the environment, the nanoseconds that have passed in
the Unix era, and the clock that a simulation goes by. -/
def answer (clock : Simulation.Clock) (lookup : String → Option String) (wallClock : Nat)
    (args : List String) : Response :=
  match read args with
  | none => .failed 2
  | some .version => .shown versionText
  | some .help => .shown usageText
  | some .config => .shown ((Config.load lookup).document.pretty ++ "\n")
  | some (.simulate s) =>
    match s.run (Config.load lookup) clock (wallClock % Span.second : Nat) with
    | some statistics => .shown ((statistics.document (wallClock / Span.second)).pretty ++ "\n")
    | none => .failed 101

/-- The answer by a clock that stands still and was just started. -/
def respond (lookup : String → Option String) (wallClock : Nat) (args : List String) : Response :=
  answer ⟨fun _ => ⟨0⟩, 9223372036854775808⟩ lookup wallClock args

end GraphicCache.CommandLine
