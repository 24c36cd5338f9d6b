import WikiStubs.Text.Terminal
import WikiStubs.Url

/-!
# Command line options

The arguments of a run. Options start with hyphens and may stand between the names of functions;
after `--` all arguments are names. A value follows its option as the next argument or is attached
to it: `--format json`, `--format=json`, `-f json`, `-fjson`, `-f=json`. One-letter switches may
share a hyphen.

* `Options.parse` reads the arguments and the environment. What is wrong with an option shows
  when the next option or name is met, so an unknown option right after it is reported first.
* `Help.styled` is what is printed when help is asked for, with control sequences for emphasis, and
  `Help.text` what is left of it when it is printed without. The value of an environment variable
  is shown beside the option that it stands in for, and one with an unfinished control sequence
  hides what follows it up to the next emphasis.
-/
namespace WikiStubs

inductive Switch where
  | keepGoing
  | verbose
  | quiet
  deriving DecidableEq

inductive Setting where
  | output
  | format
  | baseUrl
  | wikiDir
  deriving DecidableEq

inductive OptionName where
  | help
  | switch (s : Switch)
  | setting (s : Setting)
  deriving DecidableEq

def Switch.label : Switch → Text
  | keepGoing => "--keep-going"
  | verbose => "--verbose"
  | quiet => "--quiet"

def Setting.label : Setting → Text
  | output => "--output <OUTPUT>"
  | format => "--format <FORMAT>"
  | baseUrl => "--base-url <BASE_URL>"
  | wikiDir => "--wiki-dir <WIKI_DIR>"

/-- Whether the value of a setting is a path, which cannot be empty. -/
def Setting.isPath : Setting → Bool
  | output | wikiDir => true
  | format | baseUrl => false

def Setting.envName? : Setting → Option Text
  | baseUrl => some "TICDOC_BASE_URL"
  | wikiDir => some "TICDOC_WIKI_DIR"
  | output | format => none

namespace OptionName

def label : OptionName → Text
  | help => "--help"
  | switch s => s.label
  | setting s => s.label

def longNames : List (Text × OptionName) :=
  [("output", setting .output), ("format", setting .format), ("base-url", setting .baseUrl),
    ("wiki-dir", setting .wikiDir), ("keep-going", switch .keepGoing),
    ("verbose", switch .verbose), ("quiet", switch .quiet), ("help", help)]

def letters : List (Char × OptionName) :=
  [('o', setting .output), ('f', setting .format), ('v', switch .verbose), ('q', switch .quiet),
    ('h', help)]

def ofLong? (name : Text) : Option OptionName := (longNames.find? (·.1 = name)).map (·.2)

def ofLetter? (c : Char) : Option OptionName := (letters.find? (·.1 = c)).map (·.2)

end OptionName

inductive UsageFault where
  | unexpected (arg : Text)
  | unexpectedValue (value : Text) (option : OptionName)
  | valueMissing (s : Setting)
  | repeated (option : OptionName)
  | conflict (first second : Switch)
  deriving DecidableEq

/-- The text of a usage fault. What an argument says is shown without control sequences. -/
def UsageFault.message : UsageFault → Text
  | unexpected arg => "error: unexpected argument '" ++ Terminal.plain arg ++ "' found"
  | unexpectedValue value option =>
    "error: unexpected value '" ++ Terminal.plain value ++ "' for '" ++ option.label ++
      "' found; no more were expected"
  | valueMissing s =>
    "error: a value is required for '" ++ s.label ++ "' but none was supplied"
  | repeated option =>
    "error: the argument '" ++ option.label ++ "' cannot be used multiple times"
  | conflict first second =>
    "error: the argument '" ++ first.label ++ "' cannot be used with '" ++ second.label ++ "'"

/-- Why the arguments give no run: help is asked for, or something is wrong. -/
inductive Stop where
  | help
  | usage (fault : UsageFault)
  deriving DecidableEq

/-! ## Reading the arguments -/

/-- What the arguments say so far: names, switches and settings in the order they came, and the
last setting as long as its value is not settled. -/
structure Arguments where
  functions : List Text
  switches : List Switch
  settings : List (Setting × Text)
  pending : Option (Setting × Option Text)

namespace Arguments

def empty : Arguments := ⟨[], [], [], none⟩

def value? (a : Arguments) (s : Setting) : Option Text :=
  (a.settings.find? (·.1 = s)).map (·.2)

/-- Gives a setting a value, which only one argument may do. -/
def assign (a : Arguments) (s : Setting) (value : Text) : Except Stop Arguments :=
  if (a.value? s).isSome then .error (.usage (.repeated (.setting s)))
  else if s.isPath ∧ value = [] then .error (.usage (.valueMissing s))
  else .ok { a with settings := a.settings ++ [(s, value)] }

def settle (a : Arguments) : Except Stop Arguments :=
  match a.pending with
  | none => .ok a
  | some (s, none) => .error (.usage (.valueMissing s))
  | some (s, some value) => assign { a with pending := none } s value

/-- Turns a switch on, which only one argument may do. -/
def turnOn (a : Arguments) (s : Switch) : Except Stop Arguments :=
  if s ∈ a.switches then .error (.usage (.repeated (.switch s)))
  else .ok { a with switches := a.switches ++ [s] }

/-- Takes a setting with its attached value, or waits for the value. -/
def take (a : Arguments) (s : Setting) (value : Option Text) : Except Stop Arguments := do
  let a ← a.settle
  match value with
  | some value => a.assign s value
  | none => return { a with pending := some (s, none) }

/-- Takes a long option, from its text after the hyphens. -/
def long (a : Arguments) (body : Text) : Except Stop Arguments :=
  let (name, value) :=
    match Text.splitAtFirst? "=" body with
    | some (name, value) => (name, some value)
    | none => (body, none)
  match OptionName.ofLong? name, value with
  | none, _ => .error (.usage (.unexpected ("--" ++ name)))
  | some (.setting s), value => a.take s value
  | some o, some value => .error (.usage (.unexpectedValue value o))
  | some (.switch s), none => do (← a.settle).turnOn s
  | some .help, none => do
    let _ ← a.settle
    .error .help

/-- Takes the letters after one hyphen. A letter of a setting takes the rest as its value. -/
def short (a : Arguments) : Text → Except Stop Arguments
  | [] => .ok a
  | c :: cs =>
    match OptionName.ofLetter? c with
    | none => .error (.usage (.unexpected ['-', c]))
    | some .help => do
      let _ ← a.settle
      .error .help
    | some (.switch s) => do (← (← a.settle).turnOn s).short cs
    | some (.setting s) =>
      match cs with
      | [] => a.take s none
      | '=' :: value => a.take s (some value)
      | value => a.take s (some value)

/-- Takes an argument that is no option: a value if one is awaited, else a name. -/
def plain (a : Arguments) (arg : Text) : Except Stop Arguments :=
  match a.pending with
  | some (s, none) => .ok { a with pending := some (s, some arg) }
  | _ => do
    let a ← a.settle
    return { a with functions := a.functions ++ [arg] }

/-- Takes an argument before `--`. -/
def step (a : Arguments) (arg : Text) : Except Stop Arguments :=
  match arg with
  | '-' :: '-' :: body => a.long body
  | '-' :: c :: cs => a.short (c :: cs)
  | _ => a.plain arg

def takeAll (a : Arguments) : List Text → Except Stop Arguments
  | [] => a.settle
  | arg :: args => do
    if arg = ("--" : Text) then
      let a ← a.settle
      return { a with functions := a.functions ++ args }
    else (← a.step arg).takeAll args

/-- Gives a setting the value of its environment variable, if no argument gives it one. -/
def fill (env : Text → Option Text) (a : Arguments) (s : Setting) : Except Stop Arguments :=
  match a.value? s, s.envName?.bind env with
  | none, some value => a.assign s value
  | _, _ => .ok a

end Arguments

/-! ## Options -/

structure Options where
  functions : List Text
  output : Text
  format : Text
  baseUrl : Text
  wikiDir : Option Text
  keepGoing : Bool
  verbose : Bool
  quiet : Bool

namespace Options

/-- The options that the arguments give, with defaults for what they leave open. Of two switches
that exclude each other the first used is named first. -/
def ofArguments (a : Arguments) : Except Stop Options :=
  match a.switches.filter fun s => s = .verbose ∨ s = .quiet with
  | first :: second :: _ => .error (.usage (.conflict first second))
  | _ => .ok
    { functions := a.functions
      output := (a.value? .output).getD "library"
      format := (a.value? .format).getD "lua"
      baseUrl := (a.value? .baseUrl).getD Address.defaultBase
      wikiDir := a.value? .wikiDir
      keepGoing := .keepGoing ∈ a.switches
      verbose := .verbose ∈ a.switches
      quiet := .quiet ∈ a.switches }

def parse (args : List Text) (env : Text → Option Text) : Except Stop Options := do
  let a ← Arguments.empty.takeAll args
  let a ← a.fill env .baseUrl
  let a ← a.fill env .wikiDir
  ofArguments a

end Options

/-! ## Help -/

namespace Help

def emphasized (t : Text) : Text := "\x1b[1m" ++ t ++ "\x1b[0m"

def column : Nat := 29

/-- The text with its further lines below its first one. -/
def hanging (t : Text) : Text :=
  List.intercalate ('\n' :: List.replicate column ' ') (t.splitOn '\n')

def variableNote (env : Text → Option Text) (s : Setting) : Text :=
  match s.envName? with
  | none => []
  | some name => "[env: " ++ name ++ "=" ++ hanging ((env name).getD []) ++ "]"

def lines (env : Text → Option Text) : List Text :=
  ["Generate Lua annotation stubs from the TIC-80 wiki API pages",
   "",
   emphasized "Usage:" ++ " " ++ emphasized "ticdoc" ++ " [OPTIONS] [FUNCTIONS]...",
   "",
   emphasized "Arguments:",
   "  [FUNCTIONS]...  Functions to render to stdout. If omitted, every function listed on the " ++
     "API page is written to the output directory, one file per category",
   "",
   emphasized "Options:",
   "  " ++ emphasized "-o" ++ ", " ++ emphasized "--output" ++
     " <OUTPUT>      Output directory for catalog mode [default: library]",
   "  " ++ emphasized "-f" ++ ", " ++ emphasized "--format" ++
     " <FORMAT>      Output format: lua (default), json [default: lua]",
   "      " ++ emphasized "--base-url" ++ " <BASE_URL>  Root URL of the raw wiki pages " ++
     variableNote env .baseUrl ++ " [default: " ++ Address.defaultBase ++ "]",
   "      " ++ emphasized "--wiki-dir" ++
     " <WIKI_DIR>  Read pages from a local directory of <page>.md files instead of HTTP " ++
     variableNote env .wikiDir,
   "      " ++ emphasized "--keep-going" ++
     "           Skip functions whose page cannot be parsed instead of aborting",
   "  " ++ emphasized "-v" ++ ", " ++ emphasized "--verbose" ++
     "              Show debug logging",
   "  " ++ emphasized "-q" ++ ", " ++ emphasized "--quiet" ++ "                Only log errors",
   "  " ++ emphasized "-h" ++ ", " ++ emphasized "--help" ++ "                 Print help"]

/-- The help with emphasis, each line ended. -/
def styled (env : Text → Option Text) : Text := (lines env).flatMap (· ++ ['\n'])

def text (env : Text → Option Text) : Text := Terminal.plain (styled env)

end Help
end WikiStubs
