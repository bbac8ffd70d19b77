import AddonCatalog.Cli.Suggest
import AddonCatalog.Text.Quoted
import AddonCatalog.Text.Alnum
/-!
# The command line

The `addonhub` command takes group options, then a command and its own options and
arguments:

* group options: `--version` (prints the version), `--settings FILE`, `-v` or `--verbose`,
  and `--help`; option parsing stops at the first argument, the command name;
* commands: `types`, `list [--installed]`, `show UID`, `install UID`,
  `uninstall UID`, each with `--help`; a command's options and arguments may be
  interleaved.

Options are read the usual way: `--name=value` or `--name value` for an option with a
value, `-abc` for several short flags, `--` ends the options. `--help` and
`--version` win over everything else on their level, the first given first.

A malformed command line is a usage error, printed with the usage of the command
and a hint to ask for help: an unknown option or command (with the known ones that
resemble it), a missing command or argument, or extra arguments. An option without its
value, or a value given to a flag, is reported without the usage. A command line
without any argument prints the group help as a usage error. An unknown command whose
first character is not a letter or digit is read again as the group's options before
it is reported. The settings file must not be a directory.
-/

namespace AddonCatalog.Cli

/-- The version the command reports. -/
def versionText : String := "addonhub, version 0.3.0\n"

/-- An option: its names, whether it takes a value, and its help line. -/
structure OptionSpec where
  names : List String
  takesValue : Bool := false
  metavar : String := ""
  help : String
deriving Inhabited

/-- The help option every level has. -/
def helpOption : OptionSpec := ⟨["--help"], false, "", "Show this message and exit."⟩

/-- The options of the group. -/
def groupOptions : List OptionSpec :=
  [⟨["--version"], false, "", "Show the version and exit."⟩,
   ⟨["--settings"], true, "FILE", "Path to settings.json"⟩,
   ⟨["-v", "--verbose"], false, "", "Enable debug logging"⟩, helpOption]

/-- A command of the group. -/
structure CommandSpec where
  name : String
  doc : String
  options : List OptionSpec
  /-- Whether it takes the argument `UID`. -/
  takesUid : Bool
deriving Inhabited

/-- The commands, in name order. -/
def commandSpecs : List CommandSpec :=
  [⟨"install", "Install an addon by uid.", [helpOption], true⟩,
   ⟨"list", "List addons from the reconciled catalog.",
     [⟨["--installed"], false, "", "Only show installed addons"⟩, helpOption], false⟩,
   ⟨"show", "Show details of a single addon.", [helpOption], true⟩,
   ⟨"types", "List addon types.", [helpOption], false⟩,
   ⟨"uninstall", "Uninstall an addon by uid.", [helpOption], true⟩]

/-- What the command line asks for. -/
inductive Request where
  | types
  | list (installedOnly : Bool)
  | show (uid : String)
  | install (uid : String)
  | uninstall (uid : String)
deriving Inhabited

/-- What a command line amounts to. -/
inductive Invocation where
  /-- Run a request, with the settings file given, if any. -/
  | run (settings : Option String) (verbose : Bool) (request : Request)
  /-- Print a text and succeed (help, version). -/
  | print (text : String)
  /-- A usage error, with the text printed. -/
  | usage (text : String)
deriving Inhabited

/-- Two columns of help: names padded to the widest, then the help texts. -/
def helpRows (rows : List (String × String)) : String :=
  let w := (rows.map (·.1.length)).foldl max 0
  String.join (rows.map fun (a, b) =>
    "  " ++ a ++ String.ofList (List.replicate (w - a.length + 2) ' ') ++ b ++ "\n")

/-- The help line of an option: its names, then its value. -/
def optionLabel (o : OptionSpec) : String :=
  ", ".intercalate o.names ++ (if o.takesValue then " " ++ o.metavar else "")

/-- The usage line of the group. -/
def groupUsage : String := "Usage: addonhub [OPTIONS] COMMAND [ARGS]..."

/-- The usage line of a command. -/
def commandUsage (c : CommandSpec) : String :=
  "Usage: addonhub " ++ c.name ++ " [OPTIONS]" ++ (if c.takesUid then " UID" else "")

/-- The help of the group. -/
def groupHelp : String :=
  groupUsage ++ "\n\n  AddonHub - addon catalog and installer\n\nOptions:\n" ++
    helpRows (groupOptions.map fun o => (optionLabel o, o.help)) ++ "\nCommands:\n" ++
    helpRows (commandSpecs.map fun c => (c.name, c.doc))

/-- The help of a command. -/
def commandHelp (c : CommandSpec) : String :=
  commandUsage c ++ "\n\n  " ++ c.doc ++ "\n\nOptions:\n" ++
    helpRows (c.options.map fun o => (optionLabel o, o.help))

/-- A usage error: the usage line, the help hint, and the message. -/
def usageError (usage path message : String) : String :=
  usage ++ "\nTry '" ++ path ++ " --help' for help.\n\nError: " ++ message ++ "\n"

/-- The options and positional arguments read from a command line. -/
structure Parsed where
  /-- The options given, by first name, in order, with their values. -/
  options : List (String × Option String) := []
  positional : List String := []
deriving Inhabited

/-- The option with a name. -/
def findOption (specs : List OptionSpec) (name : String) : Option OptionSpec :=
  specs.find? (·.names.contains name)

/-- The long names of some options. -/
def longNames (specs : List OptionSpec) : List String :=
  specs.flatMap fun o => o.names.filter (·.startsWith "--")

/-- The suggestion of known names that resemble an unknown one, in name order. -/
def didYouMean (suggestions : List String) : String :=
  match suggestions.mergeSort fun a b => decide (a < b) || a == b with
  | [] => ""
  | [s] => " Did you mean " ++ Text.quote s ++ "?"
  | ss => " (Did you mean one of: " ++ ", ".intercalate (ss.map Text.quote) ++ "?)"

/-- The message of an unknown option, with the known ones that resemble it. -/
def noSuchOption (name : String) (suggestions : List String) : String :=
  "No such option " ++ Text.quote name ++ "." ++ didYouMean suggestions

/-- The message of an unknown command, with the known ones that resemble it. -/
def noSuchCommand (name : String) (suggestions : List String) : String :=
  "No such command " ++ Text.quote name ++ "." ++ didYouMean suggestions

/-- Why the options of a command line cannot be read. -/
inductive ParseError where
  /-- An unknown option, with the known long options that resemble it. -/
  | unknown (name : String) (suggestions : List String)
  /-- An option used wrongly: without its value, or with a value it does not take. -/
  | misused (message : String)
deriving Inhabited

/-- Reads the value of an option from the arguments that follow. -/
def takeValue (name : String) : List String → Except ParseError (String × List String)
  | [] => .error (.misused ("Option " ++ Text.quote name ++ " requires an argument."))
  | v :: rest => .ok (v, rest)

/-- Reads the short flags of an argument such as `-abc`. -/
def shortFlags (specs : List OptionSpec) (chars : List Char) (rest : List String)
    (acc : Parsed) : Except ParseError (Parsed × List String) :=
  match chars with
  | [] => .ok (acc, rest)
  | c :: more =>
    let name := "-" ++ c.toString
    match findOption specs name with
    | none => .error (.unknown name [])
    | some o =>
      let key := o.names.headD name
      if o.takesValue then
        let source := if more.isEmpty then rest else String.ofList more :: rest
        match takeValue name source with
        | .ok (v, rest) => .ok ({ acc with options := acc.options ++ [(key, some v)] }, rest)
        | .error e => .error e
      else shortFlags specs more rest { acc with options := acc.options ++ [(key, none)] }

/-- Reads one option argument. -/
def readOption (specs : List OptionSpec) (arg : String) (rest : List String) (acc : Parsed) :
    Except ParseError (Parsed × List String) :=
  let (name, explicit) := match arg.toList.findIdx? (· == '=') with
    | some i => (String.ofList (arg.toList.take i), some (String.ofList (arg.toList.drop (i + 1))))
    | none => (arg, none)
  match specs.find? (fun o => o.names.contains name && name.startsWith "--") with
  | some o =>
    let key := o.names.headD name
    if o.takesValue then
      match takeValue name ((explicit.map ([·])).getD [] ++ rest) with
      | .ok (v, rest) => .ok ({ acc with options := acc.options ++ [(key, some v)] }, rest)
      | .error e => .error e
    else match explicit with
      | some _ => .error (.misused ("Option " ++ Text.quote name ++ " does not take a value."))
      | none => .ok ({ acc with options := acc.options ++ [(key, none)] }, rest)
  | none =>
    if arg.startsWith "--" then .error (.unknown name (closeMatches name (longNames specs)))
    else shortFlags specs (arg.toList.drop 1) rest acc

/-- Reads options and arguments; `interspersed` lets arguments and options mix.
`fuel` bounds the arguments read. -/
def parseFrom (specs : List OptionSpec) (interspersed : Bool) :
    Nat → List String → Parsed → Except ParseError Parsed
  | 0, rest, acc => .ok { acc with positional := acc.positional ++ rest }
  | _ + 1, [], acc => .ok acc
  | fuel + 1, arg :: rest, acc =>
    if arg == "--" then .ok { acc with positional := acc.positional ++ rest }
    else if arg.startsWith "-" && arg.length > 1 then
      match readOption specs arg rest acc with
      | .ok (acc, rest) => parseFrom specs interspersed fuel rest acc
      | .error e => .error e
    else if interspersed then
      parseFrom specs interspersed fuel rest { acc with positional := acc.positional ++ [arg] }
    else .ok { acc with positional := acc.positional ++ arg :: rest }

/-- Reads options and arguments. -/
def parse (specs : List OptionSpec) (interspersed : Bool) (args : List String) : Except ParseError Parsed :=
  parseFrom specs interspersed (args.length + 1) args {}

/-- The first of the given eager options that was given. -/
def firstEager (p : Parsed) (names : List String) : Option String :=
  (p.options.find? fun (n, _) => names.contains n).map (·.1)

/-- The message of extra arguments. -/
def extraArguments (extra : List String) : String :=
  (if extra.length == 1 then "Got unexpected extra argument (" else "Got unexpected extra arguments (") ++
    " ".intercalate extra ++ ")"

/-- The report of options that cannot be read: an unknown option is a usage error of
the command; a misused option is reported alone. -/
def parseFailure (usage path : String) : ParseError → Invocation
  | .unknown name suggestions => .usage (usageError usage path (noSuchOption name suggestions))
  | .misused message => .usage ("Error: " ++ message ++ "\n")

/-- Reads the arguments of a command. -/
def commandInvocation (settings : Option String) (verbose : Bool) (c : CommandSpec)
    (args : List String) : Invocation :=
  let path := "addonhub " ++ c.name
  match parse c.options true args with
  | .error e => parseFailure (commandUsage c) path e
  | .ok p =>
    if (firstEager p ["--help"]).isSome then .print (commandHelp c)
    else
      let (uid, extra) := if c.takesUid then (p.positional.head?, p.positional.drop 1)
        else (none, p.positional)
      if c.takesUid && uid.isNone then .usage (usageError (commandUsage c) path "Missing argument 'UID'.")
      else if !extra.isEmpty then .usage (usageError (commandUsage c) path (extraArguments extra))
      else
        let u := uid.getD ""
        .run settings verbose (match c.name with
          | "list" => .list (p.options.any (·.1 == "--installed"))
          | "show" => .show u
          | "install" => .install u
          | "uninstall" => .uninstall u
          | _ => .types)

/-- Whether an unknown command name reads as an option: its first character is not a
letter or digit. -/
def looksLikeOption (name : String) : Bool :=
  match name.toList with
  | c :: _ => !Text.isAlnum c
  | [] => false

/-- Reads the group's options: help, the version or an error end the command line;
otherwise the settings file, the verbosity and the command with its arguments. -/
def groupStage (isDirectory : String → Bool) (args : List String) :
    Except Invocation (Option String × Bool × List String) :=
  match parse groupOptions false args with
  | .error e => .error (parseFailure groupUsage "addonhub" e)
  | .ok p =>
    match firstEager p ["--help", "--version"] with
    | some "--help" => .error (.print groupHelp)
    | some _ => .error (.print versionText)
    | none =>
      let settings := ((p.options.filter (·.1 == "--settings")).getLast?.bind (·.2))
      match settings.filter isDirectory with
      | some s => .error (.usage (usageError groupUsage "addonhub"
          ("Invalid value for '--settings': File " ++ Text.quote s ++ " is a directory.")))
      | none => .ok (settings, p.options.any (·.1 == "-v"), p.positional)

/-- What a command line amounts to; `isDirectory` tells whether a path names a
directory. An unknown command that reads as an option has the group read its
arguments again, from the command on, before it is reported. -/
def invocation (isDirectory : String → Bool) (args : List String) : Invocation :=
  if args.isEmpty then .usage groupHelp
  else
    match groupStage isDirectory args with
    | .error i => i
    | .ok (_, _, []) => .usage (usageError groupUsage "addonhub" "Missing command.")
    | .ok (settings, verbose, name :: rest) =>
      match commandSpecs.find? (·.name == name) with
      | some c => commandInvocation settings verbose c rest
      | none =>
        let again := if looksLikeOption name then groupStage isDirectory (name :: rest) else .ok (none, false, [])
        match again with
        | .error i => i
        | .ok _ => .usage (usageError groupUsage "addonhub"
            (noSuchCommand name (closeMatches name (commandSpecs.map (·.name)))))

end AddonCatalog.Cli
