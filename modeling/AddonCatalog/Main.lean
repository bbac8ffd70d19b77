import AddonCatalog.Cli.Session
/-!
# The command line

Runs one command line on a machine with the process's environment variables, an empty
volume and no network, then prints what the command line printed (usage errors on the
error stream) and what the console printed, and exits with the command's code.
-/

namespace AddonCatalog.Cli

/-- The environment variables commands read. -/
def variableNames : List String :=
  ["HOME", "ADDONHUB_HOME", "ADDONHUB_REMOTE", "ADDONHUB_INCLUDE_INCOMPATIBLE",
    "ADDONHUB_CATALOG_URL", "ADDONHUB_CORE_VERSION"]

end AddonCatalog.Cli

/-- Runs the command line given as arguments. -/
def main (args : List String) : IO UInt32 := do
  let env ← AddonCatalog.Cli.variableNames.filterMapM fun n => do
    return (← IO.getEnv n).map (n, ·)
  let machine : AddonCatalog.Cli.Machine := { env }
  let (_, o) := machine.runCommand args
  if o.exitCode == 2 then IO.eprint o.output else IO.print o.output
  IO.print o.console
  match o.failure with
  | some e => IO.eprintln (e.kind.name ++ ": " ++ e.message)
  | none => pure ()
  return o.exitCode.toUInt32
