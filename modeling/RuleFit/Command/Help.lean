import RuleFit.Text.Basic

/-!
# Help

What the program and its subcommands say of themselves. The program goes by the name that it was
called by.
-/

namespace RuleFit.Command

/-- Lines under a line that tells how the command is called. -/
def helpText (call : Text) (lines : List Text) : Text :=
  "Usage: " ++ call ++ "\n\n" ++ Text.join (lines.map (· ++ "\n"))

/-- The help of the program. -/
def mainHelp (program : Text) : Text :=
  helpText (program ++ " [OPTIONS] COMMAND [ARGS]...") [
    "  Lintseed - infer a linter configuration from sample code.",
    "",
    "Options:",
    "  --version      Show the version and exit.",
    "  -v, --verbose  Verbose output.",
    "  -q, --quiet    Minimal output (errors only).",
    "  --help         Show this message and exit.",
    "",
    "Commands:",
    "  expand  List every candidate config of RULE_ID, one per line, in test...",
    "  infer   Infer rule configs that the given FILES already satisfy."]

/-- The help of `infer`. -/
def inferHelp (program : Text) : Text :=
  helpText (program ++ " infer [OPTIONS] FILES...") [
    "  Infer rule configs that the given FILES already satisfy.",
    "",
    "  Every schema-valid config of every catalog rule is tried against the files;",
    "  per rule, the most specific config without errors is kept. Exit codes: 0 =",
    "  done, 2 = configuration error.",
    "",
    "Options:",
    "  --catalog FILE                  YAML file with the option schema of every",
    "                                  rule.  [required]",
    "  --engine TEXT                   Linter engine as 'module:attribute'.",
    "                                  [required]",
    "  --config FILE                   Settings file (default: lintseed.yml in the",
    "                                  current directory, if present).",
    "  --deny TEXT                     Rule id to leave out (repeatable); added to",
    "                                  the settings deny-list.",
    "  --max-combinations INTEGER RANGE",
    "                                  Skip rules with more candidate configs than",
    "                                  this (default: 16).  [x>=1]",
    "  --format [rich|json|porcelain]  Output format (default: rich if TTY,",
    "                                  porcelain if piped).",
    "  --help                          Show this message and exit."]

/-- The help of `expand`. -/
def expandHelp (program : Text) : Text :=
  helpText (program ++ " expand [OPTIONS] RULE_ID") [
    "  List every candidate config of RULE_ID, one per line, in test order.",
    "",
    "Options:",
    "  --catalog FILE  YAML file with the option schema of every rule.  [required]",
    "  --help          Show this message and exit."]

end RuleFit.Command
