/-!
# Usage

What the command line says about itself.

## Main definitions

* `usageText` — the forms that a command line can take
* `helpText` — the usage with a word on every argument
* `usageErrorText` — what is said of a command line that makes no sense
-/

namespace Transclude

/-- The forms that a command line can take. -/
def usageText : String :=
  "usage: mdpp [-h] [-o OUTPUT] [--config FILE] [--max-depth N] [--strict]\n" ++
  "            [--watch] [--debug] [-v]\n" ++
  "            input\n"

/-- The usage with a word on every argument. -/
def helpText : String :=
  usageText ++
  "\n" ++
  "Expand \x7b\x7bfunction(args)\x7d\x7d macros in a text document\n" ++
  "\n" ++
  "positional arguments:\n" ++
  "  input                 Input document\n" ++
  "\n" ++
  "options:\n" ++
  "  -h, --help            show this help message and exit\n" ++
  "  -o OUTPUT, --output OUTPUT\n" ++
  "                        Output file (default: dist.md next to the input)\n" ++
  "  --config FILE         Config file (default: auto-discover mdpp.toml)\n" ++
  "  --max-depth N         Fail when calls nest deeper than N expansions\n" ++
  "                        (default: unlimited)\n" ++
  "  --strict              Check call arguments against declared function\n" ++
  "                        signatures\n" ++
  "  --watch               Watch for changes and recompile\n" ++
  "  --debug               Dump documents to stderr\n" ++
  "  -v, --verbose         Enable debug logging\n"

/-- What is said of a command line that makes no sense. -/
def usageErrorText (message : String) : String :=
  usageText ++ s!"mdpp: error: {message}\n"

end Transclude
