/-!
# Usage and help

The texts that say how the command is called.
-/

namespace Utterance.CommandLine
set_option autoImplicit false

/-- The name of the command. -/
def program : String := "juliusgram"

/-- How the command is called. -/
def usage : String :=
  "usage: juliusgram [-h] [-o OUTPUT] [--symbol NAME=V1,V2] [--mkdfa] [--test]\n" ++
  "                  [--dump-ast] [--encoding ENCODING] [-v]\n" ++
  "                  file\n"

/-- The usage and what each argument is for. -/
def help : String :=
  usage ++ "\n" ++
  "Compile utterance patterns into Julius .grammar/.voca files.\n" ++
  "\n" ++
  "positional arguments:\n" ++
  "  file                  Patterns file, one pattern per line\n" ++
  "\n" ++
  "options:\n" ++
  "  -h, --help            show this help message and exit\n" ++
  "  -o OUTPUT, --output OUTPUT\n" ++
  "                        Output base name (default: tmp)\n" ++
  "  --symbol NAME=V1,V2   Define a symbol group usable as <NAME> (repeatable)\n" ++
  "  --mkdfa               Run mkdfa on the written files\n" ++
  "  --test                Run generate after mkdfa\n" ++
  "  --dump-ast            Print each pattern's AST and exit\n" ++
  "  --encoding ENCODING   Encoding of input and output files (default: utf-8)\n" ++
  "  -v, --verbose         Enable debug logging\n"

/-- A line that reports an error. -/
def errorLine (message : String) : String :=
  program ++ ": error: " ++ message ++ "\n"

end Utterance.CommandLine
