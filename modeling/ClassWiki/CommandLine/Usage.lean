import ClassWiki.CommandLine.Options

/-!
# Usage

What the program says about itself.
-/

namespace ClassWiki.CommandLine

def programName : Text := "cs-to-markdown"

def usageLines : List Text :=
  ["usage: cs-to-markdown [-h] --input INPUT --output OUTPUT [--config CONFIG]",
    "                      [--verbose]"]

def descriptionLines : List Text :=
  ["",
    "A tool to generate markdown from C# code.",
    "",
    "options:",
    "  -h, --help            show this help message and exit",
    "  --input INPUT, -i INPUT",
    "                        Specifies the input directory path.",
    "  --output OUTPUT, -o OUTPUT",
    "                        Specifies the output directory path.",
    "  --config CONFIG       Path to a YAML configuration file",
    "  --verbose, -v         Log every class as it is rendered"]

def helpLines : List Text := usageLines ++ descriptionLines

def refusalLines (refusal : Refusal) : List Text :=
  usageLines ++ [programName ++ ": error: " ++ refusal.message]

end ClassWiki.CommandLine
