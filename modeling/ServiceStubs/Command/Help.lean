/-!
# Help

The text that explains the command line, for a terminal of eighty columns.
-/

namespace ServiceStubs.Command

/-- The name of the program in messages. -/
def programName : String := "rpcgen"

/-- The lines of the help text. -/
def helpLines : List String := [
  "usage: rpcgen [-h] [--output-dir OUTPUT_DIR] [--generator GENERATOR]",
  "              [--suffix SUFFIX] [--extension EXTENSION] [--indent INDENT]",
  "              [--lf] [--verbose]",
  "              source symbols [symbols ...]",
  "",
  "Generate RPC interface stubs from Python service classes",
  "",
  "positional arguments:",
  "  source                Path to a .py file or dotted module name",
  "  symbols               Service class names within the module",
  "",
  "options:",
  "  -h, --help            show this help message and exit",
  "  --output-dir OUTPUT_DIR, -o OUTPUT_DIR",
  "                        Output directory",
  "  --generator GENERATOR, -g GENERATOR",
  "                        Generator name or module:Class path",
  "  --suffix SUFFIX       Suffix appended to the service name",
  "  --extension EXTENSION",
  "                        Output file extension",
  "  --indent INDENT       Spaces per indentation level",
  "  --lf                  Use LF instead of CRLF line endings",
  "  --verbose, -v         Enable debug logging"]

end ServiceStubs.Command
