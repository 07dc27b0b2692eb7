/-!
# The texts of the command line

How each level of the command line is used, and its help.  Lines are at most 78 characters long.
-/
namespace SiteAudit.Command

/-- The levels of the command line: the program, and its two commands. -/
inductive Level where
  | program
  | check
  | serve
  deriving DecidableEq, Repr

namespace Level

/-- The name that messages of a level begin with. -/
def title : Level → String
  | program => "webcheck"
  | check => "webcheck check"
  | serve => "webcheck serve"

def usage : Level → String
  | program => "usage: webcheck [-h] [-v | -q] [--log-file FILE] \x7bcheck,serve\x7d ...\n"
  | check =>
    "usage: webcheck check [-h] [-v | -q] [--log-file FILE] [--config CONFIG]\n" ++
    "                      [--format \x7btext,json\x7d] [--fail-on \x7berror,warning,never\x7d]\n" ++
    "                      [path]\n"
  | serve =>
    "usage: webcheck serve [-h] [-v | -q] [--log-file FILE] [--host HOST]\n" ++
    "                      [--port PORT]\n"

/-- What the help of a level says behind its usage. -/
def description : Level → String
  | program =>
    "\nCheck web source files for unbalanced structure and undefined selectors.\n" ++
    "\npositional arguments:\n" ++
    "  \x7bcheck,serve\x7d\n" ++
    "    check          Analyze a directory or a single file.\n" ++
    "    serve          Run the HTTP analysis service.\n" ++
    "\noptions:\n" ++
    "  -h, --help       show this help message and exit\n" ++
    "  -v, --verbose    Increase log verbosity for troubleshooting.\n" ++
    "  -q, --quiet      Only log warnings and errors.\n" ++
    "  --log-file FILE  Also write debug-level logs to FILE.\n"
  | check =>
    "\npositional arguments:\n" ++
    "  path                  Directory or file to analyze (defaults to current\n" ++
    "                        directory).\n" ++
    "\noptions:\n" ++
    "  -h, --help            show this help message and exit\n" ++
    "  -v, --verbose         Increase log verbosity for troubleshooting.\n" ++
    "  -q, --quiet           Only log warnings and errors.\n" ++
    "  --log-file FILE       Also write debug-level logs to FILE.\n" ++
    "  --config CONFIG       Path to a .webcheck.yml file (defaults to the one\n" ++
    "                        beside PATH).\n" ++
    "  --format \x7btext,json\x7d  Output format for the report.\n" ++
    "  --fail-on \x7berror,warning,never\x7d\n" ++
    "                        Lowest severity that makes the command exit with\n" ++
    "                        status 1.\n"
  | serve =>
    "\noptions:\n" ++
    "  -h, --help       show this help message and exit\n" ++
    "  -v, --verbose    Increase log verbosity for troubleshooting.\n" ++
    "  -q, --quiet      Only log warnings and errors.\n" ++
    "  --log-file FILE  Also write debug-level logs to FILE.\n" ++
    "  --host HOST      Interface to bind.\n" ++
    "  --port PORT      Port to listen on.\n"

def help (l : Level) : String := l.usage ++ l.description

end Level

end SiteAudit.Command
