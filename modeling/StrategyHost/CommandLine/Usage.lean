/-!
# Usage of the program

What the program says about its command line when it is asked for help or does not
understand it.
-/

namespace StrategyHost.CommandLine

/-- The form of a command line. -/
def usage : String := "Usage: qt-runner [OPTIONS] <CONFIG> <COMMAND>"

/-- The answer to a request for help. -/
def helpText : String :=
  "Strategy runner and manual order tool\n\n" ++ usage ++ "\n\n" ++
  "Commands:\n" ++
  "  watch       Subscribe to tickers and log every tick and order response\n" ++
  "  send-order  Publish one order command\n" ++
  "  help        Print this message\n\n" ++
  "Arguments:\n" ++
  "  <CONFIG>  Configuration file path (JSON)\n\n" ++
  "Options:\n" ++
  "  -l, --log-level <LOG_LEVEL>  Log level (trace, debug, info, warn, error) [default: info]\n" ++
  "      --log-dir <LOG_DIR>      Log directory for file output\n" ++
  "  -h, --help                   Print help\n"

end StrategyHost.CommandLine
