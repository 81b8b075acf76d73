import ShardedSql.CommandLine.Arguments

/-!
The pages of help.
-/

namespace ShardedSql.CommandLine

def programName : String :=
  "shardline"

def versionText : String :=
  programName ++ " 0.1.0\n"

/-- The variable of the environment that names the configuration file. -/
def configVariable : String :=
  "SHARDLINE_CONFIG"

/-- The variable of the environment that asks for a capacity of the cache. -/
def capacityVariable : String :=
  "SHARDLINE_PARSER_CACHE_SIZE"

def defaultConfig : String :=
  "shards.toml"

/-- Lines of text, each with its end. -/
def linesText (lines : List String) : String :=
  String.join (lines.map (· ++ "\n"))

namespace Page

def about : Page → String
  | .program => "Explain how shardline routes and rewrites SQL statements"
  | .explain => "Show the shards a statement visits and the rewritten statements"
  | .check => "Validate the configuration and list its routes"
  | .help => "Print this message or the help of the given subcommand(s)"

def usage : Page → String
  | .program => "Usage: " ++ programName ++ " [OPTIONS] <COMMAND>"
  | .explain => "Usage: " ++ programName ++ " explain [OPTIONS] --sql <SQL>"
  | .check => "Usage: " ++ programName ++ " check"
  | .help => "Usage: " ++ programName ++ " help [COMMAND]..."

def details : Page → List String
  | .program =>
      ["Commands:",
        "  explain  " ++ about .explain,
        "  check    " ++ about .check,
        "  help     " ++ about .help,
        "",
        "Options:",
        "  -c, --config <CONFIG>  Routing configuration file (TOML) [env: " ++ configVariable
          ++ "=] [default: " ++ defaultConfig ++ "]",
        "  -v, --verbose          Enable verbose output",
        "  -h, --help             Print help",
        "  -V, --version          Print version"]
  | .explain =>
      ["Options:",
        "  -s, --sql <SQL>       The SQL statement, head comment included",
        "  -p, --param <PARAMS>  Positional parameter, in `?` order. `[a, b]` binds a list",
        "  -n, --named <NAMED>   Named parameter as `name=value`",
        "      --json            Print the result as JSON",
        "  -h, --help            Print help"]
  | .check =>
      ["Options:",
        "  -h, --help  Print help"]
  | .help =>
      ["Arguments:",
        "  [COMMAND]...  Print help for the subcommand(s)"]

def text (page : Page) : String :=
  linesText ([page.about, "", page.usage, ""] ++ page.details)

/-- What is said to a command line that cannot be understood. -/
def misuseText (page : Page) : String :=
  linesText ["error: unexpected or missing argument", "", page.usage, "",
    "For more information, try '--help'."]

end Page

end ShardedSql.CommandLine
