import PackageRepos.Document.Parser
import PackageRepos.OrderedMap

/-!
# Packaged settings

The files that come with the library: where repositories are looked for, and how logging is set up.
One of them is no document.
-/

namespace PackageRepos
namespace Settings

/-! ## Files -/

/-- The text with the given lines. -/
def textOfLines (lines : List String) : Text := lines.flatMap fun line => Text.of line ++ ['\n']

/-- The packaged file of the logging settings. -/
def loggingText : Text :=
  textOfLines
    ["version: 1",
      "disable_existing_loggers: false",
      "",
      "formatters:",
      "  simple:",
      "    format: \"%(asctime)s - %(name)s - %(levelname)s - %(message)s\"",
      "",
      "handlers:",
      "  console:",
      "    class: logging.StreamHandler",
      "    formatter: simple",
      "    level: INFO",
      "  file:",
      "    class: logging.handlers.RotatingFileHandler",
      "    formatter: simple",
      "    level: DEBUG",
      "    # filename is replaced at runtime with $REPOCONF_LOG_DIR/repoconf.log",
      "    filename: logs/repoconf.log",
      "    maxBytes: 1048576",
      "    backupCount: 3",
      "    encoding: utf-8",
      "",
      "loggers:",
      "  repoconf:",
      "    level: DEBUG",
      "    handlers: [console, file]",
      "    propagate: false",
      "",
      "root:",
      "  level: WARNING",
      "  handlers: [console]"]

/-- The packaged file of the repository settings. -/
def repositoryText : Text :=
  textOfLines
    ["# Directories scanned by RepoConfs.load_configured_dirs(), in order.",
      "reposdir:",
      "  - /etc/yum.repos.d",
      "  - /etc/distro.repos.d",
      "",
      "# Only directory entries ending with this suffix are loaded.",
      "repo_file_suffix: \".repo\""]

/-- The packaged file that holds the code of the package itself. -/
def packageText : Text :=
  textOfLines
    ["\"\"\"Application configuration (YAML) and helpers.",
      "",
      "`ConfigManager` reads the default files from this folder and merges them",
      "with user overrides.",
      "\"\"\"",
      "",
      "from .manager import ConfigManager",
      "",
      "__all__ = [",
      "    \"ConfigManager\",",
      "]"]

/-- The packaged files by name. -/
def packagedFiles : List (String × Text) :=
  [("logging.yml", loggingText), ("repoconf.yml", repositoryText), ("__init__.py", packageText)]

/-- The text of a packaged file, if there is such a file. -/
def packagedText? (filename : Text) : Option Text :=
  packagedFiles.findSome? fun (name, text) => if filename = Text.of name then some text else none

/-! ## Documents -/

/-- A text as a value. -/
def word (literal : String) : Value := .text (Text.of literal)

/-- Entries with literal keys. -/
def entriesOf (entries : List (String × Value)) : OrderedMap Text Value :=
  .ofList (entries.map fun (key, value) => (Text.of key, value))

/-- A mapping with literal keys. -/
def mappingOf (entries : List (String × Value)) : Value := .mapping (entriesOf entries).toList

/-- The layout of a line in a log. -/
def lineLayout : String := "%(asctime)s - %(name)s - %(levelname)s - %(message)s"

/-- What the packaged logging settings hold. -/
def loggingEntries : List (String × Value) :=
  [("version", .int 1),
    ("disable_existing_loggers", .bool false),
    ("formatters", mappingOf [("simple", mappingOf [("format", word lineLayout)])]),
    ("handlers", mappingOf
      [("console", mappingOf
        [("class", word "logging.StreamHandler"), ("formatter", word "simple"),
          ("level", word "INFO")]),
        ("file", mappingOf
          [("class", word "logging.handlers.RotatingFileHandler"), ("formatter", word "simple"),
            ("level", word "DEBUG"), ("filename", word "logs/repoconf.log"),
            ("maxBytes", .int 1048576), ("backupCount", .int 3), ("encoding", word "utf-8")])]),
    ("loggers", mappingOf
      [("repoconf", mappingOf
        [("level", word "DEBUG"), ("handlers", .list [word "console", word "file"]),
          ("propagate", .bool false)])]),
    ("root", mappingOf [("level", word "WARNING"), ("handlers", .list [word "console"])])]

/-- What the packaged repository settings hold. -/
def repositoryEntries : List (String × Value) :=
  [("reposdir", .list [word "/etc/yum.repos.d", word "/etc/distro.repos.d"]),
    ("repo_file_suffix", word ".repo")]

/-- The packaged files that hold documents, with these documents. -/
def packagedDocuments : List (Text × Value) :=
  [(loggingText, mappingOf loggingEntries), (repositoryText, mappingOf repositoryEntries)]

end Settings

/-- The parser reads the packaged files as what they hold. -/
structure Document.Parser.ReadsPackaged (parser : Document.Parser) : Prop where
  logging : parser.read Settings.loggingText = .ok (Settings.mappingOf Settings.loggingEntries)
  repositories :
    parser.read Settings.repositoryText = .ok (Settings.mappingOf Settings.repositoryEntries)

end PackageRepos
