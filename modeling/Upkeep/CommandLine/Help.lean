import Upkeep.CommandLine.Arguments

/-!
What the program tells of itself: its version, and help on itself and on its commands. Help opens
with a sentence and the form of an invocation; rows on commands, files and options follow, each kind
with its own width for the first column.
-/

set_option autoImplicit false

namespace Upkeep.CommandLine

def programName : String := "massert"

def versionText : String := programName ++ " 0.3.0\n"

abbrev Row := String × String

/-- Rows under a heading, the second column aligned. -/
def rowsUnder (heading : String) (rows : List Row) : String :=
  let width := (rows.map fun row => row.1.length).foldl max 0
  heading ++ ":\n" ++ String.join (rows.map fun (name, text) =>
    "  " ++ name ++ String.ofList (List.replicate (width + 2 - name.length) ' ') ++ text ++ "\n")

def Command.about : Command → String
  | .run => "Evaluate assertion files, running remediation actions as needed"
  | .assert => "Alias of \x60run\x60"
  | .print => "Print the parsed machine and assertion specs as JSON"

def Command.filesAbout : Command → String
  | .run | .assert => "Assertion files, applied in the order given"
  | .print => "Assertion files to print"

namespace Topic

def about : Topic → String
  | .program => "Check files on local and SSH machines, remediating any that don't match"
  | .command c => c.about
  | .help => "Print this message or the help of the given subcommand(s)"

def usage : Topic → String
  | .program => "[OPTIONS] <COMMAND>"
  | .command c => c.toString ++ " [OPTIONS] <ASSERTIONS>..."
  | .help => helpWord ++ " [COMMAND]..."

def commandRow (c : Command) : Row := (c.toString, c.about)

def optionRows : List Row :=
  [("    --targets <FILE>", "Machine spec file to run against; the local machine when omitted"),
    ("-h, --help", "Print help")]

def versionRow : Row := ("-V, --version", "Print version")

def rows : Topic → List String
  | .program =>
    [rowsUnder "Commands" ([Command.run, .assert, .print].map commandRow ++ [(helpWord, about .help)]),
      rowsUnder "Options" (optionRows ++ [versionRow])]
  | .command c =>
    [rowsUnder "Arguments" [("<ASSERTIONS>...", c.filesAbout)], rowsUnder "Options" optionRows]
  | .help => [rowsUnder "Arguments" [("[COMMAND]...", "Print help for the subcommand(s)")]]

def text (topic : Topic) : String :=
  topic.about ++ "\n\nUsage: " ++ programName ++ " " ++ topic.usage ++ "\n\n" ++
    String.intercalate "\n" topic.rows

end Topic

end Upkeep.CommandLine
