/-
Module: WorkflowEngine.Cli.Help
Layer: Cli
Purpose: The texts that describe the program and its commands.
Imports: WorkflowEngine.Cli.Arguments
Trusted boundary: none
Main exports: helpText, versionText
-/
import WorkflowEngine.Cli.Arguments

/-!
# Help

The options of a command stand in two columns, unless that makes the second column too narrow for some text:
then each text is on a line of its own.
-/

namespace WorkflowEngine.Cli

/-- The name of the program. -/
def programName : String := "agent-workflows"

/-- What is printed when the version is asked for. -/
def versionText : String := programName ++ " 0.1.0\n"

namespace Subcommand

/-- What a command does. -/
def about : Subcommand → String
  | .serve => "Start the HTTP trigger API"
  | .migrate => "Run pending database migrations"
  | .importFile => "Validate a workflow definition JSON file and store it"
  | .run => "Run a pending execution and print its summary"
  | .validate => "Validate a workflow definition JSON file"
  | .simulate => "Run a workflow definition JSON file in memory and print the step log"

/-- The name of a command. -/
def name (c : Subcommand) : String := ((all.find? (·.2 = c)).map (·.1)).getD ""

/-- The plain argument of a command and what it is. -/
def plain? (c : Subcommand) : Option (String × String) :=
  if c.takesPath then some ("<PATH>", "Path to the workflow JSON file")
  else if c.takesPlain then some ("<EXECUTION_ID>", "")
  else none

end Subcommand

namespace OptionSpec

/-- What an option is for; some names say it all. -/
def purpose (o : OptionSpec) : Option String :=
  match o.name with
  | "max-steps" => some "Maximum number of nodes one run may visit"
  | "webhook-timeout-secs" => some "Ceiling on a whole webhook call, in seconds"
  | "trigger" => some "Trigger payload as JSON"
  | _ => none

/-- How an option is written. -/
def form (o : OptionSpec) : String :=
  let value := o.name.toList.map fun c => if c = '-' then '_' else c.toUpper
  "--" ++ o.name ++ " <" ++ String.ofList value ++ ">"

/-- The description of an option. -/
def description (setting : String → Option String) (o : OptionSpec) : String :=
  " ".intercalate (o.purpose.toList
    ++ (o.source.toList.map fun v => "[env: " ++ v ++ "=" ++ (setting v).getD "" ++ "]")
    ++ (o.default?.toList.map fun d => "[default: " ++ d ++ "]"))

end OptionSpec

/-- The width of a line. -/
def lineWidth : Nat := 100

/-- A text with blanks after it up to a width. -/
def padRight (width : Nat) (s : String) : String := s.pushn ' ' (width - s.length)

/-- Rows of two columns.  The texts move to lines of their own if one of them has too little room. -/
def columns (rows : List (String × String)) : String :=
  let widest := (rows.map (·.1.length)).foldl max 0
  let narrow := 40 * lineWidth < 100 * (widest + 6)
    && rows.any fun r => lineWidth - (widest + 6) < r.2.length
  String.join (rows.map fun r =>
    if narrow then "  " ++ r.1 ++ "\n          " ++ r.2 ++ "\n"
    else "  " ++ padRight (widest + 2) r.1 ++ r.2 ++ "\n")

/-- The description of a command. -/
def commandHelp (setting : String → Option String) (c : Subcommand) : String :=
  let options := c.options
  let required := options.filter (·.default?.isNone)
  let usage := [programName, c.name] ++ (if options.isEmpty then [] else ["[OPTIONS]"])
    ++ required.map (·.form) ++ c.plain?.toList.map (·.1)
  let arguments := match c.plain? with
    | some row => "Arguments:\n" ++ columns [row] ++ "\n"
    | none => ""
  let rows := (options.map fun o => ("    " ++ o.form, o.description setting))
    ++ [("-h, --help", "Print help")]
  c.about ++ "\n\nUsage: " ++ " ".intercalate usage ++ "\n\n" ++ arguments ++ "Options:\n" ++ columns rows

/-- The description of the program. -/
def programHelp : String :=
  let commands := (Subcommand.all.map fun (name, c) => (name, c.about))
    ++ [("help", "Print this message or the help of the given subcommand(s)")]
  "Workflow execution engine for collaborating AI agents\n\n"
    ++ "Usage: " ++ programName ++ " <COMMAND>\n\nCommands:\n" ++ columns commands ++ "\nOptions:\n"
    ++ columns [("-h, --help", "Print help"), ("-V, --version", "Print version")]

/-- The text that is printed when help is asked for. -/
def helpText (setting : String → Option String) : Option Subcommand → String
  | some c => commandHelp setting c
  | none => programHelp

end WorkflowEngine.Cli
