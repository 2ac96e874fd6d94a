import ChatPrompt.Command.Basic
import ChatPrompt.Text.Control

/-!
# Help

The text that explains the arguments: what a command does, how it is called, and its options in
two columns. The options of a command itself are listed first, then those of all commands, and
help and the version last.

The text is made for a terminal, with headings and names in bold, and shown without its control
sequences; so nothing is shown of those that a variable brings into it.
-/

namespace ChatPrompt.Command

/-- The name under which the program is called. -/
def programName : String := "promptloom"

/-- The version of the program. -/
def programVersion : String := "0.1.0"

/-- The line that names the version. -/
def versionText : String := programName ++ " " ++ programVersion ++ "\n"

/-- What a command does. -/
def Name.about : Name → String
  | .render => "Render a template to chat messages"
  | .lint => "Validate and compile a template"
  | .batch => "Render every context file in a directory"
  | .schema => "Print the template JSON Schema"

/-- What help does. -/
def helpAbout : String := "Print this message or the help of the given subcommand(s)"

/-- What the program does. -/
def programAbout : String := "promptloom: budget-aware chat prompt templates"

/-- What an option does, as one of a command. -/
def Choice.about (name : Option Name) (named : Option String) : Choice → String
  | .verbose => "Enable verbose logging"
  | .settings =>
    "Config file (defaults to ~/.promptloom/config.toml) [env: " ++ settingsVariable ++ "=" ++
      named.getD "" ++ "]"
  | .help => "Print help"
  | .version => "Print version"
  | .template => ""
  | .context => "JSON context file"
  | .budget => if name = some .render then "Token budget (overrides max_tokens)" else ""
  | .options =>
    if name = some .render then "JSON render options (attachment lanes and injections)" else ""
  | .detailed => "Print anchors and the render report alongside the messages"
  | .sources => "Allowed data source names (overrides allowed_sources)"
  | .contexts => "Directory of JSON context files"

/-- A text in bold. -/
def bold (text : String) : String := "\x1b[1m" ++ text ++ "\x1b[0m"

/-- A text in bold and underlined. -/
def heading (text : String) : String := "\x1b[1m\x1b[4m" ++ text ++ "\x1b[0m"

/-- The long name of an option, with its dashes. -/
def Choice.longName (choice : Choice) : String := "--" ++ choice.name

/-- A mark for the value of an option. -/
def Choice.valueMark (choice : Choice) : String :=
  if choice.takesValue then " <" ++ choice.name.toUpper ++ ">" else ""

/-- The options that a topic lists. -/
def Topic.listed : Topic → List Choice
  | .everything => outerChoices
  | .command name => name.allChoices
  | .help => []

/-- So many spaces. -/
def spaces (count : Nat) : String := String.ofList (List.replicate count ' ')

/-- A text whose further lines start below its first, which starts in some column. -/
def hanging (column : Nat) (text : String) : String :=
  ("\n" ++ spaces column).intercalate (text.splitOn "\n")

/-- The line of an option, with its forms in a column of some width. -/
def optionLine (width : Nat) (about : Choice → String) (choice : Choice) : String :=
  let letter := match choice.letter? with
    | some c => "  " ++ bold ("-" ++ c.toString) ++ ", "
    | none => "      "
  let length := (choice.longName ++ choice.valueMark).length
  letter ++ bold choice.longName ++ choice.valueMark ++ spaces (width - length) ++ "  " ++
    hanging (width + 8) (about choice) ++ "\n"

/-- The lines of some options. -/
def optionLines (about : Choice → String) (choices : List Choice) : String :=
  let lengths := choices.map fun choice => (choice.longName ++ choice.valueMark).length
  heading "Options:" ++ "\n" ++
    String.join (choices.map (optionLine (lengths.foldl max 0) about))

/-- The options that a command cannot do without, as they stand in its usage. -/
def Name.required : Name → String
  | .render => " --template <TEMPLATE> --context <CONTEXT>"
  | .lint => " --template <TEMPLATE>"
  | .batch => " --template <TEMPLATE> --contexts <CONTEXTS>"
  | .schema => ""

/-- The line of a command, whose name stands in a column as wide as the longest. -/
def commandLine (word about : String) : String :=
  "  " ++ bold word ++ spaces (6 - word.length) ++ "  " ++ about ++ "\n"

/-- The lines of the commands. -/
def commandLines : String :=
  heading "Commands:" ++ "\n" ++
    String.join (Name.words.map fun entry => commandLine entry.1 entry.2.about) ++
    commandLine "help" helpAbout

/-- What stands before the options: what a topic is about and how it is called. -/
def usage (about call : String) : String :=
  about ++ "\n\n" ++ heading "Usage:" ++ " " ++ bold programName ++ call ++ "\n\n"

/-- The text that explains a topic, as it is made for a terminal. -/
def Topic.terminalText (named : Option String) : Topic → String
  | .everything =>
    usage programAbout " [OPTIONS] <COMMAND>" ++ commandLines ++ "\n" ++
      optionLines (Choice.about none named) Topic.everything.listed
  | .command name =>
    usage name.about (" " ++ name.word ++ " [OPTIONS]" ++ name.required) ++
      optionLines (Choice.about (some name) named) (Topic.command name).listed
  | .help =>
    usage helpAbout " help [COMMAND]..." ++ heading "Arguments:" ++ "\n" ++
      "  [COMMAND]...  Print help for the subcommand(s)\n"

/-- The text that explains a topic, given the variable for the settings file. -/
def Topic.text (named : Option String) (topic : Topic) : String :=
  Text.withoutControls (topic.terminalText named)

end ChatPrompt.Command
