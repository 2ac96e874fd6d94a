import ChatPrompt.Command.Arguments

/-!
# Commands

The commands and how arguments name them. Options for all commands may stand before the name of
the command or after it, where the later one counts; the settings file may also be named by a
variable of the environment.
-/

namespace ChatPrompt

/-- A command. -/
inductive Command where
  /-- Renders a template over a context. -/
  | render (template context : String) (budget : Option Tokens) (options : Option String)
    (detailed : Bool)
  /-- Says what is wrong with a template. -/
  | lint (template : String) (sources : Option (List String))
  /-- Renders a template over each context of a directory. -/
  | batch (template contexts : String) (budget : Option Tokens) (options : Option String)
  /-- Shows the schema of templates. -/
  | schema
  deriving Repr

namespace Command

/-- The names of the commands. -/
inductive Name where
  /-- Renders a template. -/
  | render
  /-- Checks a template. -/
  | lint
  /-- Renders a template over many contexts. -/
  | batch
  /-- Shows the schema. -/
  | schema
  deriving DecidableEq, Repr

/-- The words for the commands. -/
def Name.words : List (String × Name) :=
  [("render", .render), ("lint", .lint), ("batch", .batch), ("schema", .schema)]

/-- The word for a command. -/
def Name.word : Name → String
  | .render => "render"
  | .lint => "lint"
  | .batch => "batch"
  | .schema => "schema"

/-- The options of one command. -/
def Name.choices : Name → List Choice
  | .render => [.template, .context, .budget, .options, .detailed]
  | .lint => [.template, .sources]
  | .batch => [.template, .contexts, .budget, .options]
  | .schema => []

/-- The options that every command has. -/
def commonChoices : List Choice := [.verbose, .settings, .help]

/-- The options of a command, with those that every command has. -/
def Name.allChoices (name : Name) : List Choice := name.choices ++ commonChoices

/-- The options that can stand before the name of a command. -/
def outerChoices : List Choice := commonChoices ++ [.version]

/-- The variable that names the settings file. -/
def settingsVariable : String := "PROMPTLOOM_CONFIG"

/-- What help is about. -/
inductive Topic where
  /-- All commands. -/
  | everything
  /-- One command. -/
  | command (name : Name)
  /-- Help itself. -/
  | help
  deriving DecidableEq, Repr

/-- What arguments ask for. -/
inductive Request where
  /-- To run a command, with settings from a file if one is named. -/
  | run (command : Command) (settings : Option String)
  /-- To explain the arguments. -/
  | help (topic : Topic)
  /-- To name the version. -/
  | version
  /-- Nothing that is understood. -/
  | misuse
  deriving Repr

/-- The names that a text separates by commas. -/
def separated (text : String) : List String := text.splitOn ","

/-- The sources given, if any. -/
def sourcesOf (given : Given) : Option (List String) :=
  match given.values .sources with
  | [] => none
  | lists => some (lists.flatMap separated)

/-- The budget given, if any. -/
def budgetOf (given : Given) : Option Tokens := (given.value? .budget).bind tokensOfText?

/-- The command of a name with the options given, if none is missing. -/
def ofGiven? (given : Given) : Name → Option Command
  | .render => do
    let template ← given.value? .template
    let context ← given.value? .context
    some (.render template context (budgetOf given) (given.value? .options)
      (given.has .detailed))
  | .lint => do
    let template ← given.value? .template
    some (.lint template (sourcesOf given))
  | .batch => do
    let template ← given.value? .template
    let contexts ← given.value? .contexts
    some (.batch template contexts (budgetOf given) (given.value? .options))
  | .schema => some .schema

/-- What the arguments after the word for help ask for: help about everything, or about the
command that they name. A command has none below it, so a second word is misused. -/
def helpRequest : List String → Request
  | [] => .help .everything
  | [word] =>
    if word = "help" then .help .help
    else match Name.words.lookup word with
      | some name => .help (.command name)
      | none => .misuse
  | _ => .misuse

/-- Whether the settings file is named in a way that can be used. A blank variable cannot, but
where options stand both before and after the name of the command it is not looked at. -/
def variableFits (outer inner named : Option String) : Bool :=
  named != some "" || (outer.isSome && inner.isSome)

/-- The command of a name with the options given after it, and the settings file, given the
options before it and the variable that names that file. -/
def ofOptions? (outer inner : Given) (named : Option String) (name : Name) :
    Option (Command × Option String) := do
  let command ← ofGiven? inner name
  let outerFile := outer.value? .settings
  let innerFile := inner.value? .settings
  if variableFits outerFile innerFile named then
    some (command, (innerFile.or outerFile).or named)
  else none

/-- What is asked for of a command, by the arguments after its name, with the options before it
and the variable for the settings file. What stands last before the name is not looked at where
help is asked for after it. -/
def commandRequest (outer : Progress) (named : Option String) (name : Name)
    (arguments : List String) : Request :=
  match scan name.allChoices ⟨[], none⟩ arguments with
  | .error .help => .help (.command name)
  | .error _ => .misuse
  | .ok (_, _ :: _) => .misuse
  | .ok (inner, []) =>
    match outer.settle, inner.settle with
    | .ok outer, .ok inner =>
      match ofOptions? outer inner named name with
      | some (command, settings) => .run command settings
      | none => .misuse
    | _, _ => .misuse

/-- What arguments ask for, given the variable for the settings file. -/
def requestOf (named : Option String) (arguments : List String) : Request :=
  match scan outerChoices ⟨[], none⟩ arguments with
  | .error .help => .help .everything
  | .error .version => .version
  | .error .misuse => .misuse
  | .ok (_, []) => .misuse
  | .ok (progress, word :: rest) =>
    if word = "help" then helpRequest rest
    else match Name.words.lookup word with
      | some name => commandRequest progress named name rest
      | none => .misuse

end Command

end ChatPrompt
