import ChatPrompt.Command.Failure
import ChatPrompt.Command.Files
import ChatPrompt.Command.Help
import ChatPrompt.Command.Template
import ChatPrompt.Render.Checked
import ChatPrompt.Render.Record

/-!
# Running commands

What each command shows, and whether it succeeds. Commands find out about files through a
structure of questions, so they run wherever these have answers. A command that fails may
have shown something before; only the check of a template and the rendering of many contexts
do so. Renders check their sums, and one that leaves the range of amounts ends the program.
-/

namespace ChatPrompt

namespace Settings

/-- The sources of a context that the settings let a render see. -/
def registry (settings : Settings) (context : Json) : Registry :=
  match context, settings.allowedSources with
  | .object fields, some names =>
    Registry.ofContext (.object (fields.filter fun field => names.contains field.1))
  | context, _ => Registry.ofContext context

/-- What a render under the settings reads. -/
def environment (settings : Settings) (context : Json) : Render.Environment :=
  ⟨settings.registry context, context, settings.estimator⟩

end Settings

namespace Command

/-- What a command did. -/
structure Outcome where
  /-- What it showed. -/
  output : String
  /-- Why it failed, if it did. -/
  failure : Option Failure

namespace Outcome

/-- A command that succeeded. -/
def success (output : String) : Outcome := ⟨output, none⟩

/-- A command that showed something or else failed without showing anything. -/
def ofResult : Except Failure String → Outcome
  | .ok output => success output
  | .error failure => ⟨"", some failure⟩

/-- The number with which the program ends. -/
def code (outcome : Outcome) : Nat :=
  match outcome.failure with
  | none => 0
  | some .overflow => 101
  | some _ => 1

end Outcome

/-- The number with which the program ends where its arguments are misused. -/
def misuseCode : Nat := 2

/-- A value as it is shown. -/
def shown (value : Json) : String := value.indented ++ "\n"

/-- A prompt as it is shown, with its places and its report if they are asked for. -/
def shownPrompt (detailed : Bool) (prompt : Render.Prompt) : String :=
  if detailed then prompt.indented ++ "\n" else shown prompt.messagesJson

/-- Shows the schema of templates, with the fields of each object in order. -/
def schemaOutcome : Outcome := .success (shown Template.schemaDocument.ordered)

/-- The options of a document. -/
def optionsOf (document : Json) : Except Failure RenderOptions :=
  match OptionsDocument.ofJson? document with
  | none => .error .options
  | some options => (RenderOptions.ofDocument options).mapError .lanes

/-- The failure of a render. -/
def Failure.ofStop : Render.Stop → Failure
  | .overflow => .overflow
  | .fault fault => .render fault

/-- A prompt under settings. -/
def promptOf (settings : Settings) (blueprint : Blueprint) (options : RenderOptions)
    (budget : Option Tokens) (context : Json) : Except Failure Render.Prompt :=
  (Render.renderChecked (settings.environment context) blueprint options
    (budget.getD settings.maxTokens)).mapError .ofStop

/-- What is shown of the prompt for one of many contexts. -/
def contextResult (path : String) : Except Failure Render.Prompt → Json
  | .ok prompt =>
    .object [("context", .string path), ("messages", prompt.messagesJson.ordered)]
  | .error failure => .object [("context", .string path), ("error", .string failure.message)]

/-- Whether a render was ended by a sum that leaves the range of amounts. -/
def isLost : Except Failure Render.Prompt → Bool
  | .error .overflow => true
  | _ => false

/-- What the rendering of many contexts did. -/
def contextsOutcome (results : List (String × Except Failure Render.Prompt)) : Outcome :=
  let failed := (results.filter fun result => !result.2.isOk).length
  ⟨shown (.array (results.map fun result => contextResult result.1 result.2)),
    if failed = 0 then none else some (.contexts failed)⟩

variable {m : Type → Type} [Monad m]

/-- What a result says, with its fault as the reason of a failure. -/
def orFail {ε α : Type} (reason : ε → Failure) (result : Except ε α) : ExceptT Failure m α :=
  ExceptT.mk (pure (result.mapError reason))

/-- The document in a file. -/
def readDocument (files : Files m) (path : String) : ExceptT Failure m Json := do
  match ← files.text? path with
  | none => throw (.unreadable path)
  | some text =>
    match Json.read? text with
    | none => throw (.malformed path)
    | some document => return document

/-- The text of a settings file, if there is one. -/
def readSettings (files : Files m) (path : String) : ExceptT Failure m (Option String) := do
  if ← files.has path then
    match ← files.text? path with
    | none => throw (.settings .unreadable)
    | some text => return some text
  else return none

/-- The settings file that is looked for in the home directory. -/
def homeSettings (environment : String → Option String) : String :=
  Settings.joinPath ((environment "HOME").getD "/tmp") ".promptloom/config.toml"

/-- The settings of a file that is named, or else those of the home directory, which variables
of the environment can override. -/
def loadSettings (files : Files m) (environment : String → Option String) :
    Option String → ExceptT Failure m Settings
  | some path => do
    let text ← readSettings files path
    orFail .settings (Settings.ofFile text)
  | none => do
    let text ← readSettings files (homeSettings environment)
    orFail .settings (Settings.load text environment)

/-- The path of a template under settings. -/
def templatePath (files : Files m) (settings : Settings) (path : String) : m String := do
  let known ← files.has path
  return settings.templatePath (fun _ => known) path

/-- The blueprint of the template in a file. -/
def readTemplate (files : Files m) (settings : Settings) (path : String) :
    ExceptT Failure m Blueprint := do
  let path ← (templatePath files settings path : m String)
  let document ← readDocument files path
  orFail .template (settings.compile document)

/-- The options of a file, or none. -/
def readOptions (files : Files m) : Option String → ExceptT Failure m RenderOptions
  | none => return RenderOptions.none
  | some path => do
    let document ← readDocument files path
    orFail id (optionsOf document)

/-- Shows the messages of a prompt, or all of it. -/
def runRender (files : Files m) (settings : Settings) (template context : String)
    (budget : Option Tokens) (options : Option String) (detailed : Bool) :
    ExceptT Failure m String := do
  let blueprint ← readTemplate files settings template
  let context ← readDocument files context
  let options ← readOptions files options
  let prompt ← orFail id (promptOf settings blueprint options budget context)
  return shownPrompt detailed prompt

/-- Shows what is wrong with a template. -/
def runLint (files : Files m) (settings : Settings) (template : String)
    (sources : Option (List String)) : m Outcome := do
  let path ← templatePath files settings template
  match ← (readDocument files path).run with
  | .error failure => return ⟨checkTitle path, some failure⟩
  | .ok document =>
    let result := settings.check sources document
    let failure := match result with
      | .ok _ => none
      | .error fault => some (Failure.template fault)
    return ⟨checkTitle path ++ checkLines result, failure⟩

/-- The prompt for the context in a file. -/
def readPrompt (files : Files m) (settings : Settings) (blueprint : Blueprint)
    (options : RenderOptions) (budget : Option Tokens) (path : String) :
    ExceptT Failure m Render.Prompt := do
  let context ← readDocument files path
  orFail id (promptOf settings blueprint options budget context)

/-- The prompts for the contexts in some files of a directory, each with its path. -/
def readPrompts (files : Files m) (settings : Settings) (blueprint : Blueprint)
    (options : RenderOptions) (budget : Option Tokens) (directory : String)
    (names : List String) : m (List (String × Except Failure Render.Prompt)) :=
  names.mapM fun name => do
    let path := Settings.joinPath directory name
    let result ← (readPrompt files settings blueprint options budget path).run
    return (path, result)

/-- Shows the messages for every context of a directory. -/
def runBatch (files : Files m) (settings : Settings) (template contexts : String)
    (budget : Option Tokens) (options : Option String) : ExceptT Failure m Outcome := do
  let blueprint ← readTemplate files settings template
  let options ← readOptions files options
  match ← files.names? contexts with
  | none => throw (.unreadable contexts)
  | some names =>
    let results ← (readPrompts files settings blueprint options budget contexts
      (Files.documentNames names) : m (List (String × Except Failure Render.Prompt)))
    if results.any fun result => isLost result.2 then throw .lostTask
    return contextsOutcome results

/-- Runs a command under settings. -/
def runUnder (files : Files m) (settings : Settings) : Command → m Outcome
  | .render template context budget options detailed => do
    let result ← (runRender files settings template context budget options detailed).run
    return .ofResult result
  | .lint template sources => runLint files settings template sources
  | .batch template contexts budget options => do
    match ← (runBatch files settings template contexts budget options).run with
    | .ok outcome => return outcome
    | .error failure => return ⟨"", some failure⟩
  | .schema => return schemaOutcome

/-- Runs a command, with settings from a file if one is named. The schema needs none. -/
def run (files : Files m) (environment : String → Option String) (command : Command)
    (settings : Option String) : m Outcome :=
  match command with
  | .schema => return schemaOutcome
  | command => do
    match ← (loadSettings files environment settings).run with
    | .error failure => return ⟨"", some failure⟩
    | .ok settings => runUnder files settings command

/-- What the program shows and how it ends: a number, and why it failed where it did. -/
structure Ending where
  /-- What was shown. -/
  output : String
  /-- Zero where all went well, two where the arguments are misused, a hundred and one where a sum
  left the range of amounts, and one for any other failure. -/
  code : Nat
  /-- Why it failed, in words. -/
  reason : Option String

/-- What the program does with its arguments. -/
def runArguments (files : Files m) (environment : String → Option String)
    (arguments : List String) : m Ending :=
  let named := environment settingsVariable
  match requestOf named arguments with
  | .run command settings => do
    let outcome ← run files environment command settings
    return ⟨outcome.output, outcome.code, outcome.failure.map Failure.message⟩
  | .help topic => return ⟨topic.text named, 0, none⟩
  | .version => return ⟨versionText, 0, none⟩
  | .misuse => return ⟨"", misuseCode, some "the arguments are not understood"⟩

end Command

end ChatPrompt
