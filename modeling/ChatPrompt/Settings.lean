import ChatPrompt.Estimator
import ChatPrompt.Number.Reading
import ChatPrompt.Text.Blank
import ChatPrompt.Toml.Printer
import ChatPrompt.Toml.Reader

/-!
# Settings

What is set for all renders: the budget, the estimator's ratio, the sources that templates may
name, and where templates are looked for. They are read from a file, in which each has a value
to take where it is missing, and some can be overridden by variables of the environment.
Settings are checked after they are read and again after they are overridden.
-/

namespace ChatPrompt

open Number

/-- What is set for all renders. -/
structure Settings where
  /-- What a render may spend where it is not told. -/
  maxTokens : Tokens
  /-- The characters for a token. -/
  charsPerToken : Extended
  /-- The sources that templates may name; any if not given. -/
  allowedSources : Option (List String)
  /-- Whether a template that names another source is refused. -/
  strictSources : Bool
  /-- The directory in which templates are looked for. -/
  templateDirectory : Option String
  deriving DecidableEq, Repr

/-- What is wrong with settings. -/
inductive SettingsProblem where
  /-- The variable for the budget is no number. -/
  | tokensVariable (raw : String)
  /-- The variable for the ratio is no number. -/
  | ratioVariable (raw : String)
  /-- The ratio is not positive and finite. -/
  | ratio
  /-- A source has a blank name. -/
  | blankSource (name : String)
  /-- Templates are held to a list that is not there. -/
  | strictWithoutSources
  deriving DecidableEq, Repr

/-- Why there are no settings. -/
inductive SettingsFault where
  /-- The file cannot be read. -/
  | unreadable
  /-- The file does not hold settings. -/
  | malformed
  /-- The settings are wrong. -/
  | invalid (problem : SettingsProblem)
  deriving DecidableEq, Repr

namespace SettingsProblem

/-- What is wrong, in words. -/
def reason : SettingsProblem → String
  | .tokensVariable raw =>
    "PROMPTLOOM_MAX_TOKENS must be a non-negative integer, got '" ++ raw ++ "'"
  | .ratioVariable raw => "PROMPTLOOM_CHARS_PER_TOKEN must be a number, got '" ++ raw ++ "'"
  | .ratio => "chars_per_token must be a positive number"
  | .blankSource name => "allowed_sources contains a blank name: '" ++ name ++ "'"
  | .strictWithoutSources => "strict_sources requires allowed_sources"

/-- The wording of a problem. -/
def message (problem : SettingsProblem) : String :=
  "Configuration validation failed: " ++ problem.reason

/-- The wording of a problem as one among other failures. -/
def fullMessage (problem : SettingsProblem) : String :=
  "Configuration error: " ++ problem.message

end SettingsProblem

namespace Settings

/-- The settings where nothing is set. -/
def standard : Settings := ⟨4096, .finite Estimator.defaultRatio, none, false, none⟩

/-- Whether a ratio is positive and finite. -/
def isRatio : Extended → Bool
  | .finite x => !x.negative && 0 < x.units
  | _ => false

/-- What is wrong with the list of sources and its use. -/
def sourcesProblem? (settings : Settings) : Option SettingsProblem :=
  match settings.allowedSources with
  | none => if settings.strictSources then some .strictWithoutSources else none
  | some names => (names.find? Text.isBlankText).map .blankSource

/-- The first thing that is wrong with settings. -/
def problem? (settings : Settings) : Option SettingsProblem :=
  if isRatio settings.charsPerToken then settings.sourcesProblem? else some .ratio

/-- The settings, if nothing is wrong with them. -/
def checked (settings : Settings) : Except SettingsFault Settings :=
  match settings.problem? with
  | some problem => .error (.invalid problem)
  | none => .ok settings

/-- The value of a setting, or the one to take where it is missing. -/
def setting? {α : Type} (entries : List (String × Toml)) (name : String)
    (read : Toml → Option α) (missing : α) : Option α :=
  match entries.lookup name with
  | none => some missing
  | some value => read value

/-- An amount of tokens. -/
def tokens? : Toml → Option Tokens
  | .whole n => if 0 ≤ n then some (UInt64.ofNat n.toNat) else none
  | _ => none

/-- A ratio, which may be written as a whole number. -/
def ratio? : Toml → Option Extended
  | .whole n => some (.finite (Double.ofInt n))
  | .floating x => some x
  | _ => none

/-- A truth value. -/
def flag? : Toml → Option Bool
  | .flag b => some b
  | _ => none

/-- A text. -/
def text? : Toml → Option String
  | .text s => some s
  | _ => none

/-- A list of texts. -/
def texts? : Toml → Option (List String)
  | .array items => items.mapM text?
  | _ => none

/-- The settings of a file with some entries. Entries of other names are ignored. -/
def ofEntries? (entries : List (String × Toml)) : Option Settings := do
  let maxTokens ← setting? entries "max_tokens" tokens? standard.maxTokens
  let charsPerToken ← setting? entries "chars_per_token" ratio? standard.charsPerToken
  let allowedSources ←
    setting? entries "allowed_sources" (fun value => (texts? value).map some) none
  let strictSources ← setting? entries "strict_sources" flag? false
  let templateDirectory ←
    setting? entries "template_dir" (fun value => (text? value).map some) none
  some ⟨maxTokens, charsPerToken, allowedSources, strictSources, templateDirectory⟩

/-- The settings of a file with some text. -/
def ofText (text : String) : Except SettingsFault Settings :=
  match (Toml.read? text).bind ofEntries? with
  | none => .error .malformed
  | some settings => settings.checked

/-- The settings of a file, which may not exist. -/
def ofFile : Option String → Except SettingsFault Settings
  | none => .ok standard
  | some text => ofText text

/-- The first amount that is too large. -/
def tokensLimit : Nat := UInt64.size

/-- The budget that a variable sets. -/
def overrideTokens (raw : Option String) (settings : Settings) :
    Except SettingsFault Settings :=
  match raw with
  | none => .ok settings
  | some raw =>
    match wholeOfText? tokensLimit (Text.trim raw.toList) with
    | none => .error (.invalid (.tokensVariable raw))
    | some n => .ok { settings with maxTokens := UInt64.ofNat n }

/-- The ratio that a variable sets. -/
def overrideRatio (raw : Option String) (settings : Settings) :
    Except SettingsFault Settings :=
  match raw with
  | none => .ok settings
  | some raw =>
    match floatOfText? (Text.trim raw.toList) with
    | none => .error (.invalid (.ratioVariable raw))
    | some x => .ok { settings with charsPerToken := x }

/-- The settings of a file, overridden by variables of the environment. -/
def load (file : Option String) (environment : String → Option String) :
    Except SettingsFault Settings := do
  let settings ← ofFile file
  let settings ← overrideTokens (environment "PROMPTLOOM_MAX_TOKENS") settings
  let settings ← overrideRatio (environment "PROMPTLOOM_CHARS_PER_TOKEN") settings
  settings.checked

/-- The sources to which templates are held. -/
def enforcedSources (settings : Settings) : Option (List String) :=
  if settings.strictSources then settings.allowedSources else none

/-- The estimator that is set. -/
def estimator (settings : Settings) : Estimator :=
  Estimator.charRatio (Estimator.ratioOf settings.charsPerToken)

/-- A path inside a directory. An absolute path stays as it is. -/
def joinPath (directory path : String) : String :=
  if path.startsWith "/" then path
  else if directory.isEmpty || directory.endsWith "/" then directory ++ path
  else directory ++ "/" ++ path

/-- Where a template is looked for. A relative path that leads to no file is one inside the
directory for templates. -/
def templatePath (settings : Settings) (exists_ : String → Bool) (path : String) : String :=
  match settings.templateDirectory with
  | some directory =>
    if path.startsWith "/" || exists_ path then path else joinPath directory path
  | none => path

/-- The largest amount that a file can hold. -/
def largestWritten : Nat := 0x7fffffffffffffff

/-- The settings as the text of a file; nothing where the budget is too large for one. -/
def toText? (settings : Settings) : Option String :=
  if largestWritten < settings.maxTokens.toNat then none
  else
    some ("max_tokens = " ++ toString settings.maxTokens.toNat ++ "\n" ++
      "chars_per_token = " ++ settings.charsPerToken.write .settings ++ "\n" ++
      (match settings.allowedSources with
        | none => ""
        | some names => "allowed_sources = " ++ Toml.quotedList names ++ "\n") ++
      "strict_sources = " ++ (if settings.strictSources then "true" else "false") ++ "\n" ++
      (match settings.templateDirectory with
        | none => ""
        | some directory => "template_dir = " ++ Toml.quoted directory ++ "\n"))

end Settings

end ChatPrompt
