import ChatPrompt.Ledger
import ChatPrompt.Number.Reading

/-!
# Options among arguments

Arguments are options and words. An option is named by a long name after two dashes or by one
letter after a single dash, and some options carry a value: behind an equals sign, as the rest
of the argument after a letter, or as the next argument, which must not look like an option.
Several letters may share a dash. Reading stops at the first word, and where help or the version
is asked for.
-/

namespace ChatPrompt.Command

/-- What arguments can say besides words. -/
inductive Choice where
  /-- Say more about what is done. -/
  | verbose
  /-- The settings file. -/
  | settings
  /-- Explain the arguments. -/
  | help
  /-- Name the version. -/
  | version
  /-- The template. -/
  | template
  /-- The context. -/
  | context
  /-- What may be spent. -/
  | budget
  /-- The options of the render. -/
  | options
  /-- Show places and the report. -/
  | detailed
  /-- The sources that may be named. -/
  | sources
  /-- The directory of contexts. -/
  | contexts
  deriving DecidableEq, Repr

namespace Choice

/-- The long name. -/
def name : Choice → String
  | .verbose => "verbose"
  | .settings => "config"
  | .help => "help"
  | .version => "version"
  | .template => "template"
  | .context => "context"
  | .budget => "budget"
  | .options => "options"
  | .detailed => "detailed"
  | .sources => "sources"
  | .contexts => "contexts"

/-- The letter, if there is one. -/
def letter? : Choice → Option Char
  | .verbose => some 'v'
  | .help => some 'h'
  | .version => some 'V'
  | .template => some 't'
  | .context => some 'c'
  | .budget => some 'b'
  | .options => some 'o'
  | .sources => some 's'
  | .settings | .detailed | .contexts => none

/-- Whether a value belongs to it. -/
def takesValue : Choice → Bool
  | .verbose | .help | .version | .detailed => false
  | _ => true

/-- Whether it may be given more than once. -/
def isRepeatable : Choice → Bool
  | .sources => true
  | _ => false

end Choice

/-- Why arguments are no command. -/
inductive Stop where
  /-- Help was asked for. -/
  | help
  /-- The version was asked for. -/
  | version
  /-- They are used wrongly. -/
  | misuse
  deriving DecidableEq, Repr

/-- The options that were given, with their values, in their order. -/
abbrev Given := List (Choice × String)

/-- An amount of tokens. -/
def tokensOfText? (text : String) : Option Tokens :=
  (Number.wholeOfText? UInt64.size text.toList).map UInt64.ofNat

/-- Whether a text is a value that an option can have. Sources may be named anything, and an
option without a value is no matter of its text. -/
def Choice.accepts (choice : Choice) (text : String) : Bool :=
  match choice with
  | .budget => (tokensOfText? text).isSome
  | .settings | .template | .context | .options | .contexts => !text.isEmpty
  | _ => true

/-- Notes an option with its value. -/
def note (choice : Choice) (value : String) (given : Given) : Except Stop Given :=
  match choice with
  | .help => .error .help
  | .version => .error .version
  | _ =>
    if !choice.accepts value then .error .misuse
    else if !choice.isRepeatable && given.any (fun entry => entry.1 = choice) then
      .error .misuse
    else .ok (given ++ [(choice, value)])

/-- What is known after some arguments. An option whose value is an argument of its own counts
only once the next option or the end of the arguments is met. -/
structure Progress where
  /-- The options given, but for the last one if its value is an argument of its own. -/
  given : Given
  /-- The last option, if its value is an argument of its own, with that value once it is
  there. -/
  pending : Option (Choice × Option String)

/-- The options given, if the last one has its value and can have it. -/
def Progress.settle : Progress → Except Stop Given
  | ⟨given, none⟩ => .ok given
  | ⟨_, some (_, none)⟩ => .error .misuse
  | ⟨given, some (choice, some value)⟩ => note choice value given

/-- Reads an option with a long name, the characters after the dashes. -/
def noteLong (choices : List Choice) (given : Given) (cs : List Char) :
    Except Stop Progress :=
  let name := String.ofList (cs.takeWhile (· != '='))
  match choices.find? (fun choice => choice.name = name), cs.dropWhile (· != '=') with
  | none, _ => .error .misuse
  | some choice, [] =>
    if choice.takesValue then .ok ⟨given, some (choice, none)⟩
    else (note choice "" given).map (⟨·, none⟩)
  | some choice, _ :: value =>
    if choice.takesValue then (note choice (String.ofList value) given).map (⟨·, none⟩)
    else .error .misuse

/-- The value that stands behind a letter. An equals sign before it is no part of it. -/
def attached : List Char → String
  | '=' :: value => String.ofList value
  | value => String.ofList value

/-- Reads options named by letters, the characters after the dash. -/
def noteLetters (choices : List Choice) (given : Given) : List Char → Except Stop Progress
  | [] => .ok ⟨given, none⟩
  | c :: rest =>
    match choices.find? fun choice => choice.letter? = some c with
    | none => .error .misuse
    | some choice =>
      if choice.takesValue then
        if rest.isEmpty then .ok ⟨given, some (choice, none)⟩
        else (note choice (attached rest) given).map (⟨·, none⟩)
      else
        match note choice "" given with
        | .error stop => .error stop
        | .ok given => noteLetters choices given rest

/-- What an argument looks like. -/
inductive Shape where
  /-- Two dashes and nothing else, after which there are only words. -/
  | dashes
  /-- Two dashes and a name. -/
  | long (name : List Char)
  /-- A dash and letters. -/
  | letters (letters : List Char)
  /-- Anything else. -/
  | word

/-- What an argument looks like. A single dash is a word. -/
def shape (argument : String) : Shape :=
  match argument.toList with
  | ['-', '-'] => .dashes
  | '-' :: '-' :: name => .long name
  | '-' :: c :: letters => .letters (c :: letters)
  | _ => .word

/-- Reads options up to the first word that is no value, and gives what is left from there
on. -/
def scan (choices : List Choice) :
    Progress → List String → Except Stop (Progress × List String)
  | progress, [] => .ok (progress, [])
  | progress, argument :: rest =>
    match shape argument, progress.pending with
    | .word, some (choice, none) =>
      scan choices ⟨progress.given, some (choice, some argument)⟩ rest
    | .word, _ => .ok (progress, argument :: rest)
    | .dashes, _ => if rest.isEmpty then .ok (progress, []) else .error .misuse
    | .long name, _ =>
      match progress.settle.bind (noteLong choices · name) with
      | .error stop => .error stop
      | .ok progress => scan choices progress rest
    | .letters letters, _ =>
      match progress.settle.bind (noteLetters choices · letters) with
      | .error stop => .error stop
      | .ok progress => scan choices progress rest

/-- The values given for an option. -/
def Given.values (given : Given) (choice : Choice) : List String :=
  (given.filter fun entry => entry.1 = choice).map Prod.snd

/-- The value given for an option. -/
def Given.value? (given : Given) (choice : Choice) : Option String := given.lookup choice

/-- Whether an option is given. -/
def Given.has (given : Given) (choice : Choice) : Bool := (given.lookup choice).isSome

end ChatPrompt.Command
