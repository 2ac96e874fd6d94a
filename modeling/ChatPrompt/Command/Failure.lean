import ChatPrompt.Blueprint.Compiler
import ChatPrompt.Render.Layout
import ChatPrompt.Settings

/-!
# Failures of commands

Why a command failed, and its wording.
-/

namespace ChatPrompt

/-- The wording of a fault of settings. -/
def SettingsFault.message : SettingsFault → String
  | .unreadable => "Failed to read config file"
  | .malformed => "Failed to parse config file"
  | .invalid problem => problem.message

/-- The wording of a fault of a template. -/
def TemplateFault.message : TemplateFault → String
  | .schema violations =>
    "\n".intercalate (Schema.violationsTitle violations ::
      violations.map fun violation => "  - " ++ violation.line)
  | .unreadable => "no template can be read from the document"
  | .compile issue => TemplateFault.compileMessage issue

/-- Why a command failed. -/
inductive Command.Failure where
  /-- There are no settings. -/
  | settings (fault : SettingsFault)
  /-- A file cannot be read. -/
  | unreadable (path : String)
  /-- A file holds no document. -/
  | malformed (path : String)
  /-- The template is not in order. -/
  | template (fault : TemplateFault)
  /-- No options can be read from their document. -/
  | options
  /-- The lanes of the options do not compile. -/
  | lanes (issue : Blueprint.Issue)
  /-- The render failed. -/
  | render (fault : Render.Fault)
  /-- A sum of the render leaves the range of amounts, which ends the program. -/
  | overflow
  /-- The render of one of many contexts, each a task of its own, was ended by such a sum. -/
  | lostTask
  /-- Some contexts could not be rendered. -/
  | contexts (count : Nat)

/-- The wording of a failure. -/
def Command.Failure.message : Command.Failure → String
  | .settings fault => "Failed to load config: " ++ fault.message
  | .unreadable path => "Failed to read " ++ path
  | .malformed path => "Failed to parse " ++ path
  | .template fault => fault.message
  | .options => "no options can be read from the document"
  | .lanes issue => TemplateFault.compileMessage issue
  | .render fault => fault.message
  | .overflow => "attempt to add with overflow"
  | .lostTask => "a task was ended by an attempt to add with overflow"
  | .contexts count => toString count ++ " context(s) failed to render"

end ChatPrompt
