import ChatPrompt.Blueprint.Compiler
import ChatPrompt.Settings

/-!
# Templates under settings

Two ways to a blueprint under the same settings. What is rendered is held to the sources that
the settings list only where they say so. What is checked is held to them wherever they are
listed, unless other sources are given. The check also has a text that says what it found.
-/

namespace ChatPrompt

namespace Settings

/-- The blueprint of a document that is to be rendered. -/
def compile (settings : Settings) (document : Json) : Except TemplateFault Blueprint :=
  ((Compiler.fresh settings.enforcedSources).compileDocument document).1

/-- The sources to which a check holds a template, given those that it is told. -/
def checkedSources (settings : Settings) (sources : Option (List String)) :
    Option (List String) :=
  sources.or settings.allowedSources

/-- The blueprint of a document that is checked. -/
def check (settings : Settings) (sources : Option (List String)) (document : Json) :
    Except TemplateFault Blueprint :=
  ((Compiler.fresh (settings.checkedSources sources)).compileDocument document).1

end Settings

namespace Command

/-- A line of what a check found. -/
def foundLine (text : String) : String := "   " ++ text ++ "\n"

/-- A line below one of what a check found. -/
def detailLine (text : String) : String := "      " ++ text ++ "\n"

/-- The line above what a check found. -/
def checkTitle (path : String) : String := "🔍 Linting " ++ path ++ "\n"

/-- The line that the schema is obeyed. -/
def schemaLine : String := foundLine "✅ Schema valid"

/-- What is said of a template that compiles. -/
def blueprintLines (blueprint : Blueprint) : String :=
  let filled := blueprint.slotsInOrder.map Blueprint.Slot.name
  foundLine ("✅ Compiled " ++ blueprint.id ++ " v" ++ toString blueprint.version.toNat) ++
    foundLine ("Layout nodes:  " ++ toString blueprint.layout.length) ++
    foundLine ("Slots:         " ++ toString blueprint.slots.length) ++
    foundLine ("Lanes:         " ++ toString blueprint.lanes.length) ++
    if filled.isEmpty then ""
    else foundLine ("Fill order:    " ++ " → ".intercalate filled)

/-- What a check says about what it found. -/
def checkLines : Except TemplateFault Blueprint → String
  | .ok blueprint => schemaLine ++ blueprintLines blueprint
  | .error (.schema violations) =>
    foundLine ("❌ Schema: " ++ toString violations.length ++ " violation(s)") ++
      String.join (violations.map fun violation =>
        detailLine (violation.shownPointer ++ " " ++ violation.message))
  | .error .unreadable => schemaLine
  | .error (.compile issue) =>
    schemaLine ++
      foundLine ("❌ " ++ toString issue.parts.length ++ " compile error(s)") ++
      String.join (issue.parts.map fun part => detailLine part.message)

end Command

end ChatPrompt
