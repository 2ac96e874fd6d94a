import ChatPrompt.Blueprint.Compilation
import ChatPrompt.Json.Reader
import ChatPrompt.Template.Reading
import ChatPrompt.Template.Schema

/-!
# The compiler

A compiler makes blueprints of templates and keeps the leaves that it has read. It may be
given the sources that templates are allowed to name. A document is first checked against
the schema, then read as a template, and then compiled; a text is first read as a document.
-/

namespace ChatPrompt

/-- A compiler between two compilations. -/
structure Compiler where
  /-- The leaves read so far. -/
  leaves : Leaf.Cache
  /-- The sources that templates may name; any if not given. -/
  allowed : Option (List String)

/-- Why a document is no blueprint. -/
inductive TemplateFault where
  /-- It violates the schema of templates. -/
  | schema (violations : List Schema.Violation)
  /-- It is no document, or no template can be read from it. -/
  | unreadable
  /-- The template does not compile. -/
  | compile (issue : Blueprint.Issue)

/-- The wording of the fault of a template that does not compile, as one among other
failures. -/
def TemplateFault.compileMessage (issue : Blueprint.Issue) : String :=
  "Compile error: " ++ issue.message

namespace Compiler

/-- A compiler that has read nothing. -/
def fresh (allowed : Option (List String)) : Compiler := ⟨Leaf.Cache.empty, allowed⟩

/-- The blueprint of a template, with the sources that it may name given. -/
def compileAllowing (allowed : Option (List String)) (template : Template)
    (compiler : Compiler) : Except Blueprint.Issue Blueprint × Compiler :=
  let (result, leaves) :=
    (Blueprint.Compilation.template allowed template).run compiler.leaves
  (result, { compiler with leaves := leaves })

/-- The blueprint of a template. -/
def compile (template : Template) (compiler : Compiler) :
    Except Blueprint.Issue Blueprint × Compiler :=
  compiler.compileAllowing compiler.allowed template

/-- The blueprint of a document. -/
def compileDocument (document : Json) (compiler : Compiler) :
    Except TemplateFault Blueprint × Compiler :=
  match Template.violations document with
  | [] =>
    match Template.ofJson? document with
    | none => (.error .unreadable, compiler)
    | some template =>
      let (result, compiler) := compiler.compile template
      (result.mapError .compile, compiler)
  | violations => (.error (.schema violations), compiler)

/-- The blueprint of a text. -/
def compileText (source : String) (compiler : Compiler) :
    Except TemplateFault Blueprint × Compiler :=
  match Json.read? source with
  | none => (.error .unreadable, compiler)
  | some document => compiler.compileDocument document

end Compiler

/-- The place that the issues of a lane on its own are under. -/
def Template.Lane.location (lane : Template.Lane) : Location :=
  [.key ("lane '" ++ lane.id ++ "'")]

/-- The lane of a request, compiled on its own. -/
def Blueprint.Lane.ofTemplate (lane : Template.Lane) :
    Except Blueprint.Issue Blueprint.Lane :=
  match ((Blueprint.Compilation.lane lane.location lane).run Leaf.Cache.empty).1 with
  | .error issue => .error issue
  | .ok (some compiled) => .ok compiled
  | .ok none => .error (.invalid lane.location .uncompiledLane)

end ChatPrompt
