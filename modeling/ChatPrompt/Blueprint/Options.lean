import ChatPrompt.Blueprint.Compiler
import ChatPrompt.Injection.Request

/-!
# Options of a render

The lanes and requests of an options document, with the lanes compiled. All issues of all
lanes are reported; those of one lane are one issue, which may consist of several.
-/

namespace ChatPrompt

/-- What a render is given besides its blueprint. -/
structure RenderOptions where
  /-- Lanes that stand in for those of the blueprint of the same name, or come on top. -/
  attachments : List Blueprint.Lane
  /-- The requests. -/
  injections : List Injection.Request

namespace RenderOptions

/-- No lanes and no requests. -/
def none : RenderOptions := ⟨[], []⟩

/-- The lanes that compile, and the issues of the others, without lanes of names met
before. -/
def compileLanes (met : List String) :
    List Template.Lane → List Blueprint.Lane × List Blueprint.Issue
  | [] => ([], [])
  | lane :: rest =>
    if met.contains lane.id then
      let (lanes, issues) := compileLanes met rest
      (lanes, .repeatedLane lane.id :: issues)
    else
      let (lanes, issues) := compileLanes (lane.id :: met) rest
      match Blueprint.Lane.ofTemplate lane with
      | .ok compiled => (compiled :: lanes, issues)
      | .error issue => (lanes, issue :: issues)

/-- The options of a document. -/
def ofDocument (document : OptionsDocument) : Except Blueprint.Issue RenderOptions :=
  let (lanes, issues) := compileLanes [] document.attachments
  match Blueprint.Issue.collect issues with
  | some issue => .error issue
  | .none => .ok ⟨lanes, document.injections⟩

end RenderOptions

end ChatPrompt
