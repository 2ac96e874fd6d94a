import ChatPrompt.Leaf.Fault
import ChatPrompt.Message
import ChatPrompt.Path

/-!
# Issues of a template

What keeps a template from becoming a blueprint, and where in the template. All issues are
looked for, and several are reported together as one.
-/

namespace ChatPrompt

/-- A place in a template: the way from its root. -/
abbrev Location := List Segment

namespace Location

/-- The place of a field. -/
def field (location : Location) (name : String) : Location := location ++ [.key name]

/-- The place of an element. -/
def element (location : Location) (position : Nat) : Location := location ++ [.index position]

/-- The text of the steps after the first. -/
def stepsText : List Segment → String
  | [] => ""
  | .key name :: rest => "." ++ name ++ stepsText rest
  | .index position :: rest => "[" ++ toString position ++ "]" ++ stepsText rest

/-- The text of a place. -/
def text : Location → String
  | .key name :: rest => name ++ stepsText rest
  | location => stepsText location

end Location

namespace Blueprint

/-- What makes a part of a template meaningless, though each field of it is in order. -/
inductive Flaw where
  /-- A reference to nothing. -/
  | emptyReference
  /-- A second group of one name in a lane. -/
  | repeatedGroup (id : String)
  /-- A lane of which nothing is made. -/
  | uncompiledLane
  deriving DecidableEq, Repr

/-- The wording of a flaw. -/
def Flaw.message : Flaw → String
  | .emptyReference => "data reference needs a `source` or a `path`"
  | .repeatedGroup id => "duplicate group id '" ++ id ++ "'"
  | .uncompiledLane => "lane could not be compiled"

/-- What keeps a template from becoming a blueprint. -/
inductive Issue where
  /-- A text, path or expression that cannot be read. -/
  | leaf (location : Location) (fault : Leaf.Fault)
  /-- A place in the layout for a slot that does not exist. -/
  | unknownSlot (name : String)
  /-- A slot without a place in the layout. -/
  | unplacedSlot (name : String)
  /-- A second place in the layout for one slot. -/
  | repeatedSlot (name : String)
  /-- A second message with one fixed key. -/
  | repeatedAnchor (key : String) (location : Location)
  /-- A message of a loop with a fixed key. -/
  | fixedAnchorInLoop (key : String) (location : Location)
  /-- A message for the model to continue that is not the assistant's. -/
  | openEndedRole (location : Location) (role : Role)
  /-- A message with both a text and a value. -/
  | twoContents (location : Location)
  /-- A message with neither a text nor a value. -/
  | noContent (location : Location)
  /-- A reference to a source that is not allowed. -/
  | unknownSource (name : String) (location : Location)
  /-- A second lane of one name. -/
  | repeatedLane (id : String)
  /-- A part that is meaningless. -/
  | invalid (location : Location) (flaw : Flaw)
  /-- Several issues. -/
  | several (issues : List Issue)

namespace Issue

/-- The wording of several issues, given those of each. -/
def joined (messages : List String) : String :=
  toString messages.length ++ " compile errors:\n" ++
    "\n".intercalate (messages.map fun message => "  - " ++ message)

mutual

/-- The wording of an issue. -/
def message : Issue → String
  | .leaf location fault => "invalid leaf at " ++ location.text ++ ": " ++ fault.message
  | .unknownSlot name => "layout references unknown slot '" ++ name ++ "'"
  | .unplacedSlot name => "slot '" ++ name ++ "' is never referenced by the layout"
  | .repeatedSlot name => "slot '" ++ name ++ "' is referenced more than once by the layout"
  | .repeatedAnchor key location =>
    "duplicate anchor key '" ++ key ++ "' at " ++ location.text
  | .fixedAnchorInLoop key location =>
    "anchor key '" ++ key ++ "' at " ++ location.text ++
      " is static inside a forEach and would repeat"
  | .openEndedRole location role =>
    "`prefix` at " ++ location.text ++ " requires role assistant, found " ++ role.text
  | .twoContents location =>
    "`content` and `from` are mutually exclusive at " ++ location.text
  | .noContent location =>
    "message at " ++ location.text ++ " needs either `content` or `from`"
  | .unknownSource name location =>
    "unknown data source '" ++ name ++ "' at " ++ location.text
  | .repeatedLane id => "duplicate attachment lane '" ++ id ++ "'"
  | .invalid location flaw => "invalid template at " ++ location.text ++ ": " ++ flaw.message
  | .several issues => joined (messages issues)

/-- The wordings of several issues. -/
def messages : List Issue → List String
  | [] => []
  | issue :: rest => issue.message :: messages rest

end

/-- The issues of which one consists. -/
def parts : Issue → List Issue
  | .several issues => issues
  | issue => [issue]

/-- The issue that some issues are together, if there are any. -/
def collect : List Issue → Option Issue
  | [] => none
  | [issue] => some issue
  | issues => some (.several issues)

/-- Nothing is reported only where there is no issue. -/
theorem collect_eq_none_iff (issues : List Issue) : collect issues = none ↔ issues = [] := by
  match issues with
  | [] => simp [collect]
  | [issue] => simp [collect]
  | first :: second :: rest => simp [collect]

end Issue

end Blueprint

end ChatPrompt
