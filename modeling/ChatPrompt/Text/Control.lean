/-!
# Control sequences

Text for a terminal can hold control sequences: an escape, and characters that say what to do.
Shown anywhere else, it is shown without them and without other controls. Tabs and ends of
lines stay, also those inside a sequence; and from there on, as behind any character that is
shown, characters are shown up to the next control, where a sequence that was not finished goes
on.
-/

namespace ChatPrompt.Text

/-- The sequences that have parameters. -/
inductive Sequence where
  /-- A control sequence, which its final character ends. -/
  | control
  /-- A device control string, whose data begin behind its final character. -/
  | device
  deriving DecidableEq, Repr

/-- Where in a control sequence a text is. -/
inductive ControlState where
  /-- In none. -/
  | ground
  /-- Behind the escape. -/
  | escape
  /-- Between the escape and the final character. -/
  | escapeMiddle
  /-- Before the parameters. -/
  | start (sequence : Sequence)
  /-- Among the parameters. -/
  | parameters (sequence : Sequence)
  /-- Between the parameters and the final character. -/
  | middle (sequence : Sequence)
  /-- Before the final character of a control sequence that means nothing. -/
  | malformed
  /-- Among the data of a string that a string terminator ends. -/
  | data
  /-- Among the data of a string that a bell ends. -/
  | command
  deriving DecidableEq, Repr

/-- Where the final character of a sequence leads. -/
def Sequence.finished : Sequence → ControlState
  | .control => .ground
  | .device => .data

/-- Where a character out of place leads. -/
def Sequence.spoiled : Sequence → ControlState
  | .control => .malformed
  | .device => .data

/-- A character of more than one byte. -/
def isWide (c : Char) : Bool := 0x80 ≤ c.toNat

/-- A tab or an end of line or page. -/
def isLayout (c : Char) : Bool := c = '\t' || c = '\n' || c = '\x0c' || c = '\r'

/-- A character that is shown where no sequence is open. -/
def isShown (c : Char) : Bool := isLayout c || (' ' ≤ c && c != '\x7f')

namespace ControlState

/-- Where the character behind an escape leads. -/
def afterEscape (c : Char) : ControlState :=
  if c = '[' then .start .control
  else if c = 'P' then .start .device
  else if c = ']' then .command
  else if c = 'X' || c = '^' || c = '_' then .data
  else if c < '0' then .escapeMiddle
  else .ground

/-- Where a character of one byte that is no control leads. -/
def step (state : ControlState) (c : Char) : ControlState :=
  match state with
  | .escape => afterEscape c
  | .escapeMiddle => if c < '0' then .escapeMiddle else .ground
  | .start sequence =>
    if c < '0' then .middle sequence
    else if c < '@' then .parameters sequence
    else sequence.finished
  | .parameters sequence =>
    if c < '0' then .middle sequence
    else if c < '<' then .parameters sequence
    else if c < '@' then sequence.spoiled
    else sequence.finished
  | .middle sequence =>
    if c < '0' then .middle sequence
    else if c < '@' then sequence.spoiled
    else sequence.finished
  | .malformed => if c < '@' then .malformed else .ground
  | state => state

/-- Where a character leads that is not shown. Three controls count in any sequence; the byte
9C is the string terminator, wherever it stands. -/
def next (state : ControlState) (c : Char) : ControlState :=
  if c = '\x18' || c = '\x1a' then .ground
  else if c = '\x1b' then .escape
  else match state with
    | .data => if (String.utf8EncodeChar c).contains 0x9c then .ground else .data
    | .command => if c = '\x07' then .ground else .command
    | state => if c < ' ' || c = '\x7f' || isWide c then state else state.step c

/-- Whether a character is shown behind one that is not. -/
def shows (state : ControlState) (c : Char) : Bool :=
  match state with
  | .ground => isShown c
  | .start .device | .parameters .device | .middle .device | .data | .command => false
  | _ => isLayout c

end ControlState

/-- The characters that are shown of those that follow, given whether the one before is shown
and in what sequence they stand. A character of more than one byte ends a sequence. -/
def shownFrom (running : Bool) (state : ControlState) : List Char → List Char
  | [] => []
  | c :: rest =>
    if (running && isShown c) || state.shows c then
      c :: shownFrom true (if isWide c then .ground else state) rest
    else shownFrom false (state.next c) rest

/-- A text without control sequences and controls. -/
def withoutControls (text : String) : String :=
  String.ofList (shownFrom false .ground text.toList)

end ChatPrompt.Text
