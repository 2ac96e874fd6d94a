import ChatPrompt.Json.Basic

/-!
# Records in JSON

How the fields of a record are found in a value, and how they are written into one. A record
is an object, whose fields are found by their names and where unknown fields are ignored; or
an array, which gives the fields in their order and may end early. A record of one of several
kinds names its kind first. Reading gives nothing where a required field is missing or any
field is of the wrong shape.

Inside a value whose kind had to be looked at first, two more spellings are understood: the
kind may be given by its place in the list of kinds, and a word may carry an empty object.
-/

namespace ChatPrompt.Record

/-- Where a value stands: on its own, or inside one whose kind was looked at first. -/
inductive Form where
  /-- On its own. -/
  | direct
  /-- Inside a value whose kind was looked at first. -/
  | buffered
  deriving DecidableEq, Repr

/-- The fields of a record with the given names. -/
def fields? (names : List String) : Json → Option Json.Fields
  | .object fields => some fields
  | .array items => if items.length ≤ names.length then some (names.zip items) else none
  | _ => none

/-- A field that has to be there. -/
def required? {α : Type} (name : String) (read : Json → Option α) (fields : Json.Fields) :
    Option α :=
  (fields.lookup name).bind read

/-- A field with a value to take where it is missing. -/
def defaulting? {α : Type} (name : String) (read : Json → Option α) (missing : α)
    (fields : Json.Fields) : Option α :=
  match fields.lookup name with
  | none => some missing
  | some value => read value

/-- A field that may be missing or `null`. -/
def optional? {α : Type} (name : String) (read : Json → Option α) (fields : Json.Fields) :
    Option (Option α) :=
  match fields.lookup name with
  | none => some none
  | some .null => some none
  | some value => (read value).map some

/-- A text. -/
def text? : Json → Option String
  | .string s => some s
  | _ => none

/-- A truth value. -/
def flag? : Json → Option Bool
  | .bool b => some b
  | _ => none

/-- A whole number that is not negative. -/
def natural? : Json → Option Nat
  | .number (.whole n) => if 0 ≤ n then some n.toNat else none
  | _ => none

/-- A whole number that fits 64 bits without a sign. -/
def word64? : Json → Option UInt64
  | .number (.whole n) => if 0 ≤ n && n < UInt64.size then some (UInt64.ofNat n.toNat) else none
  | _ => none

/-- A whole number that fits 32 bits without a sign. -/
def word32? : Json → Option UInt32
  | .number (.whole n) => if 0 ≤ n && n < UInt32.size then some (UInt32.ofNat n.toNat) else none
  | _ => none

/-- A whole number that fits 32 bits with a sign. -/
def int32? : Json → Option Int32
  | .number (.whole n) =>
    if -0x80000000 ≤ n && n < 0x80000000 then some (Int32.ofInt n) else none
  | _ => none

/-- One of several words, given as a text or as an object with that word as its only key. -/
def choice? {α : Type} (form : Form) (choices : List (String × α)) : Json → Option α
  | .string s => choices.lookup s
  | .object [(s, .null)] => choices.lookup s
  | .object [(s, .object [])] => if form = .buffered then choices.lookup s else none
  | _ => none

/-- The kind that a value names, as a word or, inside a value, as a place among the kinds. -/
def kind? {α : Type} (form : Form) (choices : List (String × α)) : Json → Option α
  | .string s => choices.lookup s
  | .number (.whole n) =>
    if form = .buffered && 0 ≤ n then (choices[n.toNat]?).map Prod.snd else none
  | _ => none

/-- The kind of a record of one of several kinds, and the record itself. The kind stands
under `tag`, or first in an array. -/
def tagged? {α : Type} (form : Form) (tag : String) (choices : List (String × α)) :
    Json → Option (α × Json)
  | .object fields => ((fields.lookup tag).bind (kind? form choices)).map (·, .object fields)
  | .array (first :: rest) => (kind? form choices first).map (·, .array rest)
  | _ => none

/-- A sequence, each element read alike. -/
def list? {α : Type} (read : Json → Option α) : Json → Option (List α)
  | .array items => items.mapM read
  | _ => none

/-- The field of a flag that is written only where it is set. -/
def whenTrue (name : String) (flag : Bool) : Json.Fields :=
  if flag then [(name, .bool true)] else []

/-- The field of a value that is written only where there is one. -/
def whenSome {α : Type} (name : String) (write : α → Json) : Option α → Json.Fields
  | none => []
  | some value => [(name, write value)]

/-- The field of a value that is written only where it is not `null`. -/
def whenNotNull (name : String) (value : Json) : Json.Fields :=
  if value.isNull then [] else [(name, value)]

/-- The field of a sequence that is written only where it has elements. -/
def whenNotEmpty {α : Type} (name : String) (write : α → Json) : List α → Json.Fields
  | [] => []
  | items => [(name, .array (items.map write))]

/-- A sequence in which every element reads back is read back whole. -/
theorem mapM_map {α β : Type} (write : α → β) (read : β → Option α) (items : List α)
    (h : ∀ item ∈ items, read (write item) = some item) :
    (items.map write).mapM read = some items := by
  induction items with
  | nil => rfl
  | cons item rest ih =>
    have hhead := h item List.mem_cons_self
    have htail := ih fun x hx => h x (List.mem_cons_of_mem item hx)
    simp [hhead, htail]

end ChatPrompt.Record
