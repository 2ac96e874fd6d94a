import ChatPrompt.Render.Prompt

/-!
# Prompts as values

A finished prompt, its places and its report as JSON, with the fields in the order in which
they are shown.
-/

namespace ChatPrompt

open Number

/-- An amount of tokens as a value. -/
def tokensJson (amount : Tokens) : Json := .ofNat amount.toNat

/-- What a lane did, as a value. -/
def Injection.LaneStats.toJson (stats : Injection.LaneStats) : Json :=
  .object [("id", .string stats.id), ("tokens", tokensJson stats.tokens),
    ("entries_included", .ofNat stats.included), ("entries_total", .ofNat stats.total),
    ("blocks", .ofNat stats.blocks)]

/-- What was dropped, as a value. -/
def Injection.Drop.toJson (dropped : Injection.Drop) : Json :=
  .object [("scope", .string dropped.scope), ("items_dropped", .ofNat dropped.count),
    ("reason", .string dropped.reason.text)]

namespace Render

/-- What a slot did, as a value. -/
def SlotStats.toJson (stats : SlotStats) : Json :=
  .object [("name", .string stats.name), ("priority", .ofInt stats.priority.toInt),
    ("tokens", tokensJson stats.tokens), ("messages", .ofNat stats.messages),
    ("items_included", .ofNat stats.tally.included),
    ("items_total", .ofNat stats.tally.total), ("items_dropped", .ofNat stats.tally.dropped),
    ("truncated", .bool stats.tally.truncated), ("skipped", .bool stats.skipped)]

/-- A percentage as a value: the double with the digits of the percentage. -/
def percentJson (units : Nat) : Json :=
  let decimal := if units = 0 then ⟨0, 0⟩ else Format.binary32.shortest Style.single.tie units
  match Extended.ofDecimal false decimal.digits decimal.exponent with
  | .finite x => .number (.floating x)
  | _ => .null

/-- A report as a value. -/
def Report.toJson (report : Report) : Json :=
  .object [("budget", tokensJson report.capacity), ("total_tokens", tokensJson report.spent),
    ("utilization_pct", percentJson (utilization report.capacity report.spent)),
    ("floor_tokens", tokensJson report.floorTokens),
    ("slots", .array (report.slots.map SlotStats.toJson)),
    ("lanes", .array (report.lanes.map Injection.LaneStats.toJson)),
    ("drops", .array (report.drops.map Injection.Drop.toJson))]

/-- The messages of a prompt as a value. -/
def Prompt.messagesJson (prompt : Prompt) : Json :=
  .array (prompt.messages.map Message.toJson)

/-- A prompt as a value. -/
def Prompt.toJson (prompt : Prompt) : Json :=
  .object [("messages", prompt.messagesJson),
    ("anchors", .array (prompt.anchors.map Anchor.toJson)), ("report", prompt.report.toJson)]

/-- A prompt over several lines. Its one number that is not whole is the percentage, which is
written as one of single precision. -/
def Prompt.indented (prompt : Prompt) : String := prompt.toJson.indentedIn .single

end Render

end ChatPrompt
