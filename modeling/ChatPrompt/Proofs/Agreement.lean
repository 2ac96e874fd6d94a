import Mathlib
import ChatPrompt.Proofs.Legibility
import ChatPrompt.Proofs.Recovery

/-!
# The schema and the data model agree

A format is described twice: by a schema, against which a document is checked, and by a data
model with a reader and a writer. Nothing that passes the check is refused afterwards, nothing
that is written fails the check, and nothing is lost between the two: the template that a
document describes is read back from the document that it is written as.
-/

namespace ChatPrompt

/-- **Whatever passes the check is a template, and stays one.** From a document without
violations, each of whose numbers is whole and fits its field where it is to be an integer, a
template is read. Written again, it has no violations either and is read as it was. -/
theorem Template.exists_recovered_of_violations_eq_nil {document : Json}
    (hvalid : violations document = []) (hfits : numbersFit document = true) :
    ∃ template, Template.ofJson? document = some template ∧
      violations template.toJson = [] ∧ Template.ofJson? template.toJson = some template := by
  obtain ⟨template, hread, hadmissible⟩ := exists_ofJson? hvalid hfits
  exact ⟨template, hread, violations_toJson hadmissible, template.ofJson?_toJson⟩

/-- A document with a lane, and with a loop around a branch whose condition is nested. -/
def Sample.nestedDocument : Json :=
  .object [
    ("attachments", .array [.object [("id", .string "notes"), ("order", .ofInt (-1)),
      ("reserveTokens", .ofNat 8), ("role", .string "system"), ("template", .string "Note")]]),
    ("id", .string "chat"),
    ("layout", .array [
      .object [("content", .string "Intro"), ("kind", .string "message"),
        ("role", .string "system")],
      .object [("kind", .string "slot"), ("name", .string "turns")]]),
    ("name", .string "Chat"),
    ("slots", .object [("turns", .object [
      ("meta", .array [.null, .bool true]),
      ("plan", .array [.object [("kind", .string "forEach"), ("limit", .ofNat 40),
        ("map", .array [.object [
          ("condition", .object [("condition", .object [("ref", .string "mood"),
            ("type", .string "exists")]), ("type", .string "not")]),
          ("kind", .string "if"),
          ("then", .array [.object [("budget", .ofNat 5), ("content", .string "Hi"),
            ("kind", .string "message"), ("role", .string "user")]])]]),
        ("source", .string "turns")]]),
      ("priority", .ofInt (-2))])]),
    ("version", .ofNat 3)]

/-- The document with a loop around a branch is read, and stays what it is. -/
theorem Template.exists_recovered_of_violations_eq_nil_sample :
    violations Sample.nestedDocument = [] ∧ numbersFit Sample.nestedDocument = true ∧
      ∃ template, Template.ofJson? Sample.nestedDocument = some template ∧
        violations template.toJson = [] ∧
          Template.ofJson? template.toJson = some template := by
  have hvalid : violations Sample.nestedDocument = [] := by decide +kernel
  have hfits : numbersFit Sample.nestedDocument = true := by decide +kernel
  exact ⟨hvalid, hfits, exists_recovered_of_violations_eq_nil hvalid hfits⟩

end ChatPrompt
