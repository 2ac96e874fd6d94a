import ChatPrompt.Proofs.Cutting
import ChatPrompt.Proofs.Translation
import ChatPrompt.Render.Environment

/-!
# Arguments are substituted in place

What a source is asked with is a value that may hold texts with tags, at any depth. It is taken apart
when a template is compiled, into what stays as it is and what is a leaf, and put together again in
each scope. The result is the value with each of its texts replaced by what the text says as a leaf:
keys, order and all other values stay. Texts without tags are not read as leaves, which makes no
difference, for such a text is a leaf that says the same everywhere: itself.
-/

namespace ChatPrompt

namespace Json

mutual

/-- The texts of a value, at any depth. Keys are not among them. -/
def texts : Json → List String
  | .string source => [source]
  | .array items => itemTexts items
  | .object fields => fieldTexts fields
  | _ => []

/-- The texts of the elements of a sequence. -/
def itemTexts : List Json → List String
  | [] => []
  | item :: rest => texts item ++ itemTexts rest

/-- The texts of the values of some fields. -/
def fieldTexts : Fields → List String
  | [] => []
  | (_, value) :: rest => texts value ++ fieldTexts rest

end

mutual

/-- The value with each text in it, at any depth, replaced by another; nothing if there is none for
one of them. -/
def mapTexts? (f : String → Option String) : Json → Option Json
  | .string source => (f source).map .string
  | .array items => (mapItemTexts? f items).map .array
  | .object fields => (mapFieldTexts? f fields).map .object
  | value => some value

/-- The elements of a sequence with the texts in them replaced. -/
def mapItemTexts? (f : String → Option String) : List Json → Option (List Json)
  | [] => some []
  | item :: rest => do return (← mapTexts? f item) :: (← mapItemTexts? f rest)

/-- The fields with the texts in their values replaced, under the same keys. -/
def mapFieldTexts? (f : String → Option String) : Fields → Option Fields
  | [] => some []
  | (key, value) :: rest => do return (key, ← mapTexts? f value) :: (← mapFieldTexts? f rest)

end

end Json

namespace Leaf

/-- What a text says in a scope, if it is a leaf. -/
def rendering? (scope : Scope) (source : String) : Option String :=
  (ofText source).toOption.map (render scope)

/-- A text without tags is a leaf that says it in every scope. -/
theorem rendering?_of_not_templated {source : String} (h : isTemplated source = false)
    (scope : Scope) : rendering? scope source = some source := by
  have hnone : splitAtPair '\x7b' source.toList = none := by
    refine splitAtPair_eq_none_iff.2 fun hpair => ?_
    rw [(isTemplated_iff source).2 hpair] at h
    cases h
  rw [rendering?, ofText, nodesOfText, pieces_of_none hnone 0, textPiece]
  by_cases hempty : source.toList.isEmpty = true
  · have hsource : source = "" := String.toList_eq_nil_iff.1 (List.isEmpty_iff.1 hempty)
    rw [if_pos hempty, hsource]
    rfl
  · have hsaid : (⟨source, [.text (String.ofList source.toList)]⟩ : Leaf).render scope = source := by
      rw [render, renderNodes, renderNodes, Node.render, String.ofList_toList, String.append_empty]
    rw [if_neg hempty]
    exact congrArg some hsaid

end Leaf

namespace Blueprint

open Template

variable {scope : Scope}

mutual

/-- Arguments have the value of which they are the image, with its texts replaced by what they say. -/
theorem mapTexts?_of_becomes {value : Json} {made : Arguments} (h : ArgumentsBecome value made) :
    value.mapTexts? (Leaf.rendering? scope) = some (made.value scope) := by
  match value, made, h with
  | _, _, .null => rfl
  | _, _, .bool value => rfl
  | _, _, .number value => rfl
  | _, _, .plain hplain =>
    rw [Json.mapTexts?, Leaf.rendering?_of_not_templated hplain]
    rfl
  | _, _, .text _ hread =>
    rw [Json.mapTexts?, Leaf.rendering?, hread]
    rfl
  | .array items, .array made, .array hitems =>
    rw [Json.mapTexts?, mapItemTexts?_of_become hitems]
    rfl
  | .object fields, .object made, .object hnames hvalues =>
    rw [Json.mapTexts?, mapFieldTexts?_of_become hnames hvalues]
    rfl

/-- So has a sequence of arguments. -/
theorem mapItemTexts?_of_become {items : List Json} {made : List Arguments}
    (h : List.Forall₂ ArgumentsBecome items made) :
    Json.mapItemTexts? (Leaf.rendering? scope) items = some (Arguments.values scope made) := by
  match items, made, h with
  | [], [], .nil => rfl
  | item :: rest, first :: others, .cons hfirst hothers =>
    rw [Json.mapItemTexts?, mapTexts?_of_becomes hfirst, mapItemTexts?_of_become hothers]
    rfl

/-- So have named arguments. -/
theorem mapFieldTexts?_of_become {fields : Json.Fields} {made : List (String × Arguments)}
    (hnames : made.map Prod.fst = fields.map Prod.fst)
    (hvalues : List.Forall₂ ArgumentsBecome (fields.map Prod.snd) (made.map Prod.snd)) :
    Json.mapFieldTexts? (Leaf.rendering? scope) fields =
      some (Arguments.namedValues scope made) := by
  match fields, made, hnames, hvalues with
  | [], [], _, _ => rfl
  | (key, value) :: rest, (name, first) :: others, hnames, .cons hfirst hothers =>
    obtain ⟨hname, hnames⟩ := List.cons.inj hnames
    have hkey : name = key := hname
    have hrest : Json.mapFieldTexts? (Leaf.rendering? scope) rest =
        some (Arguments.namedValues scope others) := mapFieldTexts?_of_become hnames hothers
    rw [Json.mapFieldTexts?, mapTexts?_of_becomes hfirst, hrest, hkey]
    rfl

end

namespace Compilation

mutual

/-- The texts of a value that hold tags are those of its texts that hold tags. -/
theorem argumentParts_eq (value : Json) :
    argumentParts value = (value.texts.filter Leaf.isTemplated).map .text := by
  cases value with
  | null | bool _ | number _ => rfl
  | string source =>
    rw [argumentParts, Json.texts, List.filter_singleton]
    cases Leaf.isTemplated source <;> rfl
  | array items => exact itemParts_eq items
  | object fields => exact fieldParts_eq fields

/-- So it is with the texts of a sequence. -/
theorem itemParts_eq (items : List Json) :
    itemParts items = ((Json.itemTexts items).filter Leaf.isTemplated).map .text := by
  cases items with
  | nil => rfl
  | cons item rest =>
    rw [itemParts, Json.itemTexts, List.filter_append, List.map_append, argumentParts_eq item,
      itemParts_eq rest]

/-- So it is with the texts of some fields. -/
theorem fieldParts_eq (fields : Json.Fields) :
    fieldParts fields = ((Json.fieldTexts fields).filter Leaf.isTemplated).map .text := by
  cases fields with
  | nil => rfl
  | cons field rest =>
    rw [fieldParts, Json.fieldTexts, List.filter_append, List.map_append, argumentParts_eq field.2,
      fieldParts_eq rest]

end

/-- Arguments are in order, whatever keys were met, if those of their texts that hold tags are
leaves. -/
theorem inOrder_argumentParts {value : Json} (allowed : Option (List String)) (met : List String)
    (hread : ∀ source ∈ value.texts, Leaf.isTemplated source = true →
      ∃ leaf, Leaf.ofText source = .ok leaf) :
    InOrder allowed met (argumentParts value) := by
  have hkeys : fixedKeys (argumentParts value) = [] := by
    rw [argumentParts_eq, fixedKeys, List.filterMap_map]
    exact List.filterMap_eq_nil_iff.2 fun _ _ => rfl
  refine ⟨?_, hkeys ▸ List.nodup_nil, hkeys ▸ fun _ hkey => absurd hkey List.not_mem_nil⟩
  intro part hpart
  rw [argumentParts_eq] at hpart
  obtain ⟨source, hsource, rfl⟩ := List.mem_map.1 hpart
  obtain ⟨hmem, htags⟩ := List.mem_filter.1 hsource
  exact hread source hmem htags

/-- Arguments are substituted in place. Where each text in a value that holds tags is a leaf, the
value is made arguments without an issue: its texts without tags stay as they are, and those with
tags become the leaves that they are read as. In every scope these arguments have the value with each
of its texts, at any depth, replaced by what the text says there as a leaf. A text without tags, which
is not read, would say itself. -/
theorem arguments_substituted (here : Location) {progress : Progress}
    (hleaves : progress.leaves.IsFaithful) {value : Json}
    (hread : ∀ source ∈ value.texts, Leaf.isTemplated source = true →
      ∃ leaf, Leaf.ofText source = .ok leaf) :
    (arguments here value progress).2.issues = progress.issues ∧
      ArgumentsBecome value (arguments here value progress).1 ∧
      (∀ scope, value.mapTexts? (Leaf.rendering? scope) =
        some ((arguments here value progress).1.value scope)) ∧
      ∀ source, Leaf.isTemplated source = false →
        ∀ scope, Leaf.rendering? scope source = some source := by
  have hissues : (arguments here value progress).2.issues = progress.issues :=
    ((@covers_arguments none here value).issues_eq_iff progress hleaves).2
      ⟨trivial, inOrder_argumentParts none progress.anchors hread⟩
  have hmade := makes_arguments here value progress hleaves hissues
  exact ⟨hissues, hmade, fun _ => mapTexts?_of_becomes hmade,
    fun _ hplain => Leaf.rendering?_of_not_templated hplain⟩

/-- Arguments with tags in an array, in an object inside it and under a key, and with braces that are
none. -/
def letter : Json :=
  .object [("copies", .array [.number (.whole 2), .string "for \x7b\x7bname\x7d\x7d!",
      .object [("\x7b\x7bkey\x7d\x7d", .string "\x7b\x7b#if name\x7d\x7dyes\x7b\x7b#endif\x7d\x7d")]]),
    ("note", .string "\x7bname\x7d\x7d")]

/-- A scope with a name in it. -/
def named : Scope := Scope.ofContext (.object [("name", .string "Ada")])

/-- The texts in the array say something else, at both depths. -/
theorem arguments_substituted_letter :
    (∀ source ∈ letter.texts, Leaf.isTemplated source = true →
        ∃ leaf, Leaf.ofText source = .ok leaf) ∧
      letter.mapTexts? (Leaf.rendering? named) = some (.object [
        ("copies", .array [.number (.whole 2), .string "for Ada!",
          .object [("\x7b\x7bkey\x7d\x7d", .string "yes")]]),
        ("note", .string "\x7bname\x7d\x7d")]) ∧
      (arguments [] letter ⟨Leaf.Cache.empty, [], []⟩).2.issues = [] ∧
      letter.mapTexts? (Leaf.rendering? named) =
        some ((arguments [] letter ⟨Leaf.Cache.empty, [], []⟩).1.value named) := by
  have hread : ∀ source ∈ letter.texts, Leaf.isTemplated source = true →
      ∃ leaf, Leaf.ofText source = .ok leaf := by
    have htexts : letter.texts = ["for \x7b\x7bname\x7d\x7d!",
      "\x7b\x7b#if name\x7d\x7dyes\x7b\x7b#endif\x7d\x7d", "\x7bname\x7d\x7d"] := rfl
    rw [htexts]
    intro source hsource htags
    simp only [List.mem_cons, List.not_mem_nil, or_false] at hsource
    rcases hsource with rfl | rfl | rfl
    · exact ⟨_, by cbv⟩
    · exact ⟨_, by cbv⟩
    · exact absurd htags (by decide)
  have hleaves : (⟨Leaf.Cache.empty, [], []⟩ : Progress).leaves.IsFaithful :=
    Leaf.Cache.isFaithful_empty
  have hletter := arguments_substituted [] hleaves hread
  exact ⟨hread, by cbv, hletter.1, hletter.2.2.1 named⟩

end Compilation

end Blueprint

end ChatPrompt
