import ChatPrompt.Proofs.Translation

/-!
# A layout is compiled element by element

Where a template goes through, nothing of its layout is left out: each message becomes a message
of the same role, open for the model exactly if it was declared so, and each place for a slot
becomes one. Only messages of the assistant are open then, since any other is an issue.
-/

namespace ChatPrompt

namespace Blueprint.Compilation

open Template

/-- An element of the layout of a template and what it is compiled to. -/
inductive Corresponds : Template.LayoutNode → Blueprint.LayoutNode → Prop where
  /-- A message keeps its role and whether it is open, which only one of the assistant is. -/
  | message {details : LayoutMessage} {made : Message} (hrole : made.role = details.role)
    (hopen : made.openEnded = details.openEnded)
    (hassistant : details.openEnded = true → details.role = .assistant) :
    Corresponds (.message details) (.message made)
  /-- A place is for the slot of the same name. -/
  | slot {place : Template.Placeholder} {made : Placeholder} (hname : made.name = place.name) :
    Corresponds (.slot place) (.slot made)

/-- An element that is in order corresponds to its image. -/
theorem corresponds_of_becomes {allowed : Option (List String)} {slots : List Slot}
    {source : Template.LayoutNode} {made : Blueprint.LayoutNode}
    (hparts : ∀ part ∈ source.parts, part.IsInOrder allowed) (h : source.Becomes slots made) :
    Corresponds source made := by
  cases h with
  | message hdetails =>
    exact .message hdetails.role_eq hdetails.openEnded_eq (hparts (.opening _ _) List.mem_cons_self)
  | slot hname => exact .slot hname

end Blueprint.Compilation

open Blueprint.Compilation in
/-- The layout of a blueprint corresponds to that of its template, element by element. -/
theorem Compiler.IsReached.corresponds {compiler : Compiler} (h : compiler.IsReached)
    {allowed : Option (List String)} {source : Template} {blueprint : Blueprint}
    (hcompile : (compiler.compileAllowing allowed source).1 = .ok blueprint) :
    List.Forall₂ Corresponds source.layout blueprint.layout := by
  have hformed := (h.makes_iff allowed source).1 ⟨blueprint, hcompile⟩
  have hparts : ∀ node ∈ source.layout, ∀ part ∈ node.parts, part.IsInOrder allowed :=
    fun node hnode part hpart => hformed.parts_inOrder part
      (List.mem_append_left _ (List.mem_flatMap.2 ⟨node, hnode, hpart⟩))
  have hboth := (List.forall₂_and_left _ _).2 ⟨hparts, (h.becomes hcompile).layout⟩
  exact hboth.imp fun _ _ hnode => corresponds_of_becomes hnode.1 hnode.2

end ChatPrompt
