import ApiGateway.Proofs.ResourceTree.WellFormed
import ApiGateway.Proofs.Terraform.Failure

/-! The parents of resource blocks, for a tree of any lists. Where lists share a key a block can
hang on another resource than the one for its own path, but never on one that is not there. -/

namespace ApiGateway.Terraform

section Parentage

variable {t : ResourceTree} {known names : Emitted} {blocks : List Block} {b : Block}

theorem mem_names_of_parentName {n : ResourceTree.Node} {x : String}
    (h : parentName t n = .ok (some x)) : ∃ m ∈ t.toList, m.name = x := by
  cases hparent : n.parent with
  | root => simp [parentName, hparent] at h
  | path key =>
    cases hm : t.get? key with
    | none => simp [parentName, hparent, hm] at h
    | some m =>
      simp only [parentName, hparent, hm, Except.ok.injEq, Option.some.injEq] at h
      exact ⟨m, ResourceTree.mem_toList_iff.mpr ⟨key, hm⟩, h⟩

/-- A block is that of a node whose parent, if it has one, is a node of the tree as well. -/
theorem exists_node_of_nodeBlock {n : ResourceTree.Node} (h : nodeBlock t n = .ok b) :
    ∃ parent, b = .resource n.name parent n.lastSegment ∧
      ∀ x, parent = some x → ∃ m ∈ t.toList, m.name = x := by
  cases hparent : parentName t n with
  | error err =>
    rw [nodeBlock, hparent] at h
    cases h
  | ok parent =>
    rw [nodeBlock, hparent] at h
    refine ⟨parent, (Except.ok.inj h).symm, ?_⟩
    rintro x rfl
    exact mem_names_of_parentName hparent

/-- The names that blocks hang on are all known after the emission. -/
theorem parent_known_of_emit (h : emit t known = .ok (blocks, names)) :
    ∀ b ∈ blocks, ∃ name parent part, b = .resource name parent part ∧
      ∀ x, parent = some x → x ∈ names := by
  rw [emit, emitNodes_eq] at h
  cases hbs : (fresh known t.byDepth).mapM (nodeBlock t) with
  | error err =>
    rw [hbs] at h
    cases h
  | ok bs =>
    rw [hbs] at h
    obtain ⟨rfl, rfl⟩ := Prod.mk.inj (Except.ok.inj h)
    intro b hb
    obtain ⟨n, -, hn⟩ := Endpoint.exists_of_mem_mapM hbs b hb
    obtain ⟨parent, hblock, hparent⟩ := exists_node_of_nodeBlock hn
    refine ⟨n.name, parent, n.lastSegment, hblock, fun x hx => ?_⟩
    exact mem_insertMany_names.mpr (.inr (hparent x hx))

end Parentage

/-- Whatever lists were added to a tree, all of it is in place, and so its blocks can be emitted
with any names known; what they hang on is known then. -/
theorem wellFormed_and_emits (rs : List Segments) :
    (ResourceTree.ofLists rs).WellFormed ∧
    ∀ known, ∃ blocks names, emit (.ofLists rs) known = .ok (blocks, names) ∧
      ∀ b ∈ blocks, ∃ name parent part, b = .resource name parent part ∧
        ∀ x, parent = some x → x ∈ names := by
  refine ⟨ResourceTree.wellFormed_ofLists rs, fun known => ?_⟩
  obtain ⟨⟨blocks, names⟩, hemit⟩ := exists_emit rs known
  exact ⟨blocks, names, hemit, parent_known_of_emit hemit⟩

/-- The single segment `a/b` has the key that the segments `a` and `b` have, so its node hangs on
the root and on the node of `a`. -/
theorem wellFormed_and_emits_shared_key :
    ((ResourceTree.ofLists [["a/b", "c"], ["a", "b"], [], ["", "a"]]).get? "/a/b").map
      ResourceTree.Node.segments = some ["a/b"] ∧
    (ResourceTree.ofLists [["a/b", "c"], ["a", "b"], [], ["", "a"]]).WellFormed ∧
    ∃ blocks names, emit (.ofLists [["a/b", "c"], ["a", "b"], [], ["", "a"]])
      ((∅ : Emitted).insert "a_b") = .ok (blocks, names) := by
  obtain ⟨hwf, hemits⟩ := wellFormed_and_emits [["a/b", "c"], ["a", "b"], [], ["", "a"]]
  obtain ⟨blocks, names, hemit, -⟩ := hemits ((∅ : Emitted).insert "a_b")
  exact ⟨by decide +kernel, hwf, blocks, names, hemit⟩

end ApiGateway.Terraform
