import ApiGateway.Terraform.Emission
import ApiGateway.Proofs.ResourceTree.Content

/-! Emission without its running set of names. The blocks are those of the nodes that are first to
carry their name; over a tree of slash-free lists they are the blocks of the kept leading parts. -/

namespace ApiGateway.Terraform

open ResourceTree (Node)
open Endpoint (mapM_eq_ok)

/-- The nodes that get a block of their own: those whose name is new when their turn comes. -/
def fresh : Emitted → List Node → List Node
  | _, [] => []
  | known, n :: ns =>
    if n.name ∈ known then fresh known ns else n :: fresh (known.insert n.name) ns

def nodeBlock (t : ResourceTree) (n : Node) : Except EmissionError Block :=
  (parentName t n).map fun parent => .resource n.name parent n.lastSegment

/-- The name of the resource that one for these segments hangs on, none below the root. -/
def parentOf (p : Segments) : Option String :=
  if p.length ≤ 1 then none else some (Path.resourceName p.dropLast)

def resourceBlock (p : Segments) : Block :=
  .resource (Path.resourceName p) (parentOf p) (p.getLastD "")

theorem parentOf_of_top {p : Segments} (h : ¬ 1 < p.length) : parentOf p = none :=
  if_pos (Nat.not_lt.mp h)

theorem parentOf_of_below {p : Segments} (h : 1 < p.length) :
    parentOf p = some (Path.resourceName p.dropLast) := if_neg (Nat.not_le.mpr h)

theorem render_append (bs cs : List Block) : render (bs ++ cs) = render bs ++ render cs := by
  unfold render
  rw [List.map_append, Text.joinWith_empty_append]

section Fresh

variable {t : ResourceTree} {known : Emitted} {ns : List Node} {x : String}

/-- A run of the emission is one attempt for each node that is first to carry its name. -/
theorem emitNodes_eq (t : ResourceTree) (known : Emitted) (ns : List Node) :
    emitNodes t known ns = ((fresh known ns).mapM (nodeBlock t)).map fun bs =>
      (bs, known.insertMany (ns.map Node.name)) := by
  induction ns generalizing known with
  | nil => simp [emitNodes, fresh, Except.map, pure, Except.pure]
  | cons n ns ih =>
    rw [List.map_cons, Std.ExtTreeSet.insertMany_cons, emitNodes, fresh]
    split
    next hmem => rw [ih, Keys.insert_of_mem hmem]
    next =>
      rw [ih, List.mapM_cons]
      unfold nodeBlock
      cases parentName t n with
      | error e => rfl
      | ok parent =>
        cases (fresh (known.insert n.name) ns).mapM fun n =>
          (parentName t n).map fun parent => Block.resource n.name parent n.lastSegment <;> rfl

theorem fresh_sublist (known : Emitted) (ns : List Node) : (fresh known ns).Sublist ns := by
  induction ns generalizing known with
  | nil => exact List.Sublist.refl _
  | cons n ns ih =>
    rw [fresh]
    split
    · exact (ih known).cons n
    · exact (ih _).cons_cons n

/-- The nodes that get a block have all names that were not known. -/
theorem mem_names_fresh :
    x ∈ (fresh known ns).map Node.name ↔ x ∉ known ∧ ∃ n ∈ ns, n.name = x := by
  induction ns generalizing known with
  | nil => simp [fresh]
  | cons n ns ih =>
    rw [fresh]
    split
    next hmem =>
      rw [ih]
      refine and_congr_right fun hnew => ?_
      have hne : n.name ≠ x := by
        rintro rfl
        exact hnew hmem
      simp [hne]
    next hmem =>
      rw [List.map_cons, List.mem_cons, ih, Keys.mem_insert_iff]
      by_cases hx : x = n.name
      · subst hx
        simp [hmem]
      · simp [hx, Ne.symm hx]

theorem nodup_names_fresh : ((fresh known ns).map Node.name).Nodup := by
  induction ns generalizing known with
  | nil => exact List.nodup_nil
  | cons a ns ih =>
    rw [fresh]
    split
    · exact ih
    · rw [List.map_cons, List.nodup_cons]
      refine ⟨fun hmem => ?_, ih⟩
      exact (mem_names_fresh.mp hmem).1 (Keys.mem_insert_iff.mpr (.inl rfl))

theorem map_segments_fresh (known : Emitted) (h : ∀ n ∈ ns, n.Coherent) :
    (fresh known ns).map Node.segments =
      (Path.firstNamed (ns.map Node.segments)).filter (Path.resourceName · ∉ known) := by
  induction ns generalizing known with
  | nil => rfl
  | cons n ns ih =>
    obtain ⟨hn, hns⟩ := List.forall_mem_cons.mp h
    have hname : n.name = Path.resourceName n.segments := hn.name
    rw [fresh, List.map_cons, Path.firstNamed, List.filter_cons, List.filter_filter]
    split
    next hmem =>
      -- What bears the name of a skipped node is left out later because the name is known.
      rw [if_neg (by simpa [← hname] using hmem), ih _ hns]
      refine List.filter_congr fun p _ => ?_
      by_cases hp : Path.resourceName p ∈ known
      · simp [hp]
      · have hne : Path.resourceName p ≠ Path.resourceName n.segments := by
          rintro heq
          rw [heq, ← hname] at hp
          exact hp hmem
        simp [hp, hne]
    next hmem =>
      rw [if_pos (by simpa [← hname] using hmem), List.map_cons, ih _ hns]
      congr 1
      refine List.filter_congr fun p _ => ?_
      rw [Bool.eq_iff_iff, decide_eq_true_iff, Keys.mem_insert_iff, not_or]
      simp [hname, and_comm]

end Fresh

section Turn

variable {rs before after : List Segments} {known : Emitted} {p : Segments} {x : String}

theorem mem_known_or_turns :
    x ∈ known ∨ x ∈ ((Path.kept rs).filter (Path.resourceName · ∉ known)).map Path.resourceName ↔
      x ∈ known ∨ x ∈ (Path.kept rs).map Path.resourceName := by
  by_cases hx : x ∈ known
  · exact ⟨fun _ => .inl hx, fun _ => .inl hx⟩
  · refine or_congr_right ?_
    simp only [List.mem_map, List.mem_filter, decide_eq_true_eq]
    constructor
    · rintro ⟨p, ⟨hp, -⟩, rfl⟩
      exact ⟨p, hp, rfl⟩
    · rintro ⟨p, hp, rfl⟩
      exact ⟨p, ⟨hp, hx⟩, rfl⟩

variable (h : (Path.kept rs).filter (Path.resourceName · ∉ known) = before ++ p :: after)
include h

theorem turns_sublist : (before ++ p :: after).Sublist (Path.kept rs) := h ▸ List.filter_sublist

theorem mem_turns : p ∈ Path.kept rs ∧ Path.resourceName p ∉ known := by
  have hmem : p ∈ (Path.kept rs).filter (Path.resourceName · ∉ known) := h ▸ by simp
  obtain ⟨hkept, hnew⟩ := List.mem_filter.mp hmem
  exact ⟨hkept, of_decide_eq_true hnew⟩

/-- When the turn of a part has come, no part before it has taken its name. -/
theorem name_new_of_turn : Path.resourceName p ∉ before.map Path.resourceName := by
  intro hname
  have hnames := ((turns_sublist h).map Path.resourceName).nodup (Path.nodup_names_kept rs)
  rw [List.map_append, List.map_cons, List.nodup_middle, List.nodup_cons] at hnames
  exact hnames.1 (List.mem_append_left _ hname)

/-- When the turn of a part has come, the name that it hangs on is known or has been declared. -/
theorem parentOf_of_turn : parentOf p = none ∨
    ∃ x, (x ∈ known ∨ x ∈ before.map Path.resourceName) ∧ parentOf p = some x := by
  by_cases hlen : 1 < p.length
  · right
    obtain ⟨q, hq, hname, hlt⟩ := Path.exists_kept_parent (mem_turns h).1 hlen
    refine ⟨Path.resourceName q, ?_, by rw [parentOf_of_below hlen, hname]⟩
    by_cases hknown : Path.resourceName q ∈ known
    · exact .inl hknown
    · right
      have hturn : q ∈ before ++ p :: after :=
        h ▸ List.mem_filter.mpr ⟨hq, decide_eq_true hknown⟩
      have horder := (Path.pairwise_kept rs).sublist (turns_sublist h)
      exact List.mem_map_of_mem (Path.mem_before_of_order horder hturn hlt)
  · exact .inl (parentOf_of_top hlen)

end Turn

section SlashFree

variable {rs : List Segments}

theorem parentName_ofLists (hrs : ∀ ss ∈ rs, Path.SlashFree ss) {n : Node}
    (hn : n ∈ (ResourceTree.ofLists rs).toList) :
    parentName (.ofLists rs) n = .ok (parentOf n.segments) := by
  have holds := ResourceTree.holds_ofLists rs
  have hpart : n.segments ∈ Path.parts rs := (holds.stored (holds.mem_toList.mp hn)).2
  rw [parentName, (holds.coherent_of_mem hn).parent, Parent.ofSegments, parentOf]
  by_cases hlen : n.segments.length ≤ 1
  · simp [hlen]
  · -- The part above is a part of the same lists, so its key leads to its own node.
    obtain ⟨m, hm, hseg⟩ := holds.get?_key (ResourceTree.parts_kind hrs)
      (Path.dropLast_mem_parts hpart (by omega))
    simp [hlen, hm, (holds.coherent hm).name, hseg]

theorem nodeBlock_ofLists (hrs : ∀ ss ∈ rs, Path.SlashFree ss) {known : Emitted} {n : Node}
    (hn : n ∈ fresh known (ResourceTree.ofLists rs).byDepth) :
    nodeBlock (.ofLists rs) n = .ok (resourceBlock n.segments) := by
  have hmem := ResourceTree.mem_byDepth.mp ((fresh_sublist _ _).subset hn)
  have hcoherent := (ResourceTree.holds_ofLists rs).coherent_of_mem hmem
  rw [nodeBlock, parentName_ofLists hrs hmem, hcoherent.name, hcoherent.lastSegment]
  rfl

theorem coherent_of_mem_byDepth (rs : List Segments) :
    ∀ n ∈ (ResourceTree.ofLists rs).byDepth, n.Coherent := fun _ hn =>
  (ResourceTree.holds_ofLists rs).coherent_of_mem (ResourceTree.mem_byDepth.mp hn)

/-- Emission from a tree of slash-free lists never fails, and what it leaves out is known. -/
theorem emit_ofLists (hrs : ∀ ss ∈ rs, Path.SlashFree ss) (known : Emitted) :
    emit (.ofLists rs) known =
      .ok (((Path.kept rs).filter (Path.resourceName · ∉ known)).map resourceBlock,
        known.insertMany ((ResourceTree.ofLists rs).byDepth.map Node.name)) := by
  rw [emit, emitNodes_eq, mapM_eq_ok fun _ hn => nodeBlock_ofLists hrs hn, Path.kept,
    ← ResourceTree.map_segments_byDepth hrs,
    ← map_segments_fresh known (coherent_of_mem_byDepth rs), List.map_map]
  rfl

/-- An emission makes the names of all nodes known, whether or not they got a block. -/
theorem mem_insertMany_names {t : ResourceTree} {known : Emitted} {x : String} :
    x ∈ known.insertMany (t.byDepth.map Node.name) ↔ x ∈ known ∨ ∃ n ∈ t.toList, n.name = x := by
  simp only [Std.ExtTreeSet.mem_insertMany_list, List.contains_iff_mem, List.mem_map,
    ResourceTree.mem_byDepth]

theorem mem_names_kept (hrs : ∀ ss ∈ rs, Path.SlashFree ss) {x : String} :
    x ∈ (Path.kept rs).map Path.resourceName ↔
      ∃ n ∈ (ResourceTree.ofLists rs).toList, n.name = x := by
  rw [(Path.names_kept_perm rs).mem_iff, List.mem_dedup,
    ← (ResourceTree.names_perm_parts hrs).mem_iff, List.mem_map]

theorem emit_ofLists_of_known (hrs : ∀ ss ∈ rs, Path.SlashFree ss) {known : Emitted}
    (h : ∀ n ∈ (ResourceTree.ofLists rs).toList, n.name ∈ known) :
    emit (.ofLists rs) known = .ok ([], known) := by
  have hskip : (Path.kept rs).filter (Path.resourceName · ∉ known) = [] := by
    rw [List.filter_eq_nil_iff]
    intro p hp
    obtain ⟨n, hn, hname⟩ := (mem_names_kept hrs).mp (List.mem_map_of_mem hp)
    simpa [← hname] using h n hn
  have hsame : known.insertMany ((ResourceTree.ofLists rs).byDepth.map Node.name) = known := by
    ext x
    rw [mem_insertMany_names, or_iff_left_iff_imp]
    rintro ⟨n, hn, rfl⟩
    exact h n hn
  rw [emit_ofLists hrs, hskip, hsame]
  rfl

end SlashFree
end ApiGateway.Terraform
