import ApiGateway.Proofs.ResourceTree.Order
import ApiGateway.Proofs.Terraform.Emission

/-! Which of the nodes that share a name gets the block: the one of least depth, and of those the
one with the least segments. It is the one with the least path as long as no segments cross, as on
any paths without characters below the slash. -/

namespace ApiGateway

open ResourceTree (Node)

theorem Endpoint.not_crosses_of_plain {es : List Endpoint}
    (h : ∀ e ∈ es, ∀ c ∈ e.path.toList, '/' ≤ c) {p q : Segments}
    (hq : q ∈ Path.parts (es.map Endpoint.segments)) : ¬ Path.Crosses p q := by
  intro hcross
  obtain ⟨s, hs, c, hc, hbelow⟩ := hcross.exists_below
  obtain ⟨-, ss, hss, hpre⟩ := Path.mem_parts.mp hq
  obtain ⟨e, he, rfl⟩ := List.mem_map.mp hss
  exact not_lt_of_ge (h e he c (Path.mem_of_mem_split (hpre.subset hs) hc)) hbelow

namespace Terraform

/-- The nodes that get a block when some names are known: one for every other name, and in the
given order no node of that name comes before it. -/
structure Elects (order : Node → Node → Ordering) (t : ResourceTree) (known : Emitted)
    (ns : List Node) : Prop where
  emitted : ∃ names, emit t known = .ok (ns.map fun n => resourceBlock n.segments, names)
  stored : ns ⊆ t.toList
  nodup : (ns.map Node.name).Nodup
  covers : ∀ x, x ∈ ns.map Node.name ↔ x ∉ known ∧ ∃ n ∈ t.toList, n.name = x
  first : ∀ n ∈ ns, ∀ m ∈ t.toList, m.name = n.name → m = n ∨ order n m = .lt

section Fresh

variable {known : Emitted} {ns : List Node} {m n : Node}

/-- A node gets the block before all that share its name and come later. -/
theorem fresh_first {R : Node → Node → Prop} (hR : ns.Pairwise R) (hn : n ∈ fresh known ns)
    (hm : m ∈ ns) (hname : m.name = n.name) : m = n ∨ R n m := by
  induction ns generalizing known with
  | nil => cases hm
  | cons a ns ih =>
    obtain ⟨ha, hns⟩ := List.pairwise_cons.mp hR
    have hnew (known : Emitted) (hn : n ∈ fresh known ns) : n.name ∉ known :=
      (mem_names_fresh.mp (List.mem_map_of_mem hn)).1
    rw [fresh] at hn
    split at hn
    next hknown =>
      rcases List.mem_cons.mp hm with rfl | hm
      · exact absurd (hname ▸ hknown) (hnew known hn)
      · exact ih hns hn hm
    next =>
      rcases List.mem_cons.mp hn with rfl | hn
      · exact (List.mem_cons.mp hm).imp_right (ha m)
      · rcases List.mem_cons.mp hm with rfl | hm
        · exact absurd (Keys.mem_insert_iff.mpr (.inl hname.symm)) (hnew _ hn)
        · exact ih hns hn hm

end Fresh

section Elects

variable {rs : List Segments} (hrs : ∀ ss ∈ rs, Path.SlashFree ss)
include hrs

theorem emit_fresh (known : Emitted) :
    emit (.ofLists rs) known =
      .ok ((fresh known (ResourceTree.ofLists rs).byDepth).map fun n => resourceBlock n.segments,
        known.insertMany ((ResourceTree.ofLists rs).byDepth.map Node.name)) := by
  rw [emit, emitNodes_eq, Endpoint.mapM_eq_ok fun _ hn => nodeBlock_ofLists hrs hn]
  rfl

/-- In whatever order the nodes ascend, the first of each name gets the block. -/
theorem elects_fresh {order : Node → Node → Ordering}
    (hasc : (ResourceTree.ofLists rs).byDepth.Pairwise fun m n => order m n = .lt)
    (known : Emitted) :
    Elects order (.ofLists rs) known (fresh known (ResourceTree.ofLists rs).byDepth) where
  emitted := ⟨_, emit_fresh hrs known⟩
  stored n hn := ResourceTree.mem_byDepth.mp ((fresh_sublist _ _).subset hn)
  nodup := nodup_names_fresh
  covers x := by simp only [mem_names_fresh, ResourceTree.mem_byDepth]
  first n hn m hm hname := fresh_first hasc hn (ResourceTree.mem_byDepth.mpr hm) hname

end Elects

/-- Nodes are written by depth, name and segments, and of those that share a name the first gets the
block. They are in the order by depth, name and path exactly if no two nodes of one depth and one
name have segments that cross; then the node with the least path gets the block. -/
theorem byDepth_orderByPath_iff (es : List Endpoint) (t : ResourceTree)
    (h : ResourceTree.build es = .ok t) :
    t.byDepth.Perm t.toList ∧
    (t.byDepth.Pairwise fun m n => m.order n = .lt) ∧
    (∀ known, ∃ ns, Elects Node.order t known ns) ∧
    ((t.byDepth.Pairwise fun m n => m.orderByPath n = .lt) ↔
      ∀ m ∈ t.toList, ∀ n ∈ t.toList, m.depth = n.depth → m.name = n.name →
        ¬ Path.Crosses m.segments n.segments) ∧
    ((t.byDepth.Pairwise fun m n => m.orderByPath n = .lt) →
      ∀ known, ∃ ns, Elects Node.orderByPath t known ns) ∧
    ((∀ e ∈ es, ∀ c ∈ e.path.toList, '/' ≤ c) →
      t.byDepth.Pairwise fun m n => m.orderByPath n = .lt) := by
  have hroutable := ResourceTree.routable_of_build_eq_ok h
  rw [ResourceTree.build_of_routable hroutable, Except.ok.injEq] at h
  subst h
  have hrs := Endpoint.forall_mem_slashFree es
  have holds := ResourceTree.holds_ofLists (es.map Endpoint.segments)
  have hasc := holds.pairwise_byDepth
  have hiff := holds.pairwise_orderByPath_iff (ResourceTree.parts_kind hrs)
  refine ⟨List.mergeSort_perm _ _, hasc, fun known => ⟨_, elects_fresh hrs hasc known⟩, hiff,
    fun hpath known => ⟨_, elects_fresh hrs hpath known⟩, fun hplain => ?_⟩
  refine hiff.mpr fun m _ n hn _ _ => ?_
  exact Endpoint.not_crosses_of_plain hplain (holds.stored (holds.mem_toList.mp hn)).2

theorem byDepth_orderByPath_iff_underscore :
    ∃ t, ResourceTree.build [⟨"/a_b/c", .get, "https://example.com", false⟩,
        ⟨"/a/b_c", .get, "https://example.com", false⟩] = .ok t ∧
      (t.byDepth.Pairwise fun m n => m.orderByPath n = .lt) ∧
      ∃ ns, Elects Node.orderByPath t ∅ ns := by
  have hbuild : ResourceTree.build [⟨"/a_b/c", .get, "https://example.com", false⟩,
      ⟨"/a/b_c", .get, "https://example.com", false⟩] =
        .ok (.ofLists [["a_b", "c"], ["a", "b_c"]]) := by decide +kernel
  obtain ⟨-, -, -, -, helects, hplain⟩ := byDepth_orderByPath_iff _ _ hbuild
  have hpath := hplain (by simp)
  exact ⟨_, hbuild, hpath, helects hpath ∅⟩

section Dash

/-- The segments of `/a/-b` and `/a-/b`. -/
def dashed : List Segments := [["a", "-b"], ["a-", "b"]]

theorem slashFree_dashed : ∀ ss ∈ dashed, Path.SlashFree ss := by
  unfold dashed Path.SlashFree
  decide

theorem not_orderByPath_dashed :
    ¬ (ResourceTree.ofLists dashed).byDepth.Pairwise fun m n => m.orderByPath n = .lt := by
  have holds := ResourceTree.holds_ofLists dashed
  have hkind {p : Segments} (hp : p ∈ Path.parts dashed) :=
    ResourceTree.parts_kind slashFree_dashed hp
  have hnode {p : Segments} (hp : p ∈ dashed) (hne : p ≠ []) :
      ∃ n ∈ (ResourceTree.ofLists dashed).toList, n.segments = p := by
    obtain ⟨n, hn, hseg⟩ := holds.get?_key hkind (Path.mem_parts_self hp hne)
    exact ⟨n, holds.mem_toList.mpr (by rwa [Node.path, hseg]), hseg⟩
  obtain ⟨m, hm, hmseg⟩ := hnode List.mem_cons_self (List.cons_ne_nil "a" ["-b"])
  obtain ⟨n, hn, hnseg⟩ := hnode (List.mem_cons_of_mem _ List.mem_cons_self)
    (List.cons_ne_nil "a-" ["b"])
  rw [holds.pairwise_orderByPath_iff hkind]
  intro hcross
  refine hcross m hm n hn (by rw [Node.depth, Node.depth, hmseg, hnseg]; rfl) ?_ ?_
  · rw [(holds.coherent_of_mem hm).name, (holds.coherent_of_mem hn).name, hmseg, hnseg]
    decide +kernel
  · have hgoesOn : "a-".toList = "a".toList ++ '-' :: [] := by decide
    rw [hmseg, hnseg]
    exact .here [] ["b"] hgoesOn (by decide)

/-- The block of the shared name is that of `/a/-b`, though `/a-/b` is the lesser path. -/
theorem kept_dashed : ["a", "-b"] ∈ Path.kept dashed ∧
    ∀ p ∈ Path.kept dashed, Path.resourceName p = "a__b" → p = ["a", "-b"] := by
  have hpart : ["a", "-b"] ∈ Path.parts dashed := Path.mem_parts_self (by decide) (by decide)
  have hleast : ∀ p ∈ Path.parts dashed, Path.resourceName p = "a__b" →
      Path.order p ["a", "-b"] ≠ .lt := by decide +kernel
  have hname : Path.resourceName ["a", "-b"] = "a__b" := by decide +kernel
  obtain ⟨q, hq, hqname, hfirst⟩ := Path.exists_kept hpart
  obtain rfl := hfirst.resolve_right
    (hleast q (Path.mem_parts_of_mem_kept hq) (hqname.trans hname))
  refine ⟨hq, fun p hp hpname => ?_⟩
  exact List.inj_on_of_nodup_map (Path.nodup_names_kept dashed) hp hq (hpname.trans hname.symm)

/-- Two paths for which neither the order nor the block is that of the least path. -/
theorem byDepth_not_by_path :
    ∃ t, ResourceTree.build [⟨"/a/-b", .get, "https://example.com", false⟩,
        ⟨"/a-/b", .get, "https://example.com", false⟩] = .ok t ∧
      ¬ (t.byDepth.Pairwise fun m n => m.orderByPath n = .lt) ∧
      ∃ bs names, emit t ∅ = .ok (bs, names) ∧ .resource "a__b" (some "a") "-b" ∈ bs ∧
        .resource "a__b" (some "a_") "b" ∉ bs ∧ compare "/a-/b" "/a/-b" = .lt := by
  have hbuild : ResourceTree.build [⟨"/a/-b", .get, "https://example.com", false⟩,
      ⟨"/a-/b", .get, "https://example.com", false⟩] = .ok (.ofLists dashed) := by decide +kernel
  obtain ⟨hmem, honly⟩ := kept_dashed
  refine ⟨_, hbuild, not_orderByPath_dashed, _, _, emit_ofLists slashFree_dashed ∅, ?_, ?_,
    by decide +kernel⟩
  · have hblock : resourceBlock ["a", "-b"] = .resource "a__b" (some "a") "-b" := by
      decide +kernel
    rw [← hblock]
    exact List.mem_map_of_mem (List.mem_filter.mpr
      ⟨hmem, decide_eq_true Std.ExtTreeSet.not_mem_empty⟩)
  · intro hother
    obtain ⟨p, hp, hblock⟩ := List.mem_map.mp hother
    obtain ⟨hname, -, hpart⟩ := Block.resource.inj hblock
    rw [honly p (List.mem_filter.mp hp).1 hname] at hpart
    exact absurd hpart (by decide)

end Dash

end Terraform
end ApiGateway
