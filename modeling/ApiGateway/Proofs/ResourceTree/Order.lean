import ApiGateway.Proofs.Path.Order
import ApiGateway.Proofs.ResourceTree.Content

/-! The order in which blocks are written. Nodes of one depth and one name are in the order of their
segments; this is the order of their paths unless the segments of two of them cross. -/

namespace ApiGateway

theorem Path.Crosses.compare_eq_lt {p q : Segments} (h : Crosses p q) : compare p q = .lt := by
  induction h with
  | @here s t u c cs ps qs hgoesOn hbelow =>
    have hlonger : s.toList ++ [] < s.toList ++ c :: cs :=
      List.append_left_lt (List.nil_lt_cons c cs)
    rw [List.append_nil, ← hgoesOn] at hlonger
    exact compare_of_lt (Text.compare_eq_lt_iff.mpr hlonger) [] (u :: ps) qs
  | later s _ ih =>
    rw [List.compare_cons_cons, Std.compare_self, ih]
    rfl

namespace ResourceTree

/-- By depth, then by name, then by path. -/
def Node.orderByPath (m n : Node) : Ordering :=
  (compare m.depth n.depth).then ((compare m.name n.name).then (compare m.path n.path))

section Order

variable {t : ResourceTree} {P : Segments → Prop} {m n : Node}

theorem then_tie_eq_lt_iff {o : Ordering} :
    (compare m.depth n.depth).then ((compare m.name n.name).then o) = .lt ↔
      compare m.depth n.depth = .lt ∨ m.depth = n.depth ∧
        (compare m.name n.name = .lt ∨ m.name = n.name ∧ o = .lt) := by
  simp only [Ordering.then_eq_lt, Std.LawfulEqCmp.compare_eq_iff_eq]

theorem Node.order_of_depth_lt (h : m.depth < n.depth) : m.order n = .lt :=
  then_tie_eq_lt_iff.mpr (.inl (Nat.compare_eq_lt.mpr h))

instance : Std.TransCmp Node.order :=
  inferInstanceAs (Std.TransCmp (compareLex (compareOn Node.depth)
    (compareLex (compareOn Node.name) (compareOn Node.segments))))

/-- Different nodes have different segments, so none of them are equal in the order. -/
theorem Holds.pairwise_byDepth (h : t.Holds P) :
    t.byDepth.Pairwise fun m n => m.order n = .lt := by
  have hpairwise := Path.pairwise_sort h.nodup_segments
  rw [← h.map_segments_byDepth, List.pairwise_map] at hpairwise
  refine hpairwise.imp_of_mem fun {m n} hm hn hlt => ?_
  have hm := h.coherent_of_mem (mem_byDepth.mp hm)
  have hn := h.coherent_of_mem (mem_byDepth.mp hn)
  rwa [Node.order_eq hm hn]

/-- Of two nodes of an ascending list the smaller one stands first. -/
theorem rel_of_ascending {R : Node → Node → Prop} {ns : List Node}
    (hasc : ns.Pairwise fun m n => m.order n = .lt) (hR : ns.Pairwise R) (hm : m ∈ ns)
    (hn : n ∈ ns) (h : m.order n = .lt) : R m n := by
  have hforward : ns.Pairwise fun m n => m.order n = .lt → R m n :=
    hR.imp fun {m n} hmn (_ : m.order n = .lt) => hmn
  have hbackward : ns.Pairwise (flip fun m n => m.order n = .lt → R m n) :=
    hasc.imp fun hlt hgt => absurd hgt (Std.OrientedCmp.not_lt_of_lt hlt)
  exact List.Pairwise.forall_of_forall_of_flip
    (fun n _ hlt => absurd hlt (Std.OrientedCmp.not_lt_of_lt hlt)) hforward hbackward hm hn h

/-- Where segments do not cross, paths are in the order of the segments. -/
theorem Node.orderByPath_eq_lt (hm : m.segments ≠ []) (hn : n.segments ≠ [])
    (hfree : Path.SlashFree n.segments)
    (hcross : m.depth = n.depth → m.name = n.name → ¬ Path.Crosses m.segments n.segments)
    (h : m.order n = .lt) : m.orderByPath n = .lt := by
  refine then_tie_eq_lt_iff.mpr ((then_tie_eq_lt_iff.mp h).imp_right ?_)
  rintro ⟨hdepth, hlater⟩
  refine ⟨hdepth, hlater.imp_right ?_⟩
  rintro ⟨hname, hsegments⟩
  exact ⟨hname, (Path.compare_key_iff hm hn hfree hsegments).mpr (hcross hdepth hname)⟩

/-- Where segments cross, the node that comes first has the greater path. -/
theorem Node.not_orderByPath_of_crosses (hm : m.segments ≠ []) (hn : n.segments ≠ [])
    (hfree : Path.SlashFree n.segments) (hdepth : m.depth = n.depth) (hname : m.name = n.name)
    (h : Path.Crosses m.segments n.segments) : m.order n = .lt ∧ m.orderByPath n ≠ .lt := by
  have hsegments := h.compare_eq_lt
  refine ⟨then_tie_eq_lt_iff.mpr (.inr ⟨hdepth, .inr ⟨hname, hsegments⟩⟩), fun hlt => ?_⟩
  rcases then_tie_eq_lt_iff.mp hlt with hlt | ⟨-, hlt | ⟨-, hlt⟩⟩
  · exact ne_of_compare_eq_lt hlt hdepth
  · exact ne_of_compare_eq_lt hlt hname
  · exact (Path.compare_key_iff hm hn hfree hsegments).mp hlt h

theorem Holds.pairwise_orderByPath_iff (h : t.Holds P)
    (hP : ∀ {p}, P p → p ≠ [] ∧ Path.SlashFree p) :
    (t.byDepth.Pairwise fun m n => m.orderByPath n = .lt) ↔
      ∀ m ∈ t.toList, ∀ n ∈ t.toList, m.depth = n.depth → m.name = n.name →
        ¬ Path.Crosses m.segments n.segments := by
  have hkind {n : Node} (hn : n ∈ t.toList) : n.segments ≠ [] ∧ Path.SlashFree n.segments :=
    hP (h.stored (h.mem_toList.mp hn)).2
  constructor
  · intro hpath m hm n hn hdepth hname hcross
    obtain ⟨hlt, hnot⟩ := Node.not_orderByPath_of_crosses (hkind hm).1 (hkind hn).1 (hkind hn).2
      hdepth hname hcross
    exact hnot (rel_of_ascending h.pairwise_byDepth hpath (mem_byDepth.mpr hm)
      (mem_byDepth.mpr hn) hlt)
  · intro hcross
    refine h.pairwise_byDepth.imp_of_mem fun {m n} hm hn hlt => ?_
    have hm := mem_byDepth.mp hm
    have hn := mem_byDepth.mp hn
    exact Node.orderByPath_eq_lt (hkind hm).1 (hkind hn).1 (hkind hn).2 (hcross m hm n hn) hlt

end Order
end ResourceTree
end ApiGateway
