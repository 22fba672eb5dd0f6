import ApiGateway.Proofs.ResourceTree.Order
import ApiGateway.Proofs.ResourceTree.WellFormed

/-! The order in which blocks are written is the only one. No two nodes of a tree are equal in it, so
their places are settled by comparing them, and however they are sorted the same list comes out.
Without slashes in the segments every node stands behind the one under the key of its parent. -/

namespace ApiGateway.ResourceTree

/-- The nodes of a tree in the one order that they can be in. -/
structure Ranks (t : ResourceTree) (ns : List Node) : Prop where
  perm : ns.Perm t.toList
  ascending : ns.Pairwise fun m n => m.order n = .lt
  places : ∀ (i j : Nat) (m n : Node), ns[i]? = some m → ns[j]? = some n →
    m.order n = compare i j
  unique : ∀ ms : List Node, ms.Perm t.toList → (ms.Pairwise fun m n => (m.order n).isLE) →
    ms = ns

/-- Every node but those on the root stands behind the node under the key of its parent, which is
one level above it. -/
def ParentsFirst (t : ResourceTree) (ns : List Node) : Prop :=
  ∀ (j : Nat) (n : Node) (key : String), ns[j]? = some n → n.parent = .path key →
    ∃ (i : Nat) (m : Node), i < j ∧ ns[i]? = some m ∧ t.get? key = some m ∧
      m.depth + 1 = n.depth

section Ranks

variable {t : ResourceTree} {P : Segments → Prop} {ns ms : List Node} {m n : Node} {i j : Nat}

/-- In an ascending list nodes compare like their places. -/
theorem order_eq_compare (hasc : ns.Pairwise fun m n => m.order n = .lt) (hi : ns[i]? = some m)
    (hj : ns[j]? = some n) : m.order n = compare i j := by
  obtain ⟨hi', rfl⟩ := List.getElem?_eq_some_iff.mp hi
  obtain ⟨hj', rfl⟩ := List.getElem?_eq_some_iff.mp hj
  have hlt := List.pairwise_iff_getElem.mp hasc
  rcases Nat.lt_trichotomy i j with hij | rfl | hij
  · rw [hlt i j hi' hj' hij, Nat.compare_eq_lt.mpr hij]
  · rw [Nat.compare_eq_eq.mpr rfl]
    exact Std.ReflCmp.compare_self
  · have hback := hlt j i hj' hi' hij
    rw [Std.OrientedCmp.gt_of_lt hback, Nat.compare_eq_gt.mpr hij]

/-- A list that nowhere descends is the ascending list of the same nodes. -/
theorem eq_of_ascending (hns : ns.Pairwise fun m n => m.order n = .lt) (hperm : ms.Perm ns)
    (hms : ms.Pairwise fun m n => (m.order n).isLE) : ms = ns := by
  have hweak : ns.Pairwise fun m n => (m.order n).isLE :=
    hns.imp fun {m n} hlt => by rw [hlt]; rfl
  refine hperm.eq_of_pairwise (fun m n hm hn hmn hnm => ?_) hms hweak
  -- Two nodes that are equal in the order stand at one place of the ascending list.
  obtain ⟨i, hi⟩ := List.mem_iff_getElem?.mp (hperm.subset hm)
  obtain ⟨j, hj⟩ := List.mem_iff_getElem?.mp hn
  have htie : m.order n = .eq := Std.OrientedCmp.isLE_antisymm hmn hnm
  rw [order_eq_compare hns hi hj, Nat.compare_eq_eq] at htie
  rw [htie, hj, Option.some.injEq] at hi
  exact hi.symm

theorem Holds.ranks_byDepth (h : t.Holds P) : t.Ranks t.byDepth where
  perm := List.mergeSort_perm _ _
  ascending := h.pairwise_byDepth
  places _ _ _ _ hi hj := order_eq_compare h.pairwise_byDepth hi hj
  unique _ hperm hms :=
    eq_of_ascending h.pairwise_byDepth (hperm.trans (List.mergeSort_perm _ _).symm) hms

end Ranks

section ParentsFirst

variable {rs : List Segments} {n : Node} {key : String}

/-- Without slashes the key of a parent leads to the node for all segments but the last. -/
theorem exists_parent (hrs : ∀ ss ∈ rs, Path.SlashFree ss) (hn : n ∈ (ofLists rs).toList)
    (hparent : n.parent = .path key) :
    ∃ m, (ofLists rs).get? key = some m ∧ m.depth + 1 = n.depth := by
  have holds := holds_ofLists rs
  have hpart : n.segments ∈ Path.parts rs := (holds.stored (holds.mem_toList.mp hn)).2
  rw [(holds.coherent_of_mem hn).parent] at hparent
  obtain ⟨hlen, rfl⟩ := Parent.ofSegments_eq_path_iff.mp hparent
  obtain ⟨m, hm, hseg⟩ := holds.get?_key (parts_kind hrs) (Path.dropLast_mem_parts hpart hlen)
  refine ⟨m, hm, ?_⟩
  rw [Node.depth, Node.depth, hseg, List.length_dropLast]
  omega

theorem parentsFirst_byDepth (hrs : ∀ ss ∈ rs, Path.SlashFree ss) :
    (ofLists rs).ParentsFirst (ofLists rs).byDepth := by
  intro j n key hj hparent
  have hranks := (holds_ofLists rs).ranks_byDepth
  have hn : n ∈ (ofLists rs).toList := mem_byDepth.mp (List.mem_of_getElem? hj)
  obtain ⟨m, hm, hdepth⟩ := exists_parent hrs hn hparent
  have hmem : m ∈ (ofLists rs).byDepth := mem_byDepth.mpr (mem_toList_iff.mpr ⟨key, hm⟩)
  obtain ⟨i, hi⟩ := List.mem_iff_getElem?.mp hmem
  have hlt : m.order n = .lt := Node.order_of_depth_lt (Nat.lt_of_succ_le (Nat.le_of_eq hdepth))
  rw [hranks.places i j m n hi hj] at hlt
  exact ⟨i, m, Nat.compare_eq_lt.mp hlt, hi, hm, hdepth⟩

end ParentsFirst

/-- Whatever lists were added to a tree, its nodes can be put into the order by depth, name and
segments in one way only; and if no segment has a slash, parents come before what hangs on them. -/
theorem ranks_and_parentsFirst (rs : List Segments) :
    (rs.foldl insert empty).Ranks (rs.foldl insert empty).byDepth ∧
      ((∀ ss ∈ rs, Path.SlashFree ss) →
        (rs.foldl insert empty).ParentsFirst (rs.foldl insert empty).byDepth) :=
  ⟨(holds_ofLists rs).ranks_byDepth, fun hrs => parentsFirst_byDepth hrs⟩

theorem ranks_and_parentsFirst_chain :
    (∀ ss ∈ [["z", "y", "x"], ["b"], ["", "z"]], Path.SlashFree ss) ∧
    ∃ (i j : Nat) (m n : Node), i < j ∧
      ([["z", "y", "x"], ["b"], ["", "z"]].foldl insert empty).byDepth[i]? = some m ∧
      ([["z", "y", "x"], ["b"], ["", "z"]].foldl insert empty).byDepth[j]? = some n ∧
      m.path = "/z/y" ∧ n.path = "/z/y/x" := by
  have hrs : ∀ ss ∈ [["z", "y", "x"], ["b"], ["", "z"]], Path.SlashFree ss := by
    unfold Path.SlashFree
    decide
  obtain ⟨hranks, hparents⟩ := ranks_and_parentsFirst [["z", "y", "x"], ["b"], ["", "z"]]
  have holds := holds_ofLists [["z", "y", "x"], ["b"], ["", "z"]]
  obtain ⟨n, hn, hseg⟩ := holds.get?_key (p := ["z", "y", "x"]) (parts_kind hrs) (by decide)
  have hmem := hranks.perm.mem_iff.mpr (mem_toList_iff.mpr ⟨_, hn⟩)
  obtain ⟨j, hj⟩ := List.mem_iff_getElem?.mp hmem
  have hparent : n.parent = .path (Path.key ["z", "y"]) := by
    rw [(holds.coherent hn).parent, hseg]
    rfl
  obtain ⟨i, m, hij, hi, hm, -⟩ := hparents hrs j n _ hj hparent
  exact ⟨hrs, i, j, m, n, hij, hi, hj, (holds.stored hm).1.symm, (holds.stored hn).1.symm⟩

/-- With a slash in a segment the node under the key of a parent can be the deeper one. -/
example : (do
    let t := [["a", "b", "c"], ["a/b/c", "d"]].foldl insert empty
    let m ← t.get? "/a/b/c"
    let n ← t.get? "/a/b/c/d"
    return (n.parent, n.order m)) = some (.path "/a/b/c", .lt) := by
  decide +kernel

end ApiGateway.ResourceTree
