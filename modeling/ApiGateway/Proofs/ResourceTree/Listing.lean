import ApiGateway.Proofs.ResourceTree.Walk

/-! The listing of a tree of slash-free lists is a sorted list. The walk down the tree comes by the
nodes in the order of their segments, a list before the lists that go on from it, although the keys
of all nodes are in another order. -/

namespace ApiGateway.ResourceTree

/-- The nodes in the order of their segments. -/
def bySegments (t : ResourceTree) : List Node :=
  t.toList.mergeSort fun m n => (compare m.segments n.segments).isLE

/-- The stop that a node makes in a walk from the roots. -/
def Node.visit (n : Node) : Visit := ⟨n.depth - 1, n.path, some n⟩

/-- Ascending nodes: all that go on behind `p` with a segment that one of the keys is made of. -/
structure Covers (t : ResourceTree) (p : Segments) (keys : List String) (ns : List Node) :
    Prop where
  ascending : ns.Pairwise fun m n => compare m.segments n.segments = .lt
  mem_iff : ∀ n, n ∈ ns ↔
    n ∈ t.toList ∧ ∃ s, Path.key (p ++ [s]) ∈ keys ∧ p ++ [s] <+: n.segments

/-- Every node once, each right behind its parent or what is below siblings before it, and siblings
by their last segments. -/
structure Nested (t : ResourceTree) (ns : List Node) : Prop where
  perm : ns.Perm t.toList
  nodup : ns.Nodup
  ascending : ns.Pairwise fun m n => compare m.segments n.segments = .lt
  group : ∀ before m after, ns = before ++ m :: after → ∃ below rest, after = below ++ rest ∧
    ∀ n ∈ ns, n ∈ below ↔ m.segments <+: n.segments ∧ n ≠ m
  parent : ∀ n ∈ ns, n.parent ≠ .root →
    ∃ m ∈ ns, n.parent = .path m.path ∧ m.segments = n.segments.dropLast
  siblings : ns.Pairwise fun m n => m.parent = n.parent → compare m.lastSegment n.lastSegment = .lt

theorem Node.line_eq (level : Nat) (n : Node) :
    n.line level = String.ofList (List.replicate (2 * level) ' ') ++ n.lastSegment ++
      " (" ++ n.name ++ ")\n" := by
  have hindent : Text.joinWith "" (List.replicate level "  ") =
      String.ofList (List.replicate (2 * level) ' ') := by
    induction level with
    | zero => rfl
    | succ level ih =>
      rw [List.replicate_succ, Text.joinWith_empty_cons, ih]
      apply String.toList_injective
      simp [Nat.mul_succ, List.replicate_succ]
  rw [Node.line, hindent]

section Order

variable {rs : List Segments} {ns before after : List Node} {m n : Node}

theorem eq_of_segments_eq (hm : m ∈ (ofLists rs).toList) (hn : n ∈ (ofLists rs).toList)
    (h : m.segments = n.segments) : m = n :=
  List.inj_on_of_nodup_map (holds_ofLists rs).nodup_segments hm hn h

theorem segments_mem_parts (hn : n ∈ (ofLists rs).toList) : n.segments ∈ Path.parts rs := by
  have holds := holds_ofLists rs
  exact (holds.stored (holds.mem_toList.mp hn)).2

theorem nodup_of_ascending (h : ns.Pairwise fun m n => compare m.segments n.segments = .lt) :
    ns.Nodup := by
  refine h.imp fun {m n} hlt => ?_
  exact ne_of_apply_ne Node.segments (ne_of_compare_eq_lt hlt)

theorem mem_bySegments {t : ResourceTree} {n : Node} : n ∈ t.bySegments ↔ n ∈ t.toList :=
  List.mem_mergeSort

theorem pairwise_bySegments (t : ResourceTree) :
    t.bySegments.Pairwise fun m n => (compare m.segments n.segments).isLE := by
  have htrans (l m n : Node) (hlm : (compare l.segments m.segments).isLE)
      (hmn : (compare m.segments n.segments).isLE) : (compare l.segments n.segments).isLE :=
    Std.TransCmp.isLE_trans hlm hmn
  refine List.pairwise_mergeSort htrans (fun m n => ?_) t.toList
  have hswap : compare n.segments m.segments = (compare m.segments n.segments).swap :=
    Std.OrientedCmp.eq_swap
  rw [hswap]
  cases compare m.segments n.segments <;> rfl

/-- Ascending nodes are determined by what they are. -/
theorem eq_bySegments (hasc : ns.Pairwise fun m n => compare m.segments n.segments = .lt)
    (hmem : ∀ n, n ∈ ns ↔ n ∈ (ofLists rs).toList) : ns = (ofLists rs).bySegments := by
  have hnodup : (ofLists rs).toList.Nodup := (holds_ofLists rs).nodup_segments.of_map
  have hperm : ns.Perm (ofLists rs).toList :=
    (List.perm_ext_iff_of_nodup (nodup_of_ascending hasc) hnodup).mpr hmem
  refine List.Perm.eq_of_pairwise (fun m n hm hn hmn hnm => ?_)
    (hasc.imp fun h => by rw [h]; rfl) (pairwise_bySegments _)
    (hperm.trans (List.mergeSort_perm _ _).symm)
  have heq := Std.LawfulEqCmp.eq_of_compare (Std.OrientedCmp.isLE_antisymm hmn hnm)
  exact eq_of_segments_eq ((hmem m).mp hm) (mem_bySegments.mp hn) heq

/-- Of ascending nodes behind a node those that go on from it come first, since what stands between
two lists that go on from a third one goes on from it too. -/
theorem exists_group_behind
    (hasc : (m :: after).Pairwise fun m n => compare m.segments n.segments = .lt) :
    ∃ below rest, after = below ++ rest ∧ ∀ n ∈ after, n ∈ below ↔ m.segments <+: n.segments := by
  induction after with
  | nil => exact ⟨[], [], rfl, by simp⟩
  | cons a after ih =>
    obtain ⟨hm, hafter⟩ := List.pairwise_cons.mp hasc
    by_cases ha : m.segments <+: a.segments
    · have hskip : (m :: after).Sublist (m :: a :: after) :=
        List.Sublist.cons_cons m (List.sublist_cons_self a after)
      obtain ⟨below, rest, rfl, hiff⟩ := ih (hasc.sublist hskip)
      refine ⟨a :: below, rest, rfl, List.forall_mem_cons.mpr ⟨by simp [ha], fun n hn => ?_⟩⟩
      have hne : n ≠ a := by
        rintro rfl
        exact ne_of_compare_eq_lt ((List.pairwise_cons.mp hafter).1 n hn) rfl
      rw [List.mem_cons, hiff n hn]
      exact or_iff_right hne
    · refine ⟨[], a :: after, rfl, fun n hn => iff_of_false List.not_mem_nil fun hpre => ?_⟩
      rcases List.mem_cons.mp hn with rfl | hn
      · exact ha hpre
      · have han := (List.pairwise_cons.mp hafter).1 n hn
        exact ha (prefix_of_between (hm a List.mem_cons_self) han hpre)

theorem exists_group (hasc : (before ++ m :: after).Pairwise
    fun m n => compare m.segments n.segments = .lt) :
    ∃ below rest, after = below ++ rest ∧
      ∀ n ∈ before ++ m :: after, n ∈ below ↔ m.segments <+: n.segments ∧ n ≠ m := by
  obtain ⟨-, hfrom, hbefore⟩ := List.pairwise_append.mp hasc
  obtain ⟨below, rest, rfl, hiff⟩ := exists_group_behind hfrom
  refine ⟨below, rest, rfl, fun n hn => ⟨fun hbelow => ?_, fun ⟨hpre, hne⟩ => ?_⟩⟩
  · have hafter : n ∈ below ++ rest := List.mem_append_left rest hbelow
    refine ⟨(hiff n hafter).mp hbelow, ?_⟩
    rintro rfl
    exact ne_of_compare_eq_lt ((List.pairwise_cons.mp hfrom).1 n hafter) rfl
  · rcases List.mem_append.mp hn with hn | hn
    · -- A node before `m` is smaller, and what goes on from `m` is not.
      have hlt := hbefore n hn m List.mem_cons_self
      obtain ⟨more, hmore⟩ := hpre
      rw [← hmore] at hlt
      exact absurd hlt (not_compare_append_lt _ _)
    · exact (hiff n ((List.mem_cons.mp hn).resolve_left hne)).mpr hpre

theorem mem_roots_iff {k : String} :
    k ∈ (ofLists rs).roots ↔ ∃ s, [s] ∈ Path.parts rs ∧ Path.key [s] = k := by
  have hroots := links_ofLists rs .root k
  rw [childrenOf] at hroots
  rw [hroots]
  constructor
  · rintro ⟨p, hp, hparent, hkey⟩
    have hpos := List.length_pos_iff.mpr (Path.ne_nil_of_mem_parts hp)
    have hlen := Parent.ofSegments_eq_root_iff.mp hparent
    obtain ⟨s, rfl⟩ := List.length_eq_one_iff.mp (Nat.le_antisymm hlen hpos)
    exact ⟨s, hp, hkey⟩
  · rintro ⟨s, hs, hkey⟩
    exact ⟨[s], hs, Parent.ofSegments_eq_root_iff.mpr le_rfl, hkey⟩

end Order

section SlashFree

variable {rs : List Segments} (hrs : ∀ ss ∈ rs, Path.SlashFree ss)
include hrs

/-- The children of a node in the order of their keys are in the order of their segments. -/
theorem Covers.cons {p : Segments} {s : String} {keys : List String} {n : Node} {ms ns : List Node}
    (hn : (ofLists rs).get? (Path.key (p ++ [s])) = some n) (hs : p ++ [s] ∈ Path.parts rs)
    (hbelow : (ofLists rs).Covers (p ++ [s]) n.children.toList ms)
    (hrest : (ofLists rs).Covers p keys ns)
    (hfirst : ∀ k ∈ keys, compare (Path.key (p ++ [s])) k = .lt) :
    (ofLists rs).Covers p (Path.key (p ++ [s]) :: keys) (n :: (ms ++ ns)) := by
  have hsegments : n.segments = p ++ [s] := (standsFor_of_get? hrs hs hn).segments
  have hstored : n ∈ (ofLists rs).toList := mem_toList_iff.mpr ⟨_, hn⟩
  have hms {m : Node} (hm : m ∈ ms) :
      p ++ [s] <+: m.segments ∧ compare n.segments m.segments = .lt := by
    obtain ⟨-, u, -, more, hmore⟩ := (hbelow.mem_iff m).mp hm
    rw [List.append_assoc] at hmore
    rw [← hmore, hsegments]
    exact ⟨List.prefix_append _ _, compare_append_self (by simp)⟩
  have hns {m l : Node} (hm : p ++ [s] <+: m.segments) (hl : l ∈ ns) :
      compare m.segments l.segments = .lt := by
    obtain ⟨-, t, ht, hpre⟩ := (hrest.mem_iff l).mp hl
    exact Path.compare_of_concat_prefix (Path.compare_key_concat_iff.mp (hfirst _ ht)) hm hpre
  refine ⟨List.pairwise_cons.mpr ⟨fun m hm => ?_, List.pairwise_append.mpr
    ⟨hbelow.ascending, hrest.ascending, fun m hm l hl => hns (hms hm).1 hl⟩⟩, fun m => ⟨?_, ?_⟩⟩
  · rcases List.mem_append.mp hm with hm | hm
    · exact (hms hm).2
    · exact hns (hsegments ▸ List.prefix_rfl) hm
  · rw [List.mem_cons, List.mem_append]
    rintro (rfl | hm | hm)
    · exact ⟨hstored, s, List.mem_cons_self, hsegments ▸ List.prefix_rfl⟩
    · exact ⟨((hbelow.mem_iff m).mp hm).1, s, List.mem_cons_self, (hms hm).1⟩
    · obtain ⟨hm, t, ht, hpre⟩ := (hrest.mem_iff m).mp hm
      exact ⟨hm, t, List.mem_cons_of_mem _ ht, hpre⟩
  · rintro ⟨hm, t, ht, hpre⟩
    rw [List.mem_cons, List.mem_append]
    rcases List.mem_cons.mp ht with heq | ht
    · obtain rfl := Path.key_concat_injective heq
      obtain ⟨more, hmore⟩ := hpre
      cases more with
      | nil =>
        rw [List.append_nil] at hmore
        exact .inl (eq_of_segments_eq hm hstored (hmore.symm.trans hsegments.symm))
      | cons u more =>
        -- The part one segment longer is a part of the tree too, and so a child of the node.
        have hlonger : p ++ [t] ++ [u] <+: m.segments := ⟨more, by rw [← hmore]; simp⟩
        have hpart := Path.mem_parts_of_prefix (segments_mem_parts hm) hlonger (by simp)
        have hchild := (mem_children_iff hrs hs hn _).mpr ⟨u, hpart, rfl⟩
        refine .inr (.inl ((hbelow.mem_iff m).mpr ⟨hm, u, ?_, hlonger⟩))
        exact Std.ExtTreeSet.mem_toList.mpr hchild
    · exact .inr (.inr ((hrest.mem_iff m).mpr ⟨hm, t, ht, hpre⟩))

/-- A walk comes by nodes in the order of their segments, each at the level of its depth. -/
theorem Walk.exists_covers {level : Nat} {keys : List String} {vs : List Visit}
    (h : (ofLists rs).Walk level keys vs) {p : Segments} (hlevel : p.length = level)
    (hsorted : keys.Pairwise fun j k => compare j k = .lt)
    (hkeys : ∀ k ∈ keys, ∃ s, p ++ [s] ∈ Path.parts rs ∧ Path.key (p ++ [s]) = k) :
    ∃ ns, vs = ns.map Node.visit ∧ (ofLists rs).Covers p keys ns := by
  induction h generalizing p with
  | done => exact ⟨[], rfl, ⟨List.Pairwise.nil, by simp⟩⟩
  | missing hkey _ _ =>
    obtain ⟨s, hs, rfl⟩ := hkeys _ List.mem_cons_self
    obtain ⟨n, hn⟩ := (holds_ofLists rs).present hs
    exact absurd (hkey.symm.trans hn) (Option.some_ne_none n).symm
  | @node level key keys n below vs hkey _ _ ihbelow ih =>
    obtain ⟨⟨s, hs, rfl⟩, hothers⟩ := List.forall_mem_cons.mp hkeys
    obtain ⟨hfirst, hsorted⟩ := List.pairwise_cons.mp hsorted
    have hsegments : n.segments = p ++ [s] := (standsFor_of_get? hrs hs hkey).segments
    have hdown : ∀ k ∈ n.children.toList, ∃ u,
        p ++ [s] ++ [u] ∈ Path.parts rs ∧ Path.key (p ++ [s] ++ [u]) = k := fun k hk =>
      (mem_children_iff hrs hs hkey k).mp (Std.ExtTreeSet.mem_toList.mp hk)
    obtain ⟨ms, rfl, hms⟩ := ihbelow (by simp [hlevel]) Std.ExtTreeSet.ordered_toList hdown
    obtain ⟨ns, rfl, hns⟩ := ih hlevel hsorted hothers
    refine ⟨n :: (ms ++ ns), ?_, Covers.cons hrs hkey hs hms hns hfirst⟩
    have hvisit : n.visit = ⟨level, Path.key (p ++ [s]), some n⟩ := by
      simp [Node.visit, Node.depth, Node.path, hsegments, hlevel]
    rw [List.map_cons, List.map_append, hvisit]

theorem Walk.eq_bySegments {vs : List Visit}
    (h : (ofLists rs).Walk 0 (ofLists rs).roots.toList vs) :
    vs = (ofLists rs).bySegments.map Node.visit ∧
      (ofLists rs).bySegments.Pairwise fun m n => compare m.segments n.segments = .lt := by
  have hkeys : ∀ k ∈ (ofLists rs).roots.toList,
      ∃ s, [] ++ [s] ∈ Path.parts rs ∧ Path.key ([] ++ [s]) = k := fun k hk =>
    mem_roots_iff.mp (Std.ExtTreeSet.mem_toList.mp hk)
  obtain ⟨ns, rfl, hns⟩ := h.exists_covers hrs rfl Std.ExtTreeSet.ordered_toList hkeys
  have hmem (n : Node) : n ∈ ns ↔ n ∈ (ofLists rs).toList := by
    rw [hns.mem_iff, and_iff_left_iff_imp]
    intro hn
    have hpart := segments_mem_parts hn
    obtain ⟨s, more, hsegments⟩ := List.exists_cons_of_ne_nil (Path.ne_nil_of_mem_parts hpart)
    have hpre : [s] <+: n.segments := ⟨more, hsegments.symm⟩
    have hroot := mem_roots_iff.mpr ⟨s, Path.mem_parts_of_prefix hpart hpre (by simp), rfl⟩
    exact ⟨s, Std.ExtTreeSet.mem_toList.mpr hroot, hpre⟩
  obtain rfl := ResourceTree.eq_bySegments hns.ascending hmem
  exact ⟨rfl, hns.ascending⟩

theorem dropLast_eq_of_parent_eq {m n : Node} (hm : m ∈ (ofLists rs).toList)
    (hn : n ∈ (ofLists rs).toList) (h : m.parent = n.parent) :
    m.segments.dropLast = n.segments.dropLast := by
  have hmpart := segments_mem_parts hm
  have hnpart := segments_mem_parts hn
  have hempty {p : Segments} (hlen : p.length ≤ 1) : p.dropLast = [] :=
    List.eq_nil_of_length_eq_zero (by rw [List.length_dropLast]; omega)
  rw [((holds_ofLists rs).coherent_of_mem hm).parent,
    ((holds_ofLists rs).coherent_of_mem hn).parent] at h
  cases hparent : Parent.ofSegments n.segments with
  | root =>
    rw [hparent] at h
    rw [hempty (Parent.ofSegments_eq_root_iff.mp h),
      hempty (Parent.ofSegments_eq_root_iff.mp hparent)]
  | path k =>
    rw [hparent] at h
    obtain ⟨hmlen, hmkey⟩ := Parent.ofSegments_eq_path_iff.mp h
    obtain ⟨hnlen, hnkey⟩ := Parent.ofSegments_eq_path_iff.mp hparent
    obtain ⟨hm₀, hmfree⟩ := parts_kind hrs (Path.dropLast_mem_parts hmpart hmlen)
    obtain ⟨hn₀, hnfree⟩ := parts_kind hrs (Path.dropLast_mem_parts hnpart hnlen)
    exact Path.key_injective hmfree hnfree hm₀ hn₀ (hmkey.trans hnkey.symm)

theorem compare_lastSegment {m n : Node} (hm : m ∈ (ofLists rs).toList)
    (hn : n ∈ (ofLists rs).toList) (hlt : compare m.segments n.segments = .lt)
    (h : m.parent = n.parent) : compare m.lastSegment n.lastSegment = .lt := by
  have hsplit {n : Node} (hn : n ∈ (ofLists rs).toList) :
      n.segments = n.segments.dropLast ++ [n.lastSegment] := by
    have hcoherent := (holds_ofLists rs).coherent_of_mem hn
    have hlast := hcoherent.getLast?_segments (Path.ne_nil_of_mem_parts (segments_mem_parts hn))
    exact (List.dropLast_append_getLast? _ hlast).symm
  rw [hsplit hm, hsplit hn, dropLast_eq_of_parent_eq hrs hm hn h, compare_append_left,
    compare_singleton] at hlt
  exact hlt

theorem nested_bySegments (hasc : (ofLists rs).bySegments.Pairwise
    fun m n => compare m.segments n.segments = .lt) :
    (ofLists rs).Nested (ofLists rs).bySegments where
  perm := List.mergeSort_perm _ _
  nodup := nodup_of_ascending hasc
  ascending := hasc
  group before m after h := by
    rw [h] at hasc ⊢
    exact exists_group hasc
  parent n hn hparent := by
    have hpart := segments_mem_parts (mem_bySegments.mp hn)
    have hcoherent := (holds_ofLists rs).coherent_of_mem (mem_bySegments.mp hn)
    rw [hcoherent.parent] at hparent ⊢
    have hlen : 1 < n.segments.length := by
      by_contra hle
      exact hparent (Parent.ofSegments_eq_root_iff.mpr (Nat.not_lt.mp hle))
    obtain ⟨m, hm, hsegments⟩ := (holds_ofLists rs).get?_key (parts_kind hrs)
      (Path.dropLast_mem_parts hpart hlen)
    refine ⟨m, mem_bySegments.mpr (mem_toList_iff.mpr ⟨_, hm⟩), ?_, hsegments⟩
    exact Parent.ofSegments_eq_path_iff.mpr ⟨hlen, by rw [Node.path, hsegments]⟩
  siblings := hasc.imp_of_mem fun hm hn hlt =>
    compare_lastSegment hrs (mem_bySegments.mp hm) (mem_bySegments.mp hn) hlt

end SlashFree

/-- The listing of a tree of slash-free lists has a line for every node, in the order of their
segments and indented by their depth, so that all that is below a node follows it. -/
theorem listing_eq_lexicographic (rs : List Segments) (hrs : ∀ ss ∈ rs, Path.SlashFree ss) :
    (ofLists rs).listing = Text.joinWith "" ((ofLists rs).bySegments.map fun n =>
      String.ofList (List.replicate (2 * (n.depth - 1)) ' ') ++ n.lastSegment ++
        " (" ++ n.name ++ ")\n") ∧
    (ofLists rs).Nested (ofLists rs).bySegments := by
  obtain ⟨vs, hvs⟩ := (wellFormed_ofLists rs).exists_isListedBy
  obtain ⟨rfl, hasc⟩ := hvs.walk.eq_bySegments hrs
  refine ⟨?_, nested_bySegments hrs hasc⟩
  rw [hvs.listing, List.map_map]
  congr 2
  funext n
  exact Node.line_eq (n.depth - 1) n

/-- In the order of the keys `/a-b` stands before `/a/x`, and `/a-b/c` between them. -/
theorem listing_eq_lexicographic_dash :
    (∀ ss ∈ [["a-b", "c"], ["b"], ["a", "x"]], Path.SlashFree ss) ∧
    Text.joinWith "" ((ofLists [["a-b", "c"], ["b"], ["a", "x"]]).bySegments.map fun n =>
      String.ofList (List.replicate (2 * (n.depth - 1)) ' ') ++ n.lastSegment ++
        " (" ++ n.name ++ ")\n") = "a (a)\n  x (a_x)\na-b (a_b)\n  c (a_b_c)\nb (b)\n" := by
  have hfree : ∀ ss ∈ [["a-b", "c"], ["b"], ["a", "x"]], Path.SlashFree ss := by
    unfold Path.SlashFree
    decide
  have htext : (ofLists [["a-b", "c"], ["b"], ["a", "x"]]).listing =
      "a (a)\n  x (a_x)\na-b (a_b)\n  c (a_b_c)\nb (b)\n" := by decide +kernel
  exact ⟨hfree, (listing_eq_lexicographic _ hfree).1.symm.trans htext⟩

end ApiGateway.ResourceTree
