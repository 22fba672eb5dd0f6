import ApiGateway.Proofs.ResourceTree.WellFormed

/-! The listing of a tree as a walk from the roots to children and children of children, with
nothing that bounds its depth. On a tree that insertions made the walk ends, because keys grow
on the way down; it finds a node under every key, and it comes by every node. -/

namespace ApiGateway.ResourceTree

/-- To list a key is to list the keys of its children. -/
def Calls (t : ResourceTree) (child key : String) : Prop :=
  ∃ n, t.get? key = some n ∧ child ∈ n.children

/-- One stop of a walk: a key, how deep the walk is there, and the node under the key if any. -/
structure Visit where
  level : Nat
  key : String
  node? : Option Node

/-- What is written at a stop: nothing for a key without a node. -/
def Visit.text (v : Visit) : String := v.node?.elim "" (Node.line v.level)

/-- The stops of a walk that comes by the keys one after the other, and by the children of each
before the next key. -/
inductive Walk (t : ResourceTree) : Nat → List String → List Visit → Prop
  | done {level : Nat} : Walk t level [] []
  | missing {level : Nat} {key : String} {keys : List String} {vs : List Visit}
    (hkey : t.get? key = none) (hrest : Walk t level keys vs) :
    Walk t level (key :: keys) (⟨level, key, none⟩ :: vs)
  | node {level : Nat} {key : String} {keys : List String} {n : Node} {below vs : List Visit}
    (hkey : t.get? key = some n) (hbelow : Walk t (level + 1) n.children.toList below)
    (hrest : Walk t level keys vs) :
    Walk t level (key :: keys) (⟨level, key, some n⟩ :: (below ++ vs))

/-- How many nodes stand under longer keys. -/
def longer (t : ResourceTree) (key : String) : Nat :=
  (t.toList.filter fun n => key.length < n.path.length).length

/-- The listing as the text of one walk, which finds a node at every stop and misses none. -/
structure IsListedBy (t : ResourceTree) (vs : List Visit) : Prop where
  walk : t.Walk 0 t.roots.toList vs
  only : ∀ ws, t.Walk 0 t.roots.toList ws → ws = vs
  listing : t.listing = Text.joinWith "" (vs.map Visit.text)
  found : ∀ v ∈ vs, ∃ n, v.node? = some n
  covers : ∀ n ∈ t.toList, ∃ v ∈ vs, v.node? = some n

section Walk

variable {t : ResourceTree} {level : Nat} {key child : String} {keys js : List String}
  {vs ws : List Visit} {m n : Node}

theorem Walk.append (h : t.Walk level keys vs) (h' : t.Walk level js ws) :
    t.Walk level (keys ++ js) (vs ++ ws) := by
  induction h with
  | done => exact h'
  | missing hkey _ ih => exact .missing hkey (ih h')
  | node hkey hbelow _ _ ih =>
    rw [List.cons_append, List.cons_append, List.append_assoc]
    exact .node hkey hbelow (ih h')

theorem Walk.unique (h : t.Walk level keys vs) (h' : t.Walk level keys ws) : vs = ws := by
  induction h generalizing ws with
  | done =>
    cases h'
    rfl
  | missing hkey _ ih =>
    cases h' with
    | missing _ hrest => rw [ih hrest]
    | node hkey' _ _ => exact absurd (hkey.symm.trans hkey') (Option.some_ne_none _).symm
  | node hkey _ _ ihbelow ih =>
    cases h' with
    | missing hkey' _ => exact absurd (hkey'.symm.trans hkey) (Option.some_ne_none _).symm
    | node hkey' hbelow hrest =>
      obtain rfl := Option.some.inj (hkey.symm.trans hkey')
      rw [ihbelow hbelow, ih hrest]

/-- Walks for single keys make one for all of them. -/
theorem exists_walk_of_each (h : ∀ key ∈ keys, ∃ vs, t.Walk level [key] vs) :
    ∃ vs, t.Walk level keys vs := by
  induction keys with
  | nil => exact ⟨[], .done⟩
  | cons key keys ih =>
    obtain ⟨⟨vs, hvs⟩, hkeys⟩ := List.forall_mem_cons.mp h
    obtain ⟨ws, hws⟩ := ih hkeys
    exact ⟨vs ++ ws, hvs.append hws⟩

theorem WellFormed.longer_lt (hwf : t.WellFormed) (h : t.Calls child key) :
    t.longer child < t.longer key := by
  obtain ⟨n, hn, hchild⟩ := h
  have hlt := (hwf.node key n hn).length_lt hchild
  obtain ⟨⟨m, hm⟩, -⟩ := (hwf.node key n hn).children child hchild
  have hnested : t.toList.filter (fun n => child.length < n.path.length) =
      (t.toList.filter fun n => key.length < n.path.length).filter
        fun n => child.length < n.path.length := by
    rw [List.filter_filter]
    refine List.filter_congr fun n _ => ?_
    rw [Bool.eq_iff_iff, Bool.and_eq_true, decide_eq_true_iff, decide_eq_true_iff]
    omega
  -- The node of the child itself has a longer key than the parent, but not than the child.
  rw [longer, hnested, longer, List.length_filter_lt_length_iff_exists]
  refine ⟨m, List.mem_filter.mpr ⟨mem_toList_iff.mpr ⟨child, hm⟩, ?_⟩, ?_⟩
  · simpa [hwf.path_eq hm] using hlt
  · simp [hwf.path_eq hm]

theorem WellFormed.longer_lt_size (hwf : t.WellFormed) (hn : t.get? key = some n) :
    t.longer key < t.size := by
  rw [longer, ← length_toList, List.length_filter_lt_length_iff_exists]
  exact ⟨n, mem_toList_iff.mpr ⟨key, hn⟩, by simp [hwf.path_eq hn]⟩

theorem WellFormed.wellFounded_calls (hwf : t.WellFormed) : WellFounded t.Calls :=
  Subrelation.wf (fun h => hwf.longer_lt h) (InvImage.wf t.longer Nat.lt_wfRel.wf)

/-- A walk from one key ends, because no way down goes on for ever. -/
theorem WellFormed.exists_walk_one (hwf : t.WellFormed) (key : String) (level : Nat) :
    ∃ vs, t.Walk level [key] vs := by
  induction key using hwf.wellFounded_calls.induction generalizing level with
  | _ key ih =>
    cases hkey : t.get? key with
    | none => exact ⟨_, .missing hkey .done⟩
    | some n =>
      have hchildren : ∃ below, t.Walk (level + 1) n.children.toList below :=
        exists_walk_of_each fun child hchild =>
          ih child ⟨n, hkey, Std.ExtTreeSet.mem_toList.mp hchild⟩ (level + 1)
      obtain ⟨below, hbelow⟩ := hchildren
      exact ⟨_, .node hkey hbelow .done⟩

theorem listingFrom_of_missing (fuel : Nat) (hkey : t.get? key = none) :
    t.listingFrom fuel level key = "" := by
  cases fuel with
  | zero => rfl
  | succ fuel => rw [listingFrom, hkey]

/-- The bound on the depth of a listing does not show as long as more nodes are left than stand
under longer keys. -/
theorem Walk.joinWith_listingFrom (h : t.Walk level keys vs) (hwf : t.WellFormed) {fuel : Nat}
    (hfuel : ∀ key ∈ keys, t.longer key < fuel) :
    Text.joinWith "" (keys.map (t.listingFrom fuel level)) =
      Text.joinWith "" (vs.map Visit.text) := by
  induction h generalizing fuel with
  | done => rfl
  | missing hkey _ ih =>
    rw [List.map_cons, List.map_cons, Text.joinWith_empty_cons, Text.joinWith_empty_cons,
      listingFrom_of_missing fuel hkey, ih fun key hmem => hfuel key (List.mem_cons_of_mem _ hmem)]
    rfl
  | @node level key keys n below vs hkey _ _ ihbelow ih =>
    obtain ⟨hfirst, hrest⟩ := List.forall_mem_cons.mp hfuel
    obtain ⟨fuel, rfl⟩ : ∃ left, fuel = left + 1 := ⟨fuel - 1, by omega⟩
    have hdown : ∀ child ∈ n.children.toList, t.longer child < fuel := by
      intro child hchild
      have hlt := hwf.longer_lt ⟨n, hkey, Std.ExtTreeSet.mem_toList.mp hchild⟩
      omega
    have hnode : t.listingFrom (fuel + 1) level key =
        n.line level ++ Text.joinWith "" (below.map Visit.text) := by
      rw [listingFrom, hkey, ← ihbelow hdown]
    rw [List.map_cons, Text.joinWith_empty_cons, hnode, ih hrest, List.map_cons, List.map_append,
      Text.joinWith_empty_cons, Text.joinWith_empty_append, String.append_assoc]
    rfl

theorem Walk.found (h : t.Walk level keys vs) (hwf : t.WellFormed)
    (hkeys : ∀ key ∈ keys, ∃ n, t.get? key = some n) : ∀ v ∈ vs, ∃ n, v.node? = some n := by
  induction h with
  | done => simp
  | missing hkey _ _ =>
    obtain ⟨n, hn⟩ := hkeys _ List.mem_cons_self
    exact absurd (hkey.symm.trans hn) (Option.some_ne_none n).symm
  | node hkey _ _ ihbelow ih =>
    have hdown := ihbelow fun child hchild =>
      ((hwf.node _ _ hkey).children child (Std.ExtTreeSet.mem_toList.mp hchild)).1
    have hrest := ih fun key hmem => hkeys key (List.mem_cons_of_mem _ hmem)
    exact List.forall_mem_cons.mpr ⟨⟨_, rfl⟩, List.forall_mem_append.mpr ⟨hdown, hrest⟩⟩

theorem Walk.exists_visit (h : t.Walk level keys vs) (hmem : key ∈ keys)
    (hn : t.get? key = some n) : ∃ v ∈ vs, v.node? = some n := by
  induction h with
  | done => cases hmem
  | missing hkey _ ih =>
    rcases List.mem_cons.mp hmem with rfl | hmem
    · exact absurd (hkey.symm.trans hn) (Option.some_ne_none n).symm
    · obtain ⟨v, hv, hnode⟩ := ih hmem
      exact ⟨v, List.mem_cons_of_mem _ hv, hnode⟩
  | node hkey _ _ _ ih =>
    rcases List.mem_cons.mp hmem with rfl | hmem
    · exact ⟨_, List.mem_cons_self, hkey.symm.trans hn⟩
    · obtain ⟨v, hv, hnode⟩ := ih hmem
      exact ⟨v, List.mem_cons_of_mem _ (List.mem_append_right _ hv), hnode⟩

/-- A walk that comes by a node comes by its children. -/
theorem Walk.exists_visit_child (h : t.Walk level keys vs) {v : Visit} (hv : v ∈ vs)
    (hnode : v.node? = some n) (hchild : child ∈ n.children) (hm : t.get? child = some m) :
    ∃ w ∈ vs, w.node? = some m := by
  induction h with
  | done => cases hv
  | missing _ _ ih =>
    rcases List.mem_cons.mp hv with rfl | hv
    · cases hnode
    · obtain ⟨w, hw, hwnode⟩ := ih hv
      exact ⟨w, List.mem_cons_of_mem _ hw, hwnode⟩
  | node hkey hbelow _ ihbelow ih =>
    rcases List.mem_cons.mp hv with rfl | hv
    · obtain rfl := Option.some.inj hnode
      obtain ⟨w, hw, hwnode⟩ := hbelow.exists_visit (Std.ExtTreeSet.mem_toList.mpr hchild) hm
      exact ⟨w, List.mem_cons_of_mem _ (List.mem_append_left _ hw), hwnode⟩
    · rcases List.mem_append.mp hv with hv | hv
      · obtain ⟨w, hw, hwnode⟩ := ihbelow hv
        exact ⟨w, List.mem_cons_of_mem _ (List.mem_append_left _ hw), hwnode⟩
      · obtain ⟨w, hw, hwnode⟩ := ih hv
        exact ⟨w, List.mem_cons_of_mem _ (List.mem_append_right _ hw), hwnode⟩

/-- Every node hangs on a node with a shorter key, up to the roots, so the walk comes by it. -/
theorem WellFormed.exists_visit (hwf : t.WellFormed) (h : t.Walk level t.roots.toList vs)
    (hn : t.get? key = some n) : ∃ v ∈ vs, v.node? = some n := by
  induction hlen : key.length using Nat.strong_induction_on generalizing key n with
  | _ len ih =>
    subst hlen
    have hhangs := (hwf.node key n hn).hangs
    cases hparent : n.parent with
    | root =>
      rw [hparent] at hhangs
      exact h.exists_visit (Std.ExtTreeSet.mem_toList.mpr hhangs) hn
    | path above =>
      rw [hparent, childrenOf] at hhangs
      cases hm : t.get? above with
      | none =>
        rw [hm] at hhangs
        exact absurd hhangs Std.ExtTreeSet.not_mem_empty
      | some m =>
        rw [hm] at hhangs
        have hshorter := (hwf.node above m hm).length_lt hhangs
        obtain ⟨v, hv, hnode⟩ := ih above.length hshorter hm rfl
        exact h.exists_visit_child hv hnode hhangs hn

theorem WellFormed.exists_isListedBy (hwf : t.WellFormed) : ∃ vs, t.IsListedBy vs := by
  obtain ⟨vs, hvs⟩ : ∃ vs, t.Walk 0 t.roots.toList vs :=
    exists_walk_of_each fun key _ => hwf.exists_walk_one key 0
  have hroots : ∀ key ∈ t.roots.toList, ∃ n, t.get? key = some n := fun key hkey =>
    hwf.roots key (Std.ExtTreeSet.mem_toList.mp hkey)
  refine ⟨vs, hvs, fun ws hws => hws.unique hvs, ?_, hvs.found hwf hroots, fun n hn => ?_⟩
  · refine hvs.joinWith_listingFrom hwf fun key hkey => ?_
    obtain ⟨n, hn⟩ := hroots key hkey
    exact hwf.longer_lt_size hn
  · obtain ⟨key, hkey⟩ := mem_toList_iff.mp hn
    exact hwf.exists_visit hvs hkey

end Walk

/-- Whatever lists were added to a tree, its listing ends, finds every key and shows every node. -/
theorem listing_ends_and_covers (rs : List Segments) :
    WellFounded (ofLists rs).Calls ∧ ∃ vs, (ofLists rs).IsListedBy vs :=
  ⟨(wellFormed_ofLists rs).wellFounded_calls, (wellFormed_ofLists rs).exists_isListedBy⟩

/-- A node that two parents claim is shown below both. -/
example : (ofLists [["a/b", "c"], ["a", "b"], [""]]).listing =
    " ()\na (a)\n  a/b (a_b)\n    c (a_b_c)\na/b (a_b)\n  c (a_b_c)\n" := by decide +kernel

end ApiGateway.ResourceTree
