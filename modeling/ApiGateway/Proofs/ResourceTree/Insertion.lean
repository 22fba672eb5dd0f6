import ApiGateway.Proofs.ResourceTree.Places

/-! What an insertion does to a tree, whatever is in the tree already. It adds nodes for leading parts
that have none and hangs their keys on their parents; what has its place keeps it, so a part of a
list has nothing to add before or after the whole list, even where keys clash. -/

namespace ApiGateway

theorem Path.ancestry_take (ss : Segments) (n : Nat) :
    ancestry (ss.take n) = (ancestry ss).take n := by
  induction ss generalizing n with
  | nil => simp [ancestry]
  | cons s ss ih =>
    cases n with
    | zero => rfl
    | succ n => rw [List.take_succ_cons, ancestry, ih, ancestry, List.take_succ_cons, List.map_take]

namespace ResourceTree

/-- A list of segments has its place in a tree: a node under its key, and its key on its parent. -/
structure Settled (t : ResourceTree) (p : Segments) : Prop where
  present : ∃ n, t.get? (Path.key p) = some n
  hangs : Path.key p ∈ t.childrenOf (.ofSegments p)

/-- What a node says of itself does not change, and it loses no child. -/
structure Node.Keeps (n m : Node) : Prop where
  segments : m.segments = n.segments
  lastSegment : m.lastSegment = n.lastSegment
  parent : m.parent = n.parent
  name : m.name = n.name
  children : ∀ k ∈ n.children, k ∈ m.children

/-- One tree goes on from another by lists of the kind `P`: new nodes stand for such lists and keep
what they give, and under any other key nothing changes. -/
structure Extends (t u : ResourceTree) (P : Segments → Prop) : Prop where
  kept : ∀ k n, t.get? k = some n → ∃ m, u.get? k = some m ∧ n.Keeps m
  untouched : ∀ k, (∀ p, P p → k ≠ Path.key p) → u.get? k = t.get? k
  added : ∀ k n, t.get? k = none → u.get? k = some n →
    P n.segments ∧ k = Path.key n.segments ∧ n.Coherent

/-- All that an insertion does, on the way from one tree to another. -/
structure Inserts (t u : ResourceTree) (ss : Segments) : Prop
    extends Extends t u fun p => p <+: ss ∧ p ≠ [] where
  present : ∀ p, p <+: ss → p ≠ [] → ∃ n, u.get? (Path.key p) = some n
  hung : ∀ par k, k ∈ u.childrenOf par ↔ k ∈ t.childrenOf par ∨
    ∃ p, (p <+: ss ∧ p ≠ []) ∧ Parent.ofSegments p = par ∧ Path.key p = k
  coherent : t.Coherent → u.Coherent

section Settled

variable {t : ResourceTree} {p ss : Segments}

theorem roots_grow (t : ResourceTree) (p : Segments) :
    (t.grow p).roots =
      if Parent.ofSegments p = .root then t.roots.insert (Path.key p) else t.roots := by
  unfold grow
  cases Parent.ofSegments p <;> simp

theorem Node.addChild_of_mem {n : Node} {k : String} (h : k ∈ n.children) : n.addChild k = n := by
  rw [addChild, Keys.insert_of_mem h]

theorem Settled.grow_eq (h : t.Settled p) : t.grow p = t := by
  obtain ⟨⟨n, hn⟩, hangs⟩ := h
  refine eq_of_get? (fun k => ?_) ?_
  · have hthere : (if k = Path.key p then some ((t.get? k).getD (.ofSegments p)) else t.get? k) =
        t.get? k := by
      split_ifs with hk
      · rw [hk, hn, Option.getD_some]
      · rfl
    rw [get?_grow, hthere]
    by_cases hpar : Parent.ofSegments p = .path k
    · -- The parent has the key among its children already.
      rw [hpar, childrenOf] at hangs
      cases hk : t.get? k with
      | none => rfl
      | some m =>
        rw [hk] at hangs
        rw [Option.map_some, if_pos hpar, Node.addChild_of_mem hangs]
    · simp only [hpar, if_false, Option.map_id']
  · rw [roots_grow]
    split_ifs with hpar
    · rw [hpar] at hangs
      exact Keys.insert_of_mem hangs
    · rfl

theorem foldl_grow_of_settled {ps : List Segments} (h : ∀ p ∈ ps, t.Settled p) :
    ps.foldl grow t = t := by
  induction ps with
  | nil => rfl
  | cons p ps ih =>
    obtain ⟨hp, hps⟩ := List.forall_mem_cons.mp h
    rw [List.foldl_cons, hp.grow_eq, ih hps]

/-- An insertion gives every leading part its place. -/
theorem settled_insert (h : p ∈ Path.ancestry ss) : (t.insert ss).Settled p where
  present := exists_get?_insert.mpr (.inl ⟨p, h, rfl⟩)
  hangs := (mem_childrenOf_insert t ss _ _).mpr (.inr ⟨p, h, rfl, rfl⟩)

theorem insert_insert_take (t : ResourceTree) (ss : Segments) (n : Nat) :
    (t.insert ss).insert (ss.take n) = t.insert ss := by
  refine foldl_grow_of_settled fun p hp => settled_insert ?_
  rw [Path.ancestry_take] at hp
  exact List.mem_of_mem_take hp

theorem insert_take_insert (t : ResourceTree) (ss : Segments) (n : Nat) :
    (t.insert (ss.take n)).insert ss = t.insert ss := by
  have hsettled : ((Path.ancestry ss).take n).foldl grow (t.insert (ss.take n)) =
      t.insert (ss.take n) :=
    foldl_grow_of_settled fun p hp => settled_insert (Path.ancestry_take ss n ▸ hp)
  have hsplit : Path.ancestry ss = (Path.ancestry ss).take n ++ (Path.ancestry ss).drop n :=
    (List.take_append_drop n _).symm
  calc (t.insert (ss.take n)).insert ss
      = ((Path.ancestry ss).drop n).foldl grow
          (((Path.ancestry ss).take n).foldl grow (t.insert (ss.take n))) := by
        rw [insert, ← List.foldl_append, ← hsplit]
    _ = ((Path.ancestry ss).drop n).foldl grow (((Path.ancestry ss).take n).foldl grow t) := by
        rw [hsettled, insert, Path.ancestry_take]
    _ = t.insert ss := by rw [← List.foldl_append, ← hsplit, insert]

end Settled

section Extends

variable {t u v : ResourceTree} {P : Segments → Prop} {p ss : Segments}

theorem Node.Keeps.refl (n : Node) : n.Keeps n := ⟨rfl, rfl, rfl, rfl, fun _ h => h⟩

theorem Node.keeps_addChild (n : Node) (k : String) : n.Keeps (n.addChild k) :=
  ⟨rfl, rfl, rfl, rfl, fun _ h => Keys.mem_insert_iff.mpr (.inr h)⟩

theorem Node.Keeps.trans {l m n : Node} (h : l.Keeps m) (h' : m.Keeps n) : l.Keeps n where
  segments := h'.segments.trans h.segments
  lastSegment := h'.lastSegment.trans h.lastSegment
  parent := h'.parent.trans h.parent
  name := h'.name.trans h.name
  children k hk := h'.children k (h.children k hk)

theorem Node.Keeps.coherent {n m : Node} (h : n.Keeps m) (hn : n.Coherent) : m.Coherent where
  lastSegment := by rw [h.lastSegment, hn.lastSegment, h.segments]
  parent := by rw [h.parent, hn.parent, h.segments]
  name := by rw [h.name, hn.name, h.segments]

theorem Extends.refl (t : ResourceTree) (P : Segments → Prop) : t.Extends t P where
  kept _ n hn := ⟨n, hn, .refl n⟩
  untouched _ _ := rfl
  added _ n hnone hn := absurd (hnone.symm.trans hn) (Option.some_ne_none n).symm

theorem Extends.trans (h : t.Extends u P) (h' : u.Extends v P) : t.Extends v P where
  kept k n hn := by
    obtain ⟨m, hm, hkeeps⟩ := h.kept k n hn
    obtain ⟨l, hl, hkeeps'⟩ := h'.kept k m hm
    exact ⟨l, hl, hkeeps.trans hkeeps'⟩
  untouched k hk := (h'.untouched k hk).trans (h.untouched k hk)
  added k n hnone hn := by
    cases hk : u.get? k with
    | none => exact h'.added k n hk hn
    | some m =>
      -- The node came in between and has kept its segments since.
      obtain ⟨l, hl, hkeeps⟩ := h'.kept k m hk
      obtain rfl : l = n := Option.some.inj (hl.symm.trans hn)
      obtain ⟨hkind, hkey, hcoherent⟩ := h.added k m hnone hk
      rw [hkeeps.segments]
      exact ⟨hkind, hkey, hkeeps.coherent hcoherent⟩

/-- To grow by a list touches its key and that of the list above it. -/
theorem extends_grow (hp : P p) (habove : 1 < p.length → P p.dropLast) :
    t.Extends (t.grow p) P where
  kept k n hn := by
    rw [get?_grow, hn, Option.getD_some, ite_self, Option.map_some]
    refine ⟨_, rfl, ?_⟩
    split_ifs
    · exact n.keeps_addChild _
    · exact .refl n
  untouched k hk := by
    have hpar : Parent.ofSegments p ≠ .path k := by
      intro heq
      obtain ⟨hlen, hkey⟩ := Parent.ofSegments_eq_path_iff.mp heq
      exact hk _ (habove hlen) hkey.symm
    rw [get?_grow, if_neg (hk p hp)]
    simp only [hpar, if_false, Option.map_id']
  added k n hnone hn := by
    obtain ⟨m, hm | ⟨-, hkey, rfl⟩, hnm⟩ := eq_or_addChild_of_get?_grow hn
    · exact absurd (hnone.symm.trans hm) (Option.some_ne_none m).symm
    · have hcoherent := Node.coherent_ofSegments p
      rcases hnm with rfl | rfl
      · exact ⟨hp, hkey, hcoherent⟩
      · exact ⟨hp, hkey, hcoherent.addChild _⟩

theorem extends_foldl_grow {ps : List Segments} (hps : ∀ p ∈ ps, P p)
    (habove : ∀ p, P p → 1 < p.length → P p.dropLast) : t.Extends (ps.foldl grow t) P := by
  induction ps generalizing t with
  | nil => exact .refl t P
  | cons p ps ih =>
    obtain ⟨hp, hps⟩ := List.forall_mem_cons.mp hps
    exact (extends_grow hp (habove p hp)).trans (ih hps)

theorem inserts_insert (t : ResourceTree) (ss : Segments) : t.Inserts (t.insert ss) ss where
  toExtends := by
    refine extends_foldl_grow (fun p hp => Path.mem_ancestry.mp hp) ?_
    rintro p ⟨hpre, -⟩ hlen
    refine ⟨(List.dropLast_prefix p).trans hpre, List.ne_nil_of_length_pos ?_⟩
    rw [List.length_dropLast]
    omega
  present p hpre hne :=
    exists_get?_insert.mpr (.inl ⟨p, Path.mem_ancestry.mpr ⟨hpre, hne⟩, rfl⟩)
  hung par k := by simp only [mem_childrenOf_insert, Path.mem_ancestry]
  coherent h := h.insert ss

end Extends

/-- To insert a list of any segments into any tree and a part of it before or after is to insert
the list alone. It adds nodes for leading parts under keys that had none and hangs the keys of the
leading parts on their parents; no node changes but for children that it gains, and none at all
under other keys. What the new nodes keep is what their segments give. -/
theorem insert_absorbs (t : ResourceTree) (ss : Segments) :
    (∀ n, (t.insert ss).insert (ss.take n) = t.insert ss ∧
      (t.insert (ss.take n)).insert ss = t.insert ss) ∧
    t.Inserts (t.insert ss) ss :=
  ⟨fun n => ⟨insert_insert_take t ss n, insert_take_insert t ss n⟩, inserts_insert t ss⟩

/-- Lists that share a key are another matter: the first to come gives the node its segments. -/
example : (empty.insert ["a/b"]).insert ["a", "b"] ≠ (empty.insert ["a", "b"]).insert ["a/b"] := by
  decide +kernel

end ResourceTree
end ApiGateway
