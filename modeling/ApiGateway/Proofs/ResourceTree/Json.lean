import ApiGateway.ResourceTree.Json
import ApiGateway.Proofs.Json.RoundTrip
import ApiGateway.Proofs.ResourceTree.Content

/-! What the JSON text of a tree tells. Reading it gives the value that was written, and in that
value every key finds its node and every field its content; so two trees with one text are one. -/

namespace ApiGateway

/-- The root is told from a path, whatever the path is. -/
theorem Parent.toValue_injective : Function.Injective Parent.toValue := by
  intro p q h
  cases p <;> cases q <;> simp [toValue] at h
  · rfl
  · rw [h]

theorem Parent.legible_toValue (p : Parent) : Json.Legible p.toValue := by
  cases p with
  | root =>
    apply Json.Legible.record (by simp)
    intro field hfield
    rw [List.mem_singleton.mp hfield]
    exact .text _
  | path key =>
    apply Json.Legible.record (by simp)
    intro field hfield
    rcases List.mem_pair.mp hfield with rfl | rfl
    · exact .text _
    · exact .text _

namespace ResourceTree

theorem textList_injective : Function.Injective textList := by
  intro ss ts h
  have htext : Function.Injective Value.text := fun _ _ => Value.text.inj
  exact List.map_injective_iff.mpr htext (Value.list.inj h)

theorem legible_textList (ss : List String) : Json.Legible (textList ss) := by
  apply Json.Legible.list
  intro x hx
  obtain ⟨s, -, rfl⟩ := List.mem_map.mp hx
  exact .text s

/-- Two nodes that agree in all that is written of them. -/
structure Node.Same (m n : Node) : Prop where
  segments : m.segments = n.segments
  lastSegment : m.lastSegment = n.lastSegment
  parent : m.parent = n.parent
  name : m.name = n.name
  children : m.children = n.children

/-- Two trees with the same keys, and with the same under each of them. -/
structure Same (t u : ResourceTree) : Prop where
  keys : ∀ key, (t.get? key).isSome = (u.get? key).isSome
  node : ∀ key m n, t.get? key = some m → u.get? key = some n → m.Same n
  roots : t.roots = u.roots

section Node

variable {m n : Node}

theorem Node.legible_toValue (n : Node) : Json.Legible n.toValue := by
  apply Json.Legible.record (by simp)
  simp only [List.forall_mem_cons, List.not_mem_nil, false_implies, implies_true, and_true]
  exact ⟨legible_textList _, .text _, Parent.legible_toValue _, .text _, legible_textList _⟩

/-- Each part of a node is told by its own field. -/
theorem Node.same_of_toValue (h : m.toValue = n.toValue) : m.Same n := by
  simp only [toValue, Value.record.injEq, List.cons.injEq, Prod.mk.injEq, true_and, and_true,
    Value.text.injEq] at h
  obtain ⟨hsegments, hlast, hparent, hname, hchildren⟩ := h
  exact ⟨textList_injective hsegments, hlast, Parent.toValue_injective hparent, hname,
    Std.ExtTreeSet.toList_inj.mp (textList_injective hchildren)⟩

theorem Node.Same.eq (h : m.Same n) : m = n :=
  Node.ext h.segments h.lastSegment h.parent h.name h.children

end Node

section Reading

variable {t u : ResourceTree} {v : Value}

theorem Same.eq (h : t.Same u) : t = u := by
  have hget (key : String) : t.get? key = u.get? key := by
    have hkey := h.keys key
    cases ht : t.get? key with
    | none =>
      rw [ht] at hkey
      exact (Option.isNone_iff_eq_none.mp (Option.isSome_eq_false_iff.mp hkey.symm)).symm
    | some m =>
      rw [ht] at hkey
      obtain ⟨n, hn⟩ := Option.isSome_iff_exists.mp hkey.symm
      rw [hn, (h.node key m n ht hn).eq]
  obtain ⟨nodes, roots⟩ := t
  obtain ⟨nodes', roots'⟩ := u
  have hnodes : nodes = nodes' := Std.ExtTreeMap.ext_getElem? hget
  have hroots : roots = roots' := h.roots
  rw [hnodes, hroots]

theorem nodup_keys (m : Std.ExtTreeMap String Node) : (m.toList.map Prod.fst).Nodup := by
  rw [Std.ExtTreeMap.map_fst_toList_eq_keys]
  refine List.Pairwise.imp ?_ (Std.ExtTreeMap.distinct_keys (t := m))
  intro a b hne heq
  exact hne (Std.LawfulEqCmp.compare_eq_iff_eq.mpr heq)

theorem legible_toValue (t : ResourceTree) : Json.Legible t.toValue := by
  have hnodes : Json.Legible (.record (t.nodes.toList.map (Prod.map id Node.toValue))) := by
    apply Json.Legible.record
    · rw [List.map_map]
      exact nodup_keys t.nodes
    · intro field hfield
      obtain ⟨⟨key, n⟩, -, rfl⟩ := List.mem_map.mp hfield
      exact n.legible_toValue
  apply Json.Legible.record (by simp)
  intro field hfield
  rcases List.mem_pair.mp hfield with rfl | rfl
  · exact hnodes
  · exact legible_textList _

/-- The text is read as the value that was written. -/
theorem read_toJson (t : ResourceTree) : Json.read t.toJson = some t.toValue :=
  Json.read_pretty t.legible_toValue

/-- Every key finds the node of the tree, and only such keys find one. -/
structure Tells (v : Value) (t : ResourceTree) : Prop where
  nodes : ∀ key, (v.field? "nodes").bind (·.field? key) = (t.get? key).map Node.toValue
  roots : v.field? "root_children" = some (textList t.roots.toList)

theorem lookup_eq_some_of_mem {fields : List (String × Value)} {key : String}
    (h : (fields.map Prod.fst).Nodup) (hmem : (key, v) ∈ fields) :
    fields.lookup key = some v := by
  obtain ⟨before, after, rfl⟩ := List.append_of_mem hmem
  refine List.lookup_eq_some_iff.mpr ⟨before, after, rfl, fun field hfield => ?_⟩
  rw [List.map_append, List.map_cons, List.nodup_append] at h
  have hne : field.1 ≠ key :=
    h.2.2 _ (List.mem_map_of_mem hfield) _ List.mem_cons_self
  exact bne_iff_ne.mpr hne.symm

theorem lookup_nodes (t : ResourceTree) (key : String) :
    (t.nodes.toList.map (Prod.map id Node.toValue)).lookup key =
      (t.get? key).map Node.toValue := by
  cases hget : t.get? key with
  | none =>
    apply List.lookup_eq_none_iff.mpr
    intro field hfield
    obtain ⟨⟨k, n⟩, hmem, rfl⟩ := List.mem_map.mp hfield
    have hk : t.get? k = some n := Std.ExtTreeMap.mem_toList_iff_getElem?_eq_some.mp hmem
    apply bne_iff_ne.mpr
    rintro rfl
    cases hget.symm.trans hk
  | some n =>
    apply lookup_eq_some_of_mem
    · rw [List.map_map]
      exact nodup_keys t.nodes
    · exact List.mem_map_of_mem (Std.ExtTreeMap.mem_toList_iff_getElem?_eq_some.mpr hget)

theorem tells_toValue (t : ResourceTree) : Tells t.toValue t where
  nodes := lookup_nodes t
  roots := rfl

theorem Tells.same (ht : Tells v t) (hu : Tells v u) : t.Same u := by
  have hget (key : String) : (t.get? key).map Node.toValue = (u.get? key).map Node.toValue :=
    (ht.nodes key).symm.trans (hu.nodes key)
  refine ⟨fun key => ?_, fun key m n hm hn => ?_, ?_⟩
  · rw [← Option.isSome_map (f := Node.toValue), hget, Option.isSome_map]
  · have hkey := hget key
    rw [hm, hn] at hkey
    exact Node.same_of_toValue (Option.some.inj hkey)
  · have hroots := Option.some.inj (ht.roots.symm.trans hu.roots)
    exact Std.ExtTreeSet.toList_inj.mp (textList_injective hroots)

theorem same_of_toJson (h : t.toJson = u.toJson) : t.Same u := by
  have hvalue : t.toValue = u.toValue := by
    apply Option.some.inj
    rw [← read_toJson, h, read_toJson]
  have ht := tells_toValue t
  rw [hvalue] at ht
  exact ht.same (tells_toValue u)

end Reading

/-- Whatever segments were added, the text gives the tree back: it is read as a value that tells
all of the tree, and no other tree has it. -/
theorem toJson_lossless (rs ts : List Segments) :
    (∃ v, Json.read (ofLists rs).toJson = some v ∧ Tells v (ofLists rs)) ∧
    ((ofLists rs).toJson = (ofLists ts).toJson →
      (ofLists rs).Same (ofLists ts) ∧ ofLists rs = ofLists ts) := by
  refine ⟨⟨_, read_toJson _, tells_toValue _⟩, fun h => ?_⟩
  have hsame := same_of_toJson h
  exact ⟨hsame, hsame.eq⟩

theorem toJson_lossless_reordered :
    (ofLists [["\"", "\\"], ["\n"]]).toJson = (ofLists [["\n"], ["\""], ["\"", "\\"]]).toJson ∧
    ofLists [["\"", "\\"], ["\n"]] = ofLists [["\n"], ["\""], ["\"", "\\"]] := by
  have htext : (ofLists [["\"", "\\"], ["\n"]]).toJson =
      (ofLists [["\n"], ["\""], ["\"", "\\"]]).toJson := by rfl
  exact ⟨htext, ((toJson_lossless _ _).2 htext).2⟩

end ResourceTree
end ApiGateway
