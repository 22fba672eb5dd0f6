import ApiGateway.Proofs.Path.Lowercase
import ApiGateway.Proofs.ResourceTree.WellFormed

/-! Names along the edges of a tree. A key settles the name of every list that it can be made of, so
the name of a node goes on from the names of all that it hangs on, also where lists share a key. -/

namespace ApiGateway.ResourceTree

/-- Names grow along the edges of the tree, whether an edge is found above or below. -/
structure NamesGrow (t : ResourceTree) : Prop where
  parent : ∀ k n, t.get? k = some n → ∀ above, n.parent = .path above →
    ∃ m, t.get? above = some m ∧ n.name = m.name ++ "_" ++ Path.resourceName [n.lastSegment] ∧
      n.name ≠ m.name
  child : ∀ k m, t.get? k = some m → ∀ below ∈ m.children,
    ∃ n, t.get? below = some n ∧ (∃ rest, n.name = m.name ++ "_" ++ Path.resourceName [rest]) ∧
      n.name ≠ m.name

section Names

variable {t : ResourceTree} {m n : Node} {k rest : String}

theorem Node.StandsAt.flatMap_nameChars (h : n.StandsAt k t) :
    k.toList.flatMap Path.nameChars = '_' :: n.name.toList := by
  rw [h.key, Path.flatMap_nameChars_key, h.name]

/-- What a key adds to another, behind a slash, is added to the name behind an underscore. -/
theorem Node.StandsAt.name_eq_append (hm : m.StandsAt k t)
    (hn : n.StandsAt (k ++ "/" ++ rest) t) :
    n.name = m.name ++ "_" ++ Path.resourceName [rest] := by
  -- The lists of the two nodes need not go on from each other, but their keys do.
  have hchars := hn.flatMap_nameChars
  rw [String.toList_append, String.toList_append, List.flatMap_append, List.flatMap_append,
    hm.flatMap_nameChars] at hchars
  have hslash : "/".toList.flatMap Path.nameChars = "_".toList := by decide
  rw [hslash, List.cons_append, List.cons_append] at hchars
  apply String.toList_injective
  rw [String.toList_append, String.toList_append, Path.toList_resourceName, Text.joinWith]
  exact (List.cons.inj hchars).2.symm

/-- The name of a node with a given key is that of any list with the same key. -/
theorem Node.StandsAt.name_eq_of_key {p : Segments} (h : n.StandsAt (Path.key p) t) :
    n.name = Path.resourceName p := by
  have hchars := h.flatMap_nameChars
  rw [Path.flatMap_nameChars_key] at hchars
  exact String.toList_injective (List.cons.inj hchars).2.symm

theorem WellFormed.namesGrow (h : t.WellFormed) : t.NamesGrow where
  parent k n hn above hparent := by
    have hstands := h.node k n hn
    obtain ⟨hlen, rfl, m, hm⟩ := hstands.of_parent_eq_path hparent
    have hname : n.name = m.name ++ "_" ++ Path.resourceName [n.lastSegment] := by
      rw [(h.node _ m hm).name_eq_of_key, hstands.name, hstands.lastSegment_eq]
      exact Path.resourceName_eq_dropLast hlen
    exact ⟨m, hm, hname, Path.ne_of_eq_append hname⟩
  child k m hm below hbelow := by
    obtain ⟨⟨n, hn⟩, rest, rfl⟩ := (h.node k m hm).children below hbelow
    have hname := (h.node k m hm).name_eq_append (h.node _ n hn)
    exact ⟨n, hn, ⟨rest, hname⟩, Path.ne_of_eq_append hname⟩

end Names

/-- Names of lists put together are put together of their names, although small letters are made
of all segments at once. -/
theorem names_compose :
    (∀ ss ts : Segments, ss ≠ [] → ts ≠ [] →
      Path.resourceName (ss ++ ts) = Path.resourceName ss ++ "_" ++ Path.resourceName ts) ∧
    (∀ ss, ∀ c ∈ (Path.resourceName ss).toList, Path.IsNameChar c) ∧
    (∀ ss, Path.resourceName [Path.resourceName ss] = Path.resourceName ss) ∧
    (∀ rs, (ofLists rs).NamesGrow) ∧
    (∀ ss ts us : Segments, ss ≠ [] → ts ≠ [] → us ≠ [] →
      (Path.resourceName (ss ++ us) = Path.resourceName (ts ++ us) ↔
        Path.resourceName ss = Path.resourceName ts)) ∧
    ∀ small, Path.SmallForms small → ∀ ss, Path.resourceName ss =
      String.ofList ((Path.lowercase small [] (Text.joinWith "_" ss).toList).map Path.nameChar) :=
  ⟨fun _ _ => Path.resourceName_append, fun _ _ => Path.isNameChar_of_mem,
    Path.resourceName_resourceName, fun rs => (wellFormed_ofLists rs).namesGrow,
    fun _ _ _ => Path.resourceName_append_inj, fun _ => Path.resourceName_eq_lowercase⟩

theorem names_compose_sigma :
    Path.lowercase Path.sigmaForms [] "Σa_bΣ_\u212a\u0130".toList = "σa_bς_ki\u0307".toList ∧
    Path.resourceName ["Σa", "bΣ", "\u212a\u0130"] = String.ofList ((Path.lowercase
      Path.sigmaForms [] (Text.joinWith "_" ["Σa", "bΣ", "\u212a\u0130"]).toList).map
        Path.nameChar) ∧
    Path.resourceName (["Σa", "bΣ"] ++ ["\u212a\u0130"]) =
      Path.resourceName ["Σa", "bΣ"] ++ "_" ++ Path.resourceName ["\u212a\u0130"] ∧
    Path.resourceName (["-a"] ++ ["b"]) = Path.resourceName (["Σa"] ++ ["b"]) := by
  obtain ⟨hcompose, -, -, -, hcollide, hlower⟩ := names_compose
  have hshared : Path.resourceName ["-a"] = Path.resourceName ["Σa"] := by decide +kernel
  exact ⟨by decide +kernel, hlower _ Path.smallForms_sigmaForms _,
    hcompose _ _ (List.cons_ne_nil _ _) (List.cons_ne_nil _ _),
    (hcollide _ _ _ (List.cons_ne_nil _ _) (List.cons_ne_nil _ _) (List.cons_ne_nil _ _)).mpr
      hshared⟩

end ApiGateway.ResourceTree
