import ApiGateway.ResourceTree.Json
import ApiGateway.Proofs.Lint.Clean
import ApiGateway.Proofs.ResourceTree.Places
import ApiGateway.Proofs.Terraform.References

/-! Lists of endpoints whose paths have the same leading parts. They have the same tree and the same
resources, whatever else they say and in whatever order; lists with other leading parts never have
the same tree. -/

namespace ApiGateway

/-- A change to a list of endpoints that leaves the leading parts of its paths as they are. -/
inductive Endpoint.Edit : List Endpoint → List Endpoint → Prop
  | permute {es fs : List Endpoint} : es.Perm fs → Edit es fs
  | repeated {es : List Endpoint} {e : Endpoint} : e ∈ es → Edit es (e :: es)
  | ancestor {es : List Endpoint} {a e : Endpoint} {ss : Segments} : e ∈ es →
      Path.segments a.path = .ok ss → ss <+: e.segments → Edit es (a :: es)
  /-- Verbs, backends and flags can be any others. -/
  | contents {es fs : List Endpoint} : es.map path = fs.map path → Edit es fs
  | slash (before after : List Endpoint) {e : Endpoint} {p : String} : Path.Redundant e.path p →
      Edit (before ++ e :: after) (before ++ { e with path := p } :: after)

namespace Path

variable {rs qs : List Segments} {ss : Segments}

theorem leading_congr (h : ∀ ss, ss ∈ rs ↔ ss ∈ qs) : leading rs = leading qs := by
  ext p
  simp only [leading, Set.mem_ofPred_eq, h]

/-- A list with a longer one beside it adds no leading part. -/
theorem leading_cons_of_prefix {long : Segments} (hmem : long ∈ rs) (hpre : ss <+: long) :
    leading (ss :: rs) = leading rs := by
  ext p
  refine and_congr_right fun _ => ⟨?_, ?_⟩
  · rintro ⟨q, hq, hp⟩
    rcases List.mem_cons.mp hq with rfl | hq
    · exact ⟨long, hmem, hp.trans hpre⟩
    · exact ⟨q, hq, hp⟩
  · rintro ⟨q, hq, hp⟩
    exact ⟨q, List.mem_cons_of_mem _ hq, hp⟩

theorem parts_perm_of_leading (h : leading rs = leading qs) : (parts rs).Perm (parts qs) := by
  refine (List.perm_ext_iff_of_nodup (nodup_parts rs) (nodup_parts qs)).mpr fun p => ?_
  rw [← mem_leading_iff, h, mem_leading_iff]

theorem kept_eq_of_leading (h : leading rs = leading qs) : kept rs = kept qs := by
  unfold kept
  rw [sort_eq_of_perm (parts_perm_of_leading h)]

end Path

namespace Endpoint

variable {es fs : List Endpoint}

theorem routable_iff_nil_not_mem : Routable es ↔ [] ∉ es.map segments := by
  rw [routable_iff]
  simp [List.mem_map]

theorem Edit.keeps_leading (h : Edit es fs) :
    (Routable es ↔ Routable fs) ∧
      Path.leading (es.map segments) = Path.leading (fs.map segments) := by
  -- All edits but one leave the set of the lists itself as it is.
  have hsame (hmap : ∀ ss, ss ∈ es.map segments ↔ ss ∈ fs.map segments) :
      (Routable es ↔ Routable fs) ∧
        Path.leading (es.map segments) = Path.leading (fs.map segments) := by
    rw [routable_iff_nil_not_mem, routable_iff_nil_not_mem, hmap]
    exact ⟨Iff.rfl, Path.leading_congr hmap⟩
  cases h with
  | permute hperm => exact hsame fun ss => (hperm.map _).mem_iff
  | repeated hmem =>
    refine hsame fun ss => ?_
    rw [List.map_cons, List.mem_cons, or_iff_right_of_imp]
    rintro rfl
    exact List.mem_map_of_mem hmem
  | @ancestor _ a e ss hmem hss hpre =>
    obtain rfl := segments_of_eq_ok hss
    have hne := segments_eq_ok_iff_ne_nil.mp hss
    rw [routable_iff_nil_not_mem, routable_iff_nil_not_mem, List.map_cons, List.mem_cons, not_or]
    refine ⟨(and_iff_right hne.symm).symm, ?_⟩
    exact (Path.leading_cons_of_prefix (List.mem_map_of_mem hmem) hpre).symm
  | contents hpaths =>
    have hmap : es.map segments = fs.map segments := by
      have h := congrArg (List.map Path.split) hpaths
      rwa [List.map_map, List.map_map] at h
    exact hsame fun ss => by rw [hmap]
  | @slash before after e p hslash =>
    refine hsame fun ss => ?_
    have hseg : e.segments = Path.split p := hslash.split_eq
    rw [List.map_append, List.map_append, List.map_cons, List.map_cons, hseg]
    rfl

/-- Edits made and unmade, one after the other. -/
theorem Edit.keeps_leading_of_eqvGen (h : Relation.EqvGen Edit es fs) :
    (Routable es ↔ Routable fs) ∧
      Path.leading (es.map segments) = Path.leading (fs.map segments) := by
  induction h with
  | rel es fs hedit => exact hedit.keeps_leading
  | refl es => exact ⟨Iff.rfl, rfl⟩
  | symm es fs _ ih => exact ⟨ih.1.symm, ih.2.symm⟩
  | trans es fs gs _ _ ih ih' => exact ⟨ih.1.trans ih'.1, ih.2.trans ih'.2⟩

end Endpoint

namespace Terraform

/-- What is generated for a list of endpoints, section by section. -/
structure Generates (es : List Endpoint) (rs ms is : List Block) : Prop
    extends Sections rs ms is where
  blocks : blocks es = .ok (rs ++ ms ++ is)
  text : generate es = .ok (header ++ render rs ++ render ms ++ render is)

/-- What is generated for a list of endpoints, set against the endpoints: each of them has its method
and its integration in its own place, and each name of a leading part has one resource. -/
structure Realizes (es : List Endpoint) (rs ms is : List Block) : Prop
    extends Generates es rs ms is where
  length_methods : ms.length = es.length
  length_integrations : is.length = es.length
  route : ∀ (i : Nat) (e : Endpoint), es[i]? = some e → ∃ ss, Path.segments e.path = .ok ss ∧
    ms[i]? = some (.method (Path.resourceName ss) e.method e.apiKeyRequired) ∧
    is[i]? = some (.integration (Path.resourceName ss) e.method e.backendUri)
  resource : ∀ b ∈ rs, ∃ p ∈ Path.leading (es.map Endpoint.segments), b = resourceBlock p
  nodup_names : (rs.map Block.name).Nodup
  covers : ∀ p ∈ Path.leading (es.map Endpoint.segments), Path.resourceName p ∈ rs.map Block.name

/-- Two lists of endpoints with one and the same tree of resources, however it is shown. -/
structure SameResources (es fs : List Endpoint) : Prop where
  tree : ResourceTree.build es = ResourceTree.build fs
  listing : (ResourceTree.build es).map ResourceTree.listing =
    (ResourceTree.build fs).map ResourceTree.listing
  json : (ResourceTree.build es).map ResourceTree.toJson =
    (ResourceTree.build fs).map ResourceTree.toJson
  names : Lint.sharedNames es = Lint.sharedNames fs
  resources : ∃ rs ms is ms' is', Realizes es rs ms is ∧ Realizes fs rs ms' is'

variable {es fs : List Endpoint}

theorem ofLists_eq_iff (es fs : List Endpoint) :
    ResourceTree.ofLists (es.map Endpoint.segments) =
        ResourceTree.ofLists (fs.map Endpoint.segments) ↔
      Path.leading (es.map Endpoint.segments) = Path.leading (fs.map Endpoint.segments) :=
  (ResourceTree.consistsOf_ofLists (Endpoint.forall_mem_slashFree es)).eq_iff
    (ResourceTree.consistsOf_ofLists (Endpoint.forall_mem_slashFree fs))

theorem resourceBlocks_eq_of_leading
    (h : Path.leading (es.map Endpoint.segments) = Path.leading (fs.map Endpoint.segments)) :
    resourceBlocks es = resourceBlocks fs := by
  unfold resourceBlocks
  rw [Path.kept_eq_of_leading h]

theorem generates_outline (h : Endpoint.Routable es) :
    Generates es (resourceBlocks es) (es.map methodOf) (es.map integrationOf) where
  toSections := sections_outline es
  blocks := blocks_of_routable h
  text := by
    refine generate_eq_ok_iff.mpr ⟨h, ?_⟩
    unfold outline
    simp only [render_append, String.append_assoc]

theorem realizes_outline (h : Endpoint.Routable es) :
    Realizes es (resourceBlocks es) (es.map methodOf) (es.map integrationOf) where
  toGenerates := generates_outline h
  length_methods := List.length_map _
  length_integrations := List.length_map _
  route i e he := by
    refine ⟨e.segments, h.segments_eq_ok (List.mem_of_getElem? he), ?_, ?_⟩
    · rw [List.getElem?_map, he]
      rfl
    · rw [List.getElem?_map, he]
      rfl
  resource b hb := by
    obtain ⟨p, hp, rfl⟩ := List.mem_map.mp hb
    exact ⟨p, Path.mem_leading_iff.mpr (Path.mem_parts_of_mem_kept hp), rfl⟩
  nodup_names := (closed_outline h).nodup_names
  covers p hp := by
    obtain ⟨q, hq, hname, -⟩ := Path.exists_kept (Path.mem_leading_iff.mp hp)
    rw [map_name_resourceBlocks, ← hname]
    exact List.mem_map_of_mem hq

/-- The same leading parts give the same resource section. -/
theorem realizes_of_leading (h : Endpoint.Routable fs)
    (hleading :
      Path.leading (es.map Endpoint.segments) = Path.leading (fs.map Endpoint.segments)) :
    Realizes fs (resourceBlocks es) (fs.map methodOf) (fs.map integrationOf) := by
  rw [resourceBlocks_eq_of_leading hleading]
  exact realizes_outline h

theorem sameResources_of_leading (hes : Endpoint.Routable es) (hfs : Endpoint.Routable fs)
    (h : Path.leading (es.map Endpoint.segments) = Path.leading (fs.map Endpoint.segments)) :
    SameResources es fs := by
  have htree := (ofLists_eq_iff es fs).mpr h
  have hbuild : ResourceTree.build es = ResourceTree.build fs := by
    rw [ResourceTree.build_of_routable hes, ResourceTree.build_of_routable hfs, htree]
  refine ⟨hbuild, by rw [hbuild], by rw [hbuild], ?_, ?_⟩
  · unfold Lint.sharedNames
    rw [Lint.tree_eq, Lint.tree_eq, htree]
  · exact ⟨_, _, _, _, _, realizes_outline hes, realizes_of_leading hfs h⟩

/-- The set of the leading parts settles the tree, and the tree that set. What keeps the leading
parts keeps the tree, how it is shown, what is reported of its names and all resource blocks, one
for each name of a part; and to permute the endpoints is to permute the methods and the
integrations, one of each for every endpoint, in the same way. -/
theorem leading_settles_resources :
    (∀ es fs, Endpoint.Routable es → Endpoint.Routable fs →
      ∃ t u, ResourceTree.build es = .ok t ∧ ResourceTree.build fs = .ok u ∧
        (t = u ↔
          Path.leading (es.map Endpoint.segments) = Path.leading (fs.map Endpoint.segments)) ∧
        (t = u → SameResources es fs)) ∧
    (∀ es fs, Endpoint.Routable es → Relation.EqvGen Endpoint.Edit es fs →
      Endpoint.Routable fs ∧ SameResources es fs) ∧
    ∀ es fs, Endpoint.Routable es → es.Perm fs →
      ∃ rs ms is ms' is', Realizes es rs ms is ∧ Realizes fs rs ms' is' ∧
        ms.Perm ms' ∧ is.Perm is' ∧
        ∀ σ : Nat → Nat, (∀ i : Nat, fs[i]? = es[σ i]?) →
          ∀ i : Nat, ms'[i]? = ms[σ i]? ∧ is'[i]? = is[σ i]? := by
  refine ⟨?_, ?_, ?_⟩
  · intro es fs hes hfs
    refine ⟨_, _, ResourceTree.build_of_routable hes, ResourceTree.build_of_routable hfs,
      ofLists_eq_iff es fs, fun htree => ?_⟩
    exact sameResources_of_leading hes hfs ((ofLists_eq_iff es fs).mp htree)
  · intro es fs hes hedit
    obtain ⟨hroutable, hleading⟩ := Endpoint.Edit.keeps_leading_of_eqvGen hedit
    exact ⟨hroutable.mp hes, sameResources_of_leading hes (hroutable.mp hes) hleading⟩
  · intro es fs hes hperm
    obtain ⟨hroutable, hleading⟩ := (Endpoint.Edit.permute hperm).keeps_leading
    refine ⟨_, _, _, _, _, realizes_outline hes,
      realizes_of_leading (hroutable.mp hes) hleading, hperm.map methodOf,
      hperm.map integrationOf, fun σ hσ i => ?_⟩
    simp only [List.getElem?_map, hσ i, and_self]

theorem leading_settles_resources_edited :
    Endpoint.Routable [⟨"/a/b", .get, "https://example.com", true⟩] ∧
    SameResources [⟨"/a/b", .get, "https://example.com", true⟩]
      [⟨"/a//b", .get, "https://example.com", true⟩, ⟨"a", .put, "https://example.org", false⟩] := by
  have hroutable : Endpoint.Routable [⟨"/a/b", .get, "https://example.com", true⟩] :=
    Endpoint.routable_iff.mpr (by decide +kernel)
  have hsegments : Path.segments "a" = .ok ["a"] := by decide +kernel
  have hprefix : ["a"] <+: Path.split "/a/b" := by decide +kernel
  have hancestor : Endpoint.Edit [⟨"/a/b", .get, "https://example.com", true⟩]
      [⟨"a", .put, "https://example.org", false⟩, ⟨"/a/b", .get, "https://example.com", true⟩] :=
    .ancestor List.mem_cons_self hsegments hprefix
  have hpermute := Endpoint.Edit.permute (List.Perm.swap
    (⟨"/a/b", .get, "https://example.com", true⟩ : Endpoint)
    ⟨"a", .put, "https://example.org", false⟩ [])
  have hslash : Endpoint.Edit
      [⟨"/a//b", .get, "https://example.com", true⟩, ⟨"a", .put, "https://example.org", false⟩]
      [⟨"/a/b", .get, "https://example.com", true⟩, ⟨"a", .put, "https://example.org", false⟩] :=
    .slash [] _ (.repeated "/a" "b")
  have hedits := ((Relation.EqvGen.rel _ _ hancestor).trans _ _ _ (.rel _ _ hpermute)).trans _ _ _
    (.symm _ _ (.rel _ _ hslash))
  exact ⟨hroutable, (leading_settles_resources.2.1 _ _ hroutable hedits).2⟩

end Terraform
end ApiGateway
