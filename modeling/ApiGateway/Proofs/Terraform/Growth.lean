import ApiGateway.Proofs.Terraform.Routes

/-! Configurations that grow. As long as there is nothing to report, more endpoints mean more blocks:
those that were there stay as they are and keep their order. -/

namespace ApiGateway

section Path

variable {rs qs : List Segments}

theorem Path.sort_parts_sublist (h : rs ⊆ qs) :
    (Path.sort (Path.parts rs)).Sublist (Path.sort (Path.parts qs)) := by
  have hsub : (Path.parts rs).Subperm (Path.parts qs) :=
    List.subperm_of_subset (Path.nodup_parts rs) (Path.parts_subset h)
  exact Path.sort_sublist_of_subperm hsub

/-- If the parts of more lists share no name, those of fewer lists share none. -/
theorem Path.nodup_names_parts_mono (h : rs ⊆ qs)
    (hq : ((Path.parts qs).map Path.resourceName).Nodup) :
    ((Path.parts rs).map Path.resourceName).Nodup := by
  have hsort : ((Path.sort (Path.parts qs)).map Path.resourceName).Nodup :=
    ((Path.sort_perm _).map _).nodup_iff.mpr hq
  have hfewer := ((Path.sort_parts_sublist h).map Path.resourceName).nodup hsort
  exact ((Path.sort_perm _).map _).nodup_iff.mp hfewer

end Path

section Clean

variable {es fs : List Endpoint}

theorem Endpoint.Routable.of_subset (h : Endpoint.Routable fs) (hsub : es ⊆ fs) :
    Endpoint.Routable es := fun e he => h e (hsub he)

theorem Lint.problems_eq_nil_of_sublist (hsub : es.Sublist fs) (h : Lint.problems fs = []) :
    Lint.problems es = [] := by
  obtain ⟨hroutable, hnames, hmethods⟩ := Lint.problems_eq_nil_iff.mp h
  have hsegments : es.map Endpoint.segments ⊆ fs.map Endpoint.segments :=
    (hsub.map Endpoint.segments).subset
  refine Lint.problems_eq_nil_iff.mpr ⟨?_, ?_, ?_⟩
  · exact hroutable.of_subset hsub.subset
  · exact Path.nodup_names_parts_mono hsegments hnames
  · exact (hsub.map Endpoint.methodName).nodup hmethods

end Clean

namespace Terraform

section Address

variable {es : List Endpoint} {bs cs rs ms is : List Block} {j k : Kind}

theorem nodup_addresses_of_names (h : (bs.map Block.name).Nodup) :
    (bs.map Block.address).Nodup := by
  refine List.Nodup.map_on ?_ h.of_map
  intro b hb c hc heq
  exact List.inj_on_of_nodup_map h hb hc (reference_inj.mp heq).2

theorem disjoint_addresses (hb : ∀ b ∈ bs, b.kind = j)
    (hc : ∀ c ∈ cs, c.kind = k) (hne : j ≠ k) :
    (bs.map Block.address).Disjoint (cs.map Block.address) := by
  intro a hab hac
  obtain ⟨b, hmem, rfl⟩ := List.mem_map.mp hab
  obtain ⟨c, hmem', heq⟩ := List.mem_map.mp hac
  have hkind := (reference_inj.mp heq).1
  rw [hb b hmem, hc c hmem'] at hkind
  exact hne hkind.symm

/-- Where the blocks denote routes, an address belongs to one block. -/
theorem Denotes.nodup_addresses (h : Denotes es rs ms is) :
    ((rs ++ ms ++ is).map Block.address).Nodup := by
  have hresources := nodup_addresses_of_names h.nodup_resources
  have hmethods := nodup_addresses_of_names h.nodup_methods
  have hintegrations := nodup_addresses_of_names h.nodup_integrations
  rw [List.append_assoc, List.map_append, List.map_append]
  refine hresources.append (hmethods.append hintegrations ?_)
    (List.disjoint_append_right.mpr ⟨?_, ?_⟩)
  · exact disjoint_addresses h.methods h.integrations (by decide)
  · exact disjoint_addresses h.resources h.methods (by decide)
  · exact disjoint_addresses h.resources h.integrations (by decide)

end Address

section Growth

variable {es fs : List Endpoint}

/-- Without shared names the resources of fewer endpoints are among those of more endpoints, in the
same order: nothing takes the name of another's block. -/
theorem resourceBlocks_sublist (hsub : es ⊆ fs)
    (h : ((Endpoint.parts fs).map Path.resourceName).Nodup) :
    (resourceBlocks es).Sublist (resourceBlocks fs) := by
  have hsegments : es.map Endpoint.segments ⊆ fs.map Endpoint.segments := List.map_subset _ hsub
  have hfewer := Path.nodup_names_parts_mono hsegments h
  unfold resourceBlocks
  rw [Path.kept_eq_sort hfewer, Path.kept_eq_sort h]
  exact (Path.sort_parts_sublist hsegments).map resourceBlock

theorem outline_sublist (hsub : es.Sublist fs)
    (h : ((Endpoint.parts fs).map Path.resourceName).Nodup) :
    (outline es).Sublist (outline fs) := by
  have hresources := resourceBlocks_sublist hsub.subset h
  exact (hresources.append (hsub.map methodOf)).append (hsub.map integrationOf)

/-- Endpoints added anywhere to a list, with nothing to report of the longer one, only add blocks:
all blocks of the shorter list are there, in their order, and no other block has the address of
one of them. The blocks of either list denote its routes. -/
theorem blocks_grow_of_clean (hclean : Lint.problems fs = []) (hsub : es.Sublist fs) :
    Lint.problems es = [] ∧ ∃ bs cs, blocks es = .ok bs ∧ blocks fs = .ok cs ∧
      generate es = .ok (header ++ render bs) ∧ generate fs = .ok (header ++ render cs) ∧
      bs.Sublist cs ∧ (∀ b ∈ bs, ∀ c ∈ cs, c.address = b.address → c = b) ∧
      (∃ rs ms is, bs = rs ++ ms ++ is ∧ Denotes es rs ms is) ∧
      ∃ rs ms is, cs = rs ++ ms ++ is ∧ Denotes fs rs ms is := by
  obtain ⟨hroutable, hnames, hmethods⟩ := Lint.problems_eq_nil_iff.mp hclean
  have hclean' := Lint.problems_eq_nil_of_sublist hsub hclean
  obtain ⟨hroutable', hnames', hmethods'⟩ := Lint.problems_eq_nil_iff.mp hclean'
  have hblocks := outline_sublist hsub hnames
  have hfewer := denotes_of_nodup hroutable' hnames' hmethods'
  have hmore := denotes_of_nodup hroutable hnames hmethods
  refine ⟨hclean', outline es, outline fs, blocks_of_routable hroutable',
    blocks_of_routable hroutable, generate_eq_ok_iff.mpr ⟨hroutable', rfl⟩,
    generate_eq_ok_iff.mpr ⟨hroutable, rfl⟩, hblocks, fun b hb c hc heq => ?_,
    ⟨_, _, _, rfl, hfewer⟩, _, _, _, rfl, hmore⟩
  exact List.inj_on_of_nodup_map hmore.nodup_addresses hc (hblocks.subset hb) heq

theorem blocks_grow_of_clean_between :
    Lint.problems [⟨"/a/b", .get, "https://example.com", true⟩,
      ⟨"/c/d", .get, "https://example.com", false⟩,
      ⟨"/c", .post, "https://example.com", false⟩] = [] ∧
    ∃ bs cs, blocks [⟨"/c/d", .get, "https://example.com", false⟩] = .ok bs ∧
      blocks [⟨"/a/b", .get, "https://example.com", true⟩,
        ⟨"/c/d", .get, "https://example.com", false⟩,
        ⟨"/c", .post, "https://example.com", false⟩] = .ok cs ∧ bs.Sublist cs := by
  have hclean : Lint.problems [⟨"/a/b", .get, "https://example.com", true⟩,
      ⟨"/c/d", .get, "https://example.com", false⟩,
      ⟨"/c", .post, "https://example.com", false⟩] = [] := by decide +kernel
  have hsub : [⟨"/c/d", .get, "https://example.com", false⟩].Sublist
      [⟨"/a/b", .get, "https://example.com", true⟩,
        ⟨"/c/d", .get, "https://example.com", false⟩,
        (⟨"/c", .post, "https://example.com", false⟩ : Endpoint)] := by decide
  obtain ⟨-, bs, cs, hbs, hcs, -, -, hblocks, -, -, -⟩ := blocks_grow_of_clean hclean hsub
  exact ⟨hclean, bs, cs, hbs, hcs, hblocks⟩

end Growth
end Terraform
end ApiGateway
