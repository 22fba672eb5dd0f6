import ApiGateway.Proofs.Terraform.Layout
import ApiGateway.Proofs.Terraform.Routes

/-! Which routes a configuration is for can be read back from its text: the text gives the blocks,
and blocks that denote routes denote no others. -/

namespace ApiGateway

/-- The same route, with the path spelt alike up to slashes that separate nothing. -/
structure Endpoint.SameRoute (e f : Endpoint) : Prop where
  segments : ∃ ss, Path.segments e.path = .ok ss ∧ Path.segments f.path = .ok ss
  path : Relation.EqvGen Path.Redundant e.path f.path
  method : e.method = f.method
  backendUri : e.backendUri = f.backendUri
  apiKeyRequired : e.apiKeyRequired = f.apiKeyRequired

namespace Terraform

section Sections

variable {rs ms is rs' ms' is' : List Block} {j k : Kind}

theorem filter_kind_self {bs : List Block} (h : ∀ b ∈ bs, b.kind = k) :
    bs.filter (·.kind = k) = bs :=
  List.filter_eq_self.mpr fun b hb => decide_eq_true (h b hb)

theorem filter_kind_nil {bs : List Block} (h : ∀ b ∈ bs, b.kind = j) (hne : j ≠ k) :
    bs.filter (·.kind = k) = [] :=
  List.filter_eq_nil_iff.mpr fun b hb => by simpa [h b hb] using hne

/-- Which block belongs to which section can be told from the blocks. -/
theorem Sections.eq (h : Sections rs ms is) (h' : Sections rs' ms' is')
    (heq : rs ++ ms ++ is = rs' ++ ms' ++ is') : rs = rs' ∧ ms = ms' ∧ is = is' := by
  have hfilter (k : Kind) := congrArg (List.filter (·.kind = k)) heq
  simp only [List.filter_append] at hfilter
  refine ⟨?_, ?_, ?_⟩
  · simpa [filter_kind_self h.resources, filter_kind_nil h.methods, filter_kind_nil h.integrations,
      filter_kind_self h'.resources, filter_kind_nil h'.methods,
      filter_kind_nil h'.integrations] using hfilter .resource
  · simpa [filter_kind_nil h.resources, filter_kind_self h.methods, filter_kind_nil h.integrations,
      filter_kind_nil h'.resources, filter_kind_self h'.methods,
      filter_kind_nil h'.integrations] using hfilter .method
  · simpa [filter_kind_nil h.resources, filter_kind_nil h.methods, filter_kind_self h.integrations,
      filter_kind_nil h'.resources, filter_kind_nil h'.methods,
      filter_kind_self h'.integrations] using hfilter .integration

end Sections

section Outline

variable {es : List Endpoint} {e : Endpoint} {p : Segments}

theorem oneLine_resourceName (ss : Segments) : OneLine (Path.resourceName ss) := by
  intro h
  have hchar := Path.isNameChar_of_mem h
  revert hchar
  unfold Path.IsNameChar
  decide

/-- The last segment of a leading part is a segment of some path. -/
theorem exists_getLastD_mem_segments (hp : p ∈ Endpoint.parts es) :
    ∃ e ∈ es, p.getLastD "" ∈ e.segments := by
  obtain ⟨hne, ss, hss, hpre⟩ := Path.mem_parts.mp hp
  obtain ⟨e, he, rfl⟩ := List.mem_map.mp hss
  refine ⟨e, he, ?_⟩
  rw [List.getLastD_eq_getLast?, List.getLast?_eq_some_getLast hne, Option.getD_some]
  exact hpre.subset (List.getLast_mem hne)

theorem oneLine_getLastD (h : ∀ e ∈ es, OneLine e.path) (hp : p ∈ Endpoint.parts es) :
    OneLine (p.getLastD "") := by
  obtain ⟨e, he, hlast⟩ := exists_getLastD_mem_segments hp
  exact fun hfeed => h e he (Path.mem_of_mem_split hlast hfeed)

theorem oneLine_texts_outline (h : ∀ e ∈ es, OneLine e.path ∧ OneLine e.backendUri) :
    ∀ b ∈ outline es, ∀ s ∈ b.texts, OneLine s := by
  intro b hb
  simp only [outline, List.mem_append, resourceBlocks, List.mem_map] at hb
  rcases hb with (⟨p, hp, rfl⟩ | ⟨e, he, rfl⟩) | ⟨e, he, rfl⟩
  · have hlast := oneLine_getLastD (fun e he => (h e he).1) (Path.mem_parts_of_mem_kept hp)
    have hparent : ∀ s ∈ (parentOf p).toList, OneLine s := by
      intro s hs
      by_cases hlen : 1 < p.length
      · rw [parentOf_of_below hlen, Option.toList_some, List.mem_singleton] at hs
        exact hs ▸ oneLine_resourceName _
      · rw [parentOf_of_top hlen] at hs
        cases hs
    exact List.forall_mem_cons.mpr
      ⟨oneLine_resourceName p, List.forall_mem_cons.mpr ⟨hlast, hparent⟩⟩
  · exact List.forall_mem_singleton.mpr (oneLine_resourceName _)
  · exact List.forall_mem_cons.mpr
      ⟨oneLine_resourceName _, List.forall_mem_singleton.mpr (h e he).2⟩

end Outline

section Ascent

variable {rs : List Block} {m n : Nat} {ref : String} {xs ys : List String}

theorem ascend_zero_eq_some_iff : ascend rs 0 ref = some xs ↔ ref = rootResourceId ∧ xs = [] := by
  simp [ascend, eq_comm]

theorem ascend_succ_eq_some_iff : ascend rs (n + 1) ref = some xs ↔
    ∃ b parent above part, rs.find? (fun b => idOf b.address = ref) = some b ∧
      b.attribute? "parent_id" = some parent ∧ ascend rs n parent = some above ∧
      b.attribute? "path_part" = some part ∧ above ++ [part] = xs := by
  rw [ascend]
  simp only [bind, pure, Option.bind_eq_some_iff, Option.some.injEq]
  constructor
  · rintro ⟨b, hb, parent, hparent, above, habove, part, hpart, rfl⟩
    exact ⟨b, parent, above, part, hb, hparent, habove, hpart, rfl⟩
  · rintro ⟨b, parent, above, part, hb, hparent, habove, hpart, rfl⟩
    exact ⟨b, hb, parent, hparent, above, habove, part, hpart, rfl⟩

theorem not_ascend_succ_root : ascend rs (n + 1) rootResourceId ≠ some xs := by
  intro h
  obtain ⟨b, -, -, -, hb, -⟩ := ascend_succ_eq_some_iff.mp h
  have hroot : idOf b.address = rootResourceId := by simpa using List.find?_some hb
  exact idOf_reference_ne_root _ _ hroot

/-- However many resources a way up from a reference may take, it is the only one. -/
theorem ascend_unique (hx : ascend rs m ref = some xs) (hy : ascend rs n ref = some ys) :
    xs = ys := by
  -- A way is at its end where it is at the root, which no block has for its address.
  induction m generalizing n ref xs ys with
  | zero =>
    obtain ⟨rfl, rfl⟩ := ascend_zero_eq_some_iff.mp hx
    cases n with
    | zero => exact (ascend_zero_eq_some_iff.mp hy).2.symm
    | succ n => exact absurd hy not_ascend_succ_root
  | succ m ih =>
    cases n with
    | zero =>
      obtain ⟨rfl, -⟩ := ascend_zero_eq_some_iff.mp hy
      exact absurd hx not_ascend_succ_root
    | succ n =>
      obtain ⟨b, parent, above, part, hb, hparent, habove, hpart, rfl⟩ :=
        ascend_succ_eq_some_iff.mp hx
      obtain ⟨c, parent', above', part', hc, hparent', habove', hpart', rfl⟩ :=
        ascend_succ_eq_some_iff.mp hy
      obtain rfl : b = c := Option.some.inj (hb.symm.trans hc)
      obtain rfl : parent = parent' := Option.some.inj (hparent.symm.trans hparent')
      obtain rfl : part = part' := Option.some.inj (hpart.symm.trans hpart')
      rw [ih habove habove']

end Ascent

section Routes

variable {es fs : List Endpoint} {e f : Endpoint} {rs ms is : List Block} {m n : Block}

theorem Serves.segments_eq (he : Serves rs e m n) (hf : Serves rs f m n) :
    ∃ ss, Path.segments e.path = .ok ss ∧ Path.segments f.path = .ok ss := by
  obtain ⟨x, -, hx, -, ss, hss, hup⟩ := he.target
  obtain ⟨y, -, hy, -, ts, hts, hup'⟩ := hf.target
  have htarget : idOf x.address = idOf y.address := Option.some.inj (hx.symm.trans hy)
  have hmap : ss.map quote = ts.map quote := ascend_unique hup (htarget ▸ hup')
  obtain rfl : ss = ts := List.map_injective_iff.mpr (fun _ _ => quote_inj.mp) hmap
  exact ⟨ss, hss, hts⟩

/-- The blocks that make one endpoint reachable make no other route reachable. -/
theorem Serves.sameRoute (he : Serves rs e m n) (hf : Serves rs f m n) : e.SameRoute f where
  segments := he.segments_eq hf
  path := by
    obtain ⟨ss, hss, hss'⟩ := he.segments_eq hf
    obtain ⟨hsplit, hne⟩ := Path.segments_eq_ok_iff.mp hss
    exact Path.eqvGen_of_split_eq (hsplit.trans (Path.segments_eq_ok_iff.mp hss').1.symm)
      (hsplit ▸ hne)
  method := Method.verb_injective (quote_inj.mp (Option.some.inj (he.verb.symm.trans hf.verb)))
  backendUri := quote_inj.mp (Option.some.inj (he.uri.symm.trans hf.uri))
  apiKeyRequired := by
    have hkey := Option.some.inj (he.apiKey.symm.trans hf.apiKey)
    cases hx : e.apiKeyRequired <;> cases hy : f.apiKeyRequired <;> simp [hx, hy] at hkey ⊢

theorem Denotes.sameRoutes (hes : Denotes es rs ms is) (hfs : Denotes fs rs ms is) :
    List.Forall₂ Endpoint.SameRoute es fs := by
  rw [List.forall₂_iff_get]
  refine ⟨hes.length_methods.symm.trans hfs.length_methods, fun i hi hi' => ?_⟩
  have hm : i < ms.length := hes.length_methods.symm ▸ hi
  have hn : i < is.length := hes.length_integrations.symm ▸ hi
  have he := hes.served i _ _ _ (List.getElem?_eq_getElem hi) (List.getElem?_eq_getElem hm)
    (List.getElem?_eq_getElem hn)
  exact he.sameRoute (hfs.served i _ _ _ (List.getElem?_eq_getElem hi')
    (List.getElem?_eq_getElem hm) (List.getElem?_eq_getElem hn))

theorem denotes_of_clean (h : Lint.problems es = []) :
    Denotes es (resourceBlocks es) (es.map methodOf) (es.map integrationOf) := by
  obtain ⟨hroutable, hnames, hmethods⟩ := Lint.problems_eq_nil_iff.mp h
  exact denotes_of_nodup hroutable hnames hmethods

theorem generate_congr (h : Endpoint.Routable es)
    (hsegments : es.map Endpoint.segments = fs.map Endpoint.segments)
    (hmethods : es.map methodOf = fs.map methodOf)
    (hintegrations : es.map integrationOf = fs.map integrationOf) : generate es = generate fs := by
  have houtline : outline es = outline fs := by
    rw [outline, outline, resourceBlocks, resourceBlocks, hsegments, hmethods, hintegrations]
  have hroutable : Endpoint.Routable fs := by
    rw [Endpoint.routable_iff, ← List.forall_mem_map (P := (· ≠ []))] at h ⊢
    rwa [← hsegments]
  rw [generate_eq_ok_iff.mpr ⟨h, rfl⟩, generate_eq_ok_iff.mpr ⟨hroutable, rfl⟩, houtline]

theorem map_eq_of_forall₂ {β : Type} {R : Endpoint → Endpoint → Prop} {g : Endpoint → β}
    (hg : ∀ e f, R e f → g e = g f) (h : List.Forall₂ R es fs) : es.map g = fs.map g := by
  rw [← List.forall₂_eq_eq_eq, List.forall₂_map_left_iff, List.forall₂_map_right_iff]
  exact h.imp hg

theorem generate_eq_of_sameRoutes (hes : Endpoint.Routable es)
    (h : List.Forall₂ Endpoint.SameRoute es fs) : generate es = generate fs := by
  have hsegments (e f : Endpoint) (hef : e.SameRoute f) : e.segments = f.segments := by
    obtain ⟨ss, he, hf⟩ := hef.segments
    rw [Endpoint.segments_of_eq_ok he, Endpoint.segments_of_eq_ok hf]
  refine generate_congr hes (map_eq_of_forall₂ hsegments h) (map_eq_of_forall₂ (fun e f hef => ?_) h)
    (map_eq_of_forall₂ (fun e f hef => ?_) h)
  · rw [methodOf, methodOf, Endpoint.resourceName, hsegments e f hef, hef.method,
      hef.apiKeyRequired]
    rfl
  · rw [integrationOf, integrationOf, Endpoint.resourceName, hsegments e f hef, hef.method,
      hef.backendUri]
    rfl

/-- With nothing to report and no line feed anywhere, two lists of endpoints have one text just if
they list the same routes, whatever else stands in their paths and backends. -/
theorem generate_eq_iff_sameRoutes (hes : Lint.problems es = []) (hfs : Lint.problems fs = [])
    (hfeed : ∀ e ∈ es, OneLine e.path ∧ OneLine e.backendUri)
    (hfeed' : ∀ f ∈ fs, OneLine f.path ∧ OneLine f.backendUri) :
    generate es = generate fs ↔ List.Forall₂ Endpoint.SameRoute es fs := by
  have hroutable := (Lint.problems_eq_nil_iff.mp hes).1
  have hroutable' := (Lint.problems_eq_nil_iff.mp hfs).1
  refine ⟨fun h => ?_, generate_eq_of_sameRoutes hroutable⟩
  rw [generate_eq_ok_iff.mpr ⟨hroutable, rfl⟩, generate_eq_ok_iff.mpr ⟨hroutable', rfl⟩,
    Except.ok.injEq, String.append_right_inj] at h
  -- The same blocks denote the routes of both lists.
  have hblocks := render_injective (oneLine_texts_outline hfeed) (oneLine_texts_outline hfeed') h
  obtain ⟨hrs, hms, his⟩ := (sections_outline es).eq (sections_outline fs) hblocks
  have hdenotes := denotes_of_clean hfs
  rw [← hrs, ← hms, ← his] at hdenotes
  exact (denotes_of_clean hes).sameRoutes hdenotes

theorem generate_eq_iff_sameRoutes_spelling :
    generate [⟨"/a/\x7bid\x7d\" =", .get, "https://example.com/\" \x7d", true⟩] =
      generate [⟨"a//\x7bid\x7d\" =/", .get, "https://example.com/\" \x7d", true⟩] ∧
    List.Forall₂ Endpoint.SameRoute
      [⟨"/a/\x7bid\x7d\" =", .get, "https://example.com/\" \x7d", true⟩]
      [⟨"a//\x7bid\x7d\" =/", .get, "https://example.com/\" \x7d", true⟩] := by
  have hgenerate : generate [⟨"/a/\x7bid\x7d\" =", .get, "https://example.com/\" \x7d", true⟩] =
      generate [⟨"a//\x7bid\x7d\" =/", .get, "https://example.com/\" \x7d", true⟩] :=
    generate_congr (Endpoint.routable_iff.mpr (by decide +kernel)) (by decide +kernel)
      (by decide +kernel) (by decide +kernel)
  exact ⟨hgenerate, (generate_eq_iff_sameRoutes (by decide +kernel) (by decide +kernel)
    (by decide +kernel) (by decide +kernel)).mp hgenerate⟩

end Routes

end Terraform
end ApiGateway
