import ApiGateway.Endpoint.Validation
import ApiGateway.Proofs.Lint.Report

/-! The one way in which generation fails: a path of slashes only. Whatever takes the paths apart
stops at the first such path and says so in the same words; to emit the blocks of a tree never
fails. -/

namespace ApiGateway

/-- What is said of a path without segments: the path stands between the quotes as it is. -/
def Path.refusal (path : String) : String :=
  "Endpoint must contain at least one path segment (got " ++ ("\"" ++ path ++ "\"") ++ ")"

section Message

variable {path : String}

theorem Path.OnlySlashes.quoted_eq (h : Path.OnlySlashes path) :
    Text.quoted path = "\"" ++ path ++ "\"" := by
  have hslash : Text.quotedChar '/' = ['/'] :=
    Text.quotedChar_of_visible (by decide) (by decide) (by decide) (by decide)
  have hchars : path.toList.flatMap Text.quotedChar = path.toList := by
    have hsame : ∀ c ∈ path.toList, Text.quotedChar c = [c] := by
      intro c hc
      rw [h c hc, hslash]
    rw [List.flatMap_congr hsame, List.flatMap_singleton']
  apply String.toList_injective
  simp [Text.quoted, hchars]

theorem EmptyPath.message_eq (h : Path.OnlySlashes path) :
    EmptyPath.message ⟨path⟩ = Path.refusal path := by
  unfold EmptyPath.message Path.refusal
  rw [h.quoted_eq]

end Message

namespace Endpoint

variable {es before : List Endpoint} {e : Endpoint}

/-- The first endpoint whose path has slashes only, with those before it. -/
structure FirstEmpty (es before : List Endpoint) (e : Endpoint) : Prop where
  leads : before ++ [e] <+: es
  empty : Path.OnlySlashes e.path
  fine : ∀ f ∈ before, ¬ Path.OnlySlashes f.path

theorem segments_eq_error_iff {err : EmptyPath} :
    Path.segments e.path = .error err ↔ Path.OnlySlashes e.path ∧ err = ⟨e.path⟩ := by
  rw [Path.segments_eq_error_iff, Path.split_eq_nil_iff]

theorem exists_segments_iff :
    (∃ ss, Path.segments e.path = .ok ss) ↔ ¬ Path.OnlySlashes e.path := by
  cases h : Path.segments e.path with
  | error err => simp [(segments_eq_error_iff.mp h).1]
  | ok ss =>
    have hne : e.segments ≠ [] := segments_of_eq_ok h ▸ (Path.segments_eq_ok_iff.mp h).2
    rw [segments, Ne, Path.split_eq_nil_iff] at hne
    simpa using hne

section Loop

variable {β : Type} {f : Endpoint → Except EmptyPath β} {g : Endpoint → Segments → β}
  (hf : ∀ e, f e = (Path.segments e.path).map (g e))
include hf

/-- Whatever is made of the segments of each path, there is nothing if a path has none. -/
theorem mapM_of_firstEmpty (h : FirstEmpty es before e) : es.mapM f = .error ⟨e.path⟩ := by
  obtain ⟨after, rfl⟩ := h.leads
  rw [List.append_assoc, List.singleton_append]
  refine mapM_eq_error (fun d hd => ?_) ?_
  · obtain ⟨ss, hss⟩ := exists_segments_iff.mpr (h.fine d hd)
    exact ⟨g d ss, by rw [hf, hss]; rfl⟩
  · rw [hf, segments_eq_error_iff.mpr ⟨h.empty, rfl⟩]
    rfl

theorem exists_firstEmpty_of_mapM {err : EmptyPath} (h : es.mapM f = .error err) :
    ∃ before e, FirstEmpty es before e ∧ err = ⟨e.path⟩ := by
  obtain ⟨before, e, after, rfl, hbefore, he⟩ := exists_eq_error_of_mapM h
  have hfails (d : Endpoint) (err : EmptyPath) :
      f d = .error err ↔ Path.segments d.path = .error err := by
    rw [hf]
    cases Path.segments d.path <;> simp [Except.map]
  obtain ⟨hempty, rfl⟩ := segments_eq_error_iff.mp ((hfails e err).mp he)
  refine ⟨before, e, ⟨⟨after, by simp⟩, hempty, fun d hd hd' => ?_⟩, rfl⟩
  obtain ⟨b, hb⟩ := hbefore d hd
  rw [(hfails d _).mpr (segments_eq_error_iff.mpr ⟨hd', rfl⟩)] at hb
  cases hb

theorem exists_mapM_error_iff :
    (∃ err, es.mapM f = .error err) ↔ ∃ e ∈ es, Path.OnlySlashes e.path := by
  constructor
  · rintro ⟨err, h⟩
    obtain ⟨before, e, hfirst, -⟩ := exists_firstEmpty_of_mapM hf h
    exact ⟨e, hfirst.leads.subset (by simp), hfirst.empty⟩
  · rintro ⟨e, he, hempty⟩
    -- A run that goes through takes every path apart, the path of `e` too.
    cases h : es.mapM f with
    | error err => exact ⟨err, rfl⟩
    | ok bs =>
      obtain ⟨b, hb⟩ := exists_eq_ok_of_mapM h e he
      rw [hf, segments_eq_error_iff.mpr ⟨hempty, rfl⟩] at hb
      cases hb

end Loop

end Endpoint

namespace Lint

variable {es before : List Endpoint} {e : Endpoint}

theorem head?_emptyPathsOf (h : Endpoint.FirstEmpty es before e) :
    (emptyPathsOf es).head? = some (before.length + 1, e.path) := by
  obtain ⟨after, rfl⟩ := h.leads
  have hnone : (before.zipIdx 1).filter (·.1.segments = []) = [] := by
    refine List.filter_eq_nil_iff.mpr fun x hx => ?_
    have hmem : x.1 ∈ before := List.fst_mem_of_mem_zipIdx hx
    rw [decide_eq_true_eq, Endpoint.segments, Path.split_eq_nil_iff]
    exact h.fine x.1 hmem
  have hsegments : e.segments = [] := Path.split_eq_nil_iff.mpr h.empty
  rw [emptyPathsOf, numbered, List.append_assoc, List.zipIdx_append, List.filter_append, hnone]
  simp [hsegments, Nat.add_comm]

theorem lists_onlySlashes (es : List Endpoint) :
    Lists (fun a => ∃ j e, a = (j + 1, e.path) ∧ es[j]? = some e ∧ Path.OnlySlashes e.path)
      (fun a b => a.1 < b.1) (emptyPathsOf es) := by
  have hlists := lists_emptyPathsOf es
  simpa only [Endpoint.segments_eq_error_iff, and_true] using hlists

theorem map_message_emptyPaths (es : List Endpoint) : (emptyPaths es).map Problem.message =
    (emptyPathsOf es).map fun a => "Endpoint " ++ toString a.1 ++ ": " ++ Path.refusal a.2 := by
  rw [emptyPaths_eq, List.map_map]
  refine List.map_congr_left fun a ha => ?_
  obtain ⟨j, e, rfl, -, hempty⟩ := ((lists_onlySlashes es).mem_iff a).mp ha
  exact congrArg ("Endpoint " ++ toString (j + 1) ++ ": " ++ ·) (EmptyPath.message_eq hempty)

/-- A line about several paths or several endpoints does not begin like one about an endpoint. -/
theorem not_prefix_message {p : Problem} (h : p ∈ sharedNames es ++ sharedMethods es) :
    ¬ "Endpoint ".toList <+: p.message.toList := by
  rcases List.mem_append.mp h with h | h
  · obtain ⟨b, -, rfl⟩ := List.mem_map.mp h
    simp [Problem.message]
  · obtain ⟨c, -, rfl⟩ := List.mem_map.mp h
    simp [Problem.message]

end Lint

namespace Terraform

open ResourceTree (Node)

section Emission

variable {rs : List Segments}

/-- The key of a parent leads to a node, if not always to one for the segments it was made of. -/
theorem exists_parentName {n : Node} (hn : n ∈ (ResourceTree.ofLists rs).toList) :
    ∃ parent, parentName (.ofLists rs) n = .ok parent := by
  have holds := ResourceTree.holds_ofLists rs
  have hpart : n.segments ∈ Path.parts rs := (holds.stored (holds.mem_toList.mp hn)).2
  rw [parentName, (holds.coherent_of_mem hn).parent, Parent.ofSegments]
  by_cases hlen : n.segments.length ≤ 1
  · simp [hlen]
  · obtain ⟨m, hm⟩ := holds.present (Path.dropLast_mem_parts hpart (by omega))
    simp [hlen, hm]

/-- No parent is ever missing, whatever lists the tree was made of and whatever names are known. -/
theorem exists_emit (rs : List Segments) (known : Emitted) :
    ∃ emitted, emit (.ofLists rs) known = .ok emitted := by
  rw [emit, emitNodes_eq]
  cases h : (fresh known (ResourceTree.ofLists rs).byDepth).mapM (nodeBlock (.ofLists rs)) with
  | ok bs => exact ⟨_, rfl⟩
  | error err =>
    -- The node where it would end is one of the tree, and every node of the tree has its parent.
    obtain ⟨before, n, after, hsplit, -, hn⟩ := Endpoint.exists_eq_error_of_mapM h
    have hfresh : n ∈ fresh known (ResourceTree.ofLists rs).byDepth := hsplit ▸ by simp
    have hmem := ResourceTree.mem_byDepth.mp ((fresh_sublist _ _).subset hfresh)
    obtain ⟨parent, hparent⟩ := exists_parentName hmem
    rw [nodeBlock, hparent] at hn
    cases hn

end Emission

section Failure

variable {es before : List Endpoint} {e : Endpoint}

theorem build_eq_error_iff {err : EmptyPath} : ResourceTree.build es = .error err ↔
    es.mapM (fun e => Path.segments e.path) = .error err := by
  rw [ResourceTree.build_eq]
  cases es.mapM fun e => Path.segments e.path <;> simp [Except.map]

theorem generate_eq_error_iff {err : GenerationError} : generate es = .error err ↔
    ∃ e, ResourceTree.build es = .error e ∧ err = ⟨.emptyPath e⟩ := by
  cases hbuild : ResourceTree.build es with
  | error e =>
    have hgenerate : generate es = .error ⟨.emptyPath e⟩ := by
      simp [generate, blocks, hbuild, Except.mapError, bind, Except.bind]
    simp [hgenerate, eq_comm]
  | ok t =>
    have hroutable := ResourceTree.routable_of_build_eq_ok hbuild
    simp [generate_eq_ok_iff.mpr ⟨hroutable, rfl⟩]

/-- For one list of endpoints: whatever takes its paths apart fails exactly if one of them has
slashes only, and then at the first of these, in the words that the report begins with. -/
structure FailsAtSlashes (es : List Endpoint) : Prop where
  generate_iff : (∃ err, generate es = .error err) ↔ ∃ e ∈ es, Path.OnlySlashes e.path
  build_iff : (∃ err, ResourceTree.build es = .error err) ↔ ∃ e ∈ es, Path.OnlySlashes e.path
  methods_iff : (∃ err, methodBlocks es = .error err) ↔ ∃ e ∈ es, Path.OnlySlashes e.path
  integrations_iff :
    (∃ err, integrationBlocks es = .error err) ↔ ∃ e ∈ es, Path.OnlySlashes e.path
  first : (∃ e ∈ es, Path.OnlySlashes e.path) → ∃ before e, Endpoint.FirstEmpty es before e ∧
    ResourceTree.build es = .error ⟨e.path⟩ ∧ methodBlocks es = .error ⟨e.path⟩ ∧
    integrationBlocks es = .error ⟨e.path⟩ ∧
    (∃ err, generate es = .error err ∧ err.cause = .emptyPath ⟨e.path⟩ ∧
      err.emptyPath? = some ⟨e.path⟩ ∧ err.cause.message = Path.refusal e.path) ∧
    ((Lint.problems es).map Lint.Problem.message).head? =
      some ("Endpoint " ++ toString (before.length + 1) ++ ": " ++ Path.refusal e.path)
  reported : ∃ as rest, Lint.Lists (fun a => ∃ j e, a = (j + 1, e.path) ∧ es[j]? = some e ∧
      Path.OnlySlashes e.path) (fun a b => a.1 < b.1) as ∧
    (Lint.problems es).map Lint.Problem.message =
      as.map (fun a => "Endpoint " ++ toString a.1 ++ ": " ++ Path.refusal a.2) ++ rest ∧
    ∀ line ∈ rest, ¬ "Endpoint ".toList <+: line.toList
  never_missing : ∀ err, generate es = .error err → ∀ path parent,
    err.cause ≠ .missingParent path parent

theorem exists_generate_error_iff : (∃ err, generate es = .error err) ↔
    ∃ err, es.mapM (fun e => Path.segments e.path) = .error err := by
  simp only [generate_eq_error_iff, build_eq_error_iff]
  constructor
  · rintro ⟨_, e, h, rfl⟩
    exact ⟨e, h⟩
  · rintro ⟨e, h⟩
    exact ⟨_, e, h, rfl⟩

theorem mapM_segments_form (e : Endpoint) :
    Path.segments e.path = (Path.segments e.path).map fun ss => ss := by
  cases Path.segments e.path <;> rfl

theorem head?_messages (h : Endpoint.FirstEmpty es before e) :
    ((Lint.problems es).map Lint.Problem.message).head? =
      some ("Endpoint " ++ toString (before.length + 1) ++ ": " ++ Path.refusal e.path) := by
  have hproblem : (Lint.problems es).head? = some (.emptyPath (before.length + 1) ⟨e.path⟩) := by
    rw [Lint.problems, List.append_assoc, Lint.emptyPaths_eq, List.head?_append, List.head?_map,
      Lint.head?_emptyPathsOf h]
    rfl
  rw [List.head?_map, hproblem, Option.map_some, Lint.Problem.message, EmptyPath.message_eq h.empty]

theorem failsAtSlashes (es : List Endpoint) : FailsAtSlashes es where
  generate_iff := exists_generate_error_iff.trans
    (Endpoint.exists_mapM_error_iff mapM_segments_form)
  build_iff := by
    simp only [build_eq_error_iff]
    exact Endpoint.exists_mapM_error_iff mapM_segments_form
  methods_iff := Endpoint.exists_mapM_error_iff fun _ => rfl
  integrations_iff := Endpoint.exists_mapM_error_iff fun _ => rfl
  first h := by
    obtain ⟨err, herr⟩ := (Endpoint.exists_mapM_error_iff mapM_segments_form).mpr h
    obtain ⟨before, e, hfirst, rfl⟩ := Endpoint.exists_firstEmpty_of_mapM mapM_segments_form herr
    have hbuild := build_eq_error_iff.mpr herr
    refine ⟨before, e, hfirst, hbuild, Endpoint.mapM_of_firstEmpty (fun _ => rfl) hfirst,
      Endpoint.mapM_of_firstEmpty (fun _ => rfl) hfirst, ?_, head?_messages hfirst⟩
    exact ⟨_, generate_eq_error_iff.mpr ⟨_, hbuild, rfl⟩, rfl, rfl,
      EmptyPath.message_eq hfirst.empty⟩
  reported := by
    refine ⟨Lint.emptyPathsOf es, (Lint.sharedNames es ++ Lint.sharedMethods es).map
      Lint.Problem.message, Lint.lists_onlySlashes es, ?_, ?_⟩
    · rw [Lint.problems, List.append_assoc, List.map_append, Lint.map_message_emptyPaths]
    · intro line hline
      obtain ⟨p, hp, rfl⟩ := List.mem_map.mp hline
      exact Lint.not_prefix_message hp
  never_missing err h path parent := by
    obtain ⟨e, -, rfl⟩ := generate_eq_error_iff.mp h
    exact EmissionError.noConfusion

end Failure

theorem usable_of_validate {rows : List Row} {es : List Endpoint} (h : Row.validate rows = .ok es) :
    es = Row.usable rows := by
  simp only [Row.validate] at h
  split at h
  · cases h
  · split at h
    · cases h
    · exact (Except.ok.inj h).symm

/-- Generation fails at paths of slashes only and nowhere else. -/
theorem generation_fails_at_slashes :
    (∀ es, FailsAtSlashes es) ∧
    (∀ rs known, ∃ emitted, emit (.ofLists rs) known = .ok emitted) ∧
    ∀ rows es, Row.validate rows = .ok es → ((∃ err, generate es = .error err) ↔
      ∃ r ∈ rows, r.isUsable ∧ Path.OnlySlashes (Text.trim r.path)) := by
  refine ⟨failsAtSlashes, exists_emit, fun rows es h => ?_⟩
  obtain rfl := usable_of_validate h
  rw [(failsAtSlashes _).generate_iff, Row.usable]
  simp only [List.mem_map, List.mem_filter]
  constructor
  · rintro ⟨_, ⟨r, ⟨hr, husable⟩, rfl⟩, hempty⟩
    exact ⟨r, hr, husable, hempty⟩
  · rintro ⟨r, hr, husable, hempty⟩
    exact ⟨r.endpoint, ⟨r, ⟨hr, husable⟩, rfl⟩, hempty⟩

theorem generation_fails_at_slashes_row :
    Row.validate [⟨"/ok", .get, " ", true⟩, ⟨" /ok", .get, "https://example.com", true⟩,
        ⟨" // ", .post, "https://example.com", false⟩] =
      .ok [⟨"/ok", .get, "https://example.com", true⟩,
        ⟨"//", .post, "https://example.com", false⟩] ∧
    ∃ err, generate [⟨"/ok", .get, "https://example.com", true⟩,
      ⟨"//", .post, "https://example.com", false⟩] = .error err := by
  have hrows : Row.validate [⟨"/ok", .get, " ", true⟩, ⟨" /ok", .get, "https://example.com", true⟩,
        ⟨" // ", .post, "https://example.com", false⟩] =
      .ok [⟨"/ok", .get, "https://example.com", true⟩,
        ⟨"//", .post, "https://example.com", false⟩] := by decide +kernel
  refine ⟨hrows, (generation_fails_at_slashes.2.2 _ _ hrows).mpr ?_⟩
  have hempty : Path.split (Text.trim " // ") = [] := by decide +kernel
  exact ⟨⟨" // ", .post, "https://example.com", false⟩, by simp, by decide +kernel,
    Path.split_eq_nil_iff.mp hempty⟩

end Terraform
end ApiGateway
