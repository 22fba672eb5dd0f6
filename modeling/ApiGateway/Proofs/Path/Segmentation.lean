import ApiGateway.Proofs.Path.Key
import ApiGateway.Proofs.Text.Blank

/-! Splitting a path undoes what a key is made by. Every slash of a path separates, so a path put
together of two has the segments of both; the key of a path is the one among its spellings that is
made again of its own segments. -/

namespace ApiGateway.Path

/-- What a path can be split into: no part is empty or holds a slash. -/
def IsSplit (ss : Segments) : Prop := ∀ s ∈ ss, s ≠ "" ∧ '/' ∉ s.toList

/-- The segments of a path, none where the path is refused. -/
def segmentsOrNone (path : String) : Segments := (segments path).toOption.getD []

/-- The path spelt as the key of its segments. -/
def normalForm (path : String) : Except EmptyPath String := (segments path).map key

/-- The path without the slashes at its two ends. -/
def withoutOuterSlashes (path : String) : String :=
  String.ofList (Text.dropEnds (· = '/') path.toList)

section Split

variable {path p q : String} {ss ts : Segments} {cs : List Char}

theorem isSplit_split (path : String) : IsSplit (split path) := by
  intro s hs
  exact ⟨ne_empty_of_mem_split hs, slashFree_split path s hs⟩

theorem segmentsOrNone_eq (path : String) : segmentsOrNone path = split path := by
  unfold segmentsOrNone segments
  cases split path <;> rfl

theorem isSplit_of_segments (h : segments path = .ok ss) : ss ≠ [] ∧ IsSplit ss := by
  obtain ⟨rfl, hne⟩ := segments_eq_ok_iff.mp h
  exact ⟨hne, isSplit_split path⟩

theorem split_key (hne : ss ≠ []) (h : IsSplit ss) : split (key ss) = ss := by
  have hslash : ∀ s ∈ ss, '/' ∉ s.toList := fun s hs => (h s hs).2
  have hpieces : Text.pieces '/' (key ss).toList = [] :: ss.map String.toList := by
    have hchars : (key ss).toList = '/' :: (Text.joinWith "/" ss).toList := by simp [key]
    rw [hchars, Text.pieces, if_pos rfl]
    exact congrArg _ (Text.pieces_joinWith hne hslash)
  have hfull : (ss.map String.toList).filter (· ≠ []) = ss.map String.toList := by
    apply List.filter_eq_self.mpr
    intro cs hcs
    obtain ⟨s, hs, rfl⟩ := List.mem_map.mp hcs
    exact decide_eq_true (mt String.toList_eq_nil_iff.mp (h s hs).1)
  have hback : String.ofList ∘ String.toList = id := by
    funext s
    exact String.ofList_toList
  rw [split, hpieces, List.filter_cons_of_neg (by simp), hfull, List.map_map, hback, List.map_id]

theorem segments_key (hne : ss ≠ []) (h : IsSplit ss) : segments (key ss) = .ok ss :=
  segments_eq_ok_iff.mpr ⟨split_key hne h, hne⟩

theorem normalForm_of_eq_ok {k : String} (h : normalForm path = .ok k) : normalForm k = .ok k := by
  unfold normalForm at h
  cases hss : segments path with
  | error e =>
    rw [hss] at h
    cases h
  | ok ss =>
    rw [hss] at h
    obtain rfl := Except.ok.inj h
    obtain ⟨hne, hsplit⟩ := isSplit_of_segments hss
    rw [normalForm, segments_key hne hsplit]
    rfl

theorem key_inj_of_segments (hp : segments p = .ok ss) (hq : segments q = .ok ts) :
    ss = ts ↔ key ss = key ts := by
  obtain ⟨hss, hsplit⟩ := isSplit_of_segments hp
  obtain ⟨hts, hsplit'⟩ := isSplit_of_segments hq
  constructor
  · intro h
    rw [h]
  · intro h
    rw [← split_key hss hsplit, h, split_key hts hsplit']

end Split

section OuterSlashes

variable {cs : List Char}

theorem split_slashes_append (h : ∀ c ∈ cs, c = '/') (path : String) :
    split (String.ofList cs ++ path) = split path := by
  induction cs with
  | nil => simp
  | cons c cs ih =>
    obtain ⟨rfl, hcs⟩ := List.forall_mem_cons.mp h
    have hleading : String.ofList ('/' :: cs) ++ path = "/" ++ (String.ofList cs ++ path) := by
      apply String.toList_injective
      simp
    rw [hleading, (Redundant.leading _).split_eq, ih hcs]

theorem split_append_slashes (h : ∀ c ∈ cs, c = '/') (path : String) :
    split (path ++ String.ofList cs) = split path := by
  induction cs generalizing path with
  | nil => simp
  | cons c cs ih =>
    obtain ⟨rfl, hcs⟩ := List.forall_mem_cons.mp h
    have htrailing : path ++ String.ofList ('/' :: cs) = path ++ "/" ++ String.ofList cs := by
      apply String.toList_injective
      simp
    rw [htrailing, ih hcs, (Redundant.trailing path).split_eq]

theorem split_withoutOuterSlashes (path : String) :
    split (withoutOuterSlashes path) = split path := by
  obtain ⟨before, after, hpath, hends⟩ :=
    Text.exists_eq_append_dropEnds (· = '/') path.toList
  obtain ⟨hbefore, hafter⟩ := List.forall_mem_append.mp hends
  have hwhole : path = String.ofList before ++ withoutOuterSlashes path ++ String.ofList after := by
    apply String.toList_injective
    simpa [withoutOuterSlashes] using hpath
  have hsplit := split_append_slashes (fun c hc => of_decide_eq_true (hafter c hc))
    (String.ofList before ++ withoutOuterSlashes path)
  rw [← hwhole, split_slashes_append fun c hc => of_decide_eq_true (hbefore c hc)] at hsplit
  exact hsplit.symm

end OuterSlashes

/-- Paths are split at every slash, and the key of a list of segments is split into that list. -/
theorem segments_inverse_key :
    (∀ path ss, segments path = .ok ss → ss ≠ [] ∧ IsSplit ss) ∧
    (∀ ss, ss ≠ [] → IsSplit ss → segments (key ss) = .ok ss) ∧
    (∀ p q, segmentsOrNone (p ++ "/" ++ q) = segmentsOrNone p ++ segmentsOrNone q) ∧
    (∀ path, segmentsOrNone (withoutOuterSlashes path) = segmentsOrNone path) ∧
    (∀ path k, normalForm path = .ok k → normalForm k = .ok k) ∧
    ∀ p q ss ts, segments p = .ok ss → segments q = .ok ts → (ss = ts ↔ key ss = key ts) := by
  simp only [segmentsOrNone_eq]
  exact ⟨fun _ _ => isSplit_of_segments, fun _ => segments_key, split_append_slash,
    split_withoutOuterSlashes, fun _ _ => normalForm_of_eq_ok, fun _ _ _ _ => key_inj_of_segments⟩

theorem segments_inverse_key_spellings :
    segments "//a/ /\x7bid\x7d//" = .ok ["a", " ", "\x7bid\x7d"] ∧
    segments (key ["a", " ", "\x7bid\x7d"]) = .ok ["a", " ", "\x7bid\x7d"] ∧
    segmentsOrNone ("//" ++ "/" ++ "a/") = segmentsOrNone "//" ++ segmentsOrNone "a/" ∧
    normalForm "/a/ /\x7bid\x7d" = .ok "/a/ /\x7bid\x7d" ∧
    key ["a", " ", "\x7bid\x7d"] ≠ key ["a", "\x7bid\x7d"] := by
  have hsegments : segments "//a/ /\x7bid\x7d//" = .ok ["a", " ", "\x7bid\x7d"] := by
    decide +kernel
  have hother : segments "a/\x7bid\x7d" = .ok ["a", "\x7bid\x7d"] := by decide +kernel
  have hnormal : normalForm "//a/ /\x7bid\x7d//" = .ok "/a/ /\x7bid\x7d" := by decide +kernel
  obtain ⟨hsplit, hkey, hconcat, -, hform, hinj⟩ := segments_inverse_key
  obtain ⟨hne, hparts⟩ := hsplit _ _ hsegments
  exact ⟨hsegments, hkey _ hne hparts, hconcat "//" "a/", hform _ _ hnormal,
    mt (hinj _ _ _ _ hsegments hother).mpr (by decide)⟩

end ApiGateway.Path
