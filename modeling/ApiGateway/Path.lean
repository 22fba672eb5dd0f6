import ApiGateway.Text.Join

/-! Endpoint paths: the segments of a path, the key that stands for a list of segments, and the
resource name that Terraform blocks carry for it. Different lists can share a name. -/

namespace ApiGateway

abbrev Segments := List String

/-- A path without a segment names no resource. -/
structure EmptyPath where
  path : String
  deriving DecidableEq

namespace Path

/-- The non-empty parts of a path between its slashes. -/
def split (path : String) : Segments :=
  ((Text.pieces '/' path.toList).filter (· ≠ [])).map String.ofList

def segments (path : String) : Except EmptyPath Segments :=
  match split path with
  | [] => .error ⟨path⟩
  | s :: ss => .ok (s :: ss)

def key (ss : Segments) : String := "/" ++ Text.joinWith "/" ss

/-- The letters of a resource name that a character of a path gives: its own small letter where
that is ASCII, an underscore otherwise. The capital I with a dot is small i and a dot above. -/
def nameChars (c : Char) : List Char :=
  if c.isLower ∨ c.isDigit ∨ c = '_' then [c]
  else if c.isUpper then [c.toLower]
  else if c = '\u212a' then ['k']
  else if c = '\u0130' then ['i', '_']
  else ['_']

def resourceName (ss : Segments) : String :=
  String.ofList ((Text.joinWith "_" ss).toList.flatMap nameChars)

/-- The non-empty leading parts of a list of segments, shortest first. -/
def ancestry : Segments → List Segments
  | [] => []
  | s :: ss => [s] :: (ancestry ss).map (s :: ·)

theorem segments_eq_ok_iff {path : String} {ss : Segments} :
    segments path = .ok ss ↔ split path = ss ∧ ss ≠ [] := by
  unfold segments
  cases h : split path with
  | nil => simp [eq_comm]
  | cons s rest =>
    simp only [Except.ok.injEq, iff_self_and]
    rintro rfl
    exact List.cons_ne_nil s rest

theorem segments_eq_error_iff {path : String} {e : EmptyPath} :
    segments path = .error e ↔ split path = [] ∧ e = ⟨path⟩ := by
  unfold segments
  cases h : split path <;> simp [eq_comm]

theorem mem_ancestry {p ss : Segments} : p ∈ ancestry ss ↔ p <+: ss ∧ p ≠ [] := by
  induction ss generalizing p with
  | nil => simp [ancestry]
  | cons s ss ih =>
    cases p with
    | nil => simp [ancestry]
    | cons a p =>
      cases p with
      | nil => simp [ancestry, ih, List.cons_prefix_cons]
      | cons b p =>
      simp only [ancestry, List.mem_cons, List.mem_map, ih, List.cons_prefix_cons]
      grind

end Path
end ApiGateway
