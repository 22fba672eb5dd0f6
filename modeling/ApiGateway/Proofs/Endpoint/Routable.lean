import ApiGateway.Endpoint.Basic
import ApiGateway.Proofs.Path.Parts

/-! Lists of endpoints every path of which has a segment, which are the ones that a configuration
can be generated for. -/

namespace ApiGateway.Endpoint

/-- The segments of the path, none if the path has none. -/
def segments (e : Endpoint) : Segments := Path.split e.path

def Routable (es : List Endpoint) : Prop := ∀ e ∈ es, ∃ ss, Path.segments e.path = .ok ss

def resourceName (e : Endpoint) : String := Path.resourceName e.segments

variable {e : Endpoint} {es : List Endpoint} {ss : Segments}

theorem mapM_eq_ok {ε α β : Type} {f : α → Except ε β} {g : α → β} {xs : List α}
    (h : ∀ x ∈ xs, f x = .ok (g x)) : xs.mapM f = .ok (xs.map g) := by
  induction xs with
  | nil => rfl
  | cons x xs ih =>
    rw [List.mapM_cons, h x List.mem_cons_self, ih fun y hy => h y (List.mem_cons_of_mem _ hy)]
    rfl

theorem exists_eq_ok_of_mapM {ε α β : Type} {f : α → Except ε β} {xs : List α} {ys : List β}
    (h : xs.mapM f = .ok ys) : ∀ x ∈ xs, ∃ y, f x = .ok y := by
  induction xs generalizing ys with
  | nil => simp
  | cons x xs ih =>
    rw [List.mapM_cons] at h
    cases hx : f x with
    | error e => simp [hx, bind, Except.bind] at h
    | ok y =>
      cases hxs : xs.mapM f with
      | error e => simp [hx, hxs, bind, Except.bind] at h
      | ok ys => exact List.forall_mem_cons.mpr ⟨⟨y, hx⟩, ih hxs⟩

theorem exists_of_mem_mapM {ε α β : Type} {f : α → Except ε β} {xs : List α} {ys : List β}
    (h : xs.mapM f = .ok ys) : ∀ y ∈ ys, ∃ x ∈ xs, f x = .ok y := by
  induction xs generalizing ys with
  | nil =>
    obtain rfl := Except.ok.inj h
    simp
  | cons x xs ih =>
    rw [List.mapM_cons] at h
    cases hx : f x with
    | error e => simp [hx, bind, Except.bind] at h
    | ok z =>
      cases hxs : xs.mapM f with
      | error e => simp [hx, hxs, bind, Except.bind] at h
      | ok zs =>
        rw [hx, hxs] at h
        obtain rfl := Except.ok.inj h
        refine List.forall_mem_cons.mpr ⟨⟨x, List.mem_cons_self, hx⟩, fun y hy => ?_⟩
        obtain ⟨w, hw, hwy⟩ := ih hxs y hy
        exact ⟨w, List.mem_cons_of_mem x hw, hwy⟩

/-- A run over a list ends where the first failure is. -/
theorem mapM_eq_error {ε α β : Type} {f : α → Except ε β} {before after : List α} {x : α} {err : ε}
    (hbefore : ∀ y ∈ before, ∃ b, f y = .ok b) (hx : f x = .error err) :
    (before ++ x :: after).mapM f = .error err := by
  induction before with
  | nil =>
    rw [List.nil_append, List.mapM_cons, hx]
    rfl
  | cons y before ih =>
    obtain ⟨⟨b, hb⟩, hrest⟩ := List.forall_mem_cons.mp hbefore
    rw [List.cons_append, List.mapM_cons, hb, ih hrest]
    rfl

theorem exists_eq_error_of_mapM {ε α β : Type} {f : α → Except ε β} {xs : List α} {err : ε}
    (h : xs.mapM f = .error err) :
    ∃ before x after, xs = before ++ x :: after ∧ (∀ y ∈ before, ∃ b, f y = .ok b) ∧
      f x = .error err := by
  induction xs with
  | nil => simp [pure, Except.pure] at h
  | cons x xs ih =>
    rw [List.mapM_cons] at h
    cases hx : f x with
    | error e =>
      rw [hx] at h
      exact ⟨[], x, xs, rfl, by simp, hx.trans (congrArg Except.error (Except.error.inj h))⟩
    | ok b =>
      have hxs : xs.mapM f = .error err := by
        cases hxs : xs.mapM f with
        | error e => simpa [hx, hxs, bind, Except.bind] using h
        | ok bs => simp [hx, hxs, bind, Except.bind, pure, Except.pure] at h
      obtain ⟨before, y, after, rfl, hbefore, hy⟩ := ih hxs
      exact ⟨x :: before, y, after, rfl, List.forall_mem_cons.mpr ⟨⟨b, hx⟩, hbefore⟩, hy⟩

theorem segments_of_eq_ok (h : Path.segments e.path = .ok ss) : e.segments = ss :=
  (Path.segments_eq_ok_iff.mp h).1

theorem segments_eq_ok_iff_ne_nil :
    Path.segments e.path = .ok e.segments ↔ e.segments ≠ [] := by
  rw [Path.segments_eq_ok_iff]
  exact and_iff_right rfl

theorem segments_eq_error (h : e.segments = []) : Path.segments e.path = .error ⟨e.path⟩ :=
  Path.segments_eq_error_iff.mpr ⟨h, rfl⟩

theorem routable_iff : Routable es ↔ ∀ e ∈ es, e.segments ≠ [] := by
  refine forall₂_congr fun e _ => ⟨?_, fun h => ⟨_, segments_eq_ok_iff_ne_nil.mpr h⟩⟩
  rintro ⟨ss, h⟩
  have hne := (Path.segments_eq_ok_iff.mp h).2
  rwa [segments_of_eq_ok h]

theorem Routable.segments_eq_ok (h : Routable es) (he : e ∈ es) :
    Path.segments e.path = .ok e.segments :=
  segments_eq_ok_iff_ne_nil.mpr (routable_iff.mp h e he)

theorem Routable.mapM_segments (h : Routable es) :
    es.mapM (fun e => Path.segments e.path) = .ok (es.map segments) :=
  mapM_eq_ok fun _ he => h.segments_eq_ok he

theorem slashFree_segments (e : Endpoint) : Path.SlashFree e.segments :=
  Path.slashFree_split e.path

theorem forall_mem_slashFree (es : List Endpoint) : ∀ ss ∈ es.map segments, Path.SlashFree ss := by
  intro ss hss
  obtain ⟨e, -, rfl⟩ := List.mem_map.mp hss
  exact slashFree_segments e

/-- The non-empty leading parts of all paths, each once. -/
def parts (es : List Endpoint) : List Segments := Path.parts (es.map segments)

theorem slashFree_of_mem_parts {p : Segments} (h : p ∈ parts es) : Path.SlashFree p :=
  Path.slashFree_of_mem_parts (forall_mem_slashFree es) h

theorem segments_mem_parts (he : e ∈ es) (hne : e.segments ≠ []) : e.segments ∈ parts es :=
  Path.mem_parts_self (List.mem_map_of_mem he) hne

end ApiGateway.Endpoint
