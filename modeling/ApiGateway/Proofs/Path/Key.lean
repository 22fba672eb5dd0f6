import ApiGateway.Path
import ApiGateway.Proofs.Text.Pieces
import Mathlib.Logic.Relation

/-! Paths and keys of segments. A path is split at every slash, so that slashes that separate
nothing are lost, and nothing else is; two lists of segments without a slash share a key only if
they are the same list. -/

namespace ApiGateway.Path

/-- What a path is split into: no segment holds a slash. -/
def SlashFree (ss : Segments) : Prop := ∀ s ∈ ss, '/' ∉ s.toList

theorem SlashFree.of_subset {ss ts : Segments} (h : SlashFree ts) (hs : ss ⊆ ts) :
    SlashFree ss := fun s hmem => h s (hs hmem)

theorem slashFree_split (path : String) : SlashFree (split path) := by
  intro s hs
  obtain ⟨piece, hp, rfl⟩ := List.mem_map.mp hs
  rw [String.toList_ofList]
  exact Text.not_mem_of_mem_pieces (List.mem_filter.mp hp).1

theorem ne_empty_of_mem_split {path s : String} (h : s ∈ split path) : s ≠ "" := by
  obtain ⟨piece, hp, rfl⟩ := List.mem_map.mp h
  have hne : piece ≠ [] := by simpa using (List.mem_filter.mp hp).2
  simpa [String.ofList_eq_empty_iff] using hne

theorem infix_of_mem_split {path s : String} (h : s ∈ split path) : s.toList <:+: path.toList := by
  obtain ⟨piece, hp, rfl⟩ := List.mem_map.mp h
  rw [String.toList_ofList]
  exact Text.infix_of_mem_pieces (List.mem_filter.mp hp).1

theorem mem_of_mem_split {path s : String} {c : Char} (hs : s ∈ split path) (hc : c ∈ s.toList) :
    c ∈ path.toList := (infix_of_mem_split hs).subset hc

/-- A path of slashes only; the empty path is one. -/
def OnlySlashes (path : String) : Prop := ∀ c ∈ path.toList, c = '/'

theorem split_eq_nil_iff {path : String} : split path = [] ↔ OnlySlashes path := by
  rw [split, List.map_eq_nil_iff, List.filter_eq_nil_iff, OnlySlashes,
    ← Text.forall_mem_pieces_eq_nil_iff]
  simp

theorem split_append_slash (p q : String) : split (p ++ "/" ++ q) = split p ++ split q := by
  unfold split
  have hchars : (p ++ "/" ++ q).toList = p.toList ++ '/' :: q.toList := by simp
  rw [hchars, Text.pieces_append, List.filter_append, List.map_append]

/-- A path, and the path without one slash that separates nothing. -/
inductive Redundant : String → String → Prop
  | leading (p : String) : Redundant ("/" ++ p) p
  | trailing (p : String) : Redundant (p ++ "/") p
  | repeated (p q : String) : Redundant (p ++ "//" ++ q) (p ++ "/" ++ q)

theorem Redundant.split_eq {p q : String} (h : Redundant p q) : split p = split q := by
  have hempty : split "" = [] := by decide
  cases h with
  | leading =>
    have hslash := split_append_slash "" q
    rwa [String.empty_append, hempty, List.nil_append] at hslash
  | trailing =>
    have hslash := split_append_slash q ""
    rwa [String.append_empty, hempty, List.append_nil] at hslash
  | repeated p q =>
    have htwo : p ++ "//" ++ q = p ++ "/" ++ ("" ++ "/" ++ q) := by
      apply String.toList_injective
      simp
    rw [htwo, split_append_slash, split_append_slash, split_append_slash, hempty, List.nil_append]

/-- To drop one of the empty pieces of a path is to drop a slash that separates nothing. -/
theorem redundant_empty {as bs : List String} (h : as ++ bs ≠ []) :
    Redundant (Text.joinWith "/" (as ++ "" :: bs)) (Text.joinWith "/" (as ++ bs)) := by
  by_cases hbs : bs = []
  · subst hbs
    rw [List.append_nil] at h ⊢
    rw [Text.joinWith_append h (by simp)]
    simpa [Text.joinWith] using Redundant.trailing (Text.joinWith "/" as)
  · by_cases has : as = []
    · subst has
      rw [List.nil_append, List.nil_append, Text.joinWith_cons hbs]
      simpa using Redundant.leading (Text.joinWith "/" bs)
    · have htwo : Text.joinWith "/" (as ++ "" :: bs) =
          Text.joinWith "/" as ++ "//" ++ Text.joinWith "/" bs := by
        rw [Text.joinWith_append has (by simp), Text.joinWith_cons hbs]
        apply String.toList_injective
        simp
      rw [htwo, Text.joinWith_append has hbs]
      exact Redundant.repeated _ _

theorem eqvGen_filter {as bs : List String} (h : as ++ bs.filter (· ≠ "") ≠ []) :
    Relation.EqvGen Redundant (Text.joinWith "/" (as ++ bs))
      (Text.joinWith "/" (as ++ bs.filter (· ≠ ""))) := by
  induction bs generalizing as with
  | nil => exact .refl _
  | cons b bs ih =>
    by_cases hb : b = ""
    · subst hb
      rw [List.filter_cons_of_neg (by simp)] at h ⊢
      have hne : as ++ bs ≠ [] := by
        intro hnil
        obtain ⟨rfl, rfl⟩ := List.append_eq_nil_iff.mp hnil
        exact h rfl
      exact (Relation.EqvGen.rel _ _ (redundant_empty hne)).trans _ _ _ (ih h)
    · rw [List.filter_cons_of_pos (by simpa using hb)] at h ⊢
      have hstep := @ih (as ++ [b])
      simp only [List.append_assoc, List.singleton_append] at hstep
      exact hstep h

/-- Every path with segments can be turned into the joined segments, slash by slash. -/
theorem eqvGen_split {p : String} (h : split p ≠ []) :
    Relation.EqvGen Redundant p (Text.joinWith "/" (split p)) := by
  have hsplit : split p = ((Text.pieces '/' p.toList).map String.ofList).filter (· ≠ "") := by
    rw [split, List.filter_map]
    congr 2
    funext piece
    simp [String.ofList_eq_empty_iff]
  have hp : p = Text.joinWith "/" ((Text.pieces '/' p.toList).map String.ofList) := by
    have := Text.joinWith_pieces '/' p.toList
    rw [String.ofList_toList] at this
    exact this.symm
  have hgen := @eqvGen_filter [] ((Text.pieces '/' p.toList).map String.ofList)
  rw [List.nil_append, List.nil_append, ← hsplit, ← hp] at hgen
  exact hgen h

theorem eqvGen_of_split_eq {p q : String} (h : split p = split q) (hne : split p ≠ []) :
    Relation.EqvGen Redundant p q :=
  (eqvGen_split hne).trans _ _ _ (h ▸ (eqvGen_split (h ▸ hne)).symm _ _)

theorem key_injective {p q : Segments} (hp : SlashFree p) (hq : SlashFree q) (hp₀ : p ≠ [])
    (hq₀ : q ≠ []) (h : key p = key q) : p = q := by
  have hjoin : Text.joinWith "/" p = Text.joinWith "/" q := String.append_right_inj "/" |>.mp h
  have hmap : p.map String.toList = q.map String.toList := by
    rw [← Text.pieces_joinWith hp₀ hp, ← Text.pieces_joinWith hq₀ hq]
    exact congrArg (fun s => Text.pieces '/' s.toList) hjoin
  exact List.map_injective_iff.mpr (fun _ _ => String.toList_injective) hmap

end ApiGateway.Path
