import ApiGateway.Text.Blank
import Mathlib.Data.List.TakeWhile

/-! What trimming leaves of a text: all of it but the white space at its two ends. This determines
what is left, and leaves nothing for a second trimming to take. -/

namespace ApiGateway.Text

section DropEnds

variable {p : Char → Bool} {cs before after : List Char}

theorem exists_eq_append_dropEnds (p : Char → Bool) (cs : List Char) :
    ∃ before after, cs = before ++ dropEnds p cs ++ after ∧ ∀ c ∈ before ++ after, p c := by
  refine ⟨cs.takeWhile p, ((cs.dropWhile p).reverse.takeWhile p).reverse, ?_, ?_⟩
  · have hback : dropEnds p cs ++ ((cs.dropWhile p).reverse.takeWhile p).reverse =
        cs.dropWhile p := by
      rw [dropEnds, ← List.reverse_append, List.takeWhile_append_dropWhile, List.reverse_reverse]
    rw [List.append_assoc, hback, List.takeWhile_append_dropWhile]
  · intro c hc
    rcases List.mem_append.mp hc with hc | hc
    · exact List.mem_takeWhile_imp hc
    · exact List.mem_takeWhile_imp (List.mem_reverse.mp hc)

theorem head?_dropWhile_of_mem {c : Char} (h : c ∈ (cs.dropWhile p).head?) : p c = false := by
  have hnot := List.head?_dropWhile_not p cs
  rw [Option.mem_def.mp h] at hnot
  exact hnot

theorem head?_dropEnds {c : Char} (h : c ∈ (dropEnds p cs).head?) : p c = false := by
  -- What is dropped at the back leaves the front where it is.
  have hpre : dropEnds p cs <+: cs.dropWhile p := by
    have hsuffix := (List.dropWhile_suffix p (l := (cs.dropWhile p).reverse)).reverse
    rwa [List.reverse_reverse] at hsuffix
  obtain ⟨rest, hrest⟩ := hpre
  have hfirst : c ∈ (cs.dropWhile p).head? := by
    rw [← hrest, List.head?_append, Option.mem_def.mp h]
    rfl
  exact head?_dropWhile_of_mem hfirst

theorem getLast?_dropEnds {c : Char} (h : c ∈ (dropEnds p cs).getLast?) : p c = false := by
  rw [dropEnds, List.getLast?_reverse] at h
  exact head?_dropWhile_of_mem h

theorem dropWhile_eq_self (h : ∀ c ∈ cs.head?, p c = false) : cs.dropWhile p = cs := by
  cases cs with
  | nil => rfl
  | cons c cs => exact List.dropWhile_cons_of_neg (by simp [h c rfl])

theorem dropEnds_append (hends : ∀ c ∈ before ++ after, p c)
    (hfirst : ∀ c ∈ cs.head?, p c = false) (hlast : ∀ c ∈ cs.getLast?, p c = false) :
    dropEnds p (before ++ cs ++ after) = cs := by
  obtain ⟨hbefore, hafter⟩ := List.forall_mem_append.mp hends
  have hfront : (before ++ cs ++ after).dropWhile p = cs ++ if cs = [] then [] else after := by
    rw [List.append_assoc, List.dropWhile_append_of_pos hbefore]
    cases cs with
    | nil => simpa using hafter
    | cons c cs =>
      have hc : ¬ p c = true := by simp [hfirst c rfl]
      rw [List.cons_append, List.dropWhile_cons_of_neg hc, if_neg (List.cons_ne_nil c cs)]
      rfl
  have hback : cs.reverse.dropWhile p = cs.reverse := by
    apply dropWhile_eq_self
    rwa [List.head?_reverse]
  have hrest : ∀ c ∈ (if cs = [] then [] else after).reverse, p c := by
    intro c hc
    split at hc
    · cases hc
    · exact hafter c (List.mem_reverse.mp hc)
  rw [dropEnds, hfront, List.reverse_append, List.dropWhile_append_of_pos hrest, hback,
    List.reverse_reverse]

end DropEnds

/-- There is nothing but white space in the text. -/
def Blank (s : String) : Prop := ∀ c ∈ s.toList, isBlank c

-- Over the characters of the text: all characters there are would be too many to try.
instance : DecidablePred Blank := fun s => List.decidableBAll (isBlank ·) s.toList

/-- The first text is the second with white space around it, and the second has none at its ends. -/
structure Trims (s t : String) : Prop where
  around : ∃ before after, s.toList = before ++ t.toList ++ after ∧ ∀ c ∈ before ++ after, isBlank c
  first : ∀ c ∈ t.toList.head?, isBlank c = false
  last : ∀ c ∈ t.toList.getLast?, isBlank c = false

section Trim

variable {s t : String}

theorem trims_trim (s : String) : Trims s (trim s) where
  around := by
    rw [toList_trim]
    exact exists_eq_append_dropEnds isBlank s.toList
  first c hc := by
    rw [toList_trim] at hc
    exact head?_dropEnds hc
  last c hc := by
    rw [toList_trim] at hc
    exact getLast?_dropEnds hc

theorem trims_iff : Trims s t ↔ t = trim s := by
  constructor
  · intro h
    obtain ⟨before, after, hs, hends⟩ := h.around
    apply String.toList_injective
    rw [toList_trim, hs, dropEnds_append hends h.first h.last]
  · rintro rfl
    exact trims_trim s

theorem trim_trim (s : String) : trim (trim s) = trim s :=
  (trims_iff.mp ⟨⟨[], [], by simp, by simp⟩, (trims_trim s).first, (trims_trim s).last⟩).symm

theorem blank_iff : Blank s ↔ trim s = "" := by
  have htrim := trims_trim s
  obtain ⟨before, after, hs, hends⟩ := htrim.around
  constructor
  · intro h
    by_contra hne
    obtain ⟨c, cs, hcs⟩ := List.exists_cons_of_ne_nil (mt String.toList_eq_nil_iff.mp hne)
    have hc : isBlank c = true := h c (by rw [hs, hcs]; simp)
    simp [htrim.first c (by simp [hcs])] at hc
  · intro h
    rw [h] at hs
    intro c hc
    exact hends c (by simpa [hs] using hc)

end Trim

end ApiGateway.Text
