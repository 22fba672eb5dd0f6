import ApiGateway.Path
import ApiGateway.Proofs.Text.Pieces
import Mathlib.Tactic.SplitIfs

/-! Resource names of lists put together. The name of a list begins with the name of any leading
part of it, so no list is named like the list it hangs on; and whatever a path is made of, its name
is made of small ASCII letters, digits and underscores. -/

namespace ApiGateway.Path

theorem toList_resourceName (ss : Segments) :
    (resourceName ss).toList = (Text.joinWith "_" ss).toList.flatMap nameChars := by
  simp [resourceName]

theorem resourceName_append {ss ts : Segments} (hs : ss ≠ []) (ht : ts ≠ []) :
    resourceName (ss ++ ts) = resourceName ss ++ "_" ++ resourceName ts := by
  apply String.toList_injective
  simp only [String.toList_append, toList_resourceName, Text.joinWith_append hs ht,
    List.flatMap_append]
  rfl

theorem resourceName_eq_dropLast {p : Segments} (h : 1 < p.length) :
    resourceName p = resourceName p.dropLast ++ "_" ++ resourceName [p.getLastD ""] := by
  have hne : p ≠ [] := List.ne_nil_of_length_pos (by omega)
  have hdrop : p.dropLast ≠ [] := List.ne_nil_of_length_pos (by simp; omega)
  rw [← resourceName_append hdrop (List.cons_ne_nil _ _), List.getLastD_eq_getLast?,
    List.getLast?_eq_some_getLast hne, Option.getD_some, List.dropLast_append_getLast]

/-- Whatever goes on from a text, behind an underscore, is not that text. -/
theorem ne_of_eq_append {x y z : String} (h : x = y ++ "_" ++ z) : x ≠ y := by
  intro heq
  have hlen := congrArg String.length (heq.symm.trans h)
  have hone : "_".length = 1 := rfl
  rw [String.length_append, String.length_append] at hlen
  omega

theorem resourceName_dropLast_ne {p : Segments} (h : 1 < p.length) :
    resourceName p.dropLast ≠ resourceName p :=
  (ne_of_eq_append (resourceName_eq_dropLast h)).symm

/-- What is put behind two lists neither makes nor undoes a name that they share. -/
theorem resourceName_append_inj {ss ts us : Segments} (hs : ss ≠ []) (ht : ts ≠ [])
    (hu : us ≠ []) :
    resourceName (ss ++ us) = resourceName (ts ++ us) ↔ resourceName ss = resourceName ts := by
  rw [resourceName_append hs hu, resourceName_append ht hu, String.append_left_inj,
    String.append_left_inj]

theorem flatMap_nameChars_joinWith (ss : Segments) :
    (Text.joinWith "/" ss).toList.flatMap nameChars = (resourceName ss).toList := by
  have hslash : "/".toList.flatMap nameChars = "_".toList.flatMap nameChars := by decide
  rw [toList_resourceName]
  induction ss with
  | nil => rfl
  | cons s ss ih =>
    by_cases hss : ss = []
    · rw [hss]
      rfl
    · rw [Text.joinWith_cons hss, Text.joinWith_cons hss]
      simp only [String.toList_append, List.flatMap_append, ih, hslash]

/-- A slash becomes an underscore like the end of a segment, so a name can be read off the key. -/
theorem flatMap_nameChars_key (ss : Segments) :
    (key ss).toList.flatMap nameChars = '_' :: (resourceName ss).toList := by
  rw [key, String.toList_append, List.flatMap_append, flatMap_nameChars_joinWith]
  rfl

/-- A letter of a name is small ASCII, a digit or an underscore. -/
def IsNameChar (c : Char) : Prop := c.isLower ∨ c.isDigit ∨ c = '_'

theorem isLower_toLower {c : Char} (h : c.isUpper) : c.toLower.isLower := by
  delta Char.isUpper at h
  delta Char.isLower Char.toLower
  simp only [UInt32.le_iff_toNat_le, Bool.and_eq_true, decide_eq_true_eq] at h ⊢
  split <;> grind [UInt32.toNat_add]

theorem isNameChar_of_mem_nameChars {c d : Char} (h : d ∈ nameChars c) : IsNameChar d := by
  unfold nameChars at h
  split_ifs at h with hself hupper hkelvin hdotted
  · exact List.mem_singleton.mp h ▸ hself
  · exact List.mem_singleton.mp h ▸ .inl (isLower_toLower hupper)
  · exact List.mem_singleton.mp h ▸ .inl (by decide)
  · rcases List.mem_pair.mp h with rfl | rfl
    · exact .inl (by decide)
    · exact .inr (.inr rfl)
  · exact .inr (.inr (List.mem_singleton.mp h))

theorem isNameChar_of_mem {ss : Segments} {c : Char} (h : c ∈ (resourceName ss).toList) :
    IsNameChar c := by
  rw [toList_resourceName] at h
  obtain ⟨d, -, hd⟩ := List.mem_flatMap.mp h
  exact isNameChar_of_mem_nameChars hd

theorem IsNameChar.nameChars_eq {c : Char} (h : IsNameChar c) : nameChars c = [c] := if_pos h

/-- A name is its own name. -/
theorem resourceName_resourceName (ss : Segments) :
    resourceName [resourceName ss] = resourceName ss := by
  have hsame : ∀ c ∈ (resourceName ss).toList, nameChars c = [c] := by
    intro c hc
    exact (isNameChar_of_mem hc).nameChars_eq
  apply String.toList_injective
  rw [toList_resourceName, Text.joinWith, List.flatMap_congr hsame, List.flatMap_singleton']

end ApiGateway.Path
