import ApiGateway.Text.Join
import Mathlib.Data.List.Basic

/-! Joining and taking apart. A joined text comes apart again at its separators as long as none of
the texts that were joined holds one. -/

namespace ApiGateway.Text

theorem pieces_ne_nil (sep : Char) (cs : List Char) : pieces sep cs ≠ [] := by
  intro h
  have hlen := length_pieces sep cs
  simp [h] at hlen

theorem pieces_append (sep : Char) (cs ds : List Char) :
    pieces sep (cs ++ sep :: ds) = pieces sep cs ++ pieces sep ds := by
  induction cs with
  | nil => simp [pieces]
  | cons c cs ih =>
    by_cases hc : c = sep
    · simp [pieces, hc, ih]
    · obtain ⟨p, ps, hp⟩ := List.exists_cons_of_ne_nil (pieces_ne_nil sep cs)
      simp [pieces, hc, ih, hp]

theorem not_mem_of_mem_pieces {sep : Char} {cs piece : List Char} (h : piece ∈ pieces sep cs) :
    sep ∉ piece := by
  induction cs generalizing piece with
  | nil => simp_all [pieces]
  | cons c cs ih =>
    obtain ⟨p, ps, hp⟩ := List.exists_cons_of_ne_nil (pieces_ne_nil sep cs)
    by_cases hc : c = sep
    · simp only [pieces, hc, if_true, List.mem_cons] at h
      rcases h with rfl | h
      · exact List.not_mem_nil
      · exact ih h
    · simp only [pieces, hc, if_false, hp, List.modifyHead_cons, List.mem_cons] at h
      rcases h with rfl | h
      · have := @ih p (by simp [hp])
        simp [Ne.symm hc, this]
      · exact ih (by simp [hp, h])

/-- The first piece begins the text, and every piece stands somewhere in it. -/
theorem prefix_and_infix_of_pieces {sep : Char} {cs p : List Char} {ps : List (List Char)}
    (h : pieces sep cs = p :: ps) : p <+: cs ∧ ∀ q ∈ ps, q <:+: cs := by
  induction cs generalizing p ps with
  | nil =>
    obtain ⟨rfl, rfl⟩ := List.cons.inj h
    exact ⟨List.prefix_rfl, by simp⟩
  | cons c cs ih =>
    obtain ⟨p', ps', hp'⟩ := List.exists_cons_of_ne_nil (pieces_ne_nil sep cs)
    obtain ⟨hfirst, hrest⟩ := ih hp'
    have hbehind : ∀ q ∈ ps', q <:+: c :: cs := fun q hq => List.infix_cons (hrest q hq)
    by_cases hc : c = sep
    · rw [pieces, if_pos hc, hp'] at h
      obtain ⟨rfl, rfl⟩ := List.cons.inj h
      exact ⟨List.nil_prefix, List.forall_mem_cons.mpr ⟨List.infix_cons hfirst.isInfix, hbehind⟩⟩
    · rw [pieces, if_neg hc, hp', List.modifyHead_cons] at h
      obtain ⟨rfl, rfl⟩ := List.cons.inj h
      exact ⟨List.cons_prefix_cons.mpr ⟨rfl, hfirst⟩, hbehind⟩

theorem infix_of_mem_pieces {sep : Char} {cs piece : List Char} (h : piece ∈ pieces sep cs) :
    piece <:+: cs := by
  obtain ⟨p, ps, hp⟩ := List.exists_cons_of_ne_nil (pieces_ne_nil sep cs)
  obtain ⟨hfirst, hrest⟩ := prefix_and_infix_of_pieces hp
  rw [hp] at h
  rcases List.mem_cons.mp h with rfl | h
  · exact hfirst.isInfix
  · exact hrest piece h

/-- Nothing stands between the separators exactly when there is nothing but separators. -/
theorem forall_mem_pieces_eq_nil_iff {sep : Char} {cs : List Char} :
    (∀ piece ∈ pieces sep cs, piece = []) ↔ ∀ c ∈ cs, c = sep := by
  induction cs with
  | nil => simp [pieces]
  | cons c cs ih =>
    obtain ⟨p, ps, hp⟩ := List.exists_cons_of_ne_nil (pieces_ne_nil sep cs)
    by_cases hc : c = sep
    · simp [pieces, hc, ih]
    · simp [pieces, hc, hp]

theorem joinWith_cons {sep s : String} {ss : List String} (h : ss ≠ []) :
    joinWith sep (s :: ss) = s ++ sep ++ joinWith sep ss := by
  obtain ⟨t, ts, rfl⟩ := List.exists_cons_of_ne_nil h
  rfl

theorem joinWith_append {sep : String} {ss ts : List String} (hs : ss ≠ []) (ht : ts ≠ []) :
    joinWith sep (ss ++ ts) = joinWith sep ss ++ sep ++ joinWith sep ts := by
  induction ss with
  | nil => exact absurd rfl hs
  | cons s ss ih =>
    cases ss with
    | nil => exact joinWith_cons ht
    | cons t ss =>
      have hcons : joinWith sep (s :: t :: ss) = s ++ sep ++ joinWith sep (t :: ss) := rfl
      rw [List.cons_append, joinWith_cons (by simp), ih (by simp), hcons]
      simp only [String.append_assoc]

/-- With nothing in between, joined texts are joined by setting them side by side. -/
theorem joinWith_empty_append (ss ts : List String) :
    joinWith "" (ss ++ ts) = joinWith "" ss ++ joinWith "" ts := by
  by_cases hs : ss = []
  · simp [hs, joinWith]
  · by_cases ht : ts = []
    · simp [ht, joinWith]
    · rw [joinWith_append hs ht, String.append_empty]

theorem joinWith_empty_cons (s : String) (ss : List String) :
    joinWith "" (s :: ss) = s ++ joinWith "" ss := joinWith_empty_append [s] ss

theorem pieces_joinWith {sep : Char} {ss : List String} (hne : ss ≠ [])
    (h : ∀ s ∈ ss, sep ∉ s.toList) :
    pieces sep (joinWith (String.singleton sep) ss).toList = ss.map String.toList := by
  induction ss with
  | nil => exact absurd rfl hne
  | cons s ss ih =>
    have hs : pieces sep s.toList = [s.toList] := pieces_of_not_mem (h s List.mem_cons_self)
    cases ss with
    | nil => simpa [joinWith] using hs
    | cons t ss =>
      rw [joinWith_cons (by simp), String.toList_append, String.toList_append,
        String.toList_singleton, List.append_assoc, List.singleton_append, pieces_append, hs,
        ih (by simp) fun u hu => h u (List.mem_cons_of_mem _ hu)]
      rfl

theorem joinWith_pieces (sep : Char) (cs : List Char) :
    joinWith (String.singleton sep) ((pieces sep cs).map String.ofList) = String.ofList cs := by
  induction cs with
  | nil => rfl
  | cons c cs ih =>
    obtain ⟨p, ps, hp⟩ := List.exists_cons_of_ne_nil (pieces_ne_nil sep cs)
    apply String.toList_injective
    have ih' := congrArg String.toList ih
    rw [String.toList_ofList] at ih'
    by_cases hc : c = sep
    · rw [pieces, if_pos hc, List.map_cons, joinWith_cons (by simp [hp])]
      simp [ih', hc]
    · rw [pieces, if_neg hc, hp, List.modifyHead_cons]
      rw [hp] at ih'
      cases ps with
      | nil => simpa [joinWith] using ih'
      | cons q qs => simpa [joinWith] using ih'

/-- A joined text of lines that are all ended comes apart from whatever follows it. -/
theorem pieces_joinWith_append {sep : Char} {ss : List String} (hne : ss ≠ [])
    (h : ∀ s ∈ ss, sep ∉ s.toList) (rest : List Char) :
    pieces sep ((joinWith (String.singleton sep) (ss ++ [""])).toList ++ rest) =
      ss.map String.toList ++ pieces sep rest := by
  have hchars : (joinWith (String.singleton sep) (ss ++ [""])).toList ++ rest =
      (joinWith (String.singleton sep) ss).toList ++ sep :: rest := by
    rw [joinWith_append hne (List.cons_ne_nil _ _)]
    simp [joinWith]
  rw [hchars, pieces_append, pieces_joinWith hne h]

end ApiGateway.Text
