import ApiGateway.Proofs.Path.Name

/-! Resource names in two steps: all of the joined segments is written in small letters, and what
is then no letter of a name becomes an underscore. Small forms can depend on what stands around a
character, but not in a way that the second step leaves visible. -/

namespace ApiGateway.Path

/-- What is known of the small form of a character between what stands before and behind it: none
has ASCII in it but those of ASCII, of the Kelvin sign and of the capital I with a dot. -/
structure SmallForms (small : List Char → Char → List Char → List Char) : Prop where
  ascii : ∀ before c after, c.toNat < 128 → small before c after = [c.toLower]
  kelvin : ∀ before after, small before '\u212a' after = ['k']
  dotted : ∀ before after, small before '\u0130' after = ['i', '\u0307']
  other : ∀ before c after, 128 ≤ c.toNat → c ≠ '\u212a' → c ≠ '\u0130' →
    ∃ d : Char, 128 ≤ d.toNat ∧ small before c after = [d]

/-- The small form of a text, behind a text that has been read before. -/
def lowercase (small : List Char → Char → List Char → List Char) :
    List Char → List Char → List Char
  | _, [] => []
  | before, c :: after => small before c after ++ lowercase small (before ++ [c]) after

/-- The character of a name that stands for a character of a text in small letters. -/
def nameChar (c : Char) : Char := if c.isLower ∨ c.isDigit ∨ c = '_' then c else '_'

section NameChars

variable {c : Char}

theorem IsNameChar.nameChar_eq (h : IsNameChar c) : nameChar c = c := if_pos h

theorem nameChar_of_not_isNameChar (h : ¬ IsNameChar c) : nameChar c = '_' := if_neg h

/-- The letters of names by their code points. -/
theorem isNameChar_iff_toNat : IsNameChar c ↔
    97 ≤ c.toNat ∧ c.toNat ≤ 122 ∨ 48 ≤ c.toNat ∧ c.toNat ≤ 57 ∨ c.toNat = 95 := by
  have hunderscore : c = '_' ↔ c.toNat = 95 := Char.toNat_inj.symm
  unfold IsNameChar
  delta Char.isLower Char.isDigit
  simp only [Bool.and_eq_true, decide_eq_true_eq, UInt32.le_iff_toNat_le, hunderscore]
  rfl

theorem isUpper_iff_toNat : c.isUpper ↔ 65 ≤ c.toNat ∧ c.toNat ≤ 90 := by
  delta Char.isUpper
  simp only [decide_eq_true_eq, UInt32.le_iff_toNat_le]
  rfl

theorem IsNameChar.toNat_lt (h : IsNameChar c) : c.toNat < 128 := by
  rw [isNameChar_iff_toNat] at h
  omega

theorem IsNameChar.not_isUpper (h : IsNameChar c) : ¬ c.isUpper := by
  rw [isNameChar_iff_toNat] at h
  rw [isUpper_iff_toNat]
  omega

theorem toLower_of_not_isUpper (h : ¬ c.isUpper) : c.toLower = c := by
  rw [isUpper_iff_toNat] at h
  have hval : c.toNat = c.val.toNat := rfl
  delta Char.toLower
  apply dif_neg
  simp only [UInt32.le_iff_toNat_le]
  exact h

/-- Outside ASCII only two characters have letters of ASCII for their small forms. -/
theorem nameChars_of_high (h : 128 ≤ c.toNat) (hkelvin : c ≠ '\u212a') (hdotted : c ≠ '\u0130') :
    nameChars c = ['_'] := by
  have hname : ¬ IsNameChar c := fun hname => absurd hname.toNat_lt (by omega)
  have hupper : ¬ c.isUpper := by
    rw [isUpper_iff_toNat]
    omega
  unfold IsNameChar at hname
  rw [nameChars, if_neg hname, if_neg hupper, if_neg hkelvin, if_neg hdotted]

theorem nameChars_of_low (h : c.toNat < 128) : nameChars c = [nameChar c.toLower] := by
  by_cases hname : IsNameChar c
  · rw [toLower_of_not_isUpper hname.not_isUpper, hname.nameChar_eq, hname.nameChars_eq]
  · have hkelvin : c ≠ '\u212a' := by
      rintro rfl
      exact absurd h (by decide)
    have hdotted : c ≠ '\u0130' := by
      rintro rfl
      exact absurd h (by decide)
    by_cases hupper : c.isUpper
    · have hlower : IsNameChar c.toLower := .inl (isLower_toLower hupper)
      unfold IsNameChar at hname
      rw [nameChars, if_neg hname, if_pos hupper, hlower.nameChar_eq]
    · rw [toLower_of_not_isUpper hupper, nameChar_of_not_isNameChar hname]
      unfold IsNameChar at hname
      rw [nameChars, if_neg hname, if_neg hupper, if_neg hkelvin, if_neg hdotted]

end NameChars

section Lowercase

variable {small : List Char → Char → List Char → List Char}

/-- Whatever stands around a character, its small form leaves the same letters in a name. -/
theorem map_nameChar_small (h : SmallForms small) (before : List Char) (c : Char)
    (after : List Char) : (small before c after).map nameChar = nameChars c := by
  by_cases hlow : c.toNat < 128
  · rw [h.ascii _ _ _ hlow, nameChars_of_low hlow, List.map_singleton]
  · by_cases hkelvin : c = '\u212a'
    · rw [hkelvin, h.kelvin]
      decide
    · by_cases hdotted : c = '\u0130'
      · rw [hdotted, h.dotted]
        decide
      · have hhigh : 128 ≤ c.toNat := Nat.not_lt.mp hlow
        obtain ⟨d, hd, hsmall⟩ := h.other before c after hhigh hkelvin hdotted
        have hname : ¬ IsNameChar d := fun hname => absurd hname.toNat_lt (by omega)
        rw [hsmall, nameChars_of_high hhigh hkelvin hdotted, List.map_singleton,
          nameChar_of_not_isNameChar hname]

theorem map_nameChar_lowercase (h : SmallForms small) (before cs : List Char) :
    (lowercase small before cs).map nameChar = cs.flatMap nameChars := by
  induction cs generalizing before with
  | nil => rfl
  | cons c cs ih =>
    rw [lowercase, List.map_append, map_nameChar_small h, ih, List.flatMap_cons]

theorem resourceName_eq_lowercase (h : SmallForms small) (ss : Segments) :
    resourceName ss =
      String.ofList ((lowercase small [] (Text.joinWith "_" ss).toList).map nameChar) := by
  rw [resourceName, map_nameChar_lowercase h]

/-- The small forms of ASCII, of the two that have ASCII in theirs, and of the capital sigma, which
has another one at the end of a word. -/
def sigmaForms (before : List Char) (c : Char) (after : List Char) : List Char :=
  if c.toNat < 128 then [c.toLower]
  else if c = '\u212a' then ['k']
  else if c = '\u0130' then ['i', '\u0307']
  else if c = 'Σ' then
    [if before.getLast?.any Char.isAlpha ∧ ¬ after.head?.any Char.isAlpha then 'ς' else 'σ']
  else [c]

theorem smallForms_sigmaForms : SmallForms sigmaForms where
  ascii _ _ _ h := if_pos h
  kelvin _ _ := by simp [sigmaForms]
  dotted _ _ := by simp [sigmaForms]
  other before c after h hkelvin hdotted := by
    rw [sigmaForms, if_neg (by omega), if_neg hkelvin, if_neg hdotted]
    split
    · refine ⟨_, ?_, rfl⟩
      split <;> decide
    · exact ⟨c, h, rfl⟩

end Lowercase
end ApiGateway.Path
