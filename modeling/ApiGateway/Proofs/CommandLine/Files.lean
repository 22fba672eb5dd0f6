import ApiGateway.CommandLine.Files

/-! What it is to write a file: its name leads to the same place afterwards, what was written is
found there, and any other place holds what it held. -/

namespace ApiGateway.CommandLine.Files

open FilePath

variable {fs written : Files} {p q start : FilePath} {content : ByteArray} {name text step : String}
  {steps : List String}

section Content

/-- Every entry for a path is replaced, no other is. -/
theorem lookup_replace (entries : List (FilePath × ByteArray)) (p q : FilePath)
    (content : ByteArray) :
    (entries.map fun e => if e.1 = p then (p, content) else e).lookup q =
      if q = p then (entries.lookup p).map fun _ => content else entries.lookup q := by
  induction entries with
  | nil => simp
  | cons e entries ih =>
    obtain ⟨r, old⟩ := e
    rw [List.map_cons]
    by_cases hr : r = p
    · subst hr
      by_cases hq : q = r
      · simp [hq]
      · simpa [hq, List.lookup_cons, beq_eq_false_iff_ne.mpr hq] using ih
    · by_cases hq : q = r
      · subst hq
        simp [hr]
      · have hp : (p == r) = false := beq_eq_false_iff_ne.mpr (Ne.symm hr)
        simpa [hr, hp, List.lookup_cons, beq_eq_false_iff_ne.mpr hq] using ih

theorem get?_put_self : (fs.put p content).get? p = some content := by
  unfold put get?
  cases hold : fs.entries.lookup p with
  | none => simp [List.lookup_append, hold]
  | some old => simp [lookup_replace, hold]

theorem get?_put_of_ne (h : q ≠ p) : (fs.put p content).get? q = fs.get? q := by
  have hne : (q == p) = false := beq_eq_false_iff_ne.mpr h
  unfold put get?
  split
  · simp [lookup_replace, h]
  · simp [List.lookup_append, List.lookup_cons, hne]

theorem paths_put : (fs.put p content).entries.map (·.1) =
    fs.entries.map (·.1) ++ if (fs.get? p).isSome then [] else [p] := by
  unfold put
  split
  · have hkeep (e : FilePath × ByteArray) : (if e.1 = p then (p, content) else e).1 = e.1 := by
      split
      · exact Eq.symm ‹_›
      · rfl
    simp [hkeep]
  · simp

end Content

section Place

theorem isDirectory_put (h : fs.isDirectory q) : (fs.put p content).isDirectory q := by
  simp only [isDirectory, paths_put, List.any_append, Bool.or_eq_true] at h ⊢
  exact h.imp_right .inl

/-- What is written does not become a directory of anything. -/
theorem not_isDirectory_put (h : ¬ fs.isDirectory p) : ¬ (fs.put p content).isDirectory p := by
  simp only [isDirectory, paths_put, List.any_append, Bool.not_eq_true,
    Bool.or_eq_false_iff] at h ⊢
  refine ⟨h.1, h.2, ?_⟩
  split <;> simp

theorem enter_eq_ok_iff : fs.enter p step = .ok q ↔ fs.isDirectory q ∧ q = p.next step := by
  rw [enter]
  by_cases h : fs.isDirectory (p.next step)
  · rw [if_pos h, Except.ok.injEq]
    exact ⟨fun hq => ⟨hq ▸ h, hq.symm⟩, fun hq => hq.2.symm⟩
  · rw [if_neg h]
    constructor
    · intro hq
      split at hq <;> cases hq
    · rintro ⟨hq, rfl⟩
      exact absurd hq h

theorem foldlM_enter_put (h : steps.foldlM fs.enter start = .ok q) :
    steps.foldlM (fs.put p content).enter start = .ok q := by
  induction steps generalizing start with
  | nil => exact h
  | cons step steps ih =>
    rw [List.foldlM_cons] at h ⊢
    cases hstep : fs.enter start step with
    | error e => simp [hstep, bind, Except.bind] at h
    | ok next =>
      obtain ⟨hdirectory, hnext⟩ := enter_eq_ok_iff.mp hstep
      have hstep' : (fs.put p content).enter start step = .ok next :=
        enter_eq_ok_iff.mpr ⟨isDirectory_put hdirectory, hnext⟩
      rw [hstep]  at h
      rw [hstep']
      exact ih h

/-- A name leads to the file that its last step names in the directory its other steps lead to. -/
theorem locate_eq_ok_iff : fs.locate name = .ok p ↔
    (name ≠ "" ∧ ¬ maxName < name.utf8ByteSize) ∧
    ∃ directory last, (stepsOf name).2.dropLast.foldlM fs.enter (stepsOf name).1 = .ok directory ∧
      (stepsOf name).2.getLast? = some last ∧
      ¬ (last = "." ∨ last = parent ∨ name.toList.getLast? = some '/') ∧
      ¬ maxStep < last.utf8ByteSize ∧ ¬ fs.isDirectory p ∧ p = directory.next last := by
  simp only [locate, bind, Except.bind]
  constructor
  · intro h
    split at h
    next => cases h
    next hne =>
    split at h
    next => cases h
    next hlong =>
    cases hdirectory : (stepsOf name).2.dropLast.foldlM fs.enter (stepsOf name).1 with
    | error e => simp [hdirectory] at h
    | ok directory =>
      cases hlast : (stepsOf name).2.getLast? with
      | none => simp [hdirectory, hlast] at h
      | some last =>
        simp only [hdirectory, hlast] at h
        split at h
        next => cases h
        next hform =>
        split at h
        next => cases h
        next hstep =>
        split at h
        next => cases h
        next hp =>
        obtain rfl := Except.ok.inj h
        exact ⟨⟨hne, hlong⟩, directory, last, rfl, rfl, hform, hstep, hp, rfl⟩
  · rintro ⟨⟨hne, hlong⟩, directory, last, hdirectory, hlast, hform, hstep, hp, rfl⟩
    simp only [hdirectory, hlast, if_neg hne, if_neg hlong, if_neg hform, if_neg hstep, if_neg hp]

theorem locate_put (h : fs.locate name = .ok p) : (fs.put p content).locate name = .ok p := by
  -- The directories on the way are still there, and the file has not become one.
  obtain ⟨hname, directory, last, hdirectory, hlast, hform, hstep, hp, hnext⟩ :=
    locate_eq_ok_iff.mp h
  exact locate_eq_ok_iff.mpr ⟨hname, directory, last, foldlM_enter_put hdirectory, hlast, hform,
    hstep, not_isDirectory_put hp, hnext⟩

end Place

/-- The file with this name, and no other, now has this text. -/
structure WrittenAt (p : FilePath) (fs written : Files) (name text : String) : Prop where
  place : fs.locate name = .ok p
  place_after : written.locate name = .ok p
  content : written.read? name = some text.toUTF8
  others : ∀ q, q ≠ p → written.get? q = fs.get? q

theorem write_eq_ok_iff : fs.write name text = .ok written ↔
    ∃ p, fs.locate name = .ok p ∧ written = fs.put p text.toUTF8 := by
  rw [write]
  cases fs.locate name <;> simp [Except.map, eq_comm]

theorem writtenAt_of_write (h : fs.write name text = .ok written) :
    ∃ p, WrittenAt p fs written name text := by
  obtain ⟨p, hp, rfl⟩ := write_eq_ok_iff.mp h
  refine ⟨p, hp, locate_put hp, ?_, fun q hq => get?_put_of_ne hq⟩
  rw [read?, locate_put hp]
  exact get?_put_self

end ApiGateway.CommandLine.Files
