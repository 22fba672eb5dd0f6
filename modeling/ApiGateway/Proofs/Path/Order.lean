import ApiGateway.Proofs.Path.Key
import Mathlib.Data.String.Basic

/-! Two orders of lists of segments: segment by segment, and by their keys. A slash ends a segment
in a key, so the orders differ where a segment goes on with a character that comes before it. -/

namespace ApiGateway

section Compare

variable {α : Type} [Ord α] [Std.LawfulEqOrd α]

theorem ne_of_compare_eq_lt {x y : α} (h : compare x y = .lt) : x ≠ y := by
  rintro rfl
  rw [Std.compare_self] at h
  cases h

theorem compare_append_left (xs ys zs : List α) :
    compare (xs ++ ys) (xs ++ zs) = compare ys zs := by
  induction xs with
  | nil => rfl
  | cons x xs ih =>
    rw [List.cons_append, List.cons_append, List.compare_cons_cons, Std.compare_self, ih]
    rfl

theorem compare_append_self {xs ys : List α} (h : ys ≠ []) : compare xs (xs ++ ys) = .lt := by
  obtain ⟨y, ys, rfl⟩ := List.exists_cons_of_ne_nil h
  have hcancel := compare_append_left xs [] (y :: ys)
  rwa [List.append_nil, List.compare_nil_cons] at hcancel

theorem not_compare_append_lt (xs ys : List α) : compare (xs ++ ys) xs ≠ .lt := by
  have hcancel := compare_append_left xs ys []
  rw [List.append_nil] at hcancel
  rw [hcancel]
  cases ys <;> simp

/-- What follows the first place where two lists differ does not matter. -/
theorem compare_of_lt {x y : α} (h : compare x y = .lt) (xs ys zs : List α) :
    compare (xs ++ x :: ys) (xs ++ y :: zs) = .lt := by
  rw [compare_append_left, List.compare_cons_cons, h]
  rfl

theorem compare_singleton (x y : α) : compare [x] [y] = compare x y := by
  rw [List.compare_cons_cons, Std.compare_self]
  cases compare x y <;> rfl

/-- What stands between a list and one that goes on from it goes on from it too. -/
theorem prefix_of_between [Std.OrientedOrd α] {xs ys zs : List α} (hxy : compare xs ys = .lt)
    (hyz : compare ys zs = .lt) (hpre : xs <+: zs) : xs <+: ys := by
  induction xs generalizing ys zs with
  | nil => exact List.nil_prefix
  | cons x xs ih =>
    obtain ⟨rest, rfl⟩ := hpre
    cases ys with
    | nil => simp at hxy
    | cons y ys =>
      rw [List.compare_cons_cons, Ordering.then_eq_lt] at hxy
      rw [List.cons_append, List.compare_cons_cons, Ordering.then_eq_lt] at hyz
      rcases hxy with hxy | ⟨hxy, htails⟩
      · rcases hyz with hyx | ⟨hyx, -⟩
        · exact absurd hyx (Std.OrientedCmp.not_lt_of_lt hxy)
        · exact absurd (Std.LawfulEqCmp.eq_of_compare hyx).symm (ne_of_compare_eq_lt hxy)
      · obtain rfl := Std.LawfulEqCmp.eq_of_compare hxy
        rw [Std.compare_self] at hyz
        obtain ⟨-, hyz⟩ := hyz.resolve_left Ordering.noConfusion
        exact List.cons_prefix_cons.mpr ⟨rfl, ih htails hyz (List.prefix_append xs rest)⟩

end Compare

namespace Text

theorem compare_eq_lt_iff {s t : String} : compare s t = .lt ↔ s.toList < t.toList :=
  Std.LawfulLTCmp.eq_lt_iff_lt.trans String.lt_iff_toList_lt

theorem append_lt_append_iff {as bs cs : List Char} : as ++ bs < as ++ cs ↔ bs < cs := by
  induction as with
  | nil => rfl
  | cons a as ih => simpa using ih

/-- The smaller of two texts is the beginning of the other, or it is the smaller one at the first
place where they differ. -/
theorem lt_cases {as bs : List Char} (h : as < bs) :
    (∃ c cs, bs = as ++ c :: cs) ∨
      ∃ cs a b as' bs', as = cs ++ a :: as' ∧ bs = cs ++ b :: bs' ∧ a < b := by
  induction as generalizing bs with
  | nil =>
    cases bs with
    | nil => exact absurd h (List.lt_irrefl _)
    | cons b bs => exact .inl ⟨b, bs, rfl⟩
  | cons a as ih =>
    cases bs with
    | nil => exact absurd h (List.not_lt_nil _)
    | cons b bs =>
      rcases List.cons_lt_cons_iff.mp h with hab | ⟨rfl, hrest⟩
      · exact .inr ⟨[], a, b, as, bs, rfl, rfl, hab⟩
      · rcases ih hrest with ⟨c, cs, rfl⟩ | ⟨cs, x, y, as', bs', rfl, rfl, hxy⟩
        · exact .inl ⟨c, cs, rfl⟩
        · exact .inr ⟨a :: cs, x, y, as', bs', rfl, rfl, hxy⟩

end Text

namespace Path

open Text

/-- The characters of a key: each segment behind a slash. -/
def keyChars (ss : Segments) : List Char := ss.flatMap fun s => '/' :: s.toList

theorem toList_key {ss : Segments} (h : ss ≠ []) : (key ss).toList = keyChars ss := by
  induction ss with
  | nil => exact absurd rfl h
  | cons s ss ih =>
    cases ss with
    | nil => simp [key, keyChars, Text.joinWith]
    | cons t ss =>
      have hrest := ih (List.cons_ne_nil t ss)
      rw [keyChars, List.flatMap_cons, ← keyChars, ← hrest]
      simp [key, Text.joinWith]

theorem key_concat {ss : Segments} (h : ss ≠ []) (s : String) :
    key (ss ++ [s]) = key ss ++ "/" ++ s := by
  unfold key
  rw [Text.joinWith_append h (List.cons_ne_nil s []), String.append_assoc, String.append_assoc]
  simp only [Text.joinWith, String.append_assoc]

theorem compare_key_eq_lt_iff {p q : Segments} (hp : p ≠ []) (hq : q ≠ []) :
    compare (key p) (key q) = .lt ↔ keyChars p < keyChars q := by
  rw [compare_eq_lt_iff, toList_key hp, toList_key hq]

/-- Under one parent keys are in the order of the last segments. -/
theorem compare_key_concat_iff {ss : Segments} {s t : String} :
    compare (key (ss ++ [s])) (key (ss ++ [t])) = .lt ↔ compare s t = .lt := by
  have hkeys : keyChars (ss ++ [s]) < keyChars (ss ++ [t]) ↔ s.toList < t.toList := by
    simp only [keyChars, List.flatMap_append, List.flatMap_singleton, append_lt_append_iff,
      List.cons_lt_cons_iff, lt_self_iff_false, false_or, true_and]
  rw [compare_key_eq_lt_iff (by simp) (by simp), hkeys, compare_eq_lt_iff]

theorem key_concat_injective {ss : Segments} {s t : String}
    (h : key (ss ++ [s]) = key (ss ++ [t])) : s = t := by
  have hchars : keyChars (ss ++ [s]) = keyChars (ss ++ [t]) := by
    rw [← toList_key (by simp), ← toList_key (by simp), h]
  simpa [keyChars, String.toList_inj] using hchars

/-- What goes on behind a smaller segment comes first. -/
theorem compare_of_concat_prefix {ss p q : Segments} {s t : String} (h : compare s t = .lt)
    (hp : ss ++ [s] <+: p) (hq : ss ++ [t] <+: q) : compare p q = .lt := by
  obtain ⟨ps, rfl⟩ := hp
  obtain ⟨qs, rfl⟩ := hq
  simpa using compare_of_lt h ss ps qs

/-- `p` comes before `q` segment by segment, but its key does not: where they first differ the
segment of `q` is that of `p` going on with a character below the slash, and `p` has a further
segment. -/
inductive Crosses : Segments → Segments → Prop
  | here {s t u : String} {c : Char} {cs : List Char} (ps qs : Segments)
    (hgoesOn : t.toList = s.toList ++ c :: cs) (hbelow : c < '/') :
    Crosses (s :: u :: ps) (t :: qs)
  | later {p q : Segments} (s : String) (h : Crosses p q) : Crosses (s :: p) (s :: q)

theorem Crosses.exists_below {p q : Segments} (h : Crosses p q) :
    ∃ s ∈ q, ∃ c ∈ s.toList, c < '/' := by
  induction h with
  | here ps qs hgoesOn hbelow =>
    exact ⟨_, List.mem_cons_self, _, by rw [hgoesOn]; simp, hbelow⟩
  | later s h ih =>
    obtain ⟨t, ht, hc⟩ := ih
    exact ⟨t, List.mem_cons_of_mem s ht, hc⟩

theorem not_append_cons_eq_self {cs ds : List Char} {c : Char} : cs ≠ cs ++ c :: ds := by
  intro h
  have hlen := congrArg List.length h
  simp at hlen

theorem crosses_cons_iff {s : String} {p q : Segments} :
    Crosses (s :: p) (s :: q) ↔ Crosses p q := by
  constructor
  · intro h
    cases h with
    | here ps qs hgoesOn hbelow => exact absurd hgoesOn not_append_cons_eq_self
    | later _ h => exact h
  · exact Crosses.later s

/-- Where one segment goes on and the other ends, a slash is compared with what goes on. -/
theorem keyChars_lt_of_goesOn_iff {s t : String} {p q : Segments} {c : Char} {cs : List Char}
    (hgoesOn : t.toList = s.toList ++ c :: cs) (hfree : '/' ∉ t.toList) :
    keyChars (s :: p) < keyChars (t :: q) ↔ ¬ Crosses (s :: p) (t :: q) := by
  have hne : c ≠ '/' := by
    rintro rfl
    exact hfree (by rw [hgoesOn]; simp)
  have hst : s ≠ t := by
    rintro rfl
    exact not_append_cons_eq_self hgoesOn
  have hchars : keyChars (s :: p) < keyChars (t :: q) ↔ keyChars p < c :: (cs ++ keyChars q) := by
    simp only [keyChars, List.flatMap_cons, hgoesOn, List.cons_append, List.append_assoc,
      List.cons_lt_cons_iff, lt_self_iff_false, false_or, true_and, append_lt_append_iff]
  rw [hchars]
  -- Without further segments the smaller key is over; else its next slash meets what goes on.
  cases p with
  | nil =>
    refine iff_of_true (List.nil_lt_cons _ _) ?_
    intro h
    cases h with
    | later _ h => exact hst rfl
  | cons u p =>
    have hslash : keyChars (u :: p) < c :: (cs ++ keyChars q) ↔ '/' < c := by
      simp only [keyChars, List.flatMap_cons, List.cons_append, List.cons_lt_cons_iff,
        Ne.symm hne, false_and, or_false]
    rw [hslash]
    constructor
    · intro hlt h
      cases h with
      | here ps qs hgoesOn' hbelow =>
        obtain ⟨rfl, -⟩ := List.cons.inj (List.append_cancel_left (hgoesOn.symm.trans hgoesOn'))
        exact lt_asymm hlt hbelow
      | later _ h => exact hst rfl
    · intro h
      refine lt_of_le_of_ne (not_lt.mp fun hbelow => h ?_) (Ne.symm hne)
      exact .here p q hgoesOn hbelow

theorem keyChars_lt_of_differ {s t : String} {p q : Segments} {cs as bs : List Char} {a b : Char}
    (hs : s.toList = cs ++ a :: as) (ht : t.toList = cs ++ b :: bs) (hab : a < b) :
    keyChars (s :: p) < keyChars (t :: q) ∧ ¬ Crosses (s :: p) (t :: q) := by
  constructor
  · simp only [keyChars, List.flatMap_cons, hs, ht, List.cons_append, List.append_assoc,
      List.cons_lt_cons_iff, lt_self_iff_false, false_or, true_and, append_lt_append_iff]
    exact .inl hab
  · intro h
    cases h with
    | here ps qs hgoesOn hbelow =>
      rw [ht, hs, List.append_assoc] at hgoesOn
      obtain ⟨rfl, -⟩ := List.cons.inj (List.append_cancel_left hgoesOn)
      exact lt_irrefl _ hab
    | later _ h =>
      obtain ⟨rfl, -⟩ := List.cons.inj (List.append_cancel_left (hs.symm.trans ht))
      exact lt_irrefl _ hab

theorem keyChars_lt_iff {p q : Segments} (hq : SlashFree q) (h : compare p q = .lt) :
    keyChars p < keyChars q ↔ ¬ Crosses p q := by
  induction p generalizing q with
  | nil =>
    cases q with
    | nil => simp at h
    | cons t q => exact iff_of_true (List.nil_lt_cons _ _) (by rintro ⟨⟩)
  | cons s p ih =>
    cases q with
    | nil => simp at h
    | cons t q =>
      obtain ⟨ht, hrest⟩ := List.forall_mem_cons.mp hq
      rw [List.compare_cons_cons, Ordering.then_eq_lt] at h
      rcases h with hst | ⟨hst, hpq⟩
      · rcases lt_cases (compare_eq_lt_iff.mp hst) with ⟨c, cs, hgoesOn⟩ | hdiffer
        · exact keyChars_lt_of_goesOn_iff hgoesOn ht
        · obtain ⟨cs, a, b, as, bs, hs, ht, hab⟩ := hdiffer
          obtain ⟨hlt, hcross⟩ := keyChars_lt_of_differ hs ht hab
          exact iff_of_true hlt hcross
      · obtain rfl := Std.LawfulEqCmp.eq_of_compare hst
        rw [crosses_cons_iff, ← ih hrest hpq]
        simp only [keyChars, List.flatMap_cons, List.cons_append, List.cons_lt_cons_iff,
          lt_self_iff_false, false_or, true_and, append_lt_append_iff]

/-- The two orders agree on lists of segments that do not cross, and only on those. -/
theorem compare_key_iff {p q : Segments} (hp : p ≠ []) (hq : q ≠ []) (hfree : SlashFree q)
    (h : compare p q = .lt) : compare (key p) (key q) = .lt ↔ ¬ Crosses p q := by
  rw [compare_key_eq_lt_iff hp hq, keyChars_lt_iff hfree h]

end Path
end ApiGateway
