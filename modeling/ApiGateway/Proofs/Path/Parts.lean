import ApiGateway.Proofs.Path.Key
import ApiGateway.Proofs.Path.Name
import Mathlib.Data.List.Dedup
import Mathlib.Data.List.Nodup
import Mathlib.Data.List.Perm.Subperm
import Mathlib.Data.List.Sort
import Mathlib.Order.Basic

/-! The leading parts of several lists of segments, without a tree: each part once, in the order in
which blocks are written, and of those that share a name the first. -/

namespace ApiGateway.Path

/-- The non-empty leading parts of the lists, each once. -/
def parts (rs : List Segments) : List Segments := (rs.flatMap ancestry).dedup

/-- By length, then by resource name, then segment by segment. -/
def order : Segments → Segments → Ordering :=
  compareLex (compareOn List.length) (compareLex (compareOn resourceName) compare)

instance : Std.TransCmp order :=
  inferInstanceAs (Std.TransCmp
    (compareLex (compareOn List.length) (compareLex (compareOn resourceName) compare)))

instance : Std.LawfulEqCmp order where
  eq_of_compare {p q} h := by
    simp only [order, compareLex, Ordering.then_eq_eq] at h
    exact Std.LawfulEqCmp.eq_of_compare h.2.2

def sort (ps : List Segments) : List Segments := ps.mergeSort fun p q => (order p q).isLE

/-- Of the lists that share a resource name, the first. -/
def firstNamed : List Segments → List Segments
  | [] => []
  | p :: ps => p :: (firstNamed ps).filter (resourceName · ≠ resourceName p)

/-- The leading parts that a resource block stands for, in the order of the blocks. -/
def kept (rs : List Segments) : List Segments := firstNamed (sort (parts rs))

section Parts

variable {rs : List Segments} {p q : Segments}

theorem mem_parts : p ∈ parts rs ↔ p ≠ [] ∧ ∃ ss ∈ rs, p <+: ss := by
  simp only [parts, List.mem_dedup, List.mem_flatMap, mem_ancestry]
  grind

theorem nodup_parts (rs : List Segments) : (parts rs).Nodup := List.nodup_dedup _

theorem ne_nil_of_mem_parts (h : p ∈ parts rs) : p ≠ [] := (mem_parts.mp h).1

theorem mem_parts_self {ss : Segments} (h : ss ∈ rs) (hne : ss ≠ []) : ss ∈ parts rs :=
  mem_parts.mpr ⟨hne, ss, h, List.prefix_rfl⟩

theorem dropLast_mem_parts (h : p ∈ parts rs) (hlen : 1 < p.length) : p.dropLast ∈ parts rs := by
  obtain ⟨-, ss, hss, hpre⟩ := mem_parts.mp h
  have hne : p.dropLast ≠ [] := List.ne_nil_of_length_pos (by simp; omega)
  exact mem_parts.mpr ⟨hne, ss, hss, (List.dropLast_prefix p).trans hpre⟩

theorem mem_parts_of_prefix (hq : q ∈ parts rs) (hpre : p <+: q) (hne : p ≠ []) :
    p ∈ parts rs := by
  obtain ⟨-, ss, hss, hqs⟩ := mem_parts.mp hq
  exact mem_parts.mpr ⟨hne, ss, hss, hpre.trans hqs⟩

theorem parts_subset {qs : List Segments} (h : rs ⊆ qs) : parts rs ⊆ parts qs := by
  intro p hp
  obtain ⟨hne, ss, hss, hpre⟩ := mem_parts.mp hp
  exact mem_parts.mpr ⟨hne, ss, h hss, hpre⟩

theorem slashFree_of_mem_parts (hrs : ∀ ss ∈ rs, SlashFree ss) (h : p ∈ parts rs) :
    SlashFree p := by
  obtain ⟨-, ss, hss, hpre⟩ := mem_parts.mp h
  exact (hrs ss hss).of_subset hpre.subset

end Parts

section Sorting

variable {ps qs : List Segments} {p q : Segments}

theorem sort_perm (ps : List Segments) : (sort ps).Perm ps := List.mergeSort_perm ps _

theorem mem_sort : p ∈ sort ps ↔ p ∈ ps := (sort_perm ps).mem_iff

theorem pairwise_sort_isLE (ps : List Segments) :
    (sort ps).Pairwise fun p q => (order p q).isLE := by
  have htrans (a b c : Segments) (hab : (order a b).isLE) (hbc : (order b c).isLE) :
      (order a c).isLE := Std.TransCmp.isLE_trans hab hbc
  refine List.pairwise_mergeSort htrans (fun a b => ?_) ps
  have hswap : order b a = (order a b).swap := Std.OrientedCmp.eq_swap
  rw [hswap]
  cases order a b <;> rfl

/-- The order holds only equal lists for equal, so what ascends is determined by its members. -/
instance : Std.Antisymm fun p q => (order p q).isLE = true where
  antisymm _ _ hpq hqp :=
    Std.LawfulEqCmp.eq_of_compare (Std.OrientedCmp.isLE_antisymm hpq hqp)

theorem sort_sublist_of_subperm (h : ps.Subperm qs) : (sort ps).Sublist (sort qs) := by
  have hperm : (sort ps).Subperm (sort qs) :=
    ((sort_perm ps).subperm.trans h).trans (sort_perm qs).symm.subperm
  exact List.sublist_of_subperm_of_pairwise hperm (pairwise_sort_isLE ps) (pairwise_sort_isLE qs)

theorem sort_eq_of_perm (h : ps.Perm qs) : sort ps = sort qs :=
  (sort_sublist_of_subperm h.subperm).antisymm (sort_sublist_of_subperm h.symm.subperm)

theorem pairwise_sort (h : ps.Nodup) : (sort ps).Pairwise fun p q => order p q = .lt := by
  have hne : (sort ps).Pairwise (· ≠ ·) := (sort_perm ps).nodup_iff.mpr h
  refine (pairwise_sort_isLE ps).imp₂ (fun p q hle hpq => ?_) hne
  cases hcmp : order p q with
  | lt => rfl
  | eq => exact absurd (Std.LawfulEqCmp.eq_of_compare hcmp) hpq
  | gt => simp [hcmp] at hle

theorem order_of_length_lt (h : p.length < q.length) : order p q = .lt := by
  have hcmp : compare p.length q.length = .lt := Nat.compare_eq_lt.mpr h
  simp [order, compareLex, compareOn, hcmp]

/-- Where lists ascend, what comes before one of them in the order stands before it. -/
theorem mem_before_of_order {before after : List Segments}
    (h : (before ++ p :: after).Pairwise fun p q => order p q = .lt)
    (hq : q ∈ before ++ p :: after) (hlt : order q p = .lt) : q ∈ before := by
  rcases List.mem_append.mp hq with hq | hq
  · exact hq
  · rcases List.mem_cons.mp hq with rfl | hq
    · exact absurd hlt (Std.OrientedCmp.not_lt_of_lt hlt)
    · have hpq := (List.pairwise_cons.mp (List.pairwise_append.mp h).2.1).1 q hq
      exact absurd hlt (Std.OrientedCmp.not_lt_of_lt hpq)

end Sorting

section FirstNamed

variable {ps : List Segments} {p : Segments}

theorem firstNamed_sublist (ps : List Segments) : (firstNamed ps).Sublist ps := by
  induction ps with
  | nil => exact List.Sublist.refl _
  | cons p ps ih => exact (List.filter_sublist.trans ih).cons_cons p

theorem nodup_names_firstNamed (ps : List Segments) :
    ((firstNamed ps).map resourceName).Nodup := by
  induction ps with
  | nil => exact List.nodup_nil
  | cons p ps ih =>
    rw [firstNamed, List.map_cons, List.nodup_cons]
    refine ⟨?_, (List.filter_sublist.map _).nodup ih⟩
    intro hmem
    obtain ⟨q, hq, heq⟩ := List.mem_map.mp hmem
    simpa [heq] using (List.mem_filter.mp hq).2

/-- Every list has its name taken, by itself or by one that stands before it. -/
theorem exists_mem_firstNamed {R : Segments → Segments → Prop} (hR : ps.Pairwise R)
    (h : p ∈ ps) :
    ∃ q ∈ firstNamed ps, resourceName q = resourceName p ∧ (q = p ∨ R q p) := by
  induction ps with
  | nil => cases h
  | cons a ps ih =>
    obtain ⟨ha, hps⟩ := List.pairwise_cons.mp hR
    by_cases hname : resourceName a = resourceName p
    · refine ⟨a, List.mem_cons_self, hname, ?_⟩
      exact (List.mem_cons.mp h).imp Eq.symm (ha p)
    · have hmem : p ∈ ps := (List.mem_cons.mp h).resolve_left (by rintro rfl; exact hname rfl)
      obtain ⟨q, hq, hqp, hrel⟩ := ih hps hmem
      refine ⟨q, List.mem_cons_of_mem _ (List.mem_filter.mpr ⟨hq, ?_⟩), hqp, hrel⟩
      simpa [hqp] using Ne.symm hname

theorem mem_names_firstNamed {x : String} :
    x ∈ (firstNamed ps).map resourceName ↔ x ∈ ps.map resourceName := by
  constructor
  · exact fun h => ((firstNamed_sublist ps).map _).subset h
  · intro h
    obtain ⟨p, hp, rfl⟩ := List.mem_map.mp h
    have hall : ps.Pairwise fun _ _ => True := List.pairwise_of_forall fun _ _ => trivial
    obtain ⟨q, hq, hname, -⟩ := exists_mem_firstNamed hall hp
    exact List.mem_map.mpr ⟨q, hq, hname⟩

theorem firstNamed_eq_self (h : (ps.map resourceName).Nodup) : firstNamed ps = ps := by
  refine (firstNamed_sublist ps).eq_of_length_le ?_
  have hsub : ps.map resourceName ⊆ (firstNamed ps).map resourceName :=
    fun x hx => mem_names_firstNamed.mpr hx
  simpa using (List.subperm_of_subset h hsub).length_le

end FirstNamed

section Kept

variable {rs : List Segments} {p q : Segments} {i j : Nat}

theorem mem_parts_of_mem_kept (h : p ∈ kept rs) : p ∈ parts rs :=
  mem_sort.mp ((firstNamed_sublist _).subset h)

theorem nodup_names_kept (rs : List Segments) : ((kept rs).map resourceName).Nodup :=
  nodup_names_firstNamed _

theorem names_kept_perm (rs : List Segments) :
    ((kept rs).map resourceName).Perm ((parts rs).map resourceName).dedup := by
  refine (List.perm_ext_iff_of_nodup (nodup_names_kept rs) (List.nodup_dedup _)).mpr fun x => ?_
  rw [kept, mem_names_firstNamed, List.mem_dedup, ((sort_perm _).map _).mem_iff]

/-- Where no name is shared nothing is left out. -/
theorem kept_eq_sort (h : ((parts rs).map resourceName).Nodup) : kept rs = sort (parts rs) :=
  firstNamed_eq_self (((sort_perm _).map _).nodup_iff.mpr h)

theorem pairwise_kept (rs : List Segments) : (kept rs).Pairwise fun p q => order p q = .lt :=
  (pairwise_sort (nodup_parts rs)).sublist (firstNamed_sublist _)

theorem exists_kept (h : p ∈ parts rs) :
    ∃ q ∈ kept rs, resourceName q = resourceName p ∧ (q = p ∨ order q p = .lt) :=
  exists_mem_firstNamed (pairwise_sort (nodup_parts rs)) (mem_sort.mpr h)

/-- The name that a kept part hangs on belongs to a kept part before it, if not always to the part
it was made of. -/
theorem exists_kept_parent (h : p ∈ kept rs) (hlen : 1 < p.length) :
    ∃ q ∈ kept rs, resourceName q = resourceName p.dropLast ∧ order q p = .lt := by
  obtain ⟨q, hq, hname, hle⟩ := exists_kept (dropLast_mem_parts (mem_parts_of_mem_kept h) hlen)
  have hlt : order p.dropLast p = .lt := order_of_length_lt (by rw [List.length_dropLast]; omega)
  refine ⟨q, hq, hname, ?_⟩
  rcases hle with rfl | hle
  · exact hlt
  · exact Std.TransCmp.lt_trans hle hlt

theorem kept_position_lt (hi : (kept rs)[i]? = some q) (hj : (kept rs)[j]? = some p)
    (h : order q p = .lt) : i < j := by
  obtain ⟨hi', rfl⟩ := List.getElem?_eq_some_iff.mp hi
  obtain ⟨hj', rfl⟩ := List.getElem?_eq_some_iff.mp hj
  by_contra hle
  -- The kept parts ascend, so at a later place, or the same, `q` would not come before `p`.
  rcases Nat.lt_or_eq_of_le (Nat.not_lt.mp hle) with hlt | rfl
  · have hback := List.pairwise_iff_getElem.mp (pairwise_kept rs) j i hj' hi' hlt
    exact Std.OrientedCmp.not_lt_of_lt hback h
  · exact Std.OrientedCmp.not_lt_of_lt h h

end Kept

end ApiGateway.Path
