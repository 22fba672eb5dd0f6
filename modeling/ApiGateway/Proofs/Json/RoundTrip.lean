import ApiGateway.Json.Printer
import ApiGateway.Json.Reader
import Mathlib.Data.List.DropRight
import Mathlib.Tactic.SplitIfs

/-! Reading printed JSON. Every text comes back out of its literal, and every value without numbers
out of its layout, with whatever stands behind it left over; so the text determines the value. -/

namespace ApiGateway.Json

/-- Values that JSON can say and that are no numbers; every name in a record is there once. -/
inductive Legible : Value → Prop
  | null : Legible .null
  | boolean (b : Bool) : Legible (.boolean b)
  | text (s : String) : Legible (.text s)
  | list {xs : List Value} (h : ∀ x ∈ xs, Legible x) : Legible (.list xs)
  | record {fields : List (String × Value)} (hnames : (fields.map Prod.fst).Nodup)
      (h : ∀ field ∈ fields, Legible field.2) : Legible (.record fields)

section Literal

variable {done rest : List Char} {a b c d x : Char} {n : Nat}

theorem readText_plain (hq : c ≠ '"') (hb : c ≠ '\\') (hc : ¬ c.toNat < 0x20) :
    readText done (c :: rest) = readText (c :: done) rest := by
  rw [readText]
  · rw [if_neg hc]
  all_goals simp_all

theorem readText_escaped (hu : c ≠ 'u') (hx : unescape? c = some x) :
    readText done ('\\' :: c :: rest) = readText (x :: done) rest := by
  rw [readText]
  · rw [hx]
  all_goals simp_all

/-- A text that does not begin with an escape by number, or with one that can be read. -/
def UnitsRead (cs : List Char) : Prop := ∀ e f g h more,
  cs = '\\' :: 'u' :: e :: f :: g :: h :: more → ∃ low, unit? [e, f, g, h] = some low

/-- The number of a control is none of those that stand for half a character. -/
theorem readText_unit (hn : n < 0x20) (hu : unit? [a, b, c, d] = some n) (hrest : UnitsRead rest) :
    readText done ('\\' :: 'u' :: a :: b :: c :: d :: rest) =
      readText (Char.ofNat n :: done) rest := by
  -- The reader looks for a second number behind the first one, since the two could be a pair.
  by_cases hnext : ∃ e f g h more, rest = '\\' :: 'u' :: e :: f :: g :: h :: more
  · obtain ⟨e, f, g, h, more, rfl⟩ := hnext
    obtain ⟨low, hlow⟩ := hrest e f g h more rfl
    rw [readText]
    simp only [hu, hlow]
    rw [if_neg (by omega), if_neg (by omega)]
  · rw [readText]
    · simp only [hu]
      rw [if_neg (by omega)]
    · intro e f g h more heq
      exact hnext ⟨e, f, g, h, more, heq⟩

theorem hexadecimal_control : ∀ n < 0x20,
    Text.hexadecimal 4 n = ['0', '0', Nat.digitChar (n / 16), Nat.digitChar (n % 16)] ∧
    unit? ['0', '0', Nat.digitChar (n / 16), Nat.digitChar (n % 16)] = some n := by decide

/-- A character is written by a letter behind a backslash, by its number, or as it is. -/
theorem escape_cases (c : Char) :
    (∃ d, escape c = ['\\', d] ∧ d ≠ 'u' ∧ unescape? d = some c) ∨
    (∃ a b, escape c = ['\\', 'u', '0', '0', a, b] ∧ c.toNat < 0x20 ∧
      unit? ['0', '0', a, b] = some c.toNat) ∨
    escape c = [c] ∧ c ≠ '"' ∧ c ≠ '\\' ∧ ¬ c.toNat < 0x20 := by
  unfold escape
  split_ifs with hq hb hbell htab hfeed hform hreturn hcontrol
  · exact .inl ⟨'"', rfl, by decide, by rw [hq]; rfl⟩
  · exact .inl ⟨'\\', rfl, by decide, by rw [hb]; rfl⟩
  · exact .inl ⟨'b', rfl, by decide, by rw [hbell]; rfl⟩
  · exact .inl ⟨'t', rfl, by decide, by rw [htab]; rfl⟩
  · exact .inl ⟨'n', rfl, by decide, by rw [hfeed]; rfl⟩
  · exact .inl ⟨'f', rfl, by decide, by rw [hform]; rfl⟩
  · exact .inl ⟨'r', rfl, by decide, by rw [hreturn]; rfl⟩
  · obtain ⟨hdigits, hunit⟩ := hexadecimal_control c.toNat hcontrol
    exact .inr (.inl ⟨_, _, by rw [hdigits], hcontrol, hunit⟩)
  · exact .inr (.inr ⟨rfl, hq, hb, hcontrol⟩)

theorem unitsRead_escape (cs rest : List Char) :
    UnitsRead (cs.flatMap escape ++ '"' :: rest) := by
  intro e f g h more heq
  cases cs with
  | nil => cases heq
  | cons c cs =>
    rw [List.flatMap_cons, List.append_assoc] at heq
    obtain ⟨d, hd, hu, -⟩ | ⟨a, b, hab, -, hunit⟩ | ⟨hself, -, hb, -⟩ := escape_cases c
    · rw [hd] at heq
      exact absurd (List.cons.inj (List.cons.inj heq).2).1 hu
    · rw [hab] at heq
      simp only [List.cons_append, List.cons.injEq] at heq
      obtain ⟨-, -, rfl, rfl, rfl, rfl, -⟩ := heq
      exact ⟨_, hunit⟩
    · rw [hself] at heq
      exact absurd (List.cons.inj heq).1 hb

theorem readText_escape (done cs rest : List Char) :
    readText done (cs.flatMap escape ++ '"' :: rest) =
      some (String.ofList (done.reverse ++ cs), rest) := by
  induction cs generalizing done with
  | nil => simp [readText]
  | cons c cs ih =>
    have hstep : readText done (escape c ++ (cs.flatMap escape ++ '"' :: rest)) =
        readText (c :: done) (cs.flatMap escape ++ '"' :: rest) := by
      obtain ⟨d, hd, hu, hx⟩ | ⟨a, b, hab, hcontrol, hunit⟩ | ⟨hself, hq, hb, hlow⟩ :=
        escape_cases c
      · rw [hd]
        exact readText_escaped hu hx
      · rw [hab]
        refine (readText_unit hcontrol hunit (unitsRead_escape cs rest)).trans ?_
        rw [Char.ofNat_toNat]
      · rw [hself]
        exact readText_plain hq hb hlow
    rw [List.flatMap_cons, List.append_assoc, hstep, ih, List.reverse_cons, List.append_assoc]
    rfl

/-- A text is read out of its literal, whatever it is made of. -/
theorem readText_literal (s : String) (rest : List Char) :
    readText [] (s.toList.flatMap escape ++ '"' :: rest) = some (s, rest) := by
  rw [readText_escape, List.reverse_nil, List.nil_append, String.ofList_toList]

end Literal

section Layout

variable {cs rest : List Char} {c : Char} {level n : Nat} {v : Value}

theorem skipBlank_of_not_blank (h : c ∉ [' ', '\t', '\n', '\r']) (cs : List Char) :
    skipBlank (c :: cs) = c :: cs := by
  simp only [List.mem_cons, List.not_mem_nil, or_false, not_or] at h
  exact List.dropWhile_cons_of_neg (by simp [h])

theorem skipBlank_comma (cs : List Char) : skipBlank (',' :: cs) = ',' :: cs :=
  skipBlank_of_not_blank (by decide) cs

theorem skipBlank_colon (cs : List Char) : skipBlank (':' :: cs) = ':' :: cs :=
  skipBlank_of_not_blank (by decide) cs

theorem skipBlank_newline (level : Nat) (cs : List Char) :
    skipBlank (newline level ++ cs) = skipBlank cs := by
  have hblank : ∀ c ∈ newline level, (c == ' ' || c == '\t' || c == '\n' || c == '\r') = true := by
    intro c hc
    rcases List.mem_cons.mp hc with rfl | hc
    · rfl
    · rw [List.eq_of_mem_replicate hc]
      rfl
  exact List.dropWhile_append_of_pos hblank

theorem skipBlank_skipBlank (cs : List Char) : skipBlank (skipBlank cs) = skipBlank cs :=
  List.dropWhile_idempotent _ _

theorem length_newline (level : Nat) : (newline level).length = 2 * level + 1 := by
  simp [newline]

/-- The first character of a value, which ends nothing and separates nothing. -/
theorem exists_layout_eq_cons (h : Legible v) (level : Nat) : ∃ c cs, layout level v = c :: cs ∧
    c ∉ [' ', '\t', '\n', '\r'] ∧ c ≠ ']' := by
  cases h with
  | null => exact ⟨'n', _, rfl, by decide⟩
  | boolean b => cases b <;> exact ⟨_, _, rfl, by decide⟩
  | text s => exact ⟨'"', _, rfl, by decide⟩
  | @list xs h => cases xs <;> exact ⟨'[', _, rfl, by decide⟩
  | @record fields hnames h => cases fields <;> exact ⟨'\x7b', _, rfl, by decide⟩

/-- Blanks in front of what is read make no difference. -/
theorem readValue_congr {ds : List Char} (h : skipBlank cs = skipBlank ds) (n : Nat) :
    readValue n cs = readValue n ds := by
  cases n with
  | zero => rfl
  | succ n => rw [readValue, readValue, h]

theorem readItems_skipBlank (n : Nat) (cs : List Char) :
    readItems n (skipBlank cs) = readItems n cs := by
  cases n with
  | zero => rfl
  | succ n => rw [readItems, readItems, readValue_congr (skipBlank_skipBlank cs)]

theorem readFields_skipBlank (n : Nat) (cs : List Char) :
    readFields n (skipBlank cs) = readFields n cs := by
  cases n with
  | zero => rfl
  | succ n => rw [readFields, readFields, skipBlank_skipBlank]

/-- The value is read out of its layout, and nothing of what stands behind it. -/
def ReadsBack (v : Value) : Prop := ∀ level n rest, (layout level v).length ≤ n →
  readValue (n + 1) (layout level v ++ rest) = some (v, rest)

theorem ReadsBack.behind_newline (h : ReadsBack v) (before : Nat)
    (hn : (layout level v).length ≤ n) (rest : List Char) :
    readValue (n + 1) (newline before ++ (layout level v ++ rest)) = some (v, rest) := by
  rw [readValue_congr (skipBlank_newline before _)]
  exact h level n rest hn

theorem ReadsBack.behind_space (h : ReadsBack v) (hn : (layout level v).length ≤ n)
    (rest : List Char) :
    readValue (n + 1) (' ' :: (layout level v ++ rest)) = some (v, rest) := by
  have hspace : skipBlank (' ' :: (layout level v ++ rest)) =
      skipBlank (layout level v ++ rest) := rfl
  rw [readValue_congr hspace]
  exact h level n rest hn

/-- Each item takes a call for itself and one for its value, and has two characters at least. -/
theorem readItems_layout {xs : List Value} (hne : xs ≠ []) (h : ∀ x ∈ xs, ReadsBack x)
    (hn : (layoutItems level xs).length < n) (below : Nat) (rest : List Char) :
    readItems n (layoutItems level xs ++ (newline below ++ ']' :: rest)) = some (xs, rest) := by
  have hclose : skipBlank (newline below ++ ']' :: rest) = ']' :: rest := by
    rw [skipBlank_newline, skipBlank_of_not_blank (by decide)]
  induction xs generalizing n with
  | nil => exact absurd rfl hne
  | cons x xs ih =>
    obtain ⟨hx, hxs⟩ := List.forall_mem_cons.mp h
    cases xs with
    | nil =>
      rw [layoutItems, List.length_append, length_newline] at hn
      obtain ⟨n, rfl⟩ := Nat.exists_eq_add_of_le' (show 2 ≤ n by omega)
      rw [layoutItems, List.append_assoc, readItems, hx.behind_newline level (by omega)]
      simp only [hclose]
    | cons y ys =>
      rw [layoutItems, List.length_append, List.length_append, List.length_cons,
        length_newline] at hn
      obtain ⟨n, rfl⟩ := Nat.exists_eq_add_of_le' (show 2 ≤ n by omega)
      rw [layoutItems, List.append_assoc, List.append_assoc, List.cons_append, readItems,
        hx.behind_newline level (by omega)]
      simp only [skipBlank_comma]
      rw [ih (List.cons_ne_nil y ys) hxs (by omega)]
      rfl

theorem skipBlank_literal (level : Nat) (k : String) (cs : List Char) :
    skipBlank (newline level ++ (literal k ++ cs)) =
      '"' :: (k.toList.flatMap escape ++ '"' :: cs) := by
  rw [skipBlank_newline]
  simp only [literal, List.cons_append, List.append_assoc, List.nil_append]
  exact skipBlank_of_not_blank (by decide) _

section Field

variable {fields : List (String × Value)} {left : List Char}

/-- A field is read as far as its value, with the rest of the record behind it. -/
theorem readFields_of_comma (hv : ReadsBack v) (hn : (layout level v).length ≤ n) (k : String)
    (hcomma : skipBlank rest = ',' :: cs) (hrest : readFields (n + 1) cs = some (fields, left)) :
    readFields (n + 2) (newline level ++ (literal k ++ (':' :: ' ' :: (layout level v ++ rest)))) =
      some ((k, v) :: fields, left) := by
  rw [readFields, skipBlank_literal]
  simp only [readText_literal, skipBlank_colon, hv.behind_space hn, hcomma, hrest, Option.map_some]

theorem readFields_of_close (hv : ReadsBack v) (hn : (layout level v).length ≤ n) (k : String)
    (hclose : skipBlank rest = '\x7d' :: left) :
    readFields (n + 2) (newline level ++ (literal k ++ (':' :: ' ' :: (layout level v ++ rest)))) =
      some ([(k, v)], left) := by
  rw [readFields, skipBlank_literal]
  simp only [readText_literal, skipBlank_colon, hv.behind_space hn, hclose]

theorem readFields_layout (hne : fields ≠ []) (h : ∀ field ∈ fields, ReadsBack field.2)
    (hn : (layoutFields level fields).length < n) (below : Nat) (rest : List Char) :
    readFields n (layoutFields level fields ++ (newline below ++ '\x7d' :: rest)) =
      some (fields, rest) := by
  have hclose : skipBlank (newline below ++ '\x7d' :: rest) = '\x7d' :: rest := by
    rw [skipBlank_newline, skipBlank_of_not_blank (by decide)]
  induction fields generalizing n with
  | nil => exact absurd rfl hne
  | cons field fields ih =>
    obtain ⟨hfield, hfields⟩ := List.forall_mem_cons.mp h
    obtain ⟨k, v⟩ := field
    change ReadsBack v at hfield
    cases fields with
    | nil =>
      simp only [layoutFields, List.length_append, List.length_cons, length_newline] at hn
      obtain ⟨n, rfl⟩ := Nat.exists_eq_add_of_le' (show 2 ≤ n by omega)
      simp only [layoutFields, List.append_assoc, List.cons_append]
      exact readFields_of_close hfield (by omega) k hclose
    | cons next fields =>
      simp only [layoutFields, List.length_append, List.length_cons, length_newline] at hn
      obtain ⟨n, rfl⟩ := Nat.exists_eq_add_of_le' (show 2 ≤ n by omega)
      have hrest := ih (n := n + 1) (List.cons_ne_nil next fields) hfields (by omega)
      simp only [layoutFields, List.append_assoc, List.cons_append]
      exact readFields_of_comma hfield (by omega) k (skipBlank_comma _) hrest

end Field

theorem lastOfEach_of_nodup {fields : List (String × Value)} (h : (fields.map Prod.fst).Nodup) :
    lastOfEach fields = fields := by
  induction fields with
  | nil => rfl
  | cons field fields ih =>
    rw [List.map_cons, List.nodup_cons] at h
    have hlast : ¬ fields.any (·.1 = field.1) = true := by
      intro hany
      obtain ⟨other, hother, heq⟩ := List.any_eq_true.mp hany
      exact h.1 (List.mem_map.mpr ⟨other, hother, of_decide_eq_true heq⟩)
    rw [lastOfEach, if_neg hlast, ih h.2]

/-- A bracket that is not closed at once has items behind it. -/
theorem readValue_items {inner : List Char} (h : (skipBlank inner).head? ≠ some ']') :
    readValue (n + 1) ('[' :: inner) =
      (readItems n inner).map fun (xs, rest) => (.list xs, rest) := by
  rw [readValue, skipBlank_of_not_blank (by decide)]
  simp only
  split
  · simp_all
  · rw [readItems_skipBlank]

theorem readValue_fields {inner : List Char} (h : (skipBlank inner).head? ≠ some '\x7d') :
    readValue (n + 1) ('\x7b' :: inner) =
      (readFields n inner).map fun (fields, rest) => (.record (lastOfEach fields), rest) := by
  rw [readValue, skipBlank_of_not_blank (by decide)]
  simp only
  split
  · simp_all
  · rw [readFields_skipBlank]

theorem head?_layoutItems {x : Value} (hx : Legible x) (xs : List Value) (rest : List Char) :
    (skipBlank (layoutItems level (x :: xs) ++ rest)).head? ≠ some ']' := by
  obtain ⟨more, hmore⟩ : ∃ more,
      layoutItems level (x :: xs) ++ rest = newline level ++ (layout level x ++ more) := by
    cases xs with
    | nil => exact ⟨_, by rw [layoutItems, List.append_assoc]⟩
    | cons y ys => exact ⟨_, by rw [layoutItems, List.append_assoc, List.append_assoc]⟩
  obtain ⟨c, cs, hcs, hblank, hclose⟩ := exists_layout_eq_cons hx level
  rw [hmore, skipBlank_newline, hcs, List.cons_append, skipBlank_of_not_blank hblank]
  exact fun heq => hclose (Option.some.inj heq)

theorem head?_layoutFields (field : String × Value) (fields : List (String × Value))
    (rest : List Char) :
    (skipBlank (layoutFields level (field :: fields) ++ rest)).head? ≠ some '\x7d' := by
  obtain ⟨k, x⟩ := field
  obtain ⟨more, hmore⟩ : ∃ more,
      layoutFields level ((k, x) :: fields) ++ rest = newline level ++ '"' :: more := by
    cases fields with
    | nil => exact ⟨_, by rw [layoutFields, List.append_assoc, List.append_assoc]; rfl⟩
    | cons field fields =>
      exact ⟨_, by
        rw [layoutFields, List.append_assoc, List.append_assoc, List.append_assoc]; rfl⟩
  rw [hmore, skipBlank_newline, skipBlank_of_not_blank (by decide)]
  exact fun heq => absurd (Option.some.inj heq) (by decide)

theorem readsBack_list {xs : List Value} (hlegible : ∀ x ∈ xs, Legible x)
    (h : ∀ x ∈ xs, ReadsBack x) : ReadsBack (.list xs) := by
  intro level n rest hn
  cases xs with
  | nil => rfl
  | cons x xs =>
    have hlayout : layout level (.list (x :: xs)) ++ rest =
        '[' :: (layoutItems (level + 1) (x :: xs) ++ (newline level ++ ']' :: rest)) := by
      simp [layout]
    have hlen : (layoutItems (level + 1) (x :: xs)).length < n := by
      simp only [layout, List.length_cons, List.length_append] at hn
      omega
    have hx : Legible x := hlegible x List.mem_cons_self
    rw [hlayout, readValue_items (head?_layoutItems hx xs _),
      readItems_layout (List.cons_ne_nil x xs) h hlen]
    rfl

theorem readsBack_record {fields : List (String × Value)} (hnames : (fields.map Prod.fst).Nodup)
    (h : ∀ field ∈ fields, ReadsBack field.2) : ReadsBack (.record fields) := by
  intro level n rest hn
  cases fields with
  | nil => rfl
  | cons field fields =>
    have hlayout : layout level (.record (field :: fields)) ++ rest =
        '\x7b' :: (layoutFields (level + 1) (field :: fields) ++
          (newline level ++ '\x7d' :: rest)) := by
      simp [layout]
    have hlen : (layoutFields (level + 1) (field :: fields)).length < n := by
      simp only [layout, List.length_cons, List.length_append] at hn
      omega
    rw [hlayout, readValue_fields (head?_layoutFields field fields _),
      readFields_layout (List.cons_ne_nil field fields) h hlen, Option.map_some]
    simp only [lastOfEach_of_nodup hnames]

theorem readsBack_text (s : String) : ReadsBack (.text s) := by
  intro level n rest hn
  have hopen : layout level (.text s) ++ rest =
      '"' :: (s.toList.flatMap escape ++ '"' :: rest) := by
    simp [layout, literal]
  rw [hopen, readValue, skipBlank_of_not_blank (by decide)]
  simp only [readText_literal]
  rfl

theorem readsBack_of_legible (h : Legible v) : ReadsBack v := by
  induction h with
  | null => exact fun level n rest hn => rfl
  | boolean b => cases b <;> exact fun level n rest hn => rfl
  | text s => exact readsBack_text s
  | list h ih => exact readsBack_list h ih
  | record hnames h ih => exact readsBack_record hnames ih

end Layout

theorem read_pretty {v : Value} (h : Legible v) : read (pretty v) = some v := by
  have hback := readsBack_of_legible h 0 (layout 0 v).length [] (Nat.le_refl _)
  rw [List.append_nil] at hback
  rw [read, pretty, String.toList_ofList, hback]
  rfl

end ApiGateway.Json
