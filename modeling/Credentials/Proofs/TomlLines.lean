import Credentials.Proofs.TomlStrings

/-! The lines of a TOML document, read one by one: comments and blank lines, headers of sections,
and fields with strings, natural numbers and arrays of strings. A remark at the end of a line makes
no difference. -/

namespace Credentials.Toml

open Text (decimal)

/-- What may stand at the end of a line: nothing, or a comment two blanks away. -/
def Remark (n : List Char) : Prop :=
  n = [] ∨ ∃ t, n = ' ' :: ' ' :: '#' :: t ∧ ∀ c ∈ t, isPlain c = true

def EndsValue (rest : List Char) : Prop :=
  ∃ c t, rest = c :: t ∧ (c = ' ' ∨ c = '\n' ∨ c = ',' ∨ c = ']')

/-- Whether a text is read as a value, so many brackets deep. -/
def Holds (depth : Nat) (v : List Char) (item : Item) : Prop :=
  ∀ rest fuel, EndsValue rest → v.length < fuel → value fuel depth (v ++ rest) = some (item, rest)

/-- Whether a value starts with something that no gap could go on with. -/
def Starts (v : List Char) : Prop :=
  ∃ c t, v = c :: t ∧ isPlain c = true ∧ isBlank c = false ∧ c ≠ '#' ∧ c ≠ ']'

/-- Whether the rest of a document makes tables of those that were read so far. -/
def Reads (header : List String) (items : Items) (s : List Char) (out : Items) : Prop :=
  ∀ fuel, s.length < fuel → lines fuel header items s = some out

section
variable {c : Char} {s t v n rest blanks : List Char} {fuel depth k : Nat} {item : Item}

theorem skipBlanks_of_not_blank (h : isBlank c = false) : skipBlanks (c :: s) = c :: s := by
  simp [skipBlanks, h]

theorem skipBlanks_append (h : ∀ c ∈ blanks, isBlank c = true) :
    skipBlanks (blanks ++ s) = skipBlanks s :=
  List.dropWhile_append_of_pos h

theorem skipComment_append (h : ∀ c ∈ t, isPlain c = true) :
    skipComment ('#' :: (t ++ '\n' :: rest)) = '\n' :: rest := by
  rw [skipComment, List.dropWhile_append_of_pos h, List.dropWhile_cons_of_neg (by decide)]

theorem lineEnd_of_remark (h : Remark n) : lineEnd (n ++ '\n' :: rest) = some rest := by
  rcases h with rfl | ⟨t, rfl, ht⟩
  · rfl
  · have hcomment : skipBlanks (' ' :: ' ' :: '#' :: t ++ '\n' :: rest) =
        '#' :: (t ++ '\n' :: rest) := rfl
    rw [lineEnd, hcomment, skipComment_append ht]
    rfl

theorem endsValue_of_remark (h : Remark n) : EndsValue (n ++ '\n' :: rest) := by
  rcases h with rfl | ⟨t, rfl, -⟩
  · exact ⟨'\n', rest, rfl, by decide⟩
  · exact ⟨' ', _, rfl, by decide⟩

theorem skipLines_of_remark (h : Remark n) :
    skipLines (fuel + 1) (n ++ '\n' :: rest) = skipLines fuel rest := by
  rcases h with rfl | ⟨t, rfl, ht⟩
  · rfl
  · have hcomment : skipBlanks (' ' :: ' ' :: '#' :: t ++ '\n' :: rest) =
        '#' :: (t ++ '\n' :: rest) := rfl
    rw [skipLines, hcomment]
    simp only [skipComment_append ht]
    rfl

theorem skipLines_of_start (hb : ∀ c ∈ blanks, isBlank c = true) (hc : isPlain c = true)
    (hblank : isBlank c = false) (hhash : c ≠ '#') :
    skipLines (fuel + 1) (blanks ++ c :: t) = some (c :: t) := by
  have hreturn : c ≠ '\r' := by
    rintro rfl
    exact absurd hc (by decide)
  rw [skipLines, skipBlanks_append hb, skipBlanks_of_not_blank hblank]
  split
  · next he => exact absurd (List.cons.inj he).1 hhash
  · next rest he =>
    rw [newline_of_isPlain hc, if_neg (by simpa using hreturn)]

theorem holds_of_string {q : Char} {w : List Char} {text : String} (hq : IsQuote q)
    (h : ∀ rest, EndsValue rest → string (q :: w ++ rest) = some (text, rest)) :
    Holds depth (q :: w) (.scalar (.text text)) := by
  intro rest fuel hrest hf
  obtain ⟨fuel, rfl⟩ := Nat.exists_eq_add_one_of_ne_zero (Nat.ne_zero_of_lt hf)
  have hread := h rest hrest
  rw [List.cons_append] at hread ⊢
  rw [value.eq_def]
  rcases hq with rfl | rfl <;> simp only [hread, Option.map_some]

theorem starts_of_quote {q : Char} {w : List Char} (hq : IsQuote q) : Starts (q :: w) := by
  refine ⟨q, w, rfl, hq.isPlain, ?_⟩
  rcases hq with rfl | rfl <;> decide

/-- Items in an array, one a line. -/
inductive Rows : List Item → List Char → Prop
  | nil : Rows [] []
  | cons {item : Item} {items : List Item} {v n w : List Char} : Holds 1 v item → Starts v →
      Remark n → Rows items w →
      Rows (item :: items) ("    ".toList ++ v ++ ',' :: n ++ '\n' :: w)

theorem endsValue_cons (h : c = ' ' ∨ c = '\n' ∨ c = ',' ∨ c = ']') : EndsValue (c :: s) :=
  ⟨c, s, rfl, h⟩

theorem blank_indent : ∀ c ∈ "    ".toList, isBlank c = true :=
  List.all_eq_true.mp (by decide)

theorem skipLines_of_mark (hc : isPlain c = true ∧ isBlank c = false ∧ c ≠ '#') :
    skipLines (fuel + 1) (c :: s) = some (c :: s) :=
  @skipLines_of_start c s [] fuel (List.forall_mem_nil _) hc.1 hc.2.1 hc.2.2

theorem skipLines_gap (hn : Remark n) (hb : ∀ c ∈ blanks, isBlank c = true)
    (hc : isPlain c = true ∧ isBlank c = false ∧ c ≠ '#')
    (hs : s = n ++ '\n' :: (blanks ++ c :: t)) :
    skipLines (s.length + 1) s = some (c :: t) := by
  obtain ⟨k, hk⟩ : ∃ k, s.length = k + 1 := ⟨s.length - 1, by simp [hs]; omega⟩
  rw [hk, hs, skipLines_of_remark hn, skipLines_of_start hb hc.1 hc.2.1 hc.2.2]

section
variable {done : List Item}

theorem arrayItems_of_end (h : skipLines (s.length + 1) s = some (']' :: rest)) :
    arrayItems (fuel + 1) depth done s = some (.array done.reverse, rest) := by
  rw [arrayItems, h]
  rfl

theorem arrayItems_of_last (h : skipLines (s.length + 1) s = some (c :: t)) (hc : c ≠ ']')
    (hv : value fuel depth (c :: t) = some (item, ']' :: rest)) :
    arrayItems (fuel + 1) depth done s = some (.array (item :: done).reverse, rest) := by
  have hnext : skipLines ((']' :: rest).length + 1) (']' :: rest) = some (']' :: rest) :=
    skipLines_of_mark (by decide)
  rw [arrayItems, h]
  simp only [Option.bind_eq_bind, Option.bind_some]
  split
  · next he => exact absurd (List.cons.inj he).1 hc
  · rw [hv, Option.bind_some, hnext]
    rfl

theorem arrayItems_of_more (h : skipLines (s.length + 1) s = some (c :: t)) (hc : c ≠ ']')
    (hv : value fuel depth (c :: t) = some (item, ',' :: rest)) :
    arrayItems (fuel + 1) depth done s = arrayItems fuel depth (item :: done) rest := by
  have hnext : skipLines ((',' :: rest).length + 1) (',' :: rest) = some (',' :: rest) :=
    skipLines_of_mark (by decide)
  rw [arrayItems, h]
  simp only [Option.bind_eq_bind, Option.bind_some]
  split
  · next he => exact absurd (List.cons.inj he).1 hc
  · rw [hv, Option.bind_some, hnext]
    rfl

/-- Items that are one a line are read up to the bracket, by induction on the items. -/
theorem arrayItems_of_rows {items : List Item} {w : List Char} (h : Rows items w)
    (hn : Remark n) (hf : (n ++ '\n' :: w).length < fuel) :
    arrayItems fuel 1 done (n ++ '\n' :: (w ++ ']' :: rest)) =
      some (.array (done.reverse ++ items), rest) := by
  obtain ⟨fuel, rfl⟩ := Nat.exists_eq_add_one_of_ne_zero (Nat.ne_zero_of_lt hf)
  induction h generalizing n fuel done with
  | nil =>
    rw [List.append_nil]
    exact arrayItems_of_end (@skipLines_gap _ _ _ _ [] hn (List.forall_mem_nil _) (by decide) rfl)
  | @cons item items v m w hv hstart hm hrows ih =>
    obtain ⟨c, t, rfl, hc, hblank, hhash, hbracket⟩ := hstart
    simp only [List.length_append, List.length_cons] at hf
    obtain ⟨fuel, rfl⟩ : ∃ k, fuel = k + 1 := ⟨fuel - 1, by omega⟩
    have hrow : "    ".toList ++ c :: t ++ ',' :: m ++ '\n' :: w ++ ']' :: rest =
        "    ".toList ++ c :: (t ++ ',' :: (m ++ '\n' :: (w ++ ']' :: rest))) := by
      simp
    have hvalue : value (fuel + 1) 1 (c :: (t ++ ',' :: (m ++ '\n' :: (w ++ ']' :: rest)))) =
        some (item, ',' :: (m ++ '\n' :: (w ++ ']' :: rest))) :=
      hv _ _ (endsValue_cons (by decide)) (by simp only [List.length_cons]; omega)
    rw [hrow, arrayItems_of_more (skipLines_gap hn blank_indent ⟨hc, hblank, hhash⟩ rfl) hbracket
      hvalue, ih hm fuel (by simp only [List.length_append, List.length_cons]; omega)]
    simp

end

/-- Arrays as they are written: empty, with one item, or with one a line. -/
theorem holds_empty : Holds 0 ['[', ']'] (.array []) := by
  intro rest fuel hrest hf
  obtain ⟨fuel, rfl⟩ : ∃ k, fuel = k + 2 := ⟨fuel - 2, by simp at hf; omega⟩
  rfl

theorem holds_one (h : Holds 1 v item) (hv : Starts v) :
    Holds 0 ('[' :: v ++ [']']) (.array [item]) := by
  intro rest fuel hrest hf
  obtain ⟨c, t, rfl, hc, hblank, hhash, hbracket⟩ := hv
  simp only [List.length_append, List.length_cons, List.length_nil] at hf
  obtain ⟨fuel, rfl⟩ : ∃ k, fuel = k + 2 := ⟨fuel - 2, by omega⟩
  have hvalue : value fuel 1 (c :: (t ++ ']' :: rest)) = some (item, ']' :: rest) :=
    h _ _ (endsValue_cons (by decide)) (by simp only [List.length_cons]; omega)
  have hitems : arrayItems (fuel + 1) 1 [] (c :: (t ++ ']' :: rest)) =
      some (.array [item], rest) :=
    arrayItems_of_last (skipLines_of_mark ⟨hc, hblank, hhash⟩) hbracket hvalue
  rw [List.append_assoc, List.cons_append, List.cons_append, value.eq_def]
  exact hitems

theorem holds_rows {items : List Item} {w : List Char} (h : Rows items w) (hn : Remark n) :
    Holds 0 ('[' :: (n ++ '\n' :: w) ++ [']']) (.array items) := by
  intro rest fuel hrest hf
  obtain ⟨fuel, rfl⟩ := Nat.exists_eq_add_one_of_ne_zero (Nat.ne_zero_of_lt hf)
  have hitems := @arrayItems_of_rows _ rest fuel [] items w h hn
    (by simp only [List.length_append, List.length_cons] at hf ⊢; omega)
  have hopen : '[' :: (n ++ '\n' :: w) ++ [']'] ++ rest =
      '[' :: (n ++ '\n' :: (w ++ ']' :: rest)) := by simp
  rw [hopen, value.eq_def]
  exact hitems

section
variable {ds done : List Char}

theorem moreDigits_of_digit (h : c.isDigit = true) :
    moreDigits Char.isDigit done (c :: s) = moreDigits Char.isDigit (c :: done) s := by
  rw [moreDigits.eq_def]
  split
  · next he => cases he
  · next he =>
    obtain ⟨rfl, -⟩ := List.cons.inj he
    exact absurd h (by decide)
  · next he =>
    obtain ⟨rfl, rfl⟩ := List.cons.inj he
    rw [if_pos h]

theorem moreDigits_of_end (h : EndsValue rest) :
    moreDigits Char.isDigit done rest = some (done.reverse, rest) := by
  obtain ⟨c, t, rfl, rfl | rfl | rfl | rfl⟩ := h <;> rfl

theorem moreDigits_append (hd : ∀ c ∈ ds, c.isDigit = true) (hr : EndsValue rest) :
    moreDigits Char.isDigit done (ds ++ rest) = some (done.reverse ++ ds, rest) := by
  induction ds generalizing done with
  | nil => rw [List.nil_append, moreDigits_of_end hr, List.append_nil]
  | cons c ds ih =>
    obtain ⟨hc, hd⟩ := List.forall_mem_cons.mp hd
    rw [List.cons_append, moreDigits_of_digit hc, ih hd]
    simp

theorem EndsValue.head (h : EndsValue rest) : ∃ c t, rest = c :: t ∧ c.isDigit = false ∧
    c ≠ '-' ∧ c ≠ ':' ∧ c ≠ '.' ∧ c ≠ 'e' ∧ c ≠ 'E' := by
  obtain ⟨c, t, rfl, rfl | rfl | rfl | rfl⟩ := h <;> exact ⟨_, _, rfl, by decide⟩

theorem number_ne {m : Nat} {mark : Char} (hd : ∀ c ∈ ds, c.isDigit = true)
    (hr : EndsValue rest) (hmark : mark = '-' ∨ mark = ':') :
    Time.number k k (ds ++ rest) ≠ some (m, mark :: t) := by
  obtain ⟨d, u, rfl, hdigit, hminus, hcolon, -⟩ := hr.head
  have hends : mark.isDigit = false ∧ mark ≠ d := by
    rcases hmark with rfl | rfl
    · exact ⟨by decide, hminus.symm⟩
    · exact ⟨by decide, hcolon.symm⟩
  intro h
  simp only [Time.number, Option.ite_none_left_eq_some, Option.some.injEq, Prod.mk.injEq] at h
  obtain ⟨hlength, -, hrest⟩ := h
  rcases Nat.lt_or_ge ds.length k with hk | hk
  · -- the digits are too few
    have htake : (ds ++ d :: u).take k = ds ++ (d :: u).take (k - ds.length) := by
      rw [List.take_append, List.take_of_length_le (by omega)]
    rw [htake, Text.takeWhile_digits_append hd] at hlength
    · exact hlength hk
    · intro c hc
      rw [List.head?_take, if_neg (by omega)] at hc
      obtain rfl := Option.some.inj hc
      exact hdigit
  · have hall : ((ds ++ d :: u).take k).takeWhile Char.isDigit = ds.take k := by
      rw [List.take_append_of_le_length hk]
      have htake := @Text.takeWhile_digits_append (ds.take k) []
        (fun c hc => hd c (List.mem_of_mem_take hc)) (by simp)
      rwa [List.append_nil] at htake
    rw [hall, List.length_take_of_le hk, List.drop_append_of_le_length hk] at hrest
    cases hdrop : ds.drop k with
    | nil =>
      rw [hdrop] at hrest
      exact hends.2 (List.cons.inj hrest).1.symm
    | cons c cs =>
      rw [hdrop] at hrest
      have hc : c ∈ ds := List.mem_of_mem_drop (by rw [hdrop]; exact .head cs)
      rw [← (List.cons.inj hrest).1, hd c hc] at hends
      exact absurd hends.1 (by decide)

theorem startsDay_of_digits (hd : ∀ c ∈ ds, c.isDigit = true) (hr : EndsValue rest) :
    startsDay (ds ++ rest) = false := by
  unfold startsDay
  split
  · next h => exact absurd h (number_ne hd hr (.inl rfl))
  · rfl

theorem startsClock_of_digits (hd : ∀ c ∈ ds, c.isDigit = true) (hr : EndsValue rest) :
    startsClock (ds ++ rest) = false := by
  unfold startsClock
  split
  · next h =>
    obtain ⟨⟨m, u⟩, hnumber, hrange⟩ := Option.bind_eq_some_iff.mp h
    obtain ⟨-, he⟩ := Option.ite_none_right_eq_some.mp hrange
    obtain ⟨-, rfl⟩ := Prod.mk.inj (Option.some.inj he)
    exact absurd hnumber (number_ne hd hr (.inr rfl))
  · rfl

theorem number_of_digits (hc : c.isDigit = true) (hzero : c ≠ '0')
    (hd : ∀ c ∈ ds, c.isDigit = true) (hr : EndsValue rest)
    (hfits : Text.fits64 (decimal (c :: ds)) = true) :
    number (c :: (ds ++ rest)) = some (.integer (decimal (c :: ds)), rest) := by
  have hsign : sign (c :: (ds ++ rest)) = (false, c :: (ds ++ rest)) := by
    rw [sign, if_neg]
    intro h
    simp only [isSign, Bool.or_eq_true, beq_iff_eq] at h
    rcases h with rfl | rfl <;> cases hc
  have hwhole : wholePart (c :: (ds ++ rest)) = some (c :: ds, rest) := by
    rw [wholePart.eq_def]
    split
    · next he => exact absurd (List.cons.inj he).1 hzero
    · rw [digitRun, if_pos hc, moreDigits_append hd hr]
      rfl
  obtain ⟨d, u, rfl, -, -, -, hpoint, he, he'⟩ := hr.head
  have hinteger : integerOf false (decimal (c :: ds)) = some (.integer (decimal (c :: ds))) := by
    simp only [integerOf, Bool.false_eq_true, if_false, hfits, if_true]
  rw [number.eq_def]
  split
  · next h => exact absurd (List.cons.inj h).1 hzero
  · next h => exact absurd (List.cons.inj h).1 hzero
  · next h => exact absurd (List.cons.inj h).1 hzero
  · have hexponent : exponentPart (d :: u) = some (none, d :: u) := by
      rw [exponentPart, if_neg (not_or.mpr ⟨he, he'⟩)]
    simp only [hsign, List.head?_cons, Option.any_some, hc, hwhole, Bool.not_true,
      Bool.false_eq_true, if_false, Option.bind_eq_bind, Option.bind_some]
    split
    · next h => exact absurd (List.cons.inj h).1 hpoint
    · simp only [Option.bind_some, hexponent, Option.isNone_none, and_self, if_true, hinteger]

theorem value_of_digit (hc : c.isDigit = true) : value (fuel + 1) depth (c :: s) =
    (numberOrTime (c :: s)).map fun (v, rest) => (.scalar v, rest) := by
  have hne : ∀ x : Char, x.isDigit = false → ∀ u v : List Char, c :: u = x :: v → False := by
    rintro x hx u v he
    rw [(List.cons.inj he).1, hx] at hc
    cases hc
  rw [value.eq_def]
  dsimp only
  split
  · next he => exact absurd he (hne _ rfl _ _)
  · next he => exact absurd he (hne _ rfl _ _)
  · next he => exact absurd he (hne _ rfl _ _)
  · next he => exact absurd he (hne _ rfl _ _)
  · next he => exact absurd he (hne _ rfl _ _)
  · next he => exact absurd he (hne _ rfl _ _)
  · rfl

theorem holds_natural {n : Nat} (hn : 0 < n) (hfits : Text.fits64 n = true) :
    Holds depth (Nat.toDigits 10 n) (.scalar (.integer n)) := by
  intro rest fuel hrest hf
  obtain ⟨fuel, rfl⟩ := Nat.exists_eq_add_one_of_ne_zero (Nat.ne_zero_of_lt hf)
  have hdigits : ∀ c ∈ Nat.toDigits 10 n, c.isDigit = true :=
    fun c hc => Nat.isDigit_of_mem_toDigits (by decide) (by decide) hc
  have hread : numberOrTime (Nat.toDigits 10 n ++ rest) = some (.integer n, rest) := by
    rw [numberOrTime, startsDay_of_digits hdigits hrest, startsClock_of_digits hdigits hrest]
    cases hds : Nat.toDigits 10 n with
    | nil => exact absurd hds Nat.toDigits_ne_nil
    | cons c ds =>
      have hvalue : decimal (c :: ds) = n := by rw [← hds, Text.decimal_toDigits]
      obtain ⟨hc, hd⟩ := List.forall_mem_cons.mp (hds ▸ hdigits)
      have hzero : c ≠ '0' := by
        rintro rfl
        exact Json.toDigits_head_ne_zero hn ds hds
      have hnumber := number_of_digits hc hzero hd hrest (hvalue ▸ hfits)
      rw [hvalue] at hnumber
      exact hnumber
  cases hds : Nat.toDigits 10 n with
  | nil => exact absurd hds Nat.toDigits_ne_nil
  | cons c ds =>
    have hc : c.isDigit = true := hdigits c (hds ▸ .head ds)
    rw [hds, List.cons_append] at hread
    rw [List.cons_append, value_of_digit hc, hread]
    rfl

end

/-- A key that needs no quotes. -/
def IsBareKey (name : String) : Prop := name.toList ≠ [] ∧ name.toList.all isBare = true

section
variable {name : String} {header header' : List String} {items items' out : Items}

theorem ne_of_isBare {x : Char} {u v : List Char} (h : isBare c = true) (hx : isBare x = false) :
    c :: u ≠ x :: v := by
  intro he
  rw [(List.cons.inj he).1, hx] at h
  cases h

theorem isBlank_of_isBare (h : isBare c = true) : isBlank c = false := by
  by_contra hb
  simp only [Bool.not_eq_false, isBlank, Bool.or_eq_true, beq_iff_eq] at hb
  rcases hb with rfl | rfl <;> cases h

theorem IsBareKey.exists_cons (h : IsBareKey name) :
    ∃ d ds, name.toList = d :: ds ∧ ∀ c ∈ d :: ds, isBare c = true := by
  obtain ⟨d, ds, hds⟩ := List.exists_cons_of_ne_nil h.1
  exact ⟨d, ds, hds, hds ▸ List.all_eq_true.mp h.2⟩

theorem key_of_bare (hname : IsBareKey name) (hc : isBare c = false)
    (hrest : skipBlanks (c :: s) = rest) (hdot : ∀ u, rest ≠ '.' :: u) :
    key (name.toList ++ c :: s) = some ([name], rest) := by
  obtain ⟨d, ds, hds, hbare⟩ := hname.exists_cons
  have hname : String.ofList (d :: ds) = name := by rw [← hds, String.ofList_toList]
  rw [hds]
  have hd : isBare d = true := hbare d (.head ds)
  have htake : (d :: ds ++ c :: s).takeWhile isBare = d :: ds := by
    rw [List.takeWhile_append_of_pos hbare, List.takeWhile_cons_of_neg (by simp [hc]),
      List.append_nil]
  have hdrop : (d :: ds ++ c :: s).dropWhile isBare = c :: s := by
    rw [List.dropWhile_append_of_pos hbare, List.dropWhile_cons_of_neg (by simp [hc])]
  have hsimple : simpleKey (d :: ds ++ c :: s) = some (name, c :: s) := by
    rw [simpleKey.eq_def]
    split
    · next he => exact absurd he (ne_of_isBare hd (by decide))
    · next he => exact absurd he (ne_of_isBare hd (by decide))
    · simp only [htake, hdrop, hname]
      rfl
  have hparts : keyParts depthLimit (d :: ds ++ c :: s) = some ([name], rest) := by
    rw [depthLimit, keyParts, List.cons_append, skipBlanks_of_not_blank (isBlank_of_isBare hd),
      ← List.cons_append, hsimple]
    simp only [Option.bind_eq_bind, Option.bind_some, hrest]
  rw [key, hparts]
  rfl

theorem reads_end : Reads header items [] items := by
  intro fuel hf
  obtain ⟨fuel, rfl⟩ := Nat.exists_eq_add_one_of_ne_zero (Nat.ne_zero_of_lt hf)
  rfl

/-- A document is read if what is left of it after a line is. -/
theorem Reads.step (h : Reads header' items' rest out) (hlength : rest.length < s.length)
    (hline : ∀ fuel, lines (fuel + 1) header items s = lines fuel header' items' rest) :
    Reads header items s out := by
  intro fuel hf
  obtain ⟨fuel, rfl⟩ := Nat.exists_eq_add_one_of_ne_zero (Nat.ne_zero_of_lt hf)
  rw [hline]
  exact h fuel (by omega)

theorem reads_comment (ht : ∀ c ∈ t, isPlain c = true) (h : Reads header items rest out) :
    Reads header items ('#' :: (t ++ '\n' :: rest)) out := by
  have hend : lineEnd ('#' :: (t ++ '\n' :: rest)) = some rest := by
    rw [lineEnd, skipBlanks_of_not_blank (by decide), skipComment_append ht]
    rfl
  refine h.step (by simp; omega) fun fuel => ?_
  rw [lines, skipBlanks_of_not_blank (by decide)]
  simp only [hend, Option.bind_eq_bind, Option.bind_some]

theorem reads_remark (hn : Remark n) (h : Reads header items rest out) :
    Reads header items (n ++ '\n' :: rest) out := by
  rcases hn with rfl | ⟨t, rfl, ht⟩
  · exact h.step (Nat.lt_succ_self _) fun _ => rfl
  · intro fuel hf
    obtain ⟨fuel, rfl⟩ := Nat.exists_eq_add_one_of_ne_zero (Nat.ne_zero_of_lt hf)
    -- the blanks in front of the comment make no difference
    have hcomment := reads_comment ht h (fuel + 1) (by simp at hf ⊢; omega)
    rw [lines.eq_def] at hcomment ⊢
    exact hcomment

theorem reads_header (hname : IsBareKey name) (hn : Remark n)
    (hopen : items.openTable [name] = some items')
    (h : Reads [name] items' rest out) :
    Reads header items ('[' :: (name.toList ++ ']' :: (n ++ '\n' :: rest))) out := by
  have hkey : key (name.toList ++ ']' :: (n ++ '\n' :: rest)) =
      some ([name], ']' :: (n ++ '\n' :: rest)) :=
    key_of_bare hname (by decide) (skipBlanks_of_not_blank (by decide)) (by simp)
  refine h.step (by simp only [List.length_cons, List.length_append]; omega) fun fuel => ?_
  obtain ⟨d, ds, hds, hbare⟩ := hname.exists_cons
  rw [hds] at hkey ⊢
  rw [lines.eq_def]
  dsimp only
  rw [skipBlanks_of_not_blank (by decide)]
  split
  · next he => cases he
  · next he => exact absurd (List.cons.inj he).1 (by decide)
  · next he => exact absurd (List.cons.inj he).1 (by decide)
  · next he => exact absurd (List.cons.inj he).1 (by decide)
  · next he =>
    exact absurd (List.cons.inj he).2 (ne_of_isBare (hbare d (.head ds)) (by decide))
  · next he =>
    obtain ⟨-, rfl⟩ := List.cons.inj he
    simp only [hkey, Option.bind_eq_bind, Option.bind_some, Time.literal, if_true,
      lineEnd_of_remark hn, hopen]
  · next he => exact absurd rfl (he _)

theorem keyValue_field (hname : IsBareKey name) (hv : Holds 0 v item) (hstart : Starts v)
    (hn : Remark n) :
    keyValue (name.toList ++ ' ' :: '=' :: ' ' :: (v ++ (n ++ '\n' :: rest))) =
      some ([name], item, rest) := by
  have hkey : key (name.toList ++ ' ' :: '=' :: ' ' :: (v ++ (n ++ '\n' :: rest))) =
      some ([name], '=' :: ' ' :: (v ++ (n ++ '\n' :: rest))) :=
    key_of_bare hname (by decide) rfl (by simp)
  obtain ⟨c, t, hvt, -, hblank, -⟩ := hstart
  have hskip : skipBlanks (' ' :: (v ++ (n ++ '\n' :: rest))) = v ++ (n ++ '\n' :: rest) := by
    rw [hvt]
    exact skipBlanks_of_not_blank hblank
  have hvalue := hv _ ((' ' :: (v ++ (n ++ '\n' :: rest))).length + 1)
    (@endsValue_of_remark n rest hn) (by simp; omega)
  simp only [keyValue, hkey, Option.bind_eq_bind, Option.bind_some, Time.literal, if_true, hskip,
    hvalue, lineEnd_of_remark hn]

theorem reads_field (hname : IsBareKey name) (hv : Holds 0 v item) (hstart : Starts v)
    (hn : Remark n) (hassign : items.assignIn header [name] item = some items')
    (h : Reads header items' rest out) :
    Reads header items (name.toList ++ " = ".toList ++ v ++ n ++ '\n' :: rest) out := by
  have hline : name.toList ++ " = ".toList ++ v ++ n ++ '\n' :: rest =
      name.toList ++ ' ' :: '=' :: ' ' :: (v ++ (n ++ '\n' :: rest)) := by
    simp
  have hfield := @keyValue_field v n rest item name hname hv hstart hn
  rw [hline]
  refine h.step (by simp only [List.length_append, List.length_cons]; omega) fun fuel => ?_
  obtain ⟨d, ds, hds, hbare⟩ := hname.exists_cons
  have hd := hbare d (.head ds)
  rw [hds, List.cons_append] at hfield ⊢
  rw [lines.eq_def]
  dsimp only
  rw [skipBlanks_of_not_blank (isBlank_of_isBare hd)]
  split
  · next he => cases he
  · next he => exact absurd he (ne_of_isBare hd (by decide))
  · next he => exact absurd he (ne_of_isBare hd (by decide))
  · next he => exact absurd he (ne_of_isBare hd (by decide))
  · next he => exact absurd he (ne_of_isBare hd (by decide))
  · next he => exact absurd he (ne_of_isBare hd (by decide))
  · simp only [hfield, Option.bind_eq_bind, Option.bind_some, hassign]

end

end

end Credentials.Toml
