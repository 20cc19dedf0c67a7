import Credentials.Json.Reader
import Credentials.Proofs.DecimalDigits

/-! How the tokens of JSON are written, and that the reader takes each for what it is written for, in
both directions: white space, strings and numbers. A string is written in pieces, since half a
surrogate pair is a piece of a JSON string but not of a text. -/

namespace Credentials.Json

/-- White space between tokens. -/
def Gap (s : List Char) : Prop := ∀ c ∈ s, isSpace c = true

/-- The pieces of a string as they are written between its quotes. -/
inductive PiecesText : List Piece → List Char → Prop
  | nil : PiecesText [] []
  | char {c : Char} {ps : List Piece} {s : List Char} : 0x20 ≤ c.toNat → c ≠ '"' → c ≠ '\\' →
      PiecesText ps s → PiecesText (.char c :: ps) (c :: s)
  | escape {c d : Char} {ps : List Piece} {s : List Char} : unescape c = some d →
      PiecesText ps s → PiecesText (.char d :: ps) ('\\' :: c :: s)
  | unit {a b c d : Char} {n : Nat} {ps : List Piece} {s : List Char} : hex4 a b c d = some n →
      PiecesText ps s → PiecesText (.unit n :: ps) ('\\' :: 'u' :: a :: b :: c :: d :: s)

/-- At least one digit. -/
def AreDigits (s : List Char) : Prop := s ≠ [] ∧ ∀ c ∈ s, c.isDigit = true

inductive FractionText : Option (List Char) → List Char → Prop
  | none : FractionText none []
  | some {ds : List Char} : AreDigits ds → FractionText (some ds) ('.' :: ds)

/-- The sign of an exponent, and whether it makes it negative. -/
inductive SignText : Bool → List Char → Prop
  | none : SignText false []
  | plus : SignText false ['+']
  | minus : SignText true ['-']

inductive ExponentText : Option (Bool × List Char) → List Char → Prop
  | none : ExponentText none []
  | some {e : Char} {isNegative : Bool} {sign ds : List Char} : e = 'e' ∨ e = 'E' →
      SignText isNegative sign → AreDigits ds → ExponentText (some (isNegative, ds)) (e :: (sign ++ ds))

/-- A number is written without zeros in front of its other digits. -/
inductive NumeralText : Numeral → List Char → Prop
  | mk {negative : Bool} {whole : List Char} {fraction : Option (List Char)}
      {exponent : Option (Bool × List Char)} {f e : List Char} : AreDigits whole →
      (whole.head? = some '0' → whole = ['0']) → FractionText fraction f → ExponentText exponent e →
      NumeralText ⟨negative, whole, fraction, exponent⟩
        ((if negative then ['-'] else []) ++ (whole ++ (f ++ e)))

section
variable {ps : List Piece} {s t rest : List Char}

theorem readPieces_append (h : PiecesText ps s) (done : List Piece) (rest : List Char) :
    readPieces done (s ++ '"' :: rest) = some (ps.reverse ++ done, rest) := by
  induction h generalizing done with
  | nil => simp [readPieces]
  | char hc hq hb _ ih =>
    rw [List.cons_append, readPieces, if_neg (not_lt.mpr hc), ih]
    · simp
    · exact fun he => hq he
    · rintro a b c d s he -
      exact hb he
    · rintro d s he -
      exact hb he
  | @escape c d _ _ hu _ ih =>
    rw [List.cons_append, List.cons_append, readPieces]
    · simp [hu, ih]
    · rintro _ _ _ _ _ rfl -
      cases hu
  | unit hn _ ih =>
    simp only [List.cons_append, readPieces, hn, ih]
    simp

theorem exists_of_readPieces {done out : List Piece} (h : readPieces done s = some (out, rest)) :
    ∃ ps t, s = t ++ '"' :: rest ∧ out = ps.reverse ++ done ∧ PiecesText ps t := by
  fun_induction readPieces done s with
  | case1 => cases h
  | case2 =>
    cases h
    exact ⟨[], [], rfl, rfl, .nil⟩
  | case3 done a b c d s n hn ih =>
    obtain ⟨ps, t, rfl, rfl, ht⟩ := ih h
    exact ⟨_, _, rfl, by simp, .unit hn ht⟩
  | case4 => cases h
  | case5 done c s hu d hd ih =>
    obtain ⟨ps, t, rfl, rfl, ht⟩ := ih h
    exact ⟨_, _, rfl, by simp, .escape hd ht⟩
  | case6 => cases h
  | case7 => cases h
  | case8 done c s hq hu hb hc ih =>
    obtain ⟨ps, t, rfl, rfl, ht⟩ := ih h
    -- a backslash has something after it, if only the closing quote
    have hne : c ≠ '\\' := by
      rintro rfl
      cases t with
      | nil => exact hb _ _ rfl rfl
      | cons => exact hb _ _ rfl rfl
    exact ⟨_, _, rfl, by simp, .char (not_lt.mp hc) (fun he => hq he) hne ht⟩

/-- Nothing that a number could go on with. -/
def EndsNumber (rest : List Char) : Prop :=
  ∀ c ∈ rest.head?, c.isDigit = false ∧ c ≠ '.' ∧ c ≠ 'e' ∧ c ≠ 'E'

theorem endsNumber_nil : EndsNumber [] := nofun

theorem endsNumber_cons {c : Char} (h : c.isDigit = false ∧ c ≠ '.' ∧ c ≠ 'e' ∧ c ≠ 'E')
    (s : List Char) : EndsNumber (c :: s) := by
  intro x hx
  obtain rfl : c = x := by simpa using hx
  exact h

theorem AreDigits.exists_cons (h : AreDigits s) : ∃ c t, s = c :: t ∧ c.isDigit = true := by
  obtain ⟨c, t, rfl⟩ := List.exists_cons_of_ne_nil h.1
  exact ⟨c, t, rfl, h.2 c (by simp)⟩

theorem digits_append (hs : ∀ c ∈ s, c.isDigit = true)
    (hr : ∀ c ∈ rest.head?, c.isDigit = false) : digits (s ++ rest) = (s, rest) := by
  have ht := Text.takeWhile_digits_append hs hr
  refine Prod.ext ht ?_
  have happ := List.takeWhile_append_dropWhile (p := Char.isDigit) (l := s ++ rest)
  rw [ht] at happ
  exact List.append_cancel_left happ

theorem of_digits {ds : List Char} (h : digits s = (ds, rest)) :
    s = ds ++ rest ∧ ∀ c ∈ ds, c.isDigit = true := by
  obtain ⟨rfl, rfl⟩ := Prod.mk.inj h
  exact ⟨List.takeWhile_append_dropWhile.symm, fun c hc => List.all_eq_true.mp List.all_takeWhile c hc⟩

theorem readDigits_append (hs : AreDigits s) (hr : ∀ c ∈ rest.head?, c.isDigit = false) :
    readDigits (s ++ rest) = some (s, rest) := by
  rw [readDigits, digits_append hs.2 hr]
  split
  · next h => exact absurd (congrArg Prod.fst h) hs.1
  · rfl

theorem of_readDigits {ds : List Char} (h : readDigits s = some (ds, rest)) :
    s = ds ++ rest ∧ AreDigits ds := by
  unfold readDigits at h
  split at h
  · cases h
  · next hne =>
    obtain ⟨rfl, hd⟩ := of_digits (Option.some.inj h)
    exact ⟨rfl, fun hnil => hne rest (hnil ▸ Option.some.inj h), hd⟩

theorem readWhole_append (hs : AreDigits s) (hz : s.head? = some '0' → s = ['0'])
    (hr : ∀ c ∈ rest.head?, c.isDigit = false) : readWhole (s ++ rest) = some (s, rest) := by
  rw [readWhole, readDigits_append hs hr]
  split
  · next h =>
    cases h
    cases hz rfl
  · rfl

theorem of_readWhole {ds : List Char} (h : readWhole s = some (ds, rest)) :
    s = ds ++ rest ∧ AreDigits ds ∧ (ds.head? = some '0' → ds = ['0']) := by
  unfold readWhole at h
  split at h
  · cases h
  · next hne =>
    obtain ⟨rfl, hd⟩ := of_readDigits h
    refine ⟨rfl, hd, fun hzero => ?_⟩
    obtain ⟨u, rfl⟩ := List.head?_eq_some_iff.mp hzero
    cases u with
    | nil => rfl
    | cons d u => exact absurd h (hne d u rest)

theorem readFraction_append {f : Option (List Char)} (h : FractionText f s)
    (hr : ∀ c ∈ rest.head?, c.isDigit = false ∧ c ≠ '.') :
    readFraction (s ++ rest) = some (f, rest) := by
  cases h with
  | none =>
    rw [List.nil_append]
    unfold readFraction
    split
    · exact absurd rfl (hr '.' (by simp)).2
    · rfl
  | some hd =>
    rw [List.cons_append, readFraction, readDigits_append hd fun c hc => (hr c hc).1]
    rfl

theorem of_readFraction {f : Option (List Char)} (h : readFraction s = some (f, rest)) :
    ∃ t, s = t ++ rest ∧ FractionText f t := by
  unfold readFraction at h
  split at h
  · obtain ⟨⟨ds, u⟩, hds, he⟩ := Option.bind_eq_some_iff.mp h
    cases he
    obtain ⟨rfl, hd⟩ := of_readDigits hds
    exact ⟨_, rfl, .some hd⟩
  · cases h
    exact ⟨[], rfl, .none⟩

theorem readSign_append {isNegative : Bool} {sign : List Char} (h : SignText isNegative sign)
    (hs : AreDigits s) : readSign (sign ++ (s ++ rest)) = (isNegative, s ++ rest) := by
  cases h with
  | none =>
    -- a digit is no sign
    obtain ⟨c, t, rfl, hc⟩ := hs.exists_cons
    rw [List.nil_append, List.cons_append]
    unfold readSign
    split
    · next he =>
      rw [(List.cons.inj he).1] at hc
      cases hc
    · next he =>
      rw [(List.cons.inj he).1] at hc
      cases hc
    · rfl
  | plus => rfl
  | minus => rfl

theorem of_readSign {isNegative : Bool} (h : readSign s = (isNegative, rest)) :
    ∃ sign, s = sign ++ rest ∧ SignText isNegative sign := by
  unfold readSign at h
  split at h
  · cases h
    exact ⟨_, rfl, .minus⟩
  · cases h
    exact ⟨_, rfl, .plus⟩
  · cases h
    exact ⟨_, rfl, .none⟩

theorem readExponent_append {e : Option (Bool × List Char)} (h : ExponentText e s)
    (hr : EndsNumber rest) : readExponent (s ++ rest) = some (e, rest) := by
  cases h with
  | none =>
    rw [List.nil_append]
    unfold readExponent
    split
    · next e t =>
      obtain ⟨-, -, he, hE⟩ := hr e (by simp)
      rw [if_neg (by simp [he, hE])]
    · rfl
  | some he hs hd =>
    rw [List.cons_append, readExponent, if_pos he, List.append_assoc, readSign_append hs hd]
    simp only [readDigits_append hd fun c hc => (hr c hc).1]
    rfl

theorem of_readExponent {e : Option (Bool × List Char)} (h : readExponent s = some (e, rest)) :
    ∃ t, s = t ++ rest ∧ ExponentText e t := by
  unfold readExponent at h
  split at h
  · split at h
    · next c t hc =>
      generalize hsign : readSign t = signed at h
      obtain ⟨isNegative, u⟩ := signed
      obtain ⟨⟨ds, v⟩, hds, he⟩ := Option.bind_eq_some_iff.mp h
      cases he
      obtain ⟨sign, rfl, hs⟩ := of_readSign hsign
      obtain ⟨rfl, hd⟩ := of_readDigits hds
      exact ⟨_, by simp, .some hc hs hd⟩
    · cases h
      exact ⟨[], rfl, .none⟩
  · cases h
    exact ⟨[], rfl, .none⟩

theorem FractionText.stops {f : Option (List Char)} (h : FractionText f s)
    (hr : ∀ c ∈ rest.head?, c.isDigit = false) : ∀ c ∈ (s ++ rest).head?, c.isDigit = false := by
  cases h with
  | none => exact hr
  | some => exact fun c hc => Option.some.inj hc ▸ rfl

theorem ExponentText.stops {e : Option (Bool × List Char)} (h : ExponentText e s)
    (hr : EndsNumber rest) : ∀ c ∈ (s ++ rest).head?, c.isDigit = false ∧ c ≠ '.' := by
  cases h with
  | none => exact fun c hc => ⟨(hr c hc).1, (hr c hc).2.1⟩
  | some he =>
    intro c hc
    obtain rfl := Option.some.inj hc
    rcases he with rfl | rfl <;> decide

theorem readUnsigned_append {whole f e : List Char} {fraction : Option (List Char)}
    {exponent : Option (Bool × List Char)} (hw : AreDigits whole)
    (hz : whole.head? = some '0' → whole = ['0']) (hf : FractionText fraction f)
    (he : ExponentText exponent e) (hr : EndsNumber rest) (negative : Bool) :
    readUnsigned negative (whole ++ (f ++ (e ++ rest))) =
      some (⟨negative, whole, fraction, exponent⟩, rest) := by
  have hwhole := readWhole_append hw hz (hf.stops fun c hc => (he.stops hr c hc).1)
  simp only [readUnsigned, hwhole, readFraction_append hf (he.stops hr), readExponent_append he hr,
    Option.bind_eq_bind, Option.bind_some, Option.pure_def]

theorem of_readUnsigned {negative : Bool} {n : Numeral}
    (h : readUnsigned negative s = some (n, rest)) :
    ∃ t, s = t ++ rest ∧ NumeralText n ((if negative then ['-'] else []) ++ t) := by
  obtain ⟨⟨whole, u₁⟩, hwhole, h⟩ := Option.bind_eq_some_iff.mp h
  obtain ⟨⟨fraction, u₂⟩, hfrac, h⟩ := Option.bind_eq_some_iff.mp h
  obtain ⟨⟨exponent, u₃⟩, hexp, h⟩ := Option.bind_eq_some_iff.mp h
  cases h
  obtain ⟨rfl, hw, hz⟩ := of_readWhole hwhole
  obtain ⟨f, rfl, hf⟩ := of_readFraction hfrac
  obtain ⟨e, rfl, he⟩ := of_readExponent hexp
  exact ⟨whole ++ (f ++ e), by simp, .mk hw hz hf he⟩

theorem readNumeral_append {n : Numeral} (h : NumeralText n s) (hr : EndsNumber rest) :
    readNumeral (s ++ rest) = some (n, rest) := by
  obtain @⟨negative, whole, fraction, exponent, f, e, hw, hz, hf, he⟩ := h
  have hread := readUnsigned_append hw hz hf he hr negative
  cases negative with
  | false =>
    obtain ⟨c, t, rfl, hc⟩ := hw.exists_cons
    rw [List.cons_append] at hread
    simp only [Bool.false_eq_true, if_false, List.nil_append, List.cons_append, List.append_assoc]
    unfold readNumeral
    split
    · next hminus =>
      rw [(List.cons.inj hminus).1] at hc
      cases hc
    · exact hread
  | true =>
    simp only [if_true, List.cons_append, List.nil_append, List.append_assoc, readNumeral, hread]

theorem of_readNumeral {n : Numeral} (h : readNumeral s = some (n, rest)) :
    ∃ t, s = t ++ rest ∧ NumeralText n t := by
  unfold readNumeral at h
  split at h
  · obtain ⟨t, rfl, ht⟩ := of_readUnsigned h
    exact ⟨'-' :: t, rfl, ht⟩
  · exact of_readUnsigned h

theorem NumeralText.start {n : Numeral} (h : NumeralText n s) :
    ∃ c t, s = c :: t ∧ (c = '-' ∨ c.isDigit = true) := by
  obtain @⟨negative, whole, fraction, exponent, f, e, hw, -, -, -⟩ := h
  obtain ⟨c, t, rfl, hc⟩ := hw.exists_cons
  cases negative with
  | false => exact ⟨c, _, rfl, .inr hc⟩
  | true => exact ⟨'-', _, rfl, .inl rfl⟩

theorem skipSpace_gap {gap : List Char} (h : Gap gap) (s : List Char) :
    skipSpace (gap ++ s) = skipSpace s := by
  unfold skipSpace
  exact List.dropWhile_append_of_pos h

theorem skipSpace_cons {c : Char} (h : isSpace c = false) (s : List Char) :
    skipSpace (c :: s) = c :: s := by
  simp [skipSpace, h]

theorem exists_gap (s : List Char) : ∃ gap, Gap gap ∧ s = gap ++ skipSpace s :=
  ⟨s.takeWhile isSpace, List.all_eq_true.mp List.all_takeWhile,
    List.takeWhile_append_dropWhile.symm⟩

theorem gap_nil : Gap [] := by simp [Gap]

theorem gap_space : Gap [' '] := by simp [Gap, isSpace]

theorem Gap.append {g g' : List Char} (h : Gap g) (h' : Gap g') : Gap (g ++ g') := fun c hc =>
  (List.mem_append.mp hc).elim (h c) (h' c)

theorem isSpace_of_isDigit {c : Char} (h : c.isDigit = true) : isSpace c = false := by
  cases hs : isSpace c with
  | false => rfl
  | true =>
    simp only [isSpace, Bool.or_eq_true, beq_iff_eq] at hs
    rcases hs with ((rfl | rfl) | rfl) | rfl <;> cases h

theorem endsNumber_gap {gap : List Char} (h : Gap gap) (hr : EndsNumber rest) :
    EndsNumber (gap ++ rest) := by
  cases gap with
  | nil => exact hr
  | cons g gap =>
    have hg := h g (by simp)
    refine endsNumber_cons ⟨?_, ?_, ?_, ?_⟩ _
    · simp only [isSpace, Bool.or_eq_true, beq_iff_eq] at hg
      rcases hg with ((rfl | rfl) | rfl) | rfl <;> rfl
    all_goals rintro rfl; exact absurd hg (by decide)

end

end Credentials.Json
