import Credentials.Proofs.JsonScalars
import Credentials.Toml.Printer
import Credentials.Toml.Reader

/-! Strings as TOML text, read again. Between quotes a character stands for itself or is escaped; a
string of several lines can have two quotes in a row, and those that end it are three more. -/

namespace Credentials.Toml

/-- What stands for a character after a backslash: it is read as the character, and does not join
lines. -/
structure Escapes (e : List Char) (c : Char) : Prop where
  read : ∀ rest, escaped (e ++ rest) = some (c, rest)
  joins : ∀ rest, joinedLine (e ++ rest) = none
  plain : ∀ d ∈ e, isPlain d = true

/-- How the content of a string is spelled between quotes, with or without line feeds, when `run`
quotes have just been written. -/
inductive Spelled (isLong : Bool) (quote : Char) : Nat → List Char → List Char → Prop
  | nil {run : Nat} : Spelled isLong quote run [] []
  | quote {run : Nat} {s w : List Char} : isLong = true → run < 2 →
      Spelled isLong quote (run + 1) s w → Spelled isLong quote run (quote :: s) (quote :: w)
  | feed {run : Nat} {s w : List Char} : isLong = true → Spelled isLong quote 0 s w →
      Spelled isLong quote run ('\n' :: s) ('\n' :: w)
  | plain {run : Nat} {c : Char} {s w : List Char} : isPlain c = true → c ≠ quote →
      (quote = '"' → c ≠ '\\') → Spelled isLong quote 0 s w →
      Spelled isLong quote run (c :: s) (c :: w)
  | escaped {run : Nat} {c : Char} {e s w : List Char} : quote = '"' → Escapes e c →
      Spelled isLong quote 0 s w → Spelled isLong quote run (c :: s) ('\\' :: (e ++ w))

def IsQuote (c : Char) : Prop := c = '"' ∨ c = '\''

section
variable {c q : Char} {s w rest t done : List Char} {isLong : Bool} {run fuel k : Nat}

theorem ne_feed_of_isPlain (h : isPlain c = true) : c ≠ '\n' := by
  rintro rfl
  exact absurd h (by decide)

theorem newline_of_isPlain (h : isPlain c = true) (s : List Char) : newline (c :: s) = none := by
  unfold newline
  split
  · next he =>
    obtain ⟨rfl, -⟩ := List.cons.inj he
    exact absurd h (by decide)
  · next he =>
    obtain ⟨rfl, -⟩ := List.cons.inj he
    exact absurd h (by decide)
  · rfl

theorem IsQuote.isPlain (h : IsQuote q) : isPlain q = true := by
  rcases h with rfl | rfl <;> decide

theorem IsQuote.ne_backslash (h : IsQuote q) : q ≠ '\\' := by
  rcases h with rfl | rfl <;> decide

theorem closingQuotes_of_short (hk : k < 3) (hc : c ≠ q) :
    closingQuotes q (List.replicate k q ++ c :: t) = none := by
  have hrun : (List.replicate k q ++ c :: t).takeWhile (· == q) = List.replicate k q := by
    rw [List.takeWhile_append_of_pos fun d hd => by simp [List.eq_of_mem_replicate hd]]
    simp [hc]
  simp only [closingQuotes, hrun, List.length_replicate, hk, if_true]

theorem closingQuotes_of_end (hk : k < 3) (hrest : rest.head? ≠ some q) :
    closingQuotes q (List.replicate k q ++ q :: q :: q :: rest) =
      some (List.replicate k q, rest) := by
  have hall : List.replicate k q ++ q :: q :: q :: rest = List.replicate (k + 3) q ++ rest := by
    rw [List.replicate_add, List.append_assoc]
    rfl
  have hrun : (List.replicate (k + 3) q ++ rest).takeWhile (· == q) =
      List.replicate (k + 3) q := by
    rw [List.takeWhile_append_of_pos fun d hd => by simp [List.eq_of_mem_replicate hd]]
    cases rest with
    | nil => simp
    | cons d rest =>
      have hd : d ≠ q := by simpa using hrest
      simp [hd]
  have hown : min (k + 3 - 3) 2 = k := by omega
  rw [hall, closingQuotes, hrun]
  simp only [List.length_replicate, hown, if_neg (show ¬ k + 3 < 3 by omega)]
  rw [List.drop_left' List.length_replicate]

/-- The quotes that a spelling begins with: they are the whole of it, or something else follows. -/
theorem Spelled.leading (hq : IsQuote q) (h : Spelled true q run s w) :
    (∃ k, (k = 0 ∨ run + k ≤ 2) ∧ s = List.replicate k q ∧ w = List.replicate k q) ∨
      ∃ k c t, (k = 0 ∨ run + k ≤ 2) ∧ c ≠ q ∧ w = List.replicate k q ++ c :: t := by
  induction h with
  | nil => exact .inl ⟨0, .inl rfl, rfl, rfl⟩
  | quote _ hrun _ ih =>
    rcases ih with ⟨k, hk, rfl, rfl⟩ | ⟨k, c, t, hk, hc, rfl⟩
    · exact .inl ⟨k + 1, .inr (by omega), rfl, rfl⟩
    · exact .inr ⟨k + 1, c, t, .inr (by omega), hc, rfl⟩
  | feed => exact .inr ⟨0, '\n', _, .inl rfl, (ne_feed_of_isPlain hq.isPlain).symm, rfl⟩
  | plain _ hc => exact .inr ⟨0, _, _, .inl rfl, hc, rfl⟩
  | escaped => exact .inr ⟨0, '\\', _, .inl rfl, hq.ne_backslash.symm, rfl⟩

theorem longBody_of_closing {own : List Char} (h : closingQuotes q s = some (own, rest)) :
    longBody q (fuel + 1) done s = some (String.ofList (done.reverse ++ own), rest) := by
  rw [longBody.eq_def]
  simp only [h]

theorem longBody_of_feed (h : closingQuotes q ('\n' :: s) = none) :
    longBody q (fuel + 1) done ('\n' :: s) = longBody q fuel ('\n' :: done) s := by
  rw [longBody.eq_def]
  simp only [h, newline]

theorem longBody_of_plain (h : closingQuotes q (c :: s) = none) (hc : isPlain c = true)
    (hself : ¬ (c = '\\' ∧ q = '"')) :
    longBody q (fuel + 1) done (c :: s) = longBody q fuel (c :: done) s := by
  rw [longBody.eq_def]
  simp only [h, newline_of_isPlain hc, if_neg hself, if_pos hc]

theorem longBody_of_escapes {e : List Char} (h : closingQuotes '"' ('\\' :: (e ++ s)) = none)
    (he : Escapes e c) :
    longBody '"' (fuel + 1) done ('\\' :: (e ++ s)) = longBody '"' fuel (c :: done) s := by
  rw [longBody.eq_def]
  simp only [h, newline, and_self, if_true, he.joins, he.read]
  rfl

theorem longBody_spelled (hq : IsQuote q) (h : Spelled true q run s w)
    (hf : w.length < fuel) (hrest : rest.head? ≠ some q) :
    longBody q fuel done (w ++ q :: q :: q :: rest) =
      some (String.ofList (done.reverse ++ s), rest) := by
  obtain ⟨fuel, rfl⟩ := Nat.exists_eq_add_one_of_ne_zero (Nat.ne_zero_of_lt hf)
  have hopen (c : Char) (w : List Char) (hc : c ≠ q) : closingQuotes q (c :: w) = none :=
    closingQuotes_of_short (k := 0) (by omega) hc
  induction h generalizing fuel done with
  | nil => exact longBody_of_closing (closingQuotes_of_end (k := 0) (by omega) hrest)
  | @quote run s w hlong hrun hs ih =>
    -- these quotes may be the last ones, and then they are read along with the end
    rcases (Spelled.quote hlong hrun hs).leading hq with ⟨k, hk, hsk, hwk⟩ | ⟨k, c, t, hk, hc, hwk⟩
    · rw [hsk, hwk, longBody_of_closing (closingQuotes_of_end (by omega) hrest)]
    · have hnone : closingQuotes q (q :: w ++ q :: q :: q :: rest) = none := by
        rw [hwk, List.append_assoc]
        exact closingQuotes_of_short (by omega) hc
      have hself : ¬ (q = '\\' ∧ q = '"') := fun h => hq.ne_backslash h.1
      obtain ⟨fuel, rfl⟩ : ∃ n, fuel = n + 1 := ⟨fuel - 1, by simp at hf; omega⟩
      refine (longBody_of_plain hnone hq.isPlain hself).trans ?_
      refine (ih fuel (by simpa using hf)).trans ?_
      simp
  | @feed run s w hlong hs ih =>
    obtain ⟨fuel, rfl⟩ : ∃ n, fuel = n + 1 := ⟨fuel - 1, by simp at hf; omega⟩
    refine (longBody_of_feed (hopen _ _ (ne_feed_of_isPlain hq.isPlain).symm)).trans ?_
    refine (ih fuel (by simpa using hf)).trans ?_
    simp
  | @plain run c s w hc hne hback hs ih =>
    obtain ⟨fuel, rfl⟩ : ∃ n, fuel = n + 1 := ⟨fuel - 1, by simp at hf; omega⟩
    refine (longBody_of_plain (hopen _ _ hne) hc fun h => hback h.2 h.1).trans ?_
    refine (ih fuel (by simpa using hf)).trans ?_
    simp
  | @escaped run c e s w hquote he hs ih =>
    subst hquote
    obtain ⟨fuel, rfl⟩ : ∃ n, fuel = n + 1 := ⟨fuel - 1, by simp at hf; omega⟩
    rw [List.cons_append, List.append_assoc, longBody_of_escapes (hopen _ _ (by decide)) he]
    simp only [List.length_cons, List.length_append] at hf
    rw [ih fuel (by omega)]
    simp

theorem literalBody_spelled (h : Spelled false '\'' run s w) :
    literalBody done (w ++ '\'' :: rest) = some (String.ofList (done.reverse ++ s), rest) := by
  induction h generalizing done with
  | nil => rw [List.nil_append, literalBody, if_pos rfl, List.append_nil]
  | plain hc hne _ _ ih =>
    rw [List.cons_append, literalBody, if_neg hne, if_pos hc, ih]
    simp
  | quote hlong | feed hlong => cases hlong
  | escaped hquote => exact absurd hquote (by decide)

theorem basicBody_of_plain (hc : isPlain c = true) (hq : c ≠ '"') (hback : c ≠ '\\') :
    basicBody (fuel + 1) done (c :: s) = basicBody fuel (c :: done) s := by
  rw [basicBody.eq_def]
  simp only [hc, if_true]

theorem basicBody_spelled (h : Spelled false '"' run s w) (hf : w.length < fuel) :
    basicBody fuel done (w ++ '"' :: rest) = some (String.ofList (done.reverse ++ s), rest) := by
  induction h generalizing fuel done with
  | nil =>
    obtain ⟨fuel, rfl⟩ := Nat.exists_eq_add_one_of_ne_zero (Nat.ne_zero_of_lt hf)
    rw [List.append_nil]
    rfl
  | @plain run c s w hc hne hback hs ih =>
    obtain ⟨fuel, rfl⟩ := Nat.exists_eq_add_one_of_ne_zero (Nat.ne_zero_of_lt hf)
    rw [List.cons_append, basicBody_of_plain hc hne (hback rfl), ih (by simpa using hf)]
    simp
  | @escaped run c e s w hquote he hs ih =>
    obtain ⟨fuel, rfl⟩ := Nat.exists_eq_add_one_of_ne_zero (Nat.ne_zero_of_lt hf)
    simp only [List.length_cons, List.length_append] at hf
    rw [List.cons_append, List.append_assoc, basicBody.eq_def]
    simp only [he.read]
    refine (ih (by omega)).trans ?_
    simp
  | quote hlong | feed hlong => cases hlong

theorem Escapes.cons {d : Char} {e : List Char} (hd : isPlain d = true ∧ isBlank d = false)
    (he : ∀ d ∈ e, isPlain d = true) (hread : ∀ rest, escaped (d :: e ++ rest) = some (c, rest)) :
    Escapes (d :: e) c := by
  refine ⟨hread, fun rest => ?_, List.forall_mem_cons.mpr ⟨hd.1, he⟩⟩
  simp [joinedLine, skipBlanks, hd.2, newline_of_isPlain hd.1]

theorem Escapes.one {d : Char} (hd : isPlain d = true ∧ isBlank d = false)
    (hread : ∀ rest, escaped (d :: rest) = some (c, rest)) : Escapes [d] c :=
  .cons hd (List.forall_mem_nil _) hread

theorem mapM_hexValue : ∀ n < 128,
    [upperHexDigit (n / 16), upperHexDigit (n % 16)].mapM hexValue = some [n / 16, n % 16] ∧
      [upperHexDigit (n / 16), upperHexDigit (n % 16)].all isPlain = true := by
  decide

theorem Escapes.coded (h : c.toNat < 128) :
    Escapes ['u', '0', '0', upperHexDigit (c.toNat / 16), upperHexDigit (c.toNat % 16)] c := by
  obtain ⟨hdigits, hplain⟩ := mapM_hexValue c.toNat h
  have hzero : isPlain '0' = true := by decide
  refine .cons ⟨by decide, by decide⟩ ?_ fun rest => ?_
  · refine List.forall_mem_cons.mpr ⟨hzero, List.forall_mem_cons.mpr ⟨hzero, ?_⟩⟩
    exact List.all_eq_true.mp hplain
  have hzeros (ds : List Char) : ('0' :: '0' :: ds).mapM hexValue =
      (ds.mapM hexValue).map fun ns => 0 :: 0 :: ns := by
    have hzero : hexValue '0' = some 0 := by decide
    cases hds : ds.mapM hexValue <;> simp [List.mapM_cons, hzero, hds]
  have hvalid : c.toNat.isValidChar := c.valid
  have hcode : 16 * (c.toNat / 16) + c.toNat % 16 = c.toNat := Nat.div_add_mod ..
  simp [escaped, codedChar, hzeros, hdigits, hcode, hvalid, Char.ofNat_toNat]

theorem isPlain_of_not_needsEscape (h : needsEscape c = false) (hn : c ≠ '\n') :
    isPlain c = true := by
  by_cases ht : c = '\t'
  · subst ht
    decide
  · simp only [needsEscape, Bool.or_eq_false_iff, Bool.and_eq_false_iff, bne_eq_false_iff_eq, ht,
      hn, or_false, decide_eq_false_iff_not, beq_eq_false_iff_ne] at h
    simp only [isPlain, Bool.or_eq_true, Bool.and_eq_true, bne_iff_ne, decide_eq_true_eq]
    exact .inr ⟨by omega, h.2⟩

theorem spelled_escape (isLong : Bool) (run : Nat) (s : List Char) :
    Spelled isLong '"' run s (escape isLong run s) := by
  induction s generalizing run with
  | nil => exact .nil
  | cons c s ih =>
    rw [escape]
    split
    · next hc =>
      subst hc
      by_cases hrun : run < if isLong then 2 else 0
      · rw [if_pos hrun]
        cases isLong with
        | true => exact .quote rfl hrun (ih _)
        | false => exact absurd hrun (Nat.not_lt_zero run)
      · rw [if_neg hrun]
        exact .escaped rfl (.one ⟨by decide, by decide⟩ fun _ => rfl) (ih 0)
    · next hc =>
      have hescaped (d : Char) (hd : isPlain d = true ∧ isBlank d = false)
          (hread : ∀ rest, escaped (d :: rest) = some (c, rest)) :
          Spelled isLong '"' run (c :: s) ('\\' :: d :: escape isLong 0 s) :=
        .escaped rfl (.one hd hread) (ih 0)
      split
      · next h =>
        exact hescaped 'b' ⟨by decide, by decide⟩ fun _ => by rw [Json.char_eq_ofNat h]; rfl
      split
      · next h => exact hescaped 't' ⟨by decide, by decide⟩ fun _ => by rw [h]; rfl
      split
      · next h =>
        subst h
        cases isLong with
        | true => exact .feed rfl (ih 0)
        | false => exact hescaped 'n' ⟨by decide, by decide⟩ fun _ => rfl
      split
      · next h =>
        exact hescaped 'f' ⟨by decide, by decide⟩ fun _ => by rw [Json.char_eq_ofNat h]; rfl
      split
      · next h => exact hescaped 'r' ⟨by decide, by decide⟩ fun _ => by rw [h]; rfl
      split
      · next h => exact hescaped '\\' ⟨by decide, by decide⟩ fun _ => by rw [h]; rfl
      split
      · next h =>
        have hcode : c.toNat < 128 := by
          simp [needsEscape] at h
          omega
        exact .escaped rfl (.coded hcode) (ih 0)
      · next h8 ht hn h12 hr hback h =>
        exact .plain (isPlain_of_not_needsEscape (Bool.eq_false_of_not_eq_true h) hn) hc
          (fun _ => hback) (ih 0)

/-- The longest run so far, and the run that the next character may go on with. -/
def countRun (q : Char) (state : Nat × Nat) (d : Char) : Nat × Nat :=
  if d = q then (max state.1 (state.2 + 1), state.2 + 1) else (state.1, 0)

theorem longestRun_eq (q : Char) (s : List Char) :
    longestRun q s = (s.foldl (countRun q) (0, 0)).1 := rfl

theorem le_foldl_countRun (q : Char) (s : List Char) (state : Nat × Nat) :
    state.1 ≤ (s.foldl (countRun q) state).1 := by
  induction s generalizing state with
  | nil => exact le_rfl
  | cons c s ih =>
    refine le_trans ?_ (ih _)
    rw [countRun]
    split
    · exact le_max_left ..
    · exact le_rfl

/-- A string that needs no escape spells itself between single quotes, as long as no more than two
of them are in a row. -/
theorem spelled_self (best : Nat) (hplain : ∀ c ∈ s, needsEscape c = false)
    (hlong : isLong = true ∨ '\n' ∉ s) (hquote : isLong = true ∨ '\'' ∉ s)
    (hrun : isLong = true → (s.foldl (countRun '\'') (best, run)).1 ≤ 2) :
    Spelled isLong '\'' run s s := by
  induction s generalizing best run with
  | nil => exact .nil
  | cons c s ih =>
    obtain ⟨hc, hs⟩ := List.forall_mem_cons.mp hplain
    have hlong' : isLong = true ∨ '\n' ∉ s := hlong.imp_right fun h hm => h (.tail c hm)
    have hquote' : isLong = true ∨ '\'' ∉ s := hquote.imp_right fun h hm => h (.tail c hm)
    rw [List.foldl_cons, countRun] at hrun
    by_cases hq : c = '\''
    · subst hq
      rw [if_pos rfl] at hrun
      have hmany : isLong = true := hquote.resolve_right fun h => h (.head s)
      have hlength : max best (run + 1) ≤ 2 := (le_foldl_countRun '\'' s _).trans (hrun hmany)
      exact .quote hmany (by omega) (ih _ hs hlong' hquote' hrun)
    · rw [if_neg hq] at hrun
      have hrest := ih _ hs hlong' hquote' hrun
      by_cases hn : c = '\n'
      · subst hn
        exact .feed (hlong.resolve_right fun h => h (.head s)) hrest
      · exact .plain (isPlain_of_not_needsEscape hc hn) hq (fun h => absurd h (by decide)) hrest

theorem string_of_ne (hc : c ≠ q) (hs : s ≠ []) :
    string (q :: c :: s) = shortString q (c :: s) := by
  obtain ⟨d, t, rfl⟩ := List.exists_cons_of_ne_nil hs
  rw [string, if_neg fun h => hc h.1.symm]

section
variable (hq : IsQuote q) (hrest : rest.head? ≠ some q)
include hq hrest

theorem string_of_short (h : Spelled false q 0 s w) :
    string (q :: (w ++ q :: rest)) = some (String.ofList s, rest) := by
  have hread : shortString q (w ++ q :: rest) = some (String.ofList s, rest) := by
    rcases hq with rfl | rfl
    · exact basicBody_spelled h (by simp)
    · exact literalBody_spelled h
  cases h with
  | nil =>
    cases rest with
    | nil => exact hread
    | cons c rest =>
      have hc : c ≠ q := by simpa using hrest
      rw [List.nil_append, string, if_neg fun h => hc h.2.symm]
      exact hread
  | quote hlong | feed hlong => cases hlong
  | plain hc hne => exact (string_of_ne hne (by simp)).trans hread
  | escaped => exact (string_of_ne hq.ne_backslash.symm (by simp)).trans hread

theorem string_of_long (h : Spelled true q 0 s w) (hs : s.head? ≠ some '\n') :
    string (q :: q :: q :: (w ++ q :: q :: q :: rest)) = some (String.ofList s, rest) := by
  have hstart : newline (w ++ q :: q :: q :: rest) = none := by
    cases h with
    | nil => exact newline_of_isPlain hq.isPlain _
    | quote => exact newline_of_isPlain hq.isPlain _
    | feed => simp at hs
    | plain hc => exact newline_of_isPlain hc _
    | escaped => exact newline_of_isPlain (by decide) _
  rw [string, if_pos ⟨rfl, rfl⟩, longString, hstart, Option.getD_none,
    longBody_spelled hq h (by simp) hrest]
  rfl

theorem string_of_long_feed (h : Spelled true q 0 s w) :
    string (q :: q :: q :: '\n' :: (w ++ q :: q :: q :: rest)) = some (String.ofList s, rest) := by
  rw [string, if_pos ⟨rfl, rfl⟩, longString, newline, Option.getD_some,
    longBody_spelled hq h (by simp; omega) hrest]
  rfl

end

theorem Spelled.plain_or_feed (hq : IsQuote q) (h : Spelled isLong q run s w) :
    ∀ c ∈ w, isPlain c = true ∨ (c = '\n' ∧ isLong = true ∧ '\n' ∈ s) := by
  have hcons {c d : Char} {s : List Char} (h : d = '\n' ∧ isLong = true ∧ '\n' ∈ s) :
      d = '\n' ∧ isLong = true ∧ '\n' ∈ c :: s := ⟨h.1, h.2.1, .tail c h.2.2⟩
  induction h with
  | nil => exact List.forall_mem_nil _
  | quote _ _ _ ih =>
    exact List.forall_mem_cons.mpr ⟨.inl hq.isPlain, fun d hd => (ih d hd).imp_right hcons⟩
  | feed hlong _ ih =>
    refine List.forall_mem_cons.mpr ⟨.inr ⟨rfl, hlong, .head _⟩, fun d hd => ?_⟩
    exact (ih d hd).imp_right hcons
  | plain hc _ _ _ ih =>
    exact List.forall_mem_cons.mpr ⟨.inl hc, fun d hd => (ih d hd).imp_right hcons⟩
  | escaped _ he _ ih =>
    refine List.forall_mem_cons.mpr ⟨.inl (by decide), List.forall_mem_append.mpr ⟨?_, ?_⟩⟩
    · exact fun d hd => .inl (he.plain d hd)
    · exact fun d hd => (ih d hd).imp_right hcons

/-- What the form of a string says of it. -/
theorem formOf_spec (s : List Char) :
    match formOf s with
    | .basic => '\n' ∉ s
    | .literal => (∀ c ∈ s, needsEscape c = false) ∧ '\'' ∉ s ∧ '\n' ∉ s
    | .longBasic => True
    | .longLiteral => (∀ c ∈ s, needsEscape c = false) ∧ longestRun '\'' s ≤ 2 := by
  rw [formOf]
  split_ifs <;> simp_all

/-- What a string is written as: on one line between single quotes, or between three, with a line
feed after the first three if it has one itself. -/
theorem stringText_spelled (text : String) :
    (∃ q w, IsQuote q ∧ Spelled false q 0 text.toList w ∧ '\n' ∉ text.toList ∧
      stringText text = q :: (w ++ [q])) ∨
    ∃ q w, IsQuote q ∧ Spelled true q 0 text.toList w ∧
      stringText text = q :: q :: q :: ((if '\n' ∈ text.toList then ['\n'] else []) ++
        (w ++ [q, q, q])) := by
  have hspec := formOf_spec text.toList
  simp only [stringText, List.contains_iff_mem]
  cases hform : formOf text.toList with
  | basic =>
    rw [hform] at hspec
    exact .inl ⟨'"', _, .inl rfl, spelled_escape false 0 _, hspec, rfl⟩
  | literal =>
    rw [hform] at hspec
    obtain ⟨hplain, hquote, hline⟩ := hspec
    have hself : Spelled false '\'' 0 text.toList text.toList :=
      spelled_self 0 hplain (.inr hline) (.inr hquote) nofun
    exact .inl ⟨'\'', _, .inr rfl, hself, hline, rfl⟩
  | longBasic => exact .inr ⟨'"', _, .inl rfl, spelled_escape true 0 _, by simp⟩
  | longLiteral =>
    rw [hform] at hspec
    obtain ⟨hplain, hrun⟩ := hspec
    rw [longestRun_eq] at hrun
    have hself := spelled_self 0 hplain (.inl rfl) (.inl rfl) fun _ => hrun
    exact .inr ⟨'\'', _, .inr rfl, hself, by simp⟩

section
variable {text : String}

theorem stringText_start (text : String) : ∃ q w, IsQuote q ∧ stringText text = q :: w := by
  rcases stringText_spelled text with ⟨q, w, hq, -, -, h⟩ | ⟨q, w, hq, -, h⟩
  · exact ⟨q, _, hq, h⟩
  · exact ⟨q, _, hq, h⟩

theorem plain_stringText (text : String) :
    ∀ c ∈ stringText text, isPlain c = true ∨ (c = '\n' ∧ '\n' ∈ text.toList) := by
  have hspelled {isLong : Bool} {q : Char} {w : List Char} (hq : IsQuote q)
      (h : Spelled isLong q 0 text.toList w) :
      ∀ c ∈ w, isPlain c = true ∨ (c = '\n' ∧ '\n' ∈ text.toList) :=
    fun c hc => (h.plain_or_feed hq c hc).imp_right fun hfeed => ⟨hfeed.1, hfeed.2.2⟩
  rcases stringText_spelled text with ⟨q, w, hq, h, -, htext⟩ | ⟨q, w, hq, h, htext⟩
  · simpa [htext, or_imp, forall_and, hq.isPlain] using hspelled hq h
  · by_cases hline : '\n' ∈ text.toList <;>
      simpa [htext, hline, or_imp, forall_and, hq.isPlain] using hspelled hq h

theorem string_stringText (hrest : ∀ q, IsQuote q → rest.head? ≠ some q) :
    string (stringText text ++ rest) = some (text, rest) := by
  rcases stringText_spelled text with ⟨q, w, hq, h, -, htext⟩ | ⟨q, w, hq, h, htext⟩
  · have hread := string_of_short hq (hrest q hq) h
    rw [String.ofList_toList] at hread
    rw [htext, ← hread]
    simp
  · by_cases hline : '\n' ∈ text.toList
    · have hread := string_of_long_feed hq (hrest q hq) h
      rw [String.ofList_toList] at hread
      rw [htext, if_pos hline, ← hread]
      simp
    · have hstart : text.toList.head? ≠ some '\n' := fun h => hline (List.mem_of_mem_head? h)
      have hread := string_of_long hq (hrest q hq) h hstart
      rw [String.ofList_toList] at hread
      rw [htext, if_neg hline, ← hread]
      simp

end

end

end Credentials.Toml
