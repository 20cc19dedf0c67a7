import Credentials.Proofs.Calendar
import Credentials.Proofs.DecimalDigits

/-! What a time reads as once it has been written. The text of a time of the years 0 to 9999 reads as
that time cut down to a microsecond; a text with a longer or a negative year does not read at all.
`ofText_text_iff` says both of every time, also of those whose nanoseconds run past a leap second. -/

namespace Credentials.Time

theorem bind_number {α : Type} {width n : Nat} (hw : 0 < width) (h : n < 10 ^ width)
    (rest : List Char) (f : Nat × List Char → Option α) :
    (number width width (padded width n ++ rest) >>= f) = f (n, rest) := by
  rw [number_padded hw h]
  rfl

theorem bind_literal {α : Type} (c : Char) (s : List Char) (f : List Char → Option α) :
    (literal c (c :: s) >>= f) = f s := by
  rw [literal, if_pos rfl]
  rfl

theorem fraction_digit {c : Char} (hc : c.isDigit = true) (s : List Char) :
    fraction (c :: s) = some (0, c :: s) := by
  unfold fraction
  split
  · next he =>
    rw [(List.cons.inj he).1] at hc
    cases hc
  · rfl

theorem offset_digit {c : Char} (hc : c.isDigit = true) (colon : List Char → Option (List Char))
    (s : List Char) : offset colon (c :: s) = none := by
  have hne : ∀ x : Char, x.isDigit = false → c ≠ x := by
    rintro x hx rfl
    rw [hc] at hx
    cases hx
  have hminus : c.toNat ≠ 0x2212 := by
    simp only [Char.isDigit, Bool.and_eq_true, decide_eq_true_eq] at hc
    have hle := UInt32.le_iff_toNat_le.mp hc.2
    change c.toNat ≤ 57 at hle
    omega
  unfold offset
  split
  · next he => exact absurd (List.cons.inj he).1 (hne 'Z' rfl)
  · next he => exact absurd (List.cons.inj he).1 (hne 'z' rfl)
  · simp [offsetSign, hne '+' rfl, hne '-' rfl, hminus]

namespace Instant

/-- The second that the text of a time shows. -/
def shownSecond (t : Instant) : Nat := t.secondOfDay % 60 + t.nanos / 1000000000

def IsReadable (t : Instant) : Prop :=
  0 ≤ t.date.year ∧ t.date.year ≤ 9999 ∧ t.shownSecond ≤ 60

instance (t : Instant) : Decidable t.IsReadable := inferInstanceAs (Decidable (_ ∧ _ ∧ _))

/-- The time that the text of a time denotes: a shown second of 60 is the leap second after 59. -/
def reread (t : Instant) : Instant where
  seconds := t.seconds - (t.secondOfDay % 60 : Nat) + (min t.shownSecond 59 : Nat)
  nanos := t.nanos % 1000000000 / 1000 * 1000 +
    (t.shownSecond - min t.shownSecond 59) * 1000000000

theorem secondOfDay_cast (t : Instant) : (t.secondOfDay : Int) = t.seconds % 86400 :=
  Int.toNat_of_nonneg (by omega)

theorem date_isValid (t : Instant) : t.date.isValid = true := ofDays_isValid _

theorem date_toDays (t : Instant) : t.date.toDays = t.seconds / 86400 := toDays_ofDays _

def reading (t : Instant) : Reading where
  year := t.date.year
  month := t.date.month
  day := t.date.day
  hour := t.secondOfDay / 3600
  minute := t.secondOfDay / 60 % 60
  second := t.shownSecond
  nanos := t.nanos % 1000000000 / 1000 * 1000

/-- Up to the minute there is one way to read the text of a time. -/
theorem strict_text_eq {t : Instant} (h0 : 0 ≤ t.date.year) (h9 : t.date.year ≤ 9999) :
    strict? t.text =
      (number 2 2 (padded 2 t.shownSecond ++ '.' :: (padded 6 (t.nanos % 1000000000 / 1000) ++ ['Z']))).bind
        fun (second, s) => (fraction s).bind fun (nanos, s) =>
          (offset (literal ':') s).bind fun (ahead, s) =>
            if s.isEmpty ∧ ahead.natAbs < 86400 then
              Reading.toInstant? { t.reading with second := second, nanos := nanos } ahead
            else none := by
  obtain ⟨hm, hm', hd, hd'⟩ := Date.isValid_iff.mp t.date_isValid
  have hdle := monthLengths_getD_le t.date.year (t.date.month - 1)
  have hday := t.secondOfDay_cast
  have hy : yearText t.date.year = padded 4 t.date.year.toNat := by simp [yearText, h0, h9]
  have hyn : ((t.date.year.toNat : Nat) : Int) = t.date.year := Int.toNat_of_nonneg h0
  simp only [strict?, text, dateTimeText, dateText, clockText, hy, List.append_assoc,
    List.cons_append]
  refine (bind_number (by decide) (by omega) _ _).trans ?_
  refine (bind_literal _ _ _).trans ?_
  refine (bind_number (by decide) (by omega) _ _).trans ?_
  refine (bind_literal _ _ _).trans ?_
  refine (bind_number (by decide) (by omega) _ _).trans ?_
  refine (Option.bind_some ..).trans ?_
  refine (bind_number (by decide) (by omega) _ _).trans ?_
  refine (bind_literal _ _ _).trans ?_
  refine (bind_number (by decide) (by omega) _ _).trans ?_
  refine (bind_literal _ _ _).trans ?_
  rw [hyn]
  rfl

theorem strict_text {t : Instant} (h0 : 0 ≤ t.date.year) (h9 : t.date.year ≤ 9999)
    (hs : t.shownSecond < 100) : strict? t.text = t.reading.toInstant? 0 := by
  have hf := fraction_padded (n := t.nanos % 1000000000 / 1000) (by omega) ['Z'] (by simp)
  rw [strict_text_eq h0 h9, number_padded (by decide) (by omega)]
  simp only [Option.bind_some, hf, offset]
  rfl

/-- A second of three digits leaves a digit where the decimals or the zone should be. -/
theorem strict_text_none {t : Instant} (h0 : 0 ≤ t.date.year) (h9 : t.date.year ≤ 9999)
    (hs : 100 ≤ t.shownSecond) : strict? t.text = none := by
  obtain ⟨a, b, c, more, hp⟩ : ∃ a b c more, padded 2 t.shownSecond = a :: b :: c :: more := by
    have hlen : 2 < (padded 2 t.shownSecond).length := by
      rw [padded, List.length_append, ← not_le]
      intro hle
      have := (Nat.length_toDigits_le_iff (b := 10) (k := 2) (n := t.shownSecond) (by decide)
        (by decide)).mp (by omega)
      omega
    rcases hp : padded 2 t.shownSecond with _ | ⟨a, _ | ⟨b, _ | ⟨c, more⟩⟩⟩
    · simp [hp] at hlen
    · simp [hp] at hlen
    · simp [hp] at hlen
    · exact ⟨a, b, c, more, rfl⟩
  have hall : ∀ x ∈ [a, b, c], x.isDigit = true := by
    intro x hx
    have hmem : x ∈ padded 2 t.shownSecond := by
      rw [hp]
      exact List.mem_append_left more hx
    exact isDigit_of_mem_padded hmem
  have ha := hall a (by simp)
  have hb := hall b (by simp)
  have hc := hall c (by simp)
  rw [strict_text_eq h0 h9, hp]
  simp [number, ha, hb, fraction_digit hc, offset_digit hc]

theorem seconds_bounds {t : Instant} (h0 : 0 ≤ t.date.year) (h9 : t.date.year ≤ 9999) :
    -62200000000 ≤ t.seconds ∧ t.seconds ≤ 253500000000 := by
  obtain ⟨hlo, hhi⟩ := Date.toDays_bounds t.date_isValid
  rw [date_toDays] at hlo hhi
  have hy : -366 ≤ daysBeforeYear t.date.year ∧ daysBeforeYear t.date.year ≤ 3652000 := by
    simp only [daysBeforeYear]
    omega
  unfold epoch at hlo hhi
  omega

theorem reading_toInstant {t : Instant} (h : t.IsReadable) :
    t.reading.toInstant? 0 = some t.reread := by
  obtain ⟨h0, h9, hs⟩ := h
  obtain ⟨hlo, hhi⟩ := seconds_bounds h0 h9
  have hday := t.secondOfDay_cast
  have hvalid : (⟨t.date.year, t.date.month, t.date.day⟩ : Date).isValid = true := t.date_isValid
  have hdays : (⟨t.date.year, t.date.month, t.date.day⟩ : Date).toDays = t.seconds / 86400 :=
    t.date_toDays
  have wall : t.seconds / 86400 * 86400 +
      ((t.secondOfDay / 3600 * 3600 + t.secondOfDay / 60 % 60 * 60 + min t.shownSecond 59 : Nat) : Int) -
        0 = t.seconds - (t.secondOfDay % 60 : Nat) + (min t.shownSecond 59 : Nat) := by
    omega
  have rep : t.reread.isRepresentable = true := by
    simp only [isRepresentable, reread, Bool.and_eq_true]
    have lo : first.seconds = -8334601228800 := rfl
    have hi : last.seconds = 8210266876799 := rfl
    exact ⟨decide_eq_true (by omega), decide_eq_true (by omega)⟩
  simp only [Reading.toInstant?, reading, hvalid, hdays, wall]
  rw [if_pos ⟨trivial, by omega, by omega, by omega, by omega, hs⟩]
  exact if_pos rep

theorem reading_toInstant_none {t : Instant} (h : 60 < t.shownSecond) :
    t.reading.toInstant? 0 = none := by
  simp only [Reading.toInstant?, reading]
  exact if_neg fun hc => absurd hc.2.2.2.2.2 (by omega)

theorem strict_text_year {t : Instant} (h : ¬ (0 ≤ t.date.year ∧ t.date.year ≤ 9999)) :
    strict? t.text = none := by
  obtain ⟨sign, hs, hy⟩ : ∃ sign : Char, sign.isDigit = false ∧
      yearText t.date.year = sign :: padded 4 t.date.year.natAbs := by
    rw [yearText, if_neg h]
    split
    · exact ⟨'-', rfl, rfl⟩
    · exact ⟨'+', rfl, rfl⟩
  have hn : ∀ rest, number 4 4 (sign :: rest) = none := fun rest => by simp [number, hs]
  simp only [strict?, text, dateTimeText, dateText, hy, List.cons_append, hn]
  rfl

end Instant

/-- A reader that leaves `rest` of `s` has taken no `Z`. -/
def Spares (s rest : List Char) : Prop := ∃ taken, s = taken ++ rest ∧ 'Z' ∉ taken

theorem Spares.refl (s : List Char) : Spares s s := ⟨[], rfl, by simp⟩

theorem Spares.trans {a b c : List Char} (h : Spares a b) (h' : Spares b c) : Spares a c := by
  obtain ⟨u, rfl, hu⟩ := h
  obtain ⟨v, rfl, hv⟩ := h'
  exact ⟨u ++ v, by simp, by simp [hu, hv]⟩

theorem Spares.not_mem {s : List Char} (h : Spares s []) : 'Z' ∉ s := by
  obtain ⟨taken, rfl, ht⟩ := h
  simpa using ht

theorem spares_digits {digits s : List Char} (h : digits <+: s)
    (hd : ∀ c ∈ digits, c.isDigit = true) : Spares s (s.drop digits.length) :=
  ⟨digits, (List.prefix_append_drop h), fun hz => absurd (hd _ hz) (by decide)⟩

theorem isDigit_of_mem_takeWhile {s : List Char} : ∀ c ∈ s.takeWhile Char.isDigit, c.isDigit = true :=
  List.all_eq_true.mp List.all_takeWhile

theorem spares_number {least most n : Nat} {s rest : List Char}
    (h : number least most s = some (n, rest)) : Spares s rest := by
  simp only [number] at h
  split at h
  · cases h
  · cases h
    exact spares_digits ((List.takeWhile_prefix _).trans (List.take_prefix ..)) isDigit_of_mem_takeWhile

theorem spares_longNumber {n : Nat} {s rest : List Char} (h : longNumber s = some (n, rest)) :
    Spares s rest := by
  simp only [longNumber] at h
  split at h
  · cases h
  · cases h
    exact spares_digits (List.takeWhile_prefix _) isDigit_of_mem_takeWhile

theorem spares_fraction {n : Nat} {s rest : List Char} (h : fraction s = some (n, rest)) :
    Spares s rest := by
  unfold fraction at h
  split at h
  · next t =>
    simp only at h
    split at h
    · cases h
    · cases h
      exact Spares.trans ⟨['.'], rfl, by simp⟩
        (spares_digits (List.takeWhile_prefix _) isDigit_of_mem_takeWhile)
  · cases h
    exact Spares.refl _

theorem spares_literal {c : Char} {s rest : List Char} (hc : c ≠ 'Z') (h : literal c s = some rest) :
    Spares s rest := by
  unfold literal at h
  split at h
  · split at h
    · next d t he =>
      cases h
      exact ⟨[d], rfl, by simpa [← he] using hc.symm⟩
    · cases h
  · cases h

theorem spares_trimStart (s : List Char) : Spares s (Text.trimStart s) :=
  ⟨s.takeWhile Text.isBlank, (List.takeWhile_append_dropWhile ..).symm,
    fun hz => absurd (List.all_eq_true.mp List.all_takeWhile _ hz) (by decide)⟩

theorem spares_looseNumber {n : Nat} {s rest : List Char} (h : looseNumber s = some (n, rest)) :
    Spares s rest :=
  (spares_trimStart s).trans (spares_number h)

theorem spares_looseYear {y : Int} {s rest : List Char} (h : looseYear s = some (y, rest)) :
    Spares s rest := by
  refine (spares_trimStart s).trans ?_
  unfold looseYear at h
  split at h
  · next t he =>
    obtain ⟨⟨n, u⟩, hn, hu⟩ := Option.bind_eq_some_iff.mp h
    cases hu
    exact he ▸ Spares.trans ⟨['-'], rfl, by simp⟩ (spares_longNumber hn)
  · next t he =>
    obtain ⟨⟨n, u⟩, hn, hu⟩ := Option.bind_eq_some_iff.mp h
    cases hu
    exact he ▸ Spares.trans ⟨['+'], rfl, by simp⟩ (spares_longNumber hn)
  · obtain ⟨⟨n, u⟩, hn, hu⟩ := Option.bind_eq_some_iff.mp h
    cases hu
    exact spares_number hn

theorem spares_looseDate {d : Int × Nat × Nat} {s rest : List Char}
    (h : looseDate id s = some (d, rest)) : Spares s rest := by
  obtain ⟨⟨_, s₁⟩, h₁, h⟩ := Option.bind_eq_some_iff.mp h
  obtain ⟨s₂, h₂, h⟩ := Option.bind_eq_some_iff.mp h
  obtain ⟨⟨_, s₃⟩, h₃, h⟩ := Option.bind_eq_some_iff.mp h
  obtain ⟨s₄, h₄, h⟩ := Option.bind_eq_some_iff.mp h
  obtain ⟨⟨_, s₅⟩, h₅, h⟩ := Option.bind_eq_some_iff.mp h
  cases h
  exact (spares_looseYear h₁).trans <| (spares_literal (by decide) h₂).trans <|
    (spares_looseNumber h₃).trans <| (spares_literal (by decide) h₄).trans (spares_looseNumber h₅)

theorem spares_looseClock {c : Nat × Nat × Nat × Nat} {s rest : List Char}
    (h : looseClock id s = some (c, rest)) : Spares s rest := by
  obtain ⟨⟨_, s₁⟩, h₁, h⟩ := Option.bind_eq_some_iff.mp h
  obtain ⟨s₂, h₂, h⟩ := Option.bind_eq_some_iff.mp h
  obtain ⟨⟨_, s₃⟩, h₃, h⟩ := Option.bind_eq_some_iff.mp h
  obtain ⟨s₄, h₄, h⟩ := Option.bind_eq_some_iff.mp h
  obtain ⟨⟨_, s₅⟩, h₅, h⟩ := Option.bind_eq_some_iff.mp h
  obtain ⟨⟨_, s₆⟩, h₆, h⟩ := Option.bind_eq_some_iff.mp h
  cases h
  exact (spares_looseNumber h₁).trans <| (spares_literal (by decide) h₂).trans <|
    (spares_looseNumber h₃).trans <| (spares_literal (by decide) h₄).trans <|
      (spares_looseNumber h₅).trans (spares_fraction h₆)

/-- A time without a zone has no `Z` in it. -/
theorem naive_none (join : List Char → Option (List Char)) {s : List Char}
    (hj : ∀ s rest, join s = some rest → Spares s rest) (hz : 'Z' ∈ s) : naive? join s = none := by
  cases hn : naive? join s with
  | none => rfl
  | some t =>
    obtain ⟨⟨_, s₁⟩, h₁, h⟩ := Option.bind_eq_some_iff.mp hn
    obtain ⟨s₂, h₂, h⟩ := Option.bind_eq_some_iff.mp h
    obtain ⟨⟨_, s₃⟩, h₃, h⟩ := Option.bind_eq_some_iff.mp h
    simp only at h
    split at h
    · next he =>
      have := (spares_looseDate h₁).trans ((hj _ _ h₂).trans (spares_looseClock h₃))
      rw [List.isEmpty_iff.mp he] at this
      exact absurd hz this.not_mem
    · cases h

namespace Instant

theorem ofText_text_eq_strict (t : Instant) : ofText? t.text = strict? t.text := by
  have hz : 'Z' ∈ t.text := by simp [text]
  have hT := naive_none (literal 'T') (fun _ _ h => spares_literal (by decide) h) hz
  have hs := naive_none (some ∘ Text.trimStart)
    (fun s rest h => Option.some.inj h ▸ spares_trimStart s) hz
  rw [ofText?, hT, hs]
  cases strict? t.text <;> rfl

theorem ofText_text {t : Instant} (h : t.IsReadable) : ofText? t.text = some t.reread := by
  obtain ⟨h0, h9, hs⟩ := h
  rw [ofText_text_eq_strict, strict_text h0 h9 (by omega), reading_toInstant ⟨h0, h9, hs⟩]

theorem ofText_text_none {t : Instant} (h : ¬ t.IsReadable) : ofText? t.text = none := by
  rw [ofText_text_eq_strict]
  by_cases hy : 0 ≤ t.date.year ∧ t.date.year ≤ 9999
  · have hs : 60 < t.shownSecond := not_le.mp fun hs => h ⟨hy.1, hy.2, hs⟩
    rcases Nat.lt_or_ge t.shownSecond 100 with hlt | hge
    · rw [strict_text hy.1 hy.2 hlt, reading_toInstant_none hs]
    · exact strict_text_none hy.1 hy.2 hge
  · exact strict_text_year hy

theorem ofText_text_iff {t u : Instant} :
    ofText? t.text = some u ↔ t.IsReadable ∧ u = t.reread := by
  by_cases h : t.IsReadable
  · simp [ofText_text h, h, eq_comm]
  · simp [ofText_text_none h, h]

theorem reread_secondOfDay (t : Instant) (h : t.IsReadable) :
    t.reread.secondOfDay % 60 = min t.shownSecond 59 := by
  have hday := t.secondOfDay_cast
  have hday' := t.reread.secondOfDay_cast
  have hs : t.shownSecond ≤ 60 := h.2.2
  have hsec : t.reread.seconds =
      t.seconds - (t.secondOfDay % 60 : Nat) + (min t.shownSecond 59 : Nat) := rfl
  omega

theorem reread_shownSecond (t : Instant) (h : t.IsReadable) :
    t.reread.shownSecond = t.shownSecond := by
  have hmod := t.reread_secondOfDay h
  have hshown : t.reread.shownSecond = t.reread.secondOfDay % 60 + t.reread.nanos / 1000000000 := rfl
  have hnanos : t.reread.nanos = t.nanos % 1000000000 / 1000 * 1000 +
      (t.shownSecond - min t.shownSecond 59) * 1000000000 := rfl
  omega

/-- A time that was read from its text is read back as itself ever after. -/
theorem reread_reread {t : Instant} (h : t.IsReadable) : t.reread.reread = t.reread := by
  have hmod := t.reread_secondOfDay h
  have hshown := t.reread_shownSecond h
  have hseconds : t.reread.reread.seconds = t.reread.seconds := by
    have hs : t.reread.reread.seconds = t.reread.seconds - (t.reread.secondOfDay % 60 : Nat) +
        (min t.reread.shownSecond 59 : Nat) := rfl
    rw [hs, hmod, hshown]
    omega
  have hnanos : t.reread.reread.nanos = t.reread.nanos := by
    have hn : t.reread.reread.nanos = t.reread.nanos % 1000000000 / 1000 * 1000 +
        (t.reread.shownSecond - min t.reread.shownSecond 59) * 1000000000 := rfl
    have hn' : t.reread.nanos = t.nanos % 1000000000 / 1000 * 1000 +
        (t.shownSecond - min t.shownSecond 59) * 1000000000 := rfl
    rw [hn, hshown]
    omega
  exact congrArg₂ Instant.mk hseconds hnanos

end Instant

end Credentials.Time
