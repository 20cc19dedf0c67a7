import Credentials.Document.Json
import Credentials.Proofs.CalendarDays
import Credentials.Proofs.TimeText

/-! The spellings of a time that documents may hold: with `T` or a space, with any number of decimals,
without a zone, with `Z` or with an offset. All of them denote the instant that the calendar gives, and
where there is no such date or time of day none of them is read. -/

namespace Credentials.Time

open Text (decimal)

structure Digits (width : Nat) where
  chars : List Char
  length_eq : chars.length = width
  isDigit : ∀ c ∈ chars, c.isDigit = true

namespace Digits

variable {width : Nat} (d : Digits width)

def value : Nat := decimal d.chars

theorem exists_cons (h : 0 < width) : ∃ c t, d.chars = c :: t ∧ c.isDigit = true := by
  obtain ⟨c, t, hc⟩ := List.exists_cons_of_length_pos (d.length_eq ▸ h)
  exact ⟨c, t, hc, d.isDigit c (by simp [hc])⟩

theorem number_append {least : Nat} (h : least ≤ width) (rest : List Char) :
    number least width (d.chars ++ rest) = some (d.value, rest) :=
  number_digits d.length_eq h d.isDigit rest

theorem bind_number {α : Type} (rest : List Char) (f : Nat × List Char → Option α) :
    (number width width (d.chars ++ rest) >>= f) = f (d.value, rest) := by
  rw [d.number_append le_rfl]
  rfl

theorem trimStart_append (h : 0 < width) (rest : List Char) :
    Text.trimStart (d.chars ++ rest) = d.chars ++ rest := by
  obtain ⟨c, t, hc, hd⟩ := d.exists_cons h
  rw [hc, List.cons_append, Text.trimStart, List.dropWhile_cons_of_neg]
  simp [Text.isBlank_of_isDigit hd]

theorem looseNumber_append (d : Digits 2) (rest : List Char) :
    looseNumber (d.chars ++ rest) = some (d.value, rest) := by
  rw [looseNumber, d.trimStart_append (by decide), d.number_append (by decide)]

theorem looseYear_append (d : Digits 4) (rest : List Char) :
    looseYear (d.chars ++ rest) = some ((d.value : Int), rest) := by
  obtain ⟨c, t, hc, hd⟩ := d.exists_cons (by decide)
  have hne : ∀ x : Char, x.isDigit = false → ∀ u v : List Char, c :: u = x :: v → False := by
    rintro x hx u v he
    rw [(List.cons.inj he).1, hx] at hd
    cases hd
  rw [looseYear, d.trimStart_append (by decide)]
  split
  · next he =>
    rw [hc] at he
    exact absurd he (hne '-' rfl _ _)
  · next he =>
    rw [hc] at he
    exact absurd he (hne '+' rfl _ _)
  · rw [d.number_append (by decide)]
    rfl

end Digits

/-- A date and a time of day in digits, joined by `T` or a space. Where there are no decimals there is
no point. -/
structure Spelling where
  year : Digits 4
  month : Digits 2
  day : Digits 2
  joint : Char
  hour : Digits 2
  minute : Digits 2
  second : Digits 2
  decimals : List Char
  joint_eq : joint = 'T' ∨ joint = ' '
  decimals_isDigit : ∀ c ∈ decimals, c.isDigit = true

/-- A distance from UTC in hours and minutes. A minus may be a hyphen or the minus of mathematics. -/
structure Zone where
  sign : Char
  hours : Digits 2
  minutes : Digits 2
  sign_eq : sign = '+' ∨ sign = '-' ∨ sign = '\u2212'
  hours_le : hours.value ≤ 23
  minutes_le : minutes.value ≤ 59

def Zone.text (z : Zone) : List Char := z.sign :: (z.hours.chars ++ ':' :: z.minutes.chars)

def Zone.ahead (z : Zone) : Int :=
  let seconds : Int := z.hours.value * 3600 + z.minutes.value * 60
  if z.sign = '+' then seconds else -seconds

namespace Spelling

variable (s : Spelling)

def fractionText : List Char := if s.decimals = [] then [] else '.' :: s.decimals

def dateText : List Char := s.year.chars ++ '-' :: (s.month.chars ++ '-' :: s.day.chars)

def clockText : List Char :=
  s.hour.chars ++ ':' :: (s.minute.chars ++ ':' :: (s.second.chars ++ s.fractionText))

def text : List Char := s.dateText ++ s.joint :: s.clockText

def date : Date := ⟨s.year.value, s.month.value, s.day.value⟩

/-- The decimals as billionths, the rest cut off. -/
def nanos : Nat := decimal s.decimals * 1000000000 / 10 ^ s.decimals.length

def Exists : Prop :=
  s.date.isValid = true ∧ s.hour.value ≤ 23 ∧ s.minute.value ≤ 59 ∧ s.second.value ≤ 60

instance : Decidable s.Exists := inferInstanceAs (Decidable (_ ∧ _ ∧ _ ∧ _))

/-- The instant that is spelled, on a day of this number. Second 60 is a billion nanoseconds more in
second 59. -/
def instantOn (days : Int) : Instant :=
  if s.second.value = 60 then
    ⟨days * 86400 + (s.hour.value * 3600 + s.minute.value * 60 + 59), s.nanos + 1000000000⟩
  else
    ⟨days * 86400 + (s.hour.value * 3600 + s.minute.value * 60 + s.second.value), s.nanos⟩

def reading : Reading where
  year := s.year.value
  month := s.month.value
  day := s.day.value
  hour := s.hour.value
  minute := s.minute.value
  second := s.second.value
  nanos := s.nanos

theorem nanos_eq : decimal ((s.decimals ++ List.replicate 9 '0').take 9) = s.nanos := by
  rw [nanos]
  rcases Nat.le_total s.decimals.length 9 with h | h
  · obtain ⟨k, hk⟩ := Nat.exists_eq_add_of_le h
    rw [List.take_append, List.take_of_length_le h, List.take_replicate, Text.decimal_append_zeros,
      show 1000000000 = 10 ^ 9 from rfl, hk, pow_add, ← Nat.mul_assoc, Nat.mul_right_comm,
      Nat.mul_div_cancel _ (Nat.pow_pos (by decide))]
    congr 2
    omega
  · -- what is cut off is less than one in the ninth place
    obtain ⟨a, b, hab, ha⟩ : ∃ a b, s.decimals = a ++ b ∧ a.length = 9 :=
      ⟨s.decimals.take 9, s.decimals.drop 9, (List.take_append_drop ..).symm, by simpa using h⟩
    have hb : decimal b < 10 ^ b.length :=
      Text.decimal_lt fun c hc => s.decimals_isDigit c (by simp [hab, hc])
    rw [hab, List.append_assoc, List.take_left' ha, List.length_append, ha, pow_add,
      Nat.mul_comm (10 ^ 9), Text.decimal_append]
    rw [show (1000000000 : Nat) = 10 ^ 9 from rfl, Nat.mul_div_mul_right _ _ (Nat.pow_pos (by decide)),
      Nat.add_comm, Nat.add_mul_div_right _ _ (Nat.pow_pos (by decide)), Nat.div_eq_of_lt hb,
      Nat.zero_add]

/-- What may follow the time of day: nothing that goes on with it. -/
def Closes (zone : List Char) : Prop := ∀ c ∈ zone.head?, c.isDigit = false ∧ c ≠ '.'

theorem fraction_append {zone : List Char} (hz : Closes zone) :
    fraction (s.fractionText ++ zone) = some (s.nanos, zone) := by
  by_cases h : s.decimals = []
  · have hnanos : s.nanos = 0 := by simp [nanos, h, decimal]
    rw [fractionText, if_pos h, List.nil_append, hnanos]
    unfold fraction
    split
    · exact absurd rfl (hz '.' (by simp)).2
    · rfl
  · have hne : s.decimals.isEmpty = false := by simpa using h
    rw [fractionText, if_neg h, List.cons_append, fraction]
    simp only [Text.takeWhile_digits_append s.decimals_isDigit fun c hc => (hz c hc).1, hne,
      Bool.false_eq_true, if_false, s.nanos_eq, List.drop_left]

theorem strict_append {zone : List Char} (hz : Closes zone) :
    strict? (s.text ++ zone) = (offset (literal ':') zone).bind fun (ahead, rest) =>
      if rest.isEmpty ∧ ahead.natAbs < 86400 then s.reading.toInstant? ahead else none := by
  have hjoint : ∀ t, ((literal 'T' (s.joint :: t)).orElse fun _ =>
      (literal 't' (s.joint :: t)).orElse fun _ => literal ' ' (s.joint :: t)) = some t := by
    intro t
    rcases s.joint_eq with hj | hj <;> rw [hj] <;> rfl
  simp only [strict?, text, dateText, clockText, List.append_assoc, List.cons_append]
  refine (s.year.bind_number _ _).trans ?_
  refine (bind_literal _ _ _).trans ?_
  refine (s.month.bind_number _ _).trans ?_
  refine (bind_literal _ _ _).trans ?_
  refine (s.day.bind_number _ _).trans ?_
  rw [hjoint]
  refine (Option.bind_some ..).trans ?_
  refine (s.hour.bind_number _ _).trans ?_
  refine (bind_literal _ _ _).trans ?_
  refine (s.minute.bind_number _ _).trans ?_
  refine (bind_literal _ _ _).trans ?_
  refine (s.second.bind_number _ _).trans ?_
  rw [s.fraction_append hz]
  rfl

theorem looseDate_append (rest : List Char) :
    looseDate id (s.dateText ++ rest) =
      some (((s.year.value : Int), s.month.value, s.day.value), rest) := by
  simp only [dateText, List.append_assoc, List.cons_append, looseDate, Digits.looseYear_append,
    Digits.looseNumber_append, literal, id, if_true, Option.bind_eq_bind, Option.bind_some]

theorem looseClock_append {zone : List Char} (hz : Closes zone) :
    looseClock id (s.clockText ++ zone) =
      some ((s.hour.value, s.minute.value, s.second.value, s.nanos), zone) := by
  simp only [clockText, List.append_assoc, List.cons_append, looseClock, Digits.looseNumber_append,
    literal, id, if_true, s.fraction_append hz, Option.bind_eq_bind, Option.bind_some]

theorem naive_append (join : List Char → Option (List Char)) (zone : List Char) :
    naive? join (s.text ++ zone) =
      (join (s.joint :: (s.clockText ++ zone))).bind fun rest => (looseClock id rest).bind
        fun ((hour, minute, second, nanos), rest) =>
          if rest.isEmpty then Reading.toInstant? ⟨s.year.value, s.month.value, s.day.value, hour,
            minute, second, nanos⟩ 0 else none := by
  rw [text, List.append_assoc, List.cons_append, naive?, s.looseDate_append]
  rfl

theorem orElse_none {α : Type} (o : Option α) : (o.orElse fun _ => none) = o := by
  cases o <;> rfl

/-- Without a zone a time is read at its joint by one of the lenient forms and not by the other; with
one by neither. -/
theorem naive_orElse {zone : List Char} (hz : Closes zone) :
    ((naive? (literal 'T') (s.text ++ zone)).orElse fun _ =>
      naive? (some ∘ Text.trimStart) (s.text ++ zone)) =
        if zone.isEmpty then s.reading.toInstant? 0 else none := by
  have hclock : s.clockText ++ zone = s.hour.chars ++ (':' :: (s.minute.chars ++ ':' ::
      (s.second.chars ++ s.fractionText)) ++ zone) := by
    simp only [clockText, List.append_assoc, List.cons_append]
  rw [naive_append, naive_append]
  rcases s.joint_eq with hj | hj
  · have hblank : looseClock id (Text.trimStart ('T' :: (s.clockText ++ zone))) = none := rfl
    simp only [hj, literal, if_true, Function.comp_apply, Option.bind_some, hblank, Option.bind_none,
      s.looseClock_append hz]
    exact orElse_none _
  · have htrim : Text.trimStart (' ' :: (s.clockText ++ zone)) = s.clockText ++ zone := by
      rw [hclock]
      exact s.hour.trimStart_append (by decide) _
    have hT : literal 'T' (' ' :: (s.clockText ++ zone)) = none := rfl
    simp only [hj, hT, Option.bind_none, Function.comp_apply, Option.bind_some, htrim,
      s.looseClock_append hz]
    rfl

theorem ofText_eq : Instant.ofText? s.text = s.reading.toInstant? 0 := by
  have hz : Closes [] := by simp [Closes]
  have hstrict := s.strict_append hz
  have hnaive := s.naive_orElse hz
  rw [List.append_nil] at hstrict hnaive
  rw [Instant.ofText?, hnaive, hstrict]
  rfl

theorem ofText_append {zone : List Char} {ahead : Int} (hz : Closes zone) (hne : zone ≠ [])
    (hzone : offset (literal ':') zone = some (ahead, [])) (hahead : ahead.natAbs < 86400) :
    Instant.ofText? (s.text ++ zone) = s.reading.toInstant? ahead := by
  have hempty : zone.isEmpty = false := by simpa using hne
  have hnaive := s.naive_orElse hz
  rw [hempty] at hnaive
  rw [Instant.ofText?, hnaive, s.strict_append hz, hzone]
  simp only [Option.bind_some, List.isEmpty_nil, hahead, and_self, if_true]
  exact orElse_none _

end Spelling

namespace Zone

variable (z : Zone)

theorem closes_text : Spelling.Closes z.text := by
  intro c hc
  obtain rfl : z.sign = c := by simpa [text] using hc
  rcases z.sign_eq with h | h | h <;> rw [h] <;> decide

theorem ahead_lt : z.ahead.natAbs < 86400 := by
  have hh := z.hours_le
  have hm := z.minutes_le
  unfold ahead
  simp only
  split <;> omega

theorem offset_text : offset (literal ':') z.text = some (z.ahead, []) := by
  have hminutes := z.minutes.number_append le_rfl []
  have hm : z.minutes.value < 60 := by
    have := z.minutes_le
    omega
  rw [List.append_nil] at hminutes
  rcases z.sign_eq with h | h | h <;>
    simp [text, h, offset, offsetSign, z.hours.number_append, literal, hminutes, hm, ahead]

end Zone

namespace Spelling

variable (s : Spelling)

theorem year_le : s.year.value ≤ 9999 := by
  have h := Text.decimal_lt s.year.isDigit
  rw [s.year.length_eq] at h
  exact Nat.le_of_lt_succ h

theorem isRepresentable_instantOn {ahead : Int} (hs : s.Exists) (h : ahead.natAbs < 86400)
    (nanos : Nat) : (⟨(s.instantOn s.date.toDays).seconds - ahead, nanos⟩ : Instant).isRepresentable =
      true := by
  obtain ⟨hvalid, hhour, hminute, hsecond⟩ := hs
  obtain ⟨hlo, hhi⟩ := Date.toDays_bounds hvalid
  have hyear := s.year_le
  have hbounds : -366 ≤ daysBeforeYear s.date.year ∧ daysBeforeYear s.date.year ≤ 3652000 := by
    have hcast : s.date.year = (s.year.value : Int) := rfl
    simp only [daysBeforeYear, hcast]
    omega
  have hseconds : -100000 * 86400 ≤ (s.instantOn s.date.toDays).seconds - (-719162 * 86400) ∧
      (s.instantOn s.date.toDays).seconds ≤ 3700000 * 86400 := by
    unfold epoch at hlo hhi
    unfold instantOn
    split <;> simp only <;> omega
  have lo : Instant.first.seconds = -8334601228800 := rfl
  have hi : Instant.last.seconds = 8210266876799 := rfl
  simp only [Instant.isRepresentable, Bool.and_eq_true]
  exact ⟨decide_eq_true (by omega), decide_eq_true (by omega)⟩

theorem toInstant_reading {ahead : Int} (h : ahead.natAbs < 86400) :
    s.reading.toInstant? ahead =
      if s.Exists then
        some ⟨(s.instantOn s.date.toDays).seconds - ahead, (s.instantOn s.date.toDays).nanos⟩
      else none := by
  have hyear := s.year_le
  split
  · next hs =>
    have hrep := s.isRepresentable_instantOn hs h (s.instantOn s.date.toDays).nanos
    obtain ⟨hvalid, hhour, hminute, hsecond⟩ := hs
    have hwall : (⟨s.date.toDays * 86400 + ((s.hour.value * 3600 + s.minute.value * 60 +
          min s.second.value 59 : Nat) : Int) - ahead,
        s.nanos + (s.second.value - min s.second.value 59) * 1000000000⟩ : Instant) =
          ⟨(s.instantOn s.date.toDays).seconds - ahead, (s.instantOn s.date.toDays).nanos⟩ := by
      unfold instantOn
      split
      · next h60 => simp [h60]
      · next h60 =>
        have hmin : min s.second.value 59 = s.second.value := by omega
        simp [hmin]
    have hcond : s.date.isValid = true ∧ -262143 ≤ (s.year.value : Int) ∧
        (s.year.value : Int) ≤ 262142 ∧ s.hour.value < 24 ∧ s.minute.value < 60 ∧
          s.second.value ≤ 60 := ⟨hvalid, by omega, by omega, by omega, by omega, hsecond⟩
    rw [← hwall] at hrep ⊢
    exact (if_pos hcond).trans (if_pos hrep)
  · next hs =>
    refine if_neg fun hcond => hs ?_
    obtain ⟨hvalid, -, -, hhour, hminute, hsecond⟩ := hcond
    exact ⟨hvalid, Nat.le_of_lt_succ hhour, Nat.le_of_lt_succ hminute, hsecond⟩

end Spelling

end Credentials.Time

namespace Credentials.Document

open Time

/-- The text of a time in a document. -/
def timeOf (s : List Char) : Except Decoding.Mismatch Instant := instant (.text (String.ofList s))

theorem timeOf_eq (s : List Char) : timeOf s =
    match Instant.ofText? s with
    | some t => .ok t
    | none => .error (.invalidTimestamp (String.ofList s)) := by
  simp only [timeOf, instant, Decoding.text, bind, Except.bind, String.toList_ofList]
  cases Instant.ofText? s <;> rfl

/-- All spellings of a time denote the same instant: as many days from 1970-01-01 as its date lies, the
time of that day, and what an offset takes away. Where there is no such date or no such time of day,
they are refused. -/
theorem timeOf_spelling (s : Spelling) :
    (s.Exists → ∃ days : Int, s.date.LiesAt days ∧
      timeOf s.text = .ok (s.instantOn days) ∧
      timeOf (s.text ++ ['Z']) = .ok (s.instantOn days) ∧
      timeOf (s.text ++ "+00:00".toList) = .ok (s.instantOn days) ∧
      ∀ z : Zone, timeOf (s.text ++ z.text) =
        .ok ⟨(s.instantOn days).seconds - z.ahead, (s.instantOn days).nanos⟩) ∧
    (¬ s.Exists →
      timeOf s.text = .error (.invalidTimestamp (String.ofList s.text)) ∧
      timeOf (s.text ++ ['Z']) = .error (.invalidTimestamp (String.ofList (s.text ++ ['Z']))) ∧
      timeOf (s.text ++ "+00:00".toList) =
        .error (.invalidTimestamp (String.ofList (s.text ++ "+00:00".toList))) ∧
      ∀ z : Zone, timeOf (s.text ++ z.text) =
        .error (.invalidTimestamp (String.ofList (s.text ++ z.text)))) := by
  have hnone := s.ofText_eq
  have hutc : Instant.ofText? (s.text ++ ['Z']) = s.reading.toInstant? 0 :=
    s.ofText_append (by simp [Spelling.Closes]) (by simp) rfl (by decide)
  have hzero : Instant.ofText? (s.text ++ "+00:00".toList) = s.reading.toInstant? 0 :=
    s.ofText_append (by simp [Spelling.Closes]) (by simp) rfl (by decide)
  have hzone : ∀ z : Zone, Instant.ofText? (s.text ++ z.text) = s.reading.toInstant? z.ahead :=
    fun z => s.ofText_append z.closes_text (by simp [Zone.text]) z.offset_text z.ahead_lt
  have hread := fun z : Zone => s.toInstant_reading z.ahead_lt
  have hread0 : s.reading.toInstant? 0 = _ := s.toInstant_reading (by decide)
  simp only [timeOf_eq, hnone, hutc, hzero, hzone, hread, hread0]
  constructor
  · intro hs
    refine ⟨s.date.toDays, (Date.liesAt_iff hs.1).mpr rfl, ?_⟩
    simp only [if_pos hs, Int.sub_zero, implies_true, and_self]
  · intro hs
    simp only [if_neg hs, implies_true, and_self]

/-- A leap second at the end of a leap day. -/
def leapSecond : Spelling where
  year := ⟨"2024".toList, rfl, List.all_eq_true.mp rfl⟩
  month := ⟨"02".toList, rfl, List.all_eq_true.mp rfl⟩
  day := ⟨"29".toList, rfl, List.all_eq_true.mp rfl⟩
  joint := ' '
  hour := ⟨"23".toList, rfl, List.all_eq_true.mp rfl⟩
  minute := ⟨"59".toList, rfl, List.all_eq_true.mp rfl⟩
  second := ⟨"60".toList, rfl, List.all_eq_true.mp rfl⟩
  decimals := "5".toList
  joint_eq := .inr rfl
  decimals_isDigit := List.all_eq_true.mp rfl

def commonYear : Digits 4 := ⟨"1900".toList, rfl, List.all_eq_true.mp rfl⟩

def behind : Zone where
  sign := '-'
  hours := ⟨"00".toList, rfl, List.all_eq_true.mp rfl⟩
  minutes := ⟨"30".toList, rfl, List.all_eq_true.mp rfl⟩
  sign_eq := .inr (.inl rfl)
  hours_le := by decide
  minutes_le := by decide

theorem timeOf_spelling_leapSecond :
    leapSecond.Exists ∧ ¬ { leapSecond with year := commonYear }.Exists ∧
      timeOf "2024-02-29 23:59:60.5".toList = .ok ⟨1709251199, 1500000000⟩ ∧
      timeOf "2024-02-29 23:59:60.5-00:30".toList = .ok ⟨1709252999, 1500000000⟩ ∧
      timeOf "1900-02-29 23:59:60.5Z".toList =
        .error (.invalidTimestamp "1900-02-29 23:59:60.5Z") := by
  have hexists : leapSecond.Exists := by decide
  have hmissing : ¬ { leapSecond with year := commonYear }.Exists := by decide
  obtain ⟨days, hlies, hplain, -, -, hzone⟩ := (timeOf_spelling leapSecond).1 hexists
  obtain ⟨-, hutc, -, -⟩ := (timeOf_spelling _).2 hmissing
  obtain rfl : leapSecond.date.toDays = days := (Date.liesAt_iff hexists.1).mp hlies
  exact ⟨hexists, hmissing, hplain, hzone behind, hutc⟩

end Credentials.Document
