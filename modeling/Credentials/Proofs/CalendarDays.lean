import Credentials.Proofs.Calendar
import Mathlib.Data.List.GetD

/-! The number of a date is the days that lie between it and 1970-01-01: one more from each date to the
next, over the ends of months and years, and no two dates have the same. -/

namespace Credentials.Time

theorem daysBeforeYear_succ (year : Int) :
    daysBeforeYear (year + 1) = daysBeforeYear year + (monthLengths year).sum := by
  rw [monthLengths_sum]
  simp only [daysBeforeYear]
  split
  · next h =>
    rw [isLeap_iff] at h
    omega
  · next h =>
    rw [isLeap_iff] at h
    omega

theorem daysBeforeYear_mono {a b : Int} (h : a ≤ b) : daysBeforeYear a ≤ daysBeforeYear b := by
  simp only [daysBeforeYear]
  omega

theorem month_lt_length (year : Int) {month : Nat} (h : 1 ≤ month) (h' : month ≤ 12) :
    month - 1 < (monthLengths year).length := by
  have : (monthLengths year).length = 12 := rfl
  omega

theorem daysBeforeMonth_succ (year : Int) {month : Nat} (h : 1 ≤ month) (h' : month ≤ 12) :
    daysBeforeMonth year (month + 1) =
      daysBeforeMonth year month + (monthLengths year).getD (month - 1) 0 := by
  have hlt := month_lt_length year h h'
  have hsucc : month + 1 - 1 = month - 1 + 1 := by omega
  rw [daysBeforeMonth_eq, daysBeforeMonth_eq, hsucc, List.sum_take_succ _ _ hlt,
    List.getD_eq_getElem _ _ hlt]

theorem daysBeforeMonth_mono (year : Int) {a b : Nat} (h : a ≤ b) :
    daysBeforeMonth year a ≤ daysBeforeMonth year b := by
  rw [daysBeforeMonth_eq, daysBeforeMonth_eq]
  exact List.Sublist.sum_le_sum (List.take_sublist_take_left (by omega)) (by simp)

theorem daysBeforeMonth_le (year : Int) (month : Nat) :
    daysBeforeMonth year month ≤ (monthLengths year).sum := by
  rw [daysBeforeMonth_eq]
  exact List.Sublist.sum_le_sum (List.take_sublist ..) (by simp)

theorem daysBeforeMonth_end (year : Int) : daysBeforeMonth year 13 = (monthLengths year).sum := by
  rw [daysBeforeMonth_eq]
  exact congrArg List.sum (List.take_length (l := monthLengths year))

namespace Date

def next (d : Date) : Date :=
  if d.day < (monthLengths d.year).getD (d.month - 1) 0 then ⟨d.year, d.month, d.day + 1⟩
  else if d.month < 12 then ⟨d.year, d.month + 1, 1⟩
  else ⟨d.year + 1, 1, 1⟩

def origin : Date := ⟨1970, 1, 1⟩

/-- Whether a date lies so many days after 1970-01-01, or before it where the number is negative:
from the earlier of the two, day after day, to the later. -/
def LiesAt (d : Date) (days : Int) : Prop := next^[days.toNat] origin = next^[(-days).toNat] d

variable {d e : Date}

theorem monthLengths_getD_pos (year : Int) {month : Nat} (h : 1 ≤ month) (h' : month ≤ 12) :
    1 ≤ (monthLengths year).getD (month - 1) 0 := by
  have hlt := month_lt_length year h h'
  have hpos : ∀ n ∈ monthLengths year, 1 ≤ n := by
    unfold monthLengths
    split <;> decide
  rw [List.getD_eq_getElem _ _ hlt]
  exact hpos _ (List.getElem_mem hlt)

theorem isValid_mk {year : Int} {month day : Nat} (h1 : 1 ≤ month) (h12 : month ≤ 12) (hd : 1 ≤ day)
    (hle : day ≤ (monthLengths year).getD (month - 1) 0) :
    (⟨year, month, day⟩ : Date).isValid = true := isValid_iff.mpr ⟨h1, h12, hd, hle⟩

theorem next_isValid (h : d.isValid = true) : d.next.isValid = true := by
  obtain ⟨h1, h12, hd, -⟩ := isValid_iff.mp h
  unfold next
  split
  · next hlt => exact isValid_mk h1 h12 (by omega) hlt
  · split
    · next hm => exact isValid_mk (by omega) hm le_rfl (monthLengths_getD_pos _ (by omega) hm)
    · exact isValid_mk le_rfl (by omega) le_rfl (monthLengths_getD_pos _ le_rfl (by omega))

theorem toDays_next (h : d.isValid = true) : d.next.toDays = d.toDays + 1 := by
  obtain ⟨h1, h12, hd, hle⟩ := isValid_iff.mp h
  unfold next
  split
  · simp only [toDays]
    omega
  · next hlast =>
    have hsucc := daysBeforeMonth_succ d.year h1 h12
    split
    · simp only [toDays]
      omega
    · next hm =>
      -- December ends with the year
      have hmonth : d.month + 1 = 13 := by omega
      rw [hmonth, daysBeforeMonth_end] at hsucc
      have hyear := daysBeforeYear_succ d.year
      have hfirst : daysBeforeMonth (d.year + 1) 1 = 0 := rfl
      simp only [toDays]
      omega

theorem dayOfYear_lt (h : d.isValid = true) :
    daysBeforeMonth d.year d.month + d.day ≤ (monthLengths d.year).sum := by
  obtain ⟨h1, h12, -, hle⟩ := isValid_iff.mp h
  have hsucc := daysBeforeMonth_succ d.year h1 h12
  have hend := daysBeforeMonth_le d.year (d.month + 1)
  omega

theorem year_le_of_toDays_le (hd : d.isValid = true) (he : e.isValid = true)
    (h : d.toDays ≤ e.toDays) : d.year ≤ e.year := by
  by_contra hlt
  have hmono := daysBeforeYear_mono (show e.year + 1 ≤ d.year by omega)
  have hday := dayOfYear_lt he
  have hpos := (isValid_iff.mp hd).2.2.1
  rw [daysBeforeYear_succ] at hmono
  unfold toDays at h
  omega

theorem month_le_of_toDays_le (hd : d.isValid = true) (he : e.isValid = true)
    (hyear : d.year = e.year) (h : d.toDays ≤ e.toDays) : d.month ≤ e.month := by
  by_contra hlt
  obtain ⟨h1, h12, -, hle⟩ := isValid_iff.mp he
  have hmono := daysBeforeMonth_mono e.year (show e.month + 1 ≤ d.month by omega)
  have hpos := (isValid_iff.mp hd).2.2.1
  rw [daysBeforeMonth_succ _ h1 h12] at hmono
  unfold toDays at h
  rw [hyear] at h
  omega

theorem toDays_inj (hd : d.isValid = true) (he : e.isValid = true) (h : d.toDays = e.toDays) :
    d = e := by
  have hyear := le_antisymm (year_le_of_toDays_le hd he h.le) (year_le_of_toDays_le he hd h.ge)
  have hmonth := le_antisymm (month_le_of_toDays_le hd he hyear h.le)
    (month_le_of_toDays_le he hd hyear.symm h.ge)
  obtain ⟨year, month, day⟩ := d
  obtain ⟨year', month', day'⟩ := e
  obtain rfl : year = year' := hyear
  obtain rfl : month = month' := hmonth
  simp only [toDays] at h
  have hday : day = day' := by omega
  rw [hday]

theorem iterate_next (h : d.isValid = true) (n : Nat) :
    (next^[n] d).isValid = true ∧ (next^[n] d).toDays = d.toDays + n := by
  induction n with
  | zero => exact ⟨h, by simp⟩
  | succ n ih =>
    obtain ⟨hvalid, hdays⟩ := ih
    rw [Function.iterate_succ_apply']
    refine ⟨next_isValid hvalid, ?_⟩
    rw [toDays_next hvalid, hdays]
    omega

theorem origin_isValid : origin.isValid = true := by decide

theorem toDays_origin : origin.toDays = 0 := by decide

/-- The number of a date is how many days it lies from the first day of the count. -/
theorem liesAt_iff (h : d.isValid = true) {days : Int} : d.LiesAt days ↔ d.toDays = days := by
  obtain ⟨hvalid, hdays⟩ := iterate_next origin_isValid days.toNat
  obtain ⟨hvalid', hdays'⟩ := iterate_next h (-days).toNat
  rw [toDays_origin] at hdays
  constructor
  · intro hlies
    rw [LiesAt] at hlies
    rw [hlies] at hdays
    omega
  · intro he
    exact toDays_inj hvalid hvalid' (by omega)

end Date

end Credentials.Time
