import Credentials.Time.Calendar
import Mathlib.Tactic

/-! Every day number has exactly one date: `toDays_ofDays`. The years of a group of four hundred are
counted off in centuries, fours and ones, the days of a year in months. -/

namespace Credentials.Time

theorem monthOfDay_spec {ls : List Nat} (month : Nat) {day : Nat} (h : day < ls.sum) :
    ∃ k < ls.length, monthOfDay month day ls = (month + k, day - (ls.take k).sum) ∧
      (ls.take k).sum ≤ day ∧ day - (ls.take k).sum < ls.getD k 0 := by
  induction ls generalizing month day with
  | nil => simp at h
  | cons length rest ih =>
    rw [monthOfDay]
    by_cases hd : day < length
    · exact ⟨0, by simp, by simp [hd], by simp, by simpa using hd⟩
    · rw [List.sum_cons] at h
      obtain ⟨k, hk, he, hle, hlt⟩ := ih (month + 1) (by omega : day - length < rest.sum)
      refine ⟨k + 1, by simpa using hk, ?_, ?_, ?_⟩
      · rw [if_neg hd, he, List.take_succ_cons, List.sum_cons]
        exact Prod.ext (by simp only []; omega) (by simp only []; omega)
      · rw [List.take_succ_cons, List.sum_cons]
        omega
      · rw [List.take_succ_cons, List.sum_cons, List.getD_cons_succ]
        omega

theorem monthLengths_sum (year : Int) :
    (monthLengths year).sum = if isLeap year then 366 else 365 := by
  unfold monthLengths
  split <;> rfl

theorem isLeap_iff {year : Int} :
    isLeap year = true ↔ year % 4 = 0 ∧ (year % 100 ≠ 0 ∨ year % 400 = 0) := by
  simp [isLeap]

theorem daysBeforeMonth_eq (year : Int) (month : Nat) :
    daysBeforeMonth year month = ((monthLengths year).take (month - 1)).sum := by
  rw [daysBeforeMonth, List.sum_eq_foldl]

theorem daysBeforeYear_eq (quad : Int) {century four one : Nat} (hc : century ≤ 3) (hf : four ≤ 24)
    (ho : one ≤ 3) :
    daysBeforeYear (400 * quad + ((100 * century + 4 * four + one : Nat) : Int) + 1) =
      146097 * quad + 36524 * century + 1461 * four + 365 * one := by
  obtain ⟨y, hy⟩ : ∃ y, y = 400 * quad + ((100 * century + 4 * four + one : Nat) : Int) := ⟨_, rfl⟩
  have h4 : y / 4 = 100 * quad + 25 * century + four := by omega
  have h100 : y / 100 = 4 * quad + century := by omega
  have h400 : y / 400 = quad := by omega
  rw [← hy, daysBeforeYear, Int.add_sub_cancel, h4, h100, h400]
  omega

/-- The days of the whole years before a date and those of its own year make up its day number. -/
theorem yearOfDay_spec (day : Int) :
    daysBeforeYear (yearOfDay day).1 + (yearOfDay day).2 = day ∧
      (yearOfDay day).2 < (monthLengths (yearOfDay day).1).sum := by
  have hr : ((day % 146097).toNat : Int) = day % 146097 := Int.toNat_of_nonneg (by omega)
  simp only [yearOfDay, monthLengths_sum]
  generalize (day % 146097).toNat = r at hr
  have hrlt : r < 146097 := by omega
  obtain ⟨century, hc⟩ : ∃ c, c = min (r / 36524) 3 := ⟨_, rfl⟩
  rw [← hc]
  have hcle : century ≤ 3 := by omega
  have hr₁ : r - 36524 * century < 36524 ∨ (r - 36524 * century = 36524 ∧ century = 3) := by omega
  obtain ⟨r₁, he₁⟩ : ∃ r₁, r₁ = r - 36524 * century := ⟨_, rfl⟩
  rw [← he₁] at hr₁ ⊢
  have hsum₁ : r = 36524 * century + r₁ := by omega
  obtain ⟨four, hf⟩ : ∃ f, f = r₁ / 1461 := ⟨_, rfl⟩
  rw [← hf]
  have hfle : four ≤ 24 := by omega
  obtain ⟨r₂, he₂⟩ : ∃ r₂, r₂ = r₁ % 1461 := ⟨_, rfl⟩
  rw [← he₂]
  have hsum₂ : r₁ = 1461 * four + r₂ := by omega
  obtain ⟨one, ho⟩ : ∃ o, o = min (r₂ / 365) 3 := ⟨_, rfl⟩
  rw [← ho]
  have hole : one ≤ 3 := by omega
  refine ⟨by rw [daysBeforeYear_eq _ hcle hfle hole]; omega, ?_⟩
  split
  · omega
  · next hl =>
    rw [isLeap_iff] at hl
    -- a year with a day too many is the fourth of its four and, at the end of a century, of the group
    by_contra hlt
    exact hl (by omega)

theorem toDays_ofDays (days : Int) : (Date.ofDays days).toDays = days := by
  obtain ⟨hy, hlt⟩ := yearOfDay_spec (days + epoch)
  obtain ⟨k, -, he, hle, -⟩ := monthOfDay_spec 1 hlt
  simp only [Date.ofDays, Date.toDays, he, daysBeforeMonth_eq]
  rw [Nat.add_sub_cancel_left]
  omega

theorem ofDays_isValid (days : Int) : (Date.ofDays days).isValid = true := by
  obtain ⟨-, hlt⟩ := yearOfDay_spec (days + epoch)
  obtain ⟨k, hk, he, -, hd⟩ := monthOfDay_spec 1 hlt
  have h12 : k < 12 := by simpa [monthLengths] using hk
  simp only [Date.ofDays, Date.isValid, he, Nat.add_sub_cancel_left, Bool.and_eq_true,
    decide_eq_true_eq]
  exact ⟨⟨⟨by omega, by omega⟩, by omega⟩, by omega⟩

theorem Date.isValid_iff {d : Date} :
    d.isValid = true ↔ 1 ≤ d.month ∧ d.month ≤ 12 ∧ 1 ≤ d.day ∧
      d.day ≤ (monthLengths d.year).getD (d.month - 1) 0 := by
  simp [Date.isValid, and_assoc]

theorem monthLengths_getD_le (year : Int) (i : Nat) : (monthLengths year).getD i 0 ≤ 31 := by
  have : ∀ n ∈ monthLengths year, n ≤ 31 := by
    unfold monthLengths
    split <;> decide
  rw [List.getD_eq_getElem?_getD]
  cases h : (monthLengths year)[i]? with
  | none => simp
  | some n => exact this n (List.mem_of_getElem? h)

theorem Date.toDays_bounds {d : Date} (h : d.isValid = true) :
    daysBeforeYear d.year - epoch ≤ d.toDays ∧ d.toDays < daysBeforeYear d.year + 400 - epoch := by
  obtain ⟨-, -, h1, h2⟩ := Date.isValid_iff.mp h
  have hd := monthLengths_getD_le d.year (d.month - 1)
  have hs : daysBeforeMonth d.year d.month ≤ 366 := by
    rw [daysBeforeMonth_eq]
    refine le_trans (List.Sublist.sum_le_sum (List.take_sublist ..) (by simp)) ?_
    rw [monthLengths_sum]
    split <;> omega
  unfold Date.toDays
  omega

end Credentials.Time
