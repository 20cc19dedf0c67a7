import Credentials.Secret

/-! Drawing a secret: `freshSecret` gives the secret of the first draw that is not taken, and fails
only where every draw is. -/

namespace Credentials

variable {taken : String → Bool}

theorem freshSecret_eq_none_iff {refused : List String} {draws : Draws} :
    freshSecret taken refused draws = none ↔ ∀ draw ∈ draws, taken (secretOf draw) = true := by
  induction draws generalizing refused with
  | nil => simp [freshSecret]
  | cons draw rest ih =>
    rw [freshSecret]
    by_cases h : taken (secretOf draw) = true
    · simp [h, ih]
    · simp [h]

/-- The draws before the one that is used are those whose secrets were taken. -/
theorem freshSecret_eq_some_iff {refused : List String} {draws : Draws} {fresh : FreshSecret} :
    freshSecret taken refused draws = some fresh ↔
      ∃ skipped draw rest, draws = skipped ++ draw :: rest ∧
        (∀ s ∈ skipped, taken (secretOf s) = true) ∧ taken (secretOf draw) = false ∧
        fresh = ⟨secretOf draw, (skipped.map secretOf).reverse ++ refused, rest⟩ := by
  induction draws generalizing refused with
  | nil => simp [freshSecret]
  | cons first later ih =>
    rw [freshSecret]
    by_cases h : taken (secretOf first) = true
    · simp only [h, if_true]
      rw [ih]
      constructor
      · rintro ⟨skipped, draw, rest, rfl, hs, hd, rfl⟩
        exact ⟨first :: skipped, draw, rest, rfl, by simpa [h] using hs, hd, by simp⟩
      · rintro ⟨skipped, draw, rest, he, hs, hd, rfl⟩
        cases skipped with
        | nil =>
          obtain ⟨rfl, rfl⟩ : first = draw ∧ later = rest := by simpa using he
          simp [h] at hd
        | cons s skipped =>
          obtain ⟨rfl, rfl⟩ : first = s ∧ later = skipped ++ draw :: rest := by simpa using he
          exact ⟨skipped, draw, rest, rfl, fun t ht => hs t (by simp [ht]), hd, by simp⟩
    · simp only [h, Bool.false_eq_true, if_false, Option.some.injEq]
      constructor
      · rintro rfl
        exact ⟨[], first, later, rfl, by simp, by simpa using h, by simp⟩
      · rintro ⟨skipped, draw, rest, he, hs, hd, rfl⟩
        cases skipped with
        | nil =>
          obtain ⟨rfl, rfl⟩ : first = draw ∧ later = rest := by simpa using he
          simp
        | cons s skipped =>
          obtain ⟨rfl, -⟩ : first = s ∧ later = skipped ++ draw :: rest := by simpa using he
          exact absurd (hs first (by simp)) h

theorem freshSecret_free {refused : List String} {draws : Draws} {fresh : FreshSecret}
    (h : freshSecret taken refused draws = some fresh) : taken fresh.secret = false := by
  obtain ⟨_, _, _, -, -, hd, rfl⟩ := freshSecret_eq_some_iff.mp h
  exact hd

/-- A supply that holds one free draw is enough. -/
theorem exists_freshSecret_iff {refused : List String} {draws : Draws} :
    (∃ fresh, freshSecret taken refused draws = some fresh) ↔
      ∃ draw ∈ draws, taken (secretOf draw) = false := by
  rw [← Option.isSome_iff_exists, Option.isSome_iff_ne_none, ne_eq, freshSecret_eq_none_iff]
  simp

end Credentials
