import Credentials.Text.Decomposition
import Credentials.Text.LowerCase
import Mathlib.Data.List.Basic

/-! What becomes of a typed text: it is put in lower case, decomposed and cut into words. A character
at which the rules of case stop looking, and to which no mark belongs, keeps what stands before it
apart from what stands behind it in all three. -/

namespace Credentials.Text

section
variable {p : Char → Bool} {c d : Char} {s w : List Char}

theorem runs_skip (hc : p c = true) : runs p (c :: s) = runs p s := by
  rw [runs.eq_def]
  simp only [hc, if_true]

theorem runs_last (hc : p c = false) : runs p [c] = [[c]] := by
  rw [runs.eq_def]
  simp only [hc, Bool.false_eq_true, if_false]

theorem runs_end (hc : p c = false) (hd : p d = true) : runs p (c :: d :: s) = [c] :: runs p s := by
  rw [runs.eq_def]
  simp only [hc, hd, Bool.false_eq_true, if_false, if_true, runs_skip hd]

theorem runs_grow (hc : p c = false) (hd : p d = false) {ws : List (List Char)}
    (h : runs p (d :: s) = w :: ws) : runs p (c :: d :: s) = (c :: w) :: ws := by
  rw [runs.eq_def]
  simp only [hc, hd, Bool.false_eq_true, if_false, h]

theorem runs_word (hne : w ≠ []) (hw : ∀ x ∈ w, p x = false) : runs p w = [w] := by
  induction w with
  | nil => exact absurd rfl hne
  | cons x w ih =>
    have hx : p x = false := hw x List.mem_cons_self
    cases w with
    | nil => exact runs_last hx
    | cons y w =>
      exact runs_grow hx (hw y (by simp))
        (ih (List.cons_ne_nil _ _) fun z hz => hw z (List.mem_cons_of_mem _ hz))

theorem exists_run (hd : p d = false) : ∃ w ws, runs p (d :: s) = w :: ws := by
  rw [runs.eq_def]
  simp only [hd, Bool.false_eq_true, if_false]
  repeat' split
  all_goals exact ⟨_, _, rfl⟩

theorem runs_append (a : List Char) (hc : p c = true) :
    runs p (a ++ c :: s) = runs p a ++ runs p s := by
  induction a with
  | nil => exact runs_skip hc
  | cons x a ih =>
    by_cases hx : p x = true
    · rw [List.cons_append, runs_skip hx, runs_skip hx, ih]
    · have hx : p x = false := Bool.eq_false_iff.mpr hx
      cases a with
      | nil => exact (runs_end hx hc).trans (by rw [runs_last hx, List.singleton_append])
      | cons y a =>
        by_cases hy : p y = true
        · rw [List.cons_append, runs_skip hy, runs_skip hy] at ih
          rw [List.cons_append, List.cons_append, runs_end hx hy, runs_end hx hy, ih,
            List.cons_append]
        · have hy : p y = false := Bool.eq_false_iff.mpr hy
          obtain ⟨w, ws, hw⟩ := @exists_run p y a hy
          rw [hw, List.cons_append, List.cons_append] at ih
          rw [List.cons_append, List.cons_append, runs_grow hx hy ih, runs_grow hx hy hw,
            List.cons_append]

theorem of_mem_runs (hw : w ∈ runs p s) : w ≠ [] ∧ ∀ x ∈ w, p x = false := by
  have hsingle : ∀ {c : Char}, ¬ p c = true → [c] ≠ [] ∧ ∀ x ∈ [c], p x = false := by simp
  fun_induction runs p s generalizing w with
  | case1 => cases hw
  | case2 _ _ _ ih => exact ih hw
  | case3 c hc => exact List.mem_singleton.mp hw ▸ hsingle hc
  | case4 c hc d t hd ih =>
    rcases List.mem_cons.mp hw with rfl | hw
    · exact hsingle hc
    · exact ih hw
  | case5 c hc d t hd hnil ih => exact List.mem_singleton.mp hw ▸ hsingle hc
  | case6 c hc d t hd v vs hruns ih =>
    rw [hruns] at ih
    rcases List.mem_cons.mp hw with rfl | hw
    · obtain ⟨-, hv⟩ := ih List.mem_cons_self
      exact ⟨List.cons_ne_nil _ _, by simpa [hc] using hv⟩
    · exact ih (List.mem_cons_of_mem _ hw)

end

theorem words_intercalate {ws : List (List Char)}
    (h : ∀ w ∈ ws, w ≠ [] ∧ ∀ c ∈ w, isBlank c = false) : words ([' '].intercalate ws) = ws := by
  induction ws with
  | nil => rfl
  | cons w ws ih =>
    obtain ⟨hne, hw⟩ := h w List.mem_cons_self
    cases ws with
    | nil => rw [List.intercalate_singleton, words, runs_word hne hw]
    | cons v ws =>
      rw [List.intercalate_cons_cons, List.append_assoc, List.singleton_append, words,
        runs_append w rfl, runs_word hne hw, List.singleton_append]
      exact congrArg _ (ih fun u hu => h u (List.mem_cons_of_mem _ hu))

/-- A character past which no letter looks for its case, and which has none to change. -/
structure IsBreak (c : Char) : Prop where
  not_sigma : c ≠ 'Σ'
  not_cased : isCased c = false
  not_ignorable : isCaseIgnorable c = false
  lowerChar : lowerChar c = [c]

theorem isBreak_space : IsBreak ' ' := ⟨by decide, rfl, rfl, rfl⟩

section
variable {b : Char} {before a s : List Char}

theorem meetsCased_append (hb : IsBreak b) : meetsCased (a ++ b :: s) = meetsCased a := by
  have hfound : (b :: s).find? (!isCaseIgnorable ·) = some b :=
    List.find?_cons_of_pos (by rw [hb.not_ignorable]; rfl)
  rw [meetsCased, meetsCased, List.find?_append, hfound]
  cases a.find? (!isCaseIgnorable ·) with
  | none => exact hb.not_cased
  | some c => rfl

/-- What stands before a break is not seen from behind it. -/
theorem lowerCaseAfter_break (hb : IsBreak b) (q : List Char) :
    lowerCaseAfter (before ++ b :: q) s = lowerCaseAfter before s := by
  induction s generalizing before with
  | nil => rfl
  | cons c s ih =>
    rw [lowerCaseAfter, lowerCaseAfter, lowerSigma, lowerSigma, meetsCased_append hb,
      ← List.cons_append, ih]

/-- What stands behind a break is not seen from before it. -/
theorem lowerCaseAfter_append (hb : IsBreak b) :
    lowerCaseAfter before (a ++ b :: s) = lowerCaseAfter before a ++ b :: lowerCase s := by
  induction a generalizing before with
  | nil =>
    have hrest := @lowerCaseAfter_break b [] s hb before
    rw [List.nil_append] at hrest
    rw [List.nil_append, lowerCaseAfter.eq_2, if_neg hb.not_sigma, hb.lowerChar, hrest]
    rfl
  | cons c a ih =>
    rw [List.cons_append, lowerCaseAfter, lowerCaseAfter, lowerSigma, lowerSigma,
      meetsCased_append hb, ih, List.append_assoc]

theorem lowerCase_append (hb : IsBreak b) (a s : List Char) :
    lowerCase (a ++ b :: s) = lowerCase a ++ b :: lowerCase s := lowerCaseAfter_append hb

/-- One form at the end of a word, the other where a word begins. -/
example : lowerCase "AΣ ΣA".toList = "aς σa".toList := by decide +kernel

/-- Without a capital sigma each character is changed by itself. -/
theorem lowerCaseAfter_eq_flatMap (h : 'Σ' ∉ s) : lowerCaseAfter before s = s.flatMap lowerChar := by
  induction s generalizing before with
  | nil => rfl
  | cons c s ih =>
    obtain ⟨hc, hs⟩ := not_or.mp (List.mem_cons.not.mp h)
    rw [lowerCaseAfter, if_neg (Ne.symm hc), ih hs, List.flatMap_cons]

theorem lowerCase_eq_self (h : ∀ c ∈ s, c ≠ 'Σ' ∧ lowerChar c = [c]) : lowerCase s = s := by
  have hsigma : 'Σ' ∉ s := fun hmem => (h _ hmem).1 rfl
  rw [lowerCase, lowerCaseAfter_eq_flatMap hsigma, List.flatMap_congr fun c hc => (h c hc).2,
    List.flatMap_singleton']

end

section
variable {c d : Char}

theorem insertMark_eq_cons {s : List Char} (h : markClass c = 0 ∨ ∀ d ∈ s.head?, markClass d = 0) :
    insertMark c s = c :: s := by
  cases s with
  | nil => rfl
  | cons d s =>
    have hd : markClass c = 0 ∨ markClass d = 0 := h.imp_right fun hd => hd d rfl
    rw [insertMark, if_neg (by omega)]

theorem insertMark_append (hd : markClass d = 0) (a b : List Char) :
    insertMark c (a ++ d :: b) = insertMark c a ++ d :: b := by
  induction a with
  | nil => exact insertMark_eq_cons (.inr fun _ he => Option.some.inj he ▸ hd)
  | cons e a ih =>
    rw [List.cons_append, insertMark, insertMark, ih]
    split <;> rfl

theorem orderMarks_append (hd : markClass d = 0) (a b : List Char) :
    orderMarks (a ++ d :: b) = orderMarks a ++ d :: orderMarks b := by
  induction a with
  | nil => exact insertMark_eq_cons (.inl hd)
  | cons c a ih =>
    have hcons : ∀ s, orderMarks (c :: s) = insertMark c (orderMarks s) := fun _ => rfl
    rw [List.cons_append, hcons, hcons, ih, insertMark_append hd]

theorem decompose_append (hc : decomposeChar c = [d]) (hd : markClass d = 0) (a b : List Char) :
    decompose (a ++ c :: b) = decompose a ++ d :: decompose b := by
  rw [decompose, List.flatMap_append, List.flatMap_cons, hc, List.singleton_append,
    orderMarks_append hd]
  rfl

theorem orderMarks_eq_self {s : List Char} (h : ∀ c ∈ s, c.toNat < 0x300) : orderMarks s = s := by
  induction s with
  | nil => rfl
  | cons c s ih =>
    have hcons : orderMarks (c :: s) = insertMark c (orderMarks s) := rfl
    have hc : markClass c = 0 := if_pos (h c List.mem_cons_self)
    rw [hcons, ih fun d hd => h d (List.mem_cons_of_mem _ hd), insertMark_eq_cons (.inl hc)]

theorem decompose_eq_self {s : List Char} (h : ∀ c ∈ s, c.toNat < 0x80) : decompose s = s := by
  have hchars : ∀ c ∈ s, decomposeChar c = [c] := fun c hc => if_pos (h c hc)
  rw [decompose, List.flatMap_congr hchars, List.flatMap_singleton']
  exact orderMarks_eq_self fun c hc => Nat.lt_trans (h c hc) (by decide)

end

end Credentials.Text
