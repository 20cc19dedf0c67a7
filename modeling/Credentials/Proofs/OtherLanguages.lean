import Credentials.Proofs.CanonicalPhrases

/-! Telling the language of a phrase by its words. The language is found that has all the words, if
each of the others lacks one; no language is found where two of those that share words have them. -/

namespace Credentials.Mnemonic

theorem eq_singleton_of_nodup {α : Type} {a : α} {l : List α} (hnodup : l.Nodup) (hmem : a ∈ l)
    (hall : ∀ b ∈ l, b = a) : l = [a] := by
  cases l with
  | nil => cases hmem
  | cons b l =>
    obtain rfl := hall b List.mem_cons_self
    have hnil : l = [] := by
      refine List.eq_nil_iff_forall_not_mem.mpr fun c hc => ?_
      have hb : c = b := hall c (List.mem_cons_of_mem _ hc)
      exact (List.nodup_cons.mp hnodup).1 (hb ▸ hc)
    rw [hnil]

namespace Scheme

variable {scheme : Scheme} {written configured : Language} {ws : List Word}

theorem mem_filter_of_word {candidates : List Language} {l : Language} {w : Word}
    (hl : l ∈ candidates) (hw : w ∈ scheme.wordList l) :
    l ∈ candidates.filter (scheme.contains · w) :=
  List.mem_filter.mpr ⟨hl, List.contains_iff_mem.mpr hw⟩

theorem narrow_eq_some {candidates : List Language} (hnodup : candidates.Nodup)
    (hmem : written ∈ candidates) (hne : ws ≠ []) (hws : ∀ w ∈ ws, w ∈ scheme.wordList written)
    (hother : ∀ l ∈ candidates, l ≠ written → ∃ w ∈ ws, w ∉ scheme.wordList l) :
    scheme.narrow candidates ws = some written := by
  induction ws generalizing candidates with
  | nil => exact absurd rfl hne
  | cons w ws ih =>
    have hkept := mem_filter_of_word hmem (hws w List.mem_cons_self)
    have hlater : ∀ l ∈ candidates.filter (scheme.contains · w), l ≠ written →
        ∃ v ∈ ws, v ∉ scheme.wordList l := by
      intro l hl hne
      obtain ⟨hl, hw⟩ := List.mem_filter.mp hl
      obtain ⟨v, hv, hlacks⟩ := hother l hl hne
      rcases List.mem_cons.mp hv with rfl | hv
      · exact absurd (List.contains_iff_mem.mp hw) hlacks
      · exact ⟨v, hv, hlacks⟩
    unfold narrow
    split
    · rename_i hnone
      rw [hnone] at hkept
      cases hkept
    · rename_i l hone
      rw [hone] at hkept
      rw [List.mem_singleton.mp hkept]
    · rename_i several hnone hone
      refine ih (hnodup.filter _) hkept ?_ (fun v hv => hws v (List.mem_cons_of_mem _ hv)) hlater
      -- with no word to come the others would have gone already
      rintro rfl
      refine hone written (eq_singleton_of_nodup (hnodup.filter _) hkept fun l hl => ?_)
      by_contra hne
      obtain ⟨v, hv, -⟩ := hlater l hl hne
      cases hv

theorem narrow_eq_none {candidates : List Language} {twin : Language} (hne : twin ≠ written)
    (hmem : written ∈ candidates) (hmem' : twin ∈ candidates)
    (hws : ∀ w ∈ ws, w ∈ scheme.wordList written) (hws' : ∀ w ∈ ws, w ∈ scheme.wordList twin) :
    scheme.narrow candidates ws = none := by
  induction ws generalizing candidates with
  | nil => rfl
  | cons w ws ih =>
    have hkept := mem_filter_of_word hmem (hws w List.mem_cons_self)
    have hkept' := mem_filter_of_word hmem' (hws' w List.mem_cons_self)
    unfold narrow
    split
    · rfl
    · rename_i l hone
      rw [hone] at hkept hkept'
      exact absurd ((List.mem_singleton.mp hkept').trans (List.mem_singleton.mp hkept).symm) hne
    · exact ih hkept hkept' (fun v hv => hws v (List.mem_cons_of_mem _ hv))
        fun v hv => hws' v (List.mem_cons_of_mem _ hv)

theorem overlapping_of_not_distinctive {l : Language} (h : l ∉ distinctive) : l ∈ overlapping := by
  revert h
  cases l <;> decide

theorem not_distinctive {l : Language} (hne : ws ≠ []) (hws : ∀ w ∈ ws, w ∈ scheme.wordList l)
    (hfirst : ∀ d ∈ distinctive, ∀ w ∈ ws.head?, w ∉ scheme.wordList d) : l ∉ distinctive := by
  intro hl
  obtain ⟨w, ws, rfl⟩ := List.exists_cons_of_ne_nil hne
  exact hfirst l hl w rfl (hws w List.mem_cons_self)

theorem head_any_iff {l : Language} : ws.head?.any (scheme.contains l) = true ↔
    ∃ w ∈ ws.head?, w ∈ scheme.wordList l := by
  cases ws.head? with
  | none => simp
  | some w => simp [contains]

/-- A phrase is known for what it is when its first word tells it from the distinctive languages and
some word from each of the others. -/
theorem detect_eq_some (hne : ws ≠ []) (hws : ∀ w ∈ ws, w ∈ scheme.wordList written)
    (hfirst : ∀ l ∈ distinctive, l ≠ written → ∀ w ∈ ws.head?, w ∉ scheme.wordList l)
    (hother : ∀ l, l ≠ written → ∃ w ∈ ws, w ∉ scheme.wordList l) :
    scheme.detect ws = some written := by
  unfold detect
  split
  · rename_i l hfound
    have hl : l ∈ distinctive := List.mem_of_find?_eq_some hfound
    have hhas := List.find?_some hfound
    obtain ⟨w, hw, hmem⟩ := head_any_iff.mp hhas
    by_contra hne
    exact hfirst l hl (fun he => hne (congrArg some he)) w hw hmem
  · rename_i hnone
    have hfirst' : ∀ d ∈ distinctive, ∀ w ∈ ws.head?, w ∉ scheme.wordList d := by
      intro d hd w hw hmem
      exact List.find?_eq_none.mp hnone d hd (head_any_iff.mpr ⟨w, hw, hmem⟩)
    exact narrow_eq_some (by decide)
      (overlapping_of_not_distinctive (not_distinctive hne hws hfirst')) hne hws fun l _ => hother l

/-- A phrase that two languages have all words of is not told apart. -/
theorem detect_eq_none {twin : Language} (hne : ws ≠ []) (htwin : twin ≠ written)
    (hws : ∀ w ∈ ws, w ∈ scheme.wordList written) (hws' : ∀ w ∈ ws, w ∈ scheme.wordList twin)
    (hfirst : ∀ l ∈ distinctive, ∀ w ∈ ws.head?, w ∉ scheme.wordList l) :
    scheme.detect ws = none := by
  have hnone : (distinctive.find? fun l => ws.head?.any (scheme.contains l)) = none := by
    refine List.find?_eq_none.mpr fun l hl hany => ?_
    obtain ⟨w, hw, hmem⟩ := head_any_iff.mp hany
    exact hfirst l hl w hw hmem
  rw [detect, hnone]
  exact narrow_eq_none htwin
    (overlapping_of_not_distinctive (not_distinctive hne hws hfirst))
    (overlapping_of_not_distinctive (not_distinctive hne hws' hfirst)) hws hws'

theorem readingLanguage_eq_some (hne : ws ≠ []) (hws : ∀ w ∈ ws, w ∈ scheme.wordList written)
    (hfirst : ∀ l ∈ distinctive, l ≠ written → ∀ w ∈ ws.head?, w ∉ scheme.wordList l)
    (hother : ∀ l, l ≠ written → ∃ w ∈ ws, w ∉ scheme.wordList l) :
    scheme.readingLanguage configured ws = some written := by
  unfold readingLanguage
  split
  · rename_i hknown
    by_contra hne
    obtain ⟨w, hw, hlacks⟩ := hother configured fun he => hne (congrArg some he)
    exact hlacks (firstUnknown_eq_none_iff.mp hknown w hw)
  · rw [detect_eq_some hne hws hfirst hother, Option.filter_some,
      if_pos (decide_eq_true (firstUnknown_eq_none_iff.mpr hws))]

end Scheme

end Credentials.Mnemonic
