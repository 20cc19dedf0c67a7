import Credentials.Proofs.CharacterTables

/-! The published word lists have what phrases need of them. Each is spelled out as characters, over
which the checks are run. -/

namespace Credentials.Mnemonic

open Text (Spells)

section
set_option maxRecDepth 16000

noncomputable def englishSpelled : { list // Spells Words.english list } :=
  ⟨_, by unfold Words.english Spells; repeat' constructor⟩

noncomputable def czechSpelled : { list // Spells Words.czech list } :=
  ⟨_, by unfold Words.czech Spells; repeat' constructor⟩

noncomputable def frenchSpelled : { list // Spells Words.french list } :=
  ⟨_, by unfold Words.french Spells; repeat' constructor⟩

noncomputable def italianSpelled : { list // Spells Words.italian list } :=
  ⟨_, by unfold Words.italian Spells; repeat' constructor⟩

noncomputable def japaneseSpelled : { list // Spells Words.japanese list } :=
  ⟨_, by unfold Words.japanese Spells; repeat' constructor⟩

noncomputable def koreanSpelled : { list // Spells Words.korean list } :=
  ⟨_, by unfold Words.korean Spells; repeat' constructor⟩

noncomputable def portugueseSpelled : { list // Spells Words.portuguese list } :=
  ⟨_, by unfold Words.portuguese Spells; repeat' constructor⟩

noncomputable def spanishSpelled : { list // Spells Words.spanish list } :=
  ⟨_, by unfold Words.spanish Spells; repeat' constructor⟩

noncomputable def chineseSimplifiedSpelled : { list // Spells Words.chineseSimplified list } :=
  ⟨_, by unfold Words.chineseSimplified Spells; repeat' constructor⟩

noncomputable def chineseTraditionalSpelled : { list // Spells Words.chineseTraditional list } :=
  ⟨_, by unfold Words.chineseTraditional Spells; repeat' constructor⟩

end

noncomputable def spelledList : Language → List Word
  | .english => englishSpelled
  | .czech => czechSpelled
  | .french => frenchSpelled
  | .italian => italianSpelled
  | .japanese => japaneseSpelled
  | .korean => koreanSpelled
  | .portuguese => portugueseSpelled
  | .spanish => spanishSpelled
  | .chineseSimplified => chineseSimplifiedSpelled
  | .chineseTraditional => chineseTraditionalSpelled

theorem publishedList_eq (language : Language) : publishedList language = spelledList language := by
  cases language with
  | english => exact englishSpelled.2.map_toList
  | czech => exact czechSpelled.2.map_toList
  | french => exact frenchSpelled.2.map_toList
  | italian => exact italianSpelled.2.map_toList
  | japanese => exact japaneseSpelled.2.map_toList
  | korean => exact koreanSpelled.2.map_toList
  | portuguese => exact portugueseSpelled.2.map_toList
  | spanish => exact spanishSpelled.2.map_toList
  | chineseSimplified => exact chineseSimplifiedSpelled.2.map_toList
  | chineseTraditional => exact chineseTraditionalSpelled.2.map_toList

/-- A word as a number whose digits are its characters. -/
def code (w : Word) : Nat := w.foldr (fun c n => 2097152 * n + c.toNat) 1

/-- A number modulo which the words of a list have different codes. -/
def modulus : Language → Nat
  | .english => 224210
  | .czech => 205305
  | .french => 218643
  | .italian => 217042
  | .japanese => 216327
  | .korean => 214001
  | .portuguese => 207099
  | .spanish => 197539
  | .chineseSimplified => 20043
  | .chineseTraditional => 20070

/-- Whether numbers differ from each other and from those marked in `seen`. -/
def areFresh (seen : Nat) : List Nat → Bool
  | [] => true
  | n :: ns => !seen.testBit n && areFresh (seen ||| 1 <<< n) ns

theorem nodup_of_areFresh {seen : Nat} {ns : List Nat} (h : areFresh seen ns = true) :
    ns.Nodup ∧ ∀ n ∈ ns, seen.testBit n = false := by
  induction ns generalizing seen with
  | nil => exact ⟨List.nodup_nil, List.forall_mem_nil _⟩
  | cons n ns ih =>
    simp only [areFresh, Bool.and_eq_true, Bool.not_eq_true'] at h
    obtain ⟨hn, hrest⟩ := h
    obtain ⟨hnodup, hseen⟩ := ih hrest
    have hmarked : ∀ k ∈ ns, k ≠ n ∧ seen.testBit k = false := by
      intro k hk
      have hbit := hseen k hk
      rw [Nat.testBit_or, Nat.one_shiftLeft, Nat.testBit_two_pow, Bool.or_eq_false_iff,
        decide_eq_false_iff_not] at hbit
      exact ⟨fun he => hbit.2 he.symm, hbit.1⟩
    refine ⟨List.nodup_cons.mpr ⟨fun hmem => (hmarked n hmem).1 rfl, hnodup⟩, ?_⟩
    exact List.forall_mem_cons.mpr ⟨hn, fun k hk => (hmarked k hk).2⟩

/-- The first and the last character that words of a list begin with. -/
def script : Language → Nat × Nat
  | .japanese => (0x3042, 0x308f)
  | .korean => (0x1100, 0x1112)
  | .chineseSimplified | .chineseTraditional => (0x4e00, 0x9fff)
  | _ => (0x61, 0x7a)

def isIn (language : Language) (w : Word) : Bool :=
  w.head?.any fun c => (script language).1 ≤ c.toNat && c.toNat ≤ (script language).2

theorem spelledList_checked (language : Language) :
    (spelledList language).length = 2048 ∧
      areFresh 0 ((spelledList language).map (code · % modulus language)) = true ∧
      ((spelledList language).all fun w => Text.isWritten false w && isIn language w) = true := by
  cases language <;> decide +kernel

theorem publishedList_length (language : Language) : (publishedList language).length = 2048 := by
  rw [publishedList_eq]
  exact (spelledList_checked language).1

theorem publishedList_nodup (language : Language) : (publishedList language).Nodup := by
  rw [publishedList_eq]
  exact (nodup_of_areFresh (spelledList_checked language).2.1).1.of_map _

theorem isWritten_of_mem {language : Language} {w : Word} (h : w ∈ publishedList language) :
    Text.isWritten false w = true ∧ isIn language w = true := by
  rw [publishedList_eq] at h
  have hw := List.all_eq_true.mp (spelledList_checked language).2.2 w h
  rwa [Bool.and_eq_true] at hw

theorem script_of_mem {language : Language} {w : Word} (h : w ∈ publishedList language) :
    ∃ c, w.head? = some c ∧ (script language).1 ≤ c.toNat ∧ c.toNat ≤ (script language).2 := by
  have hin := (isWritten_of_mem h).2
  rw [isIn] at hin
  cases hhead : w.head? with
  | none =>
    rw [hhead] at hin
    cases hin
  | some c =>
    rw [hhead, Option.any_some, Bool.and_eq_true, decide_eq_true_eq, decide_eq_true_eq] at hin
    exact ⟨c, rfl, hin⟩

theorem isWordList_published (language : Language) : IsWordList (publishedList language) where
  length := publishedList_length language
  nodup := publishedList_nodup language
  ne_nil w hw := by
    rintro rfl
    obtain ⟨c, hc, -⟩ := script_of_mem hw
    cases hc
  not_blank w hw c hc := ((Text.isWritten_spec (isWritten_of_mem hw).1).1 c hc).not_blank
  lowerCase w hw := Text.lowerCase_of_isWritten (isWritten_of_mem hw).1
  decompose w hw := Text.decompose_of_isWritten (isWritten_of_mem hw).1

end Credentials.Mnemonic
