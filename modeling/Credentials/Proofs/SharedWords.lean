import Credentials.Proofs.PublishedLists

/-! The words that published lists share. English and French share some, never at one place in both
lists; the two Chinese lists share many, each at the same place in both. No others share any. -/

namespace Credentials.Mnemonic

def codeSet (m : Nat) (list : List Word) : Nat :=
  list.foldr (fun w set => set ||| 1 <<< (code w % m)) 0

def codeSets (m : Nat) (lists : List (List Word)) : Nat :=
  lists.foldr (fun list set => set ||| codeSet m list) 0

def mayBeIn (lists : List (List Word)) (ms : List Nat) (w : Word) : Bool :=
  ms.all fun m => (codeSets m lists).testBit (code w % m)

theorem testBit_codeSet {m : Nat} {list : List Word} {w : Word} (h : w ∈ list) :
    (codeSet m list).testBit (code w % m) = true := by
  induction list with
  | nil => cases h
  | cons v list ih =>
    have hcons : codeSet m (v :: list) = codeSet m list ||| 1 <<< (code v % m) := rfl
    rw [hcons, Nat.testBit_or, Nat.one_shiftLeft, Nat.testBit_two_pow, Bool.or_eq_true,
      decide_eq_true_eq]
    rcases List.mem_cons.mp h with rfl | h
    · exact .inr rfl
    · exact .inl (ih h)

theorem testBit_codeSets {m : Nat} {lists : List (List Word)} {list : List Word} {w : Word}
    (h : list ∈ lists) (hw : w ∈ list) : (codeSets m lists).testBit (code w % m) = true := by
  induction lists with
  | nil => cases h
  | cons l lists ih =>
    have hcons : codeSets m (l :: lists) = codeSets m lists ||| codeSet m l := rfl
    rw [hcons, Nat.testBit_or, Bool.or_eq_true]
    rcases List.mem_cons.mp h with rfl | h
    · exact .inr (testBit_codeSet hw)
    · exact .inl (ih h)

theorem mayBeIn_of_mem {languages : List Language} {language : Language} {w : Word}
    (h : language ∈ languages) (hw : w ∈ publishedList language) (ms : List Nat) :
    mayBeIn (languages.map spelledList) ms w = true := by
  rw [publishedList_eq] at hw
  exact List.all_eq_true.mpr fun _ _ => testBit_codeSets (List.mem_map_of_mem h) hw

/-- Languages in Latin script, each with others that it shares no words with. -/
def strangers : List (Language × List Language) :=
  [(.italian, [.czech]), (.portuguese, [.italian, .czech]),
   (.spanish, [.portuguese, .italian, .czech]), (.english, [.spanish, .portuguese, .italian, .czech]),
   (.french, [.spanish, .portuguese, .italian, .czech])]

/-- Numbers modulo which the codes of strangers' words tell them apart. -/
def sieve : List Nat := [39858, 37773, 37485, 37279]

/-- The languages written in Chinese characters. -/
def chinese : List Language := [.chineseSimplified, .chineseTraditional]

theorem spelledLists_checked :
    (strangers.all fun p => (spelledList p.1).all fun w =>
      !mayBeIn (p.2.map spelledList) sieve w) = true ∧
    (((spelledList .english).zip (spelledList .french)).all fun p => p.1 != p.2) = true ∧
    (chinese.all fun a => chinese.all fun b => ((spelledList a).zip (spelledList b)).all
      fun p => p.1 == p.2 || !mayBeIn ([b].map spelledList) [20992] p.1) = true := by
  refine ⟨?_, ?_, ?_⟩ <;> decide +kernel

theorem not_mem_of_stranger {a b : Language} {bs : List Language} (h : (a, bs) ∈ strangers)
    (hb : b ∈ bs) {w : Word} (ha : w ∈ publishedList a) : w ∉ publishedList b := by
  intro hmem
  rw [publishedList_eq] at ha
  have hout := List.all_eq_true.mp (List.all_eq_true.mp spelledLists_checked.1 (a, bs) h) w ha
  rw [mayBeIn_of_mem hb hmem] at hout
  cases hout

/-- The other language with words in common. -/
def twin? : Language → Option Language
  | .english => some .french
  | .french => some .english
  | .chineseSimplified => some .chineseTraditional
  | .chineseTraditional => some .chineseSimplified
  | _ => none

theorem eq_twin_of_mem {a b : Language} (hne : b ≠ a) {w : Word} (ha : w ∈ publishedList a)
    (hb : w ∈ publishedList b) : twin? a = some b := by
  obtain ⟨c, hc, hlow, hhigh⟩ := script_of_mem ha
  obtain ⟨c', hc', hlow', hhigh'⟩ := script_of_mem hb
  obtain rfl : c = c' := Option.some.inj (hc.symm.trans hc')
  have hcases : ∀ a b : Language, b ≠ a → twin? a = some b ∨ (∃ p ∈ strangers, p.1 = a ∧ b ∈ p.2) ∨
      (∃ p ∈ strangers, p.1 = b ∧ a ∈ p.2) ∨ (script a).2 < (script b).1 ∨
      (script b).2 < (script a).1 := by
    intro a b
    cases a <;> cases b <;> decide
  rcases hcases a b hne with htwin | ⟨p, hp, rfl, hmem⟩ | ⟨p, hp, rfl, hmem⟩ | hscript
  · exact htwin
  · exact absurd hb (not_mem_of_stranger hp hmem ha)
  · exact absurd ha (not_mem_of_stranger hp hmem hb)
  · omega

theorem eq_or_eq_of_twin {a b l : Language} (h : twin? a = some b) {w : Word}
    (ha : w ∈ publishedList a) (hl : w ∈ publishedList l) : l = a ∨ l = b := by
  by_cases hne : l = a
  · exact .inl hne
  · exact .inr (Option.some.inj ((eq_twin_of_mem hne ha hl).symm.trans h))

theorem twin_ne {a b : Language} (h : twin? a = some b) : b ≠ a := by
  rintro rfl
  cases b <;> cases h

theorem twin_of_chinese {a b : Language} (hne : b ≠ a) (ha : a ∈ chinese) (hb : b ∈ chinese) :
    twin? a = some b := by
  revert hne ha hb
  cases a <;> cases b <;> decide

theorem getD_mem_zip {a b : Language} {i : Nat} (hi : i < 2048) :
    ((publishedList a).getD i [], (publishedList b).getD i []) ∈
      (spelledList a).zip (spelledList b) := by
  have ha : i < (publishedList a).length := by rwa [publishedList_length]
  have hb : i < (publishedList b).length := by rwa [publishedList_length]
  rw [← publishedList_eq, ← publishedList_eq, List.getD_eq_getElem _ _ ha, List.getD_eq_getElem _ _ hb,
    ← List.getElem_zip (h := List.length_zip ▸ lt_min ha hb)]
  exact List.getElem_mem _

theorem english_getD_ne_french {i : Nat} (hi : i < 2048) :
    (publishedList .english).getD i [] ≠ (publishedList .french).getD i [] := by
  exact bne_iff_ne.mp (List.all_eq_true.mp spelledLists_checked.2.1 _ (getD_mem_zip hi))

theorem getD_ne_of_twin {a b : Language} (h : twin? a = some b)
    (hout : ¬ (a ∈ chinese ∧ b ∈ chinese)) {i : Nat} (hi : i < 2048) :
    (publishedList a).getD i [] ≠ (publishedList b).getD i [] := by
  cases a <;> cases h
  · exact english_getD_ne_french hi
  · exact (english_getD_ne_french hi).symm
  · exact absurd (by decide) hout
  · exact absurd (by decide) hout

theorem chinese_getD_eq {a b : Language} (ha : a ∈ chinese) (hb : b ∈ chinese) {i : Nat} (hi : i < 2048)
    (hmem : (publishedList a).getD i [] ∈ publishedList b) :
    (publishedList b).getD i [] = (publishedList a).getD i [] := by
  have hlists := List.all_eq_true.mp spelledLists_checked.2.2 a ha
  have hpair := List.all_eq_true.mp (List.all_eq_true.mp hlists b hb) _ (getD_mem_zip hi)
  rw [mayBeIn_of_mem (List.mem_singleton_self b) hmem, Bool.not_true, Bool.or_false, beq_iff_eq] at hpair
  exact hpair.symm

end Credentials.Mnemonic
