import Credentials.Proofs.Phrases
import Mathlib.Data.List.Forall2

/-! What the character tables leave alone. Word lists are made of few kinds of characters, and no
entry of a table speaks of any of these, combining classes of marks apart. Nor does one speak of
white space, the table apart that decomposes it. -/

namespace Credentials.Text

/-- Texts as characters. A text is one literal to the kernel; once it is spelled out, a check of its
characters is an evaluation. -/
def Spells (texts : List String) (list : List (List Char)) : Prop :=
  List.Forall₂ (fun text s => text = String.ofList s) texts list

theorem Spells.map_toList {texts : List String} {list : List (List Char)} (h : Spells texts list) :
    texts.map String.toList = list := by
  induction h with
  | nil => rfl
  | cons htext _ ih => rw [List.map_cons, htext, String.toList_ofList, ih]

def bitSet (ranges : List (Nat × Nat)) : Nat :=
  ranges.foldl (fun set r => set ||| (2 ^ (r.2 - r.1 + 1) - 1) <<< r.1) 0

theorem testBit_bitSet_iff {ranges : List (Nat × Nat)} {n : Nat} :
    (bitSet ranges).testBit n = true ↔ ∃ r ∈ ranges, r.1 ≤ n ∧ n ≤ r.1 + (r.2 - r.1) := by
  have hfold : ∀ set : Nat,
      (ranges.foldl (fun set r => set ||| (2 ^ (r.2 - r.1 + 1) - 1) <<< r.1) set).testBit n = true ↔
        set.testBit n = true ∨ ∃ r ∈ ranges, r.1 ≤ n ∧ n ≤ r.1 + (r.2 - r.1) := by
    induction ranges with
    | nil => simp
    | cons r ranges ih =>
      intro set
      have hr : r.1 ≤ n ∧ n - r.1 < r.2 - r.1 + 1 ↔ r.1 ≤ n ∧ n ≤ r.1 + (r.2 - r.1) := by omega
      rw [List.foldl_cons, ih, Nat.testBit_or, Nat.testBit_shiftLeft, Nat.testBit_two_pow_sub_one,
        Bool.or_eq_true, Bool.and_eq_true, decide_eq_true_eq, decide_eq_true_eq, hr, or_assoc,
        List.exists_mem_cons_iff]
  rw [bitSet, hfold, Nat.zero_testBit]
  simp

namespace Span

def avoids (e : Span) (set : Nat) : Bool := (set >>> e.first) % 2 ^ (e.last - e.first + 1) == 0

theorem not_mem_entries {e : Span} {set n : Nat} (h : e.avoids set = true)
    (hn : set.testBit n = true) : n ∉ e.entries.map Prod.fst := by
  intro hmem
  simp only [entries, List.map_map, List.mem_map, List.mem_range, Function.comp_apply] at hmem
  obtain ⟨i, hi, rfl⟩ := hmem
  have hle : i * e.step ≤ e.last - e.first :=
    (Nat.mul_le_mul_right _ (Nat.lt_succ_iff.mp hi)).trans (Nat.div_mul_le_self _ _)
  have hbit := congrArg (Nat.testBit · (i * e.step)) (beq_iff_eq.mp h)
  simp only [Nat.testBit_mod_two_pow, Nat.testBit_shiftRight, hn, Nat.zero_testBit, Bool.and_true,
    decide_eq_false_iff_not] at hbit
  omega

theorem contains_eq_false {e : Span} {set n : Nat} (h : e.avoids set = true)
    (hn : set.testBit n = true) : e.contains n = false := by
  refine Bool.eq_false_iff.mpr fun hin => ?_
  rw [contains, Bool.and_eq_true, decide_eq_true_eq, decide_eq_true_eq] at hin
  have hbit := congrArg (Nat.testBit · (n - e.first)) (beq_iff_eq.mp h)
  simp only [Nat.testBit_mod_two_pow, Nat.testBit_shiftRight, Nat.add_sub_cancel' hin.1, hn,
    Nat.zero_testBit, Bool.and_true, decide_eq_false_iff_not] at hbit
  omega

end Span

theorem foldl_insertMany_none {f : Span → List (Nat × List Nat)} {spans : List Span} {n : Nat}
    {t : Std.HashMap Nat (List Nat)} (ht : t[n]? = none)
    (h : ∀ e ∈ spans, n ∉ (f e).map Prod.fst) :
    (spans.foldl (fun t e => t.insertMany (f e)) t)[n]? = none := by
  induction spans generalizing t with
  | nil => exact ht
  | cons e spans ih =>
    rw [List.foldl_cons]
    refine ih ?_ fun e he => h e (List.mem_cons_of_mem _ he)
    rw [Std.HashMap.getElem?_insertMany_list_of_contains_eq_false, ht]
    simpa using h e List.mem_cons_self

section
set_option maxRecDepth 16000

-- the characters are found by unifying each text with its letters

noncomputable def lowerCaseSpelled : { list // Spells lowerCaseData list } :=
  ⟨_, by unfold lowerCaseData Spells; repeat' constructor⟩

noncomputable def casedSpelled : { list // Spells casedData list } :=
  ⟨_, by unfold casedData Spells; repeat' constructor⟩

noncomputable def caseIgnorableSpelled : { list // Spells caseIgnorableData list } :=
  ⟨_, by unfold caseIgnorableData Spells; repeat' constructor⟩

noncomputable def markClassSpelled : { list // Spells markClassData list } :=
  ⟨_, by unfold markClassData Spells; repeat' constructor⟩

noncomputable def scriptSpelled : { list // Spells scriptData list } :=
  ⟨_, by unfold scriptData Spells; repeat' constructor⟩

noncomputable def symbolSpelled : { list // Spells symbolData list } :=
  ⟨_, by unfold symbolData Spells; repeat' constructor⟩

noncomputable def formSpelled : { list // Spells formData list } :=
  ⟨_, by unfold formData Spells; repeat' constructor⟩

noncomputable def supplementarySpelled : { list // Spells supplementaryData list } :=
  ⟨_, by unfold supplementaryData Spells; repeat' constructor⟩

end

/-- Characters past ASCII that words are made of: ideographs, the parts of Hangul syllables, and
kana without a sound mark. -/
def bases : List (Nat × Nat) :=
  [(0x4e00, 0x9fff), (0x1100, 0x1112), (0x1161, 0x1175), (0x11a8, 0x11c2), (0x3042, 0x3044),
   (0x3046, 0x3046), (0x3048, 0x3048), (0x304a, 0x304b), (0x304d, 0x304d), (0x304f, 0x304f),
   (0x3051, 0x3051), (0x3053, 0x3053), (0x3055, 0x3055), (0x3057, 0x3057), (0x3059, 0x3059),
   (0x305b, 0x305b), (0x305d, 0x305d), (0x305f, 0x305f), (0x3061, 0x3061), (0x3063, 0x3064),
   (0x3066, 0x3066), (0x3068, 0x3068), (0x306a, 0x306f), (0x3072, 0x3072), (0x3075, 0x3075),
   (0x3078, 0x3078), (0x307b, 0x307b), (0x307e, 0x308d), (0x308f, 0x308f), (0x3093, 0x3093)]

def marks : List (Nat × Nat) := [(0x300, 0x303), (0x3099, 0x309a)]

def blanks : List (Nat × Nat) :=
  [(0x85, 0x85), (0xa0, 0xa0), (0x1680, 0x1680), (0x2000, 0x200a), (0x2028, 0x2029),
   (0x202f, 0x202f), (0x205f, 0x205f), (0x3000, 0x3000)]

def spares (set : Nat) (entries : List (List Char)) : Bool :=
  (entries.map Span.ofText).all (·.avoids set)

theorem tables_spare :
    spares (bitSet (bases ++ marks)) lowerCaseSpelled = true ∧
      spares (bitSet bases) markClassSpelled = true ∧
      spares (bitSet (bases ++ marks)) scriptSpelled = true ∧
      spares (bitSet (bases ++ marks)) symbolSpelled = true ∧
      spares (bitSet (bases ++ marks)) formSpelled = true ∧
      spares (bitSet (bases ++ marks)) supplementarySpelled = true := by
  refine ⟨?_, ?_, ?_, ?_, ?_, ?_⟩ <;> decide +kernel

theorem tables_spare_blanks :
    spares (bitSet blanks) lowerCaseSpelled = true ∧ spares (bitSet blanks) casedSpelled = true ∧
      spares (bitSet blanks) caseIgnorableSpelled = true ∧
      spares (bitSet blanks) markClassSpelled = true := by
  refine ⟨?_, ?_, ?_, ?_⟩ <;> decide +kernel

theorem avoids_of_spares {data : List String} {list : List (List Char)} {set : Nat}
    (hs : Spells data list) (h : spares set list = true) :
    ∀ e ∈ Span.spans data, e.avoids set = true := by
  have hspans : Span.spans data = list.map Span.ofText := by
    rw [← hs.map_toList, List.map_map]
    rfl
  rw [hspans]
  exact List.all_eq_true.mp h

theorem not_contains_of_spares {data : List String} {list : List (List Char)} {set n : Nat}
    (hs : Spells data list) (h : spares set list = true) (hn : set.testBit n = true) :
    ((Span.spans data).any (·.contains n)) = false := by
  refine List.any_eq_false.mpr fun e he => ?_
  rw [Span.contains_eq_false (avoids_of_spares hs h e he) hn]
  decide

variable {c : Char} {set : Nat}

theorem lowerCaseTable_none (hset : spares set lowerCaseSpelled = true)
    (h : set.testBit c.toNat = true) : lowerCaseTable[c.toNat]? = none := by
  have havoids := avoids_of_spares lowerCaseSpelled.2 hset
  exact foldl_insertMany_none Std.HashMap.getElem?_empty
    fun e he => Span.not_mem_entries (havoids e he) h

theorem decompositionTable_none (h : (bitSet (bases ++ marks)).testBit c.toNat = true) :
    decompositionTable[c.toNat]? = none := by
  obtain ⟨-, -, hscript, hsymbol, hform, hsupplementary⟩ := tables_spare
  have havoids : ∀ e ∈ Span.spans decompositionData, e.avoids (bitSet (bases ++ marks)) = true := by
    simp only [Span.spans, decompositionData, List.map_append, List.forall_mem_append]
    exact ⟨⟨⟨avoids_of_spares scriptSpelled.2 hscript, avoids_of_spares symbolSpelled.2 hsymbol⟩,
      avoids_of_spares formSpelled.2 hform⟩, avoids_of_spares supplementarySpelled.2 hsupplementary⟩
  exact foldl_insertMany_none Std.HashMap.getElem?_empty
    fun e he => Span.not_mem_entries (havoids e he) h

theorem markClass_eq_zero (hset : spares set markClassSpelled = true)
    (h : set.testBit c.toNat = true) : markClass c = 0 := by
  have havoids := avoids_of_spares markClassSpelled.2 hset
  have hnone : markClassTable[c.toNat]? = none := by
    refine foldl_insertMany_none Std.HashMap.getElem?_empty fun e he => ?_
    have hkeys := Span.not_mem_entries (havoids e he) h
    rwa [List.map_map]
  rw [markClass, hnone]
  split <;> rfl

/-- A character that a typed word keeps as it is. -/
structure IsSteady (c : Char) : Prop where
  not_blank : isBlank c = false
  not_sigma : c ≠ 'Σ'
  lowerChar : lowerChar c = [c]
  decomposeChar : decomposeChar c = [c]

theorem isSteady_of_testBit (h : (bitSet (bases ++ marks)).testBit c.toNat = true) : IsSteady c := by
  obtain ⟨r, hr, hlow, hhigh⟩ := testBit_bitSet_iff.mp h
  have hbounds : ∀ r ∈ bases ++ marks, 0x300 ≤ r.1 ∧ r.1 + (r.2 - r.1) < 0xac00 ∧
      (r.1 + (r.2 - r.1) < 0x1680 ∨ 0x3000 < r.1) := by decide
  have := hbounds r hr
  have hblank : isBlank c = false := by
    simp only [isBlank, Bool.or_eq_false_iff, Bool.and_eq_false_iff, beq_eq_false_iff_ne,
      decide_eq_false_iff_not]
    omega
  refine ⟨hblank, ?_, ?_, ?_⟩
  · rintro rfl
    exact absurd h (by decide +kernel)
  · rw [lowerChar, if_neg (by omega), lowerCaseTable_none tables_spare.1 h]
  · rw [decomposeChar, if_neg (by omega), hblank, if_neg (by decide), if_neg (by omega),
      decompositionTable_none h]

theorem isSteady_letter (hlow : 0x61 ≤ c.toNat) (hhigh : c.toNat ≤ 0x7a) : IsSteady c where
  not_blank := by
    simp only [isBlank, Bool.or_eq_false_iff, Bool.and_eq_false_iff, beq_eq_false_iff_ne,
      decide_eq_false_iff_not]
    omega
  not_sigma := by
    rintro rfl
    exact absurd hhigh (by decide)
  lowerChar := by
    have hsmall : ¬ (c.val ≥ 65 ∧ c.val ≤ 90) := by
      rintro ⟨-, hle⟩
      have hle : c.toNat ≤ 90 := UInt32.le_iff_toNat_le.mp hle
      omega
    have hlower : c.toLower = c := dif_neg hsmall
    rw [lowerChar, if_pos (by omega), hlower]
  decomposeChar := by rw [decomposeChar, if_pos (by omega)]

def isLetter (c : Char) : Bool :=
  (0x61 ≤ c.toNat && c.toNat ≤ 0x7a) || (bitSet bases).testBit c.toNat

/-- Whether a text consists of letters, with one mark at most on each. -/
def isWritten (marked : Bool) : List Char → Bool
  | [] => true
  | c :: s =>
    if isLetter c then isWritten false s
    else !marked && (bitSet marks).testBit c.toNat && isWritten true s

theorem isSteady_of_isLetter (h : isLetter c = true) : IsSteady c ∧ markClass c = 0 := by
  rw [isLetter, Bool.or_eq_true, Bool.and_eq_true, decide_eq_true_eq, decide_eq_true_eq] at h
  rcases h with ⟨hlow, hhigh⟩ | hbase
  · exact ⟨isSteady_letter hlow hhigh, if_pos (by omega)⟩
  · obtain ⟨r, hr, hn⟩ := testBit_bitSet_iff.mp hbase
    refine ⟨isSteady_of_testBit (testBit_bitSet_iff.mpr ⟨r, ?_, hn⟩), markClass_eq_zero tables_spare.2.1 hbase⟩
    exact List.mem_append_left _ hr

/-- A mark stands behind a letter and so in front of one, which keeps marks where they are. -/
theorem isWritten_spec {marked : Bool} {s : List Char} (h : isWritten marked s = true) :
    (∀ c ∈ s, IsSteady c) ∧ orderMarks s = s ∧ (marked = true → ∀ d ∈ s.head?, markClass d = 0) := by
  induction s generalizing marked with
  | nil => exact ⟨List.forall_mem_nil _, rfl, nofun⟩
  | cons c s ih =>
    rw [isWritten] at h
    have hcons : orderMarks (c :: s) = insertMark c (orderMarks s) := rfl
    split at h
    · rename_i hletter
      obtain ⟨hsteady, hclass⟩ := isSteady_of_isLetter hletter
      obtain ⟨hs, hordered, -⟩ := ih h
      refine ⟨List.forall_mem_cons.mpr ⟨hsteady, hs⟩, ?_, fun _ d hd => ?_⟩
      · rw [hcons, hordered, insertMark_eq_cons (.inl hclass)]
      · exact Option.some.inj hd ▸ hclass
    · rw [Bool.and_eq_true, Bool.and_eq_true, Bool.not_eq_true'] at h
      obtain ⟨⟨hmarked, hmark⟩, hrest⟩ := h
      obtain ⟨r, hr, hn⟩ := testBit_bitSet_iff.mp hmark
      have hsteady := isSteady_of_testBit
        (testBit_bitSet_iff.mpr ⟨r, List.mem_append_right bases hr, hn⟩)
      obtain ⟨hs, hordered, hhead⟩ := ih hrest
      refine ⟨List.forall_mem_cons.mpr ⟨hsteady, hs⟩, ?_, fun htrue => ?_⟩
      · rw [hcons, hordered, insertMark_eq_cons (.inr (hhead rfl))]
      · rw [htrue] at hmarked
        cases hmarked

theorem lowerCase_of_isWritten {s : List Char} (h : isWritten false s = true) : lowerCase s = s := by
  obtain ⟨hs, -⟩ := isWritten_spec h
  exact lowerCase_eq_self fun c hc => ⟨(hs c hc).not_sigma, (hs c hc).lowerChar⟩

theorem decompose_of_isWritten {s : List Char} (h : isWritten false s = true) : decompose s = s := by
  obtain ⟨hs, hordered, -⟩ := isWritten_spec h
  rw [decompose, List.flatMap_congr fun c hc => (hs c hc).decomposeChar, List.flatMap_singleton',
    hordered]

theorem isBlank_iff : isBlank c = true ↔
    c.toNat ∈ [0x9, 0xa, 0xb, 0xc, 0xd, 0x20] ∨ (bitSet blanks).testBit c.toNat = true := by
  simp only [isBlank, testBit_bitSet_iff, blanks, Bool.or_eq_true, Bool.and_eq_true, beq_iff_eq,
    decide_eq_true_eq, List.mem_cons, List.not_mem_nil, or_false, exists_eq_or_imp, exists_eq_left]
  omega

theorem isBreak_of_isBlank (h : isBlank c = true) : IsBreak c ∧ markClass c = 0 := by
  rcases isBlank_iff.mp h with hascii | hwide
  · have hall : ∀ n ∈ [0x9, 0xa, 0xb, 0xc, 0xd, 0x20], isCased (Char.ofNat n) = false ∧
        isCaseIgnorable (Char.ofNat n) = false ∧ (Char.ofNat n).toLower = Char.ofNat n := by
      decide
    obtain ⟨hcased, hignorable, hlower⟩ := hall _ hascii
    rw [Char.ofNat_toNat] at hcased hignorable hlower
    have hlt : c.toNat < 0x80 := by
      have hsmall : ∀ n ∈ [0x9, 0xa, 0xb, 0xc, 0xd, 0x20], n < 0x80 := by decide
      exact hsmall _ hascii
    refine ⟨⟨?_, hcased, hignorable, ?_⟩, if_pos (by omega)⟩
    · rintro rfl
      exact absurd hlt (by decide)
    · rw [lowerChar, if_pos hlt, hlower]
  · obtain ⟨hlower, hcased, hignorable, hmarks⟩ := tables_spare_blanks
    have hge : 0x80 ≤ c.toNat := by
      obtain ⟨r, hr, hlow, -⟩ := testBit_bitSet_iff.mp hwide
      have hall : ∀ r ∈ blanks, 0x80 ≤ r.1 := by decide
      exact (hall r hr).trans hlow
    refine ⟨⟨?_, ?_, ?_, ?_⟩, markClass_eq_zero hmarks hwide⟩
    · rintro rfl
      exact absurd hwide (by decide +kernel)
    · rw [isCased, if_neg (by omega)]
      exact not_contains_of_spares casedSpelled.2 hcased hwide
    · rw [isCaseIgnorable, if_neg (by omega)]
      exact not_contains_of_spares caseIgnorableSpelled.2 hignorable hwide
    · rw [lowerChar, if_neg (by omega), lowerCaseTable_none hlower hwide]

theorem exists_decomposeChar_of_isBlank (h : isBlank c = true) :
    ∃ d, decomposeChar c = [d] ∧ isBlank d = true ∧ markClass d = 0 := by
  obtain ⟨-, hclass⟩ := isBreak_of_isBlank h
  by_cases hlt : c.toNat < 0x80
  · exact ⟨c, if_pos hlt, h, hclass⟩
  · refine ⟨decomposeBlank c, ?_, ?_⟩
    · rw [decomposeChar, if_neg hlt, if_pos h]
    · rw [decomposeBlank]
      split
      · exact ⟨h, hclass⟩
      · exact ⟨rfl, rfl⟩

end Credentials.Text
