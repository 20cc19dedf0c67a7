import Credentials.Proofs.PublishedPhrases
import Mathlib.Logic.Relation

/-! Typing a phrase in another way. How much white space there is and of which kind, and whether ASCII
letters are capitals, is lost when the words of a phrase are taken: white space stops every rule that
looks at what is around a character, and the rules do not tell a capital from a small letter. -/

namespace Credentials

namespace Text

/-- One way of typing a text differently. -/
inductive Retyping : List Char → List Char → Prop
  | gap (a s : List Char) {gap gap' : List Char} : gap ≠ [] → gap' ≠ [] →
      (∀ c ∈ gap, isBlank c = true) → (∀ c ∈ gap', isBlank c = true) →
      Retyping (a ++ gap ++ s) (a ++ gap' ++ s)
  | lead (s : List Char) {edge : List Char} : (∀ c ∈ edge, isBlank c = true) →
      Retyping s (edge ++ s)
  | trail (s : List Char) {edge : List Char} : (∀ c ∈ edge, isBlank c = true) →
      Retyping s (s ++ edge)
  | letters {s s' : List Char} : s.map Char.toLower = s'.map Char.toLower → Retyping s s'

variable {before s : List Char}

/-- An ASCII letter and its small letter are one to the rules of case. -/
theorem toLower_spec (c : Char) : isCased c.toLower = isCased c ∧
    isCaseIgnorable c.toLower = isCaseIgnorable c ∧ lowerChar c.toLower = lowerChar c ∧
    (c.toLower = 'Σ' ↔ c = 'Σ') := by
  by_cases hlt : c.toNat < 0x80
  · have hall : ∀ n < 0x80, isCased (Char.ofNat n).toLower = isCased (Char.ofNat n) ∧
        isCaseIgnorable (Char.ofNat n).toLower = isCaseIgnorable (Char.ofNat n) ∧
        lowerChar (Char.ofNat n).toLower = lowerChar (Char.ofNat n) ∧
        ((Char.ofNat n).toLower = 'Σ' ↔ Char.ofNat n = 'Σ') := by decide +kernel
    have hc := hall c.toNat hlt
    rwa [Char.ofNat_toNat] at hc
  · have hlarge : ¬ (c.val ≥ 65 ∧ c.val ≤ 90) := by
      rintro ⟨-, hle⟩
      have hle : c.toNat ≤ 90 := UInt32.le_iff_toNat_le.mp hle
      omega
    have hsame : c.toLower = c := dif_neg hlarge
    rw [hsame]
    exact ⟨rfl, rfl, rfl, Iff.rfl⟩

theorem meetsCased_map_toLower : meetsCased (s.map Char.toLower) = meetsCased s := by
  induction s with
  | nil => rfl
  | cons c s ih =>
    obtain ⟨hcased, hignorable, -⟩ := toLower_spec c
    unfold meetsCased at ih ⊢
    rw [List.map_cons, List.find?_cons, List.find?_cons, hignorable]
    cases isCaseIgnorable c with
    | true => exact ih
    | false => exact hcased

theorem lowerCaseAfter_map_toLower :
    lowerCaseAfter (before.map Char.toLower) (s.map Char.toLower) = lowerCaseAfter before s := by
  induction s generalizing before with
  | nil => rfl
  | cons c s ih =>
    obtain ⟨-, -, hlower, hsigma⟩ := toLower_spec c
    rw [List.map_cons, lowerCaseAfter, lowerCaseAfter, lowerSigma, lowerSigma,
      meetsCased_map_toLower, meetsCased_map_toLower, ← List.map_cons, ih, hlower]
    simp only [hsigma]

theorem lowerCase_map_toLower (s : List Char) : lowerCase (s.map Char.toLower) = lowerCase s :=
  @lowerCaseAfter_map_toLower [] s

end Text

namespace Mnemonic.Scheme

open Text (Retyping isBlank)

variable {b : Char} {edge s s' : List Char}

theorem phraseWords_append (hb : isBlank b = true) (a s : List Char) :
    phraseWords (a ++ b :: s) = phraseWords a ++ phraseWords s := by
  obtain ⟨hbreak, -⟩ := Text.isBreak_of_isBlank hb
  obtain ⟨d, hd, hblank, hclass⟩ := Text.exists_decomposeChar_of_isBlank hb
  rw [phraseWords, Text.lowerCase_append hbreak, Text.decompose_append hd hclass, Text.words,
    Text.runs_append _ hblank]
  rfl

theorem phraseWords_lead (h : ∀ c ∈ edge, isBlank c = true) (s : List Char) :
    phraseWords (edge ++ s) = phraseWords s := by
  induction edge with
  | nil => rfl
  | cons b edge ih =>
    obtain ⟨hb, hedge⟩ := List.forall_mem_cons.mp h
    rw [List.cons_append, ← List.nil_append (b :: (edge ++ s)), phraseWords_append hb, ih hedge]
    rfl

/-- White space parts the words, however much of it there is. -/
theorem phraseWords_gap (hne : edge ≠ []) (h : ∀ c ∈ edge, isBlank c = true) (a s : List Char) :
    phraseWords (a ++ edge ++ s) = phraseWords a ++ phraseWords s := by
  obtain ⟨b, edge, rfl⟩ := List.exists_cons_of_ne_nil hne
  obtain ⟨hb, hedge⟩ := List.forall_mem_cons.mp h
  rw [List.append_assoc, List.cons_append, phraseWords_append hb, phraseWords_lead hedge]

theorem phraseWords_trail (h : ∀ c ∈ edge, isBlank c = true) (s : List Char) :
    phraseWords (s ++ edge) = phraseWords s := by
  cases edge with
  | nil => rw [List.append_nil]
  | cons b edge =>
    have hgap := phraseWords_gap (List.cons_ne_nil b edge) h s []
    rw [List.append_nil] at hgap
    rw [hgap]
    exact List.append_nil _

theorem phraseWords_of_retyping (h : Retyping s s') : phraseWords s = phraseWords s' := by
  cases h with
  | gap a s hne hne' hgap hgap' => rw [phraseWords_gap hne hgap, phraseWords_gap hne' hgap']
  | lead s hedge => exact (phraseWords_lead hedge s).symm
  | trail s hedge => exact (phraseWords_trail hedge s).symm
  | letters hsame =>
    rw [phraseWords, phraseWords, ← Text.lowerCase_map_toLower s, hsame, Text.lowerCase_map_toLower]

theorem phraseWords_of_retyped (h : Relation.EqvGen Retyping s s') :
    phraseWords s = phraseWords s' := by
  induction h with
  | rel _ _ hstep => exact phraseWords_of_retyping hstep
  | refl => rfl
  | symm _ _ _ ih => exact ih.symm
  | trans _ _ _ _ _ ih₁ ih₂ => exact ih₁.trans ih₂

/-- A phrase, valid or not, is read as the same bytes or refused for the same reason in whichever
way it is typed. -/
theorem decode_of_retyped (scheme : Scheme) (language : Language) {phrase typed : String}
    (h : Relation.EqvGen Retyping phrase.toList typed.toList) :
    scheme.decode language typed = scheme.decode language phrase ∧
      ∀ expected, scheme.decodeExact language typed expected =
        scheme.decodeExact language phrase expected := by
  have hdecode : scheme.decode language typed = scheme.decode language phrase := by
    rw [decode, decode, phraseWords_of_retyped h]
  refine ⟨hdecode, fun expected => ?_⟩
  rw [decodeExact, decodeExact, hdecode]

/-- Sixteen zeros in English, and one way of typing them. -/
def abandon : String :=
  "abandon abandon abandon abandon abandon abandon abandon abandon abandon abandon abandon about"

def abandonTyped : String :=
  "\u2003 ABANDON\u00a0\tabandon abandon abandon abandon abandon abandon abandon abandon " ++
    "abandon abandon About\n"

theorem decode_abandon : published.decode .english abandon = .ok (List.replicate 16 0) := by
  have hlist := isWordList_wordList .english
  have hdigest := published_digest_length (List.replicate 16 0)
  have hindices : indicesOf Digest.Sha256.digest (List.replicate 16 0) =
      List.replicate 11 0 ++ [3] := by decide +kernel
  have hwords : published.encodeWords .english (List.replicate 16 0) =
      .ok (List.replicate 11 "abandon".toList ++ ["about".toList]) :=
    encodeWords_of_indices (by decide) hindices (by decide +kernel)
  have hencode : published.encode .english (List.replicate 16 0) = .ok abandon :=
    encode_ok_iff.mpr ⟨_, hwords, rfl⟩
  exact decodeWords_encodeWords hlist hdigest (encodeWords_of_encode hlist hdigest hencode)

def abandonInner : List Char :=
  "ABANDON".toList ++ ['\u00a0', '\t'] ++
    "abandon abandon abandon abandon abandon abandon abandon abandon abandon abandon About".toList

theorem abandon_retyped : Relation.EqvGen Retyping abandon.toList abandonTyped.toList := by
  have hspace : ∀ c ∈ [' '], isBlank c = true := List.all_eq_true.mp (by decide)
  have hgaps : ∀ c ∈ ['\u00a0', '\t'], isBlank c = true := List.all_eq_true.mp (by decide)
  have hfront : ∀ c ∈ ['\u2003', ' '], isBlank c = true := List.all_eq_true.mp (by decide)
  have hend : ∀ c ∈ ['\n'], isBlank c = true := List.all_eq_true.mp (by decide)
  have hletters : Retyping abandon.toList ("ABANDON".toList ++ [' '] ++ abandonInner.drop 9) :=
    .letters (by decide +kernel)
  have hgap : Retyping ("ABANDON".toList ++ [' '] ++ abandonInner.drop 9) abandonInner :=
    .gap _ _ (List.cons_ne_nil _ _) (List.cons_ne_nil _ _) hspace hgaps
  have hlead : Retyping abandonInner (['\u2003', ' '] ++ abandonInner) := .lead _ hfront
  have htrail : Retyping (['\u2003', ' '] ++ abandonInner)
      (['\u2003', ' '] ++ abandonInner ++ ['\n']) := .trail _ hend
  have htyped : abandonTyped.toList = ['\u2003', ' '] ++ abandonInner ++ ['\n'] := by
    decide +kernel
  rw [htyped]
  exact .trans _ _ _ (.rel _ _ hletters) <| .trans _ _ _ (.rel _ _ hgap) <|
    .trans _ _ _ (.rel _ _ hlead) (.rel _ _ htrail)

theorem decode_of_retyped_abandon :
    Relation.EqvGen Retyping abandon.toList abandonTyped.toList ∧
      published.decode .english abandonTyped = .ok (List.replicate 16 0) :=
  ⟨abandon_retyped, (decode_of_retyped published .english abandon_retyped).1.trans decode_abandon⟩

end Mnemonic.Scheme

end Credentials
