import Credentials.Proofs.PublishedPhrases

/-! The language of a phrase without elimination. Dropping candidates word after word, and stopping
as soon as one is left, finds the language that is the only one to have every word; where it stops
too early, at a language that lacks a later word, no language has them all. -/

namespace Credentials.Mnemonic.Scheme

variable {scheme : Scheme} {language : Language} {candidates : List Language} {ws : List Word}

def Knows (scheme : Scheme) (language : Language) (ws : List Word) : Prop :=
  ∀ w ∈ ws, w ∈ scheme.wordList language

/-- The language that words are written in, said of all of them at once. -/
inductive Writes (scheme : Scheme) (ws : List Word) : Language → Prop
  /-- The first of the distinctive languages that has the first word. -/
  | distinctive {language : Language} {w : Word} {before after : List Language} :
      ws.head? = some w → distinctive = before ++ language :: after →
      w ∈ scheme.wordList language → (∀ l ∈ before, w ∉ scheme.wordList l) →
      Writes scheme ws language
  /-- If no distinctive language has it, the only one of the others that has every word. -/
  | overlapping {language : Language} :
      (∀ l ∈ distinctive, ∀ w ∈ ws.head?, w ∉ scheme.wordList l) → language ∈ overlapping →
      scheme.Knows language ws → (∀ l ∈ overlapping, scheme.Knows l ws → l = language) →
      Writes scheme ws language

theorem spec_of_narrow (h : scheme.narrow candidates ws = some language) :
    language ∈ candidates ∧ ∀ l ∈ candidates, scheme.Knows l ws → l = language := by
  induction ws generalizing candidates with
  | nil => cases h
  | cons w ws ih =>
    have hkept : ∀ l ∈ candidates, scheme.Knows l (w :: ws) →
        l ∈ candidates.filter (scheme.contains · w) := by
      intro l hl hknows
      exact mem_filter_of_word hl (hknows w List.mem_cons_self)
    unfold narrow at h
    split at h
    · cases h
    · rename_i l hone
      cases h
      refine ⟨List.mem_of_mem_filter (hone ▸ List.mem_singleton_self language), fun l hl hknows => ?_⟩
      exact List.mem_singleton.mp (hone ▸ hkept l hl hknows)
    · obtain ⟨hmem, hunique⟩ := ih h
      refine ⟨List.mem_of_mem_filter hmem, fun l hl hknows => ?_⟩
      exact hunique l (hkept l hl hknows) fun v hv => hknows v (List.mem_cons_of_mem _ hv)

theorem narrow_eq_some_iff (hnodup : candidates.Nodup) (hne : ws ≠ [])
    (hknows : scheme.Knows language ws) :
    scheme.narrow candidates ws = some language ↔
      language ∈ candidates ∧ ∀ l ∈ candidates, scheme.Knows l ws → l = language := by
  refine ⟨spec_of_narrow, fun ⟨hmem, hunique⟩ => narrow_eq_some hnodup hmem hne hknows ?_⟩
  intro l hl hother
  by_contra hall
  push Not at hall
  exact hother (hunique l hl hall)

theorem detect_eq_some_iff (hne : ws ≠ []) (hknows : scheme.Knows language ws) :
    scheme.detect ws = some language ↔ scheme.Writes ws language := by
  obtain ⟨w, rest, rfl⟩ := List.exists_cons_of_ne_nil hne
  unfold detect
  constructor
  · intro h
    split at h
    · rename_i l hfound
      cases h
      obtain ⟨hhas, before, after, hsplit, hbefore⟩ := List.find?_eq_some_iff_append.mp hfound
      have hlacks : ∀ l ∈ before, w ∉ scheme.wordList l := by
        intro l hl hmem
        have hnot := hbefore l hl
        simp [contains, hmem] at hnot
      exact .distinctive rfl hsplit (hknows w List.mem_cons_self) hlacks
    · rename_i hnone
      obtain ⟨hmem, hunique⟩ := spec_of_narrow h
      refine .overlapping (fun l hl v hv hmem => ?_) hmem hknows hunique
      exact List.find?_eq_none.mp hnone l hl (head_any_iff.mpr ⟨v, hv, hmem⟩)
  · intro h
    cases h with
    | distinctive hhead hsplit hmem hbefore =>
      obtain rfl := Option.some.inj hhead
      have hfound : Scheme.distinctive.find? (fun l => (w :: rest).head?.any (scheme.contains l)) =
          some language := by
        refine List.find?_eq_some_iff_append.mpr ⟨head_any_iff.mpr ⟨w, rfl, hmem⟩, _, _, hsplit, ?_⟩
        intro l hl
        simp [contains, hbefore l hl]
      rw [hfound]
    | overlapping hfirst hmem _ hunique =>
      have hnone : Scheme.distinctive.find? (fun l => (w :: rest).head?.any (scheme.contains l)) =
          none := by
        refine List.find?_eq_none.mpr fun l hl hany => ?_
        obtain ⟨v, hv, hmem⟩ := head_any_iff.mp hany
        exact hfirst l hl v hv hmem
      rw [hnone]
      exact (narrow_eq_some_iff (by decide) hne hknows).mpr ⟨hmem, hunique⟩

theorem firstUnknown_append {known rest : List Word} {w : Word}
    (hknown : scheme.Knows language known) (hw : w ∉ scheme.wordList language) :
    scheme.firstUnknown language (known ++ w :: rest) = some known.length := by
  have hnone : known.findIdx? (fun v => !scheme.contains language v) = none :=
    firstUnknown_eq_none_iff.mpr hknown
  have hhead : (!scheme.contains language w) = true := by simp [contains, hw]
  rw [firstUnknown, List.findIdx?_append, hnone, List.findIdx?_cons, hhead]
  simp

theorem verify_cases (scheme : Scheme) (language : Language) (ws : List Word) :
    scheme.verify language ws = .error .checksum ∨
      ∃ bytes, scheme.verify language ws = .ok bytes := by
  unfold verify
  dsimp only
  split
  · exact .inr ⟨_, rfl⟩
  · exact .inl rfl

theorem isPhraseLength_of_mem {count : Nat} (h : count ∈ [12, 15, 18, 21, 24]) :
    isPhraseLength count = true := by
  revert count
  decide

theorem decodeWords_of_knows (hcount : isPhraseLength ws.length = true)
    (hknows : scheme.Knows language ws) :
    scheme.decodeWords language ws = scheme.verify language ws := by
  rw [decodeWords, hcount, firstUnknown_eq_none_iff.mpr hknows]
  rfl

/-- What becomes of a phrase with a word that the configured language lacks: the language found for
it, if it has every word. -/
theorem decodeWords_of_unknown {i : Nat} (hcount : isPhraseLength ws.length = true)
    (hunknown : scheme.firstUnknown language ws = some i) :
    (∀ l, scheme.detect ws = some l → scheme.Knows l ws →
      scheme.decodeWords language ws = scheme.verify l ws) ∧
    ((∀ l, scheme.detect ws = some l → ¬ scheme.Knows l ws) →
      scheme.decodeWords language ws = .error (.unknownWord (i + 1))) := by
  rw [decodeWords, hcount, hunknown]
  constructor
  · intro l hl hknows
    rw [hl]
    dsimp only
    rw [firstUnknown_eq_none_iff.mpr hknows]
    rfl
  · intro hno
    cases hdetect : scheme.detect ws with
    | none => rfl
    | some l =>
      have hsome : scheme.firstUnknown l ws ≠ none :=
        fun hnone => hno l hdetect (firstUnknown_eq_none_iff.mp hnone)
      obtain ⟨j, hj⟩ := Option.ne_none_iff_exists'.mp hsome
      dsimp only
      rw [hj]
      rfl

/-- A phrase with a word that the configured language lacks is read in the language it is written
in, if that one has every word, and is otherwise refused for the first such word, whichever language
was found. -/
theorem decode_of_unknown_word (scheme : Scheme) (language : Language) (phrase : String)
    {known rest : List Word} {w : Word} (hwords : phraseWords phrase.toList = known ++ w :: rest)
    (hcount : (phraseWords phrase.toList).length ∈ [12, 15, 18, 21, 24])
    (hknown : scheme.Knows language known) (hw : w ∉ scheme.wordList language) :
    (∀ l, scheme.Writes (phraseWords phrase.toList) l →
      scheme.Knows l (phraseWords phrase.toList) →
      scheme.decode language phrase = scheme.decode l phrase ∧
        (scheme.decode l phrase = .error .checksum ∨
          ∃ bytes, scheme.decode l phrase = .ok bytes)) ∧
    ((∀ l, scheme.Writes (phraseWords phrase.toList) l →
      ¬ scheme.Knows l (phraseWords phrase.toList)) →
      scheme.decode language phrase = .error (.unknownWord (known.length + 1))) := by
  have hlength := isPhraseLength_of_mem hcount
  have hne : phraseWords phrase.toList ≠ [] := by
    rw [hwords]
    simp
  have hunknown : scheme.firstUnknown language (phraseWords phrase.toList) = some known.length :=
    hwords ▸ firstUnknown_append hknown hw
  obtain ⟨hread, hrefused⟩ := decodeWords_of_unknown hlength hunknown
  constructor
  · intro l hwrites hknows
    have hl : scheme.decode l phrase = scheme.verify l (phraseWords phrase.toList) :=
      decodeWords_of_knows hlength hknows
    rw [hl]
    exact ⟨hread l ((detect_eq_some_iff hne hknows).mpr hwrites) hknows, verify_cases scheme l _⟩
  · intro hno
    refine hrefused fun l hl hknows => hno l ?_ hknows
    exact (detect_eq_some_iff hne hknows).mp hl

/-- A phrase that begins with a word of both the English and the French list and goes on in French,
and one whose third word is English again. -/
def frenchPhrase : String :=
  "abandon abaisser abaisser abaisser abaisser abaisser abaisser abaisser abaisser abaisser " ++
    "abaisser absence"

def mixedPhrase : String :=
  "abandon abaisser ability abaisser abaisser abaisser abaisser abaisser abaisser abaisser " ++
    "abaisser absence"

def frenchWords : List Word :=
  "abaisser".toList :: List.replicate 9 "abaisser".toList ++ ["absence".toList]

def mixedWords : List Word :=
  "abaisser".toList :: "ability".toList :: List.replicate 8 "abaisser".toList ++ ["absence".toList]

theorem phraseWords_french : phraseWords frenchPhrase.toList = "abandon".toList :: frenchWords := by
  decide +kernel

theorem phraseWords_mixed : phraseWords mixedPhrase.toList = "abandon".toList :: mixedWords := by
  decide +kernel

theorem encodeWords_french : published.encodeWords .french (0 :: 32 :: List.replicate 14 0) =
    .ok ("abandon".toList :: frenchWords) := by
  have hindices : indicesOf Digest.Sha256.digest (0 :: 32 :: List.replicate 14 0) =
      1 :: List.replicate 10 0 ++ [13] := by decide +kernel
  exact encodeWords_of_indices (by decide) hindices (by decide +kernel)

theorem abandon_mem_english : "abandon".toList ∈ publishedList .english := by
  rw [publishedList_eq]
  decide +kernel

theorem abaisser_not_mem_english : "abaisser".toList ∉ publishedList .english := by
  rw [publishedList_eq]
  decide +kernel

theorem eq_french {l : Language} (h : "abaisser".toList ∈ publishedList l) : l = .french := by
  have hfrench : "abaisser".toList ∈ publishedList .french := by
    rw [publishedList_eq]
    decide +kernel
  rcases eq_or_eq_of_twin (b := .english) rfl hfrench h with he | rfl
  · exact he
  · exact absurd h abaisser_not_mem_english

theorem writes_french : published.Writes ("abandon".toList :: frenchWords) .french := by
  have hknows := mem_of_encodeWords (isWordList_wordList .french) (published_digest_length _)
    encodeWords_french
  refine .overlapping (fun l hl w hw hmem => ?_) (by decide) hknows fun l _ h => ?_
  · obtain rfl := Option.some.inj hw
    rcases eq_or_eq_of_twin (b := .french) rfl abandon_mem_english hmem with rfl | rfl
    · exact absurd hl (by decide)
    · exact absurd hl (by decide)
  · exact eq_french (h _ (List.mem_cons_of_mem _ List.mem_cons_self))

theorem decode_of_unknown_word_french :
    published.Writes (phraseWords frenchPhrase.toList) .french ∧
      published.decode .english frenchPhrase = .ok (0 :: 32 :: List.replicate 14 0) ∧
      published.decode .english mixedPhrase = .error (.unknownWord 2) := by
  have hknown : published.Knows .english ["abandon".toList] := by
    rintro w hw
    rw [List.mem_singleton.mp hw]
    exact abandon_mem_english
  have hknows := mem_of_encodeWords (isWordList_wordList .french) (published_digest_length _)
    encodeWords_french
  have hbytes : published.decode .french frenchPhrase = .ok (0 :: 32 :: List.replicate 14 0) := by
    rw [decode, phraseWords_french]
    exact decodeWords_encodeWords (isWordList_wordList .french) (published_digest_length _)
      encodeWords_french
  have hcount : (phraseWords frenchPhrase.toList).length ∈ [12, 15, 18, 21, 24] := by
    rw [phraseWords_french]
    decide
  have hcount' : (phraseWords mixedPhrase.toList).length ∈ [12, 15, 18, 21, 24] := by
    rw [phraseWords_mixed]
    decide
  have hwrites := phraseWords_french.symm ▸ writes_french
  refine ⟨hwrites, ?_, ?_⟩
  · have hread := (decode_of_unknown_word published .english frenchPhrase phraseWords_french hcount
      hknown abaisser_not_mem_english).1 .french hwrites (phraseWords_french.symm ▸ hknows)
    rw [hread.1, hbytes]
  · refine (decode_of_unknown_word published .english mixedPhrase phraseWords_mixed hcount' hknown
      abaisser_not_mem_english).2 fun l _ hall => ?_
    rw [phraseWords_mixed] at hall
    obtain rfl := eq_french (hall _ (List.mem_cons_of_mem _ List.mem_cons_self))
    have hability : "ability".toList ∉ publishedList .french := by
      rw [publishedList_eq]
      decide +kernel
    exact hability (hall _ (by simp [mixedWords]))

end Credentials.Mnemonic.Scheme
