import Credentials.Proofs.OtherLanguages
import Credentials.Proofs.SharedWords

/-! Phrases in the published languages: which are read, and what becomes of a phrase once another
language is configured. -/

namespace Credentials.Mnemonic.Scheme

variable {language written configured : Language} {bytes : List UInt8} {ws : List Word}

theorem isWordList_wordList (l : Language) : IsWordList (published.wordList l) :=
  isWordList_published l

theorem published_digest_length (bytes : List UInt8) : (published.digest bytes).length = 32 :=
  Digest.Sha256.digest_length bytes

/-- The number one as 24 bytes: its words in simplified Chinese are all in the traditional list. -/
def one : List UInt8 := List.replicate 23 0 ++ [1]

def onePhrase : String := "的 的 的 的 的 的 的 的 的 的 的 的 的 的 的 的 的 事"

def oneWords : List Word := List.replicate 17 ['的'] ++ [['事']]

theorem encodeWords_of_indices {indices : List Nat} (hb : isEncodable bytes.length = true)
    (hi : indicesOf Digest.Sha256.digest bytes = indices)
    (hws : ws = indices.map ((spelledList language).getD · [])) :
    published.encodeWords language bytes = .ok ws := by
  rw [encodeWords_ok_iff, hws, ← hi, ← publishedList_eq]
  exact ⟨hb, rfl⟩

theorem encodeWords_one : published.encodeWords .chineseSimplified one = .ok oneWords := by
  have hindices : indicesOf Digest.Sha256.digest one = List.replicate 17 0 ++ [123] := by
    decide +kernel
  exact encodeWords_of_indices (by decide) hindices (by decide +kernel)

theorem encode_one : published.encode .chineseSimplified one = .ok onePhrase :=
  encode_ok_iff.mpr ⟨oneWords, encodeWords_one, rfl⟩

theorem phraseWords_one : phraseWords onePhrase.toList = oneWords := by
  have hencode := encodeWords_of_encode (isWordList_wordList .chineseSimplified)
    (published_digest_length one) encode_one
  exact Except.ok.inj (hencode.symm.trans encodeWords_one)

/-- A phrase that is read as some bytes is, in normal form, the phrase of these bytes in some
language. One whose words the configured list has is read exactly when it is a phrase in that
language, so no bytes are read from two such phrases of different words. -/
theorem decode_canonical (language : Language) (phrase : String) :
    (∀ bytes, published.decode language phrase = .ok bytes →
      ∃ l, published.encode l bytes = .ok (normalized phrase)) ∧
    ((∀ w ∈ phraseWords phrase.toList, w ∈ publishedList language) →
      (∀ bytes, published.decode language phrase = .ok bytes ↔
        bytes.length ∈ [16, 20, 24, 28, 32] ∧
          published.encode language bytes = .ok (normalized phrase)) ∧
      ∀ other bytes, (∀ w ∈ phraseWords other.toList, w ∈ publishedList language) →
        published.decode language phrase = .ok bytes → published.decode language other = .ok bytes →
          phraseWords phrase.toList = phraseWords other.toList) := by
  have hl := isWordList_wordList language
  refine ⟨?_, fun hws => ⟨?_, ?_⟩⟩
  · intro bytes h
    obtain ⟨l, -, hencode⟩ := encodeWords_of_decodeWords (fun l => (isWordList_wordList l).length) h
    exact ⟨l, encode_ok_iff.mpr ⟨_, hencode, rfl⟩⟩
  · intro bytes
    have hd := published_digest_length bytes
    rw [encode_normalized_iff hl hd, decode, decodeWords_iff_encodeWords hl hd hws]
    constructor
    · intro h
      have hlength := isEncodable_iff.mp (encodeWords_ok_iff.mp h).1
      exact ⟨by simpa using hlength, h⟩
    · exact fun h => h.2
  · intro other bytes hother h h'
    have hd := published_digest_length bytes
    have hencode := (decodeWords_iff_encodeWords hl hd hws).mp h
    have hencode' := (decodeWords_iff_encodeWords hl hd hother).mp h'
    exact Except.ok.inj (hencode.symm.trans hencode')

theorem decode_canonical_one :
    (∀ w ∈ phraseWords onePhrase.toList, w ∈ publishedList .chineseSimplified) ∧
      published.decode .chineseSimplified onePhrase = .ok one := by
  have hl := isWordList_wordList .chineseSimplified
  have hd := published_digest_length one
  have hencode := phraseWords_one.symm ▸ encodeWords_one
  have hws := mem_of_encodeWords hl hd hencode
  refine ⟨hws, (((decode_canonical .chineseSimplified onePhrase).2 hws).1 one).mpr ?_⟩
  exact ⟨by decide, (encode_normalized_iff hl hd).mpr hencode⟩

theorem not_distinctive_of_twin {a b : Language} (h : twin? a = some b) :
    a ∉ distinctive ∧ b ∉ distinctive := by
  revert h
  cases a <;> cases b <;> decide

theorem decodeWords_of_own_word (h : published.encodeWords written bytes = .ok ws)
    (hown : ∃ w ∈ ws, ∀ l, w ∈ publishedList l → l = written) :
    published.decodeWords configured ws = .ok bytes := by
  obtain ⟨w, hw, hown⟩ := hown
  have hd := published_digest_length bytes
  have hws := mem_of_encodeWords (isWordList_wordList written) hd h
  have hfirst : ∀ l ∈ distinctive, l ≠ written → ∀ w ∈ ws.head?, w ∉ published.wordList l := by
    intro l hl hne v hv hmem
    have hv := hws v (List.mem_of_mem_head? hv)
    exact (not_distinctive_of_twin (eq_twin_of_mem hne hv hmem)).2 hl
  have hother : ∀ l, l ≠ written → ∃ w ∈ ws, w ∉ published.wordList l :=
    fun l hne => ⟨w, hw, fun hmem => hne (hown l hmem)⟩
  rw [decodeWords_iff_readingLanguage isWordList_wordList hd]
  exact ⟨written, readingLanguage_eq_some (List.ne_nil_of_mem hw) hws hfirst hother, h⟩

theorem mem_twin (hws : ∀ w ∈ ws, w ∈ publishedList written)
    (hshared : ∀ w ∈ ws, ∃ l, l ≠ written ∧ w ∈ publishedList l) (hne : ws ≠ []) :
    ∃ twin, twin? written = some twin ∧ ∀ w ∈ ws, w ∈ publishedList twin := by
  have htwin : ∀ w ∈ ws, ∃ l, twin? written = some l ∧ w ∈ publishedList l := by
    intro w hw
    obtain ⟨l, hl, hmem⟩ := hshared w hw
    exact ⟨l, eq_twin_of_mem hl (hws w hw) hmem, hmem⟩
  obtain ⟨w, ws, rfl⟩ := List.exists_cons_of_ne_nil hne
  obtain ⟨twin, ht, -⟩ := htwin w List.mem_cons_self
  refine ⟨twin, ht, fun v hv => ?_⟩
  obtain ⟨l, hl, hmem⟩ := htwin v hv
  exact Option.some.inj (hl.symm.trans ht) ▸ hmem

theorem ne_nil_of_encodeWords (h : published.encodeWords written bytes = .ok ws) : ws ≠ [] := by
  have hcount := isPhraseLength_of_encodeWords (published_digest_length bytes) h
  rintro rfl
  cases hcount

/-- Words that two languages share are refused as soon as a third is configured. -/
theorem decodeWords_of_shared (h : published.encodeWords written bytes = .ok ws)
    (hshared : ∀ w ∈ ws, ∃ l, l ≠ written ∧ w ∈ publishedList l) (hne : configured ≠ written)
    (htwin : twin? written ≠ some configured) :
    published.decodeWords configured ws = .error (.unknownWord 1) := by
  have hd := published_digest_length bytes
  have hws := mem_of_encodeWords (isWordList_wordList written) hd h
  have hnil := ne_nil_of_encodeWords h
  obtain ⟨twin, ht, hws'⟩ := mem_twin hws hshared hnil
  have hfirst : ∀ l ∈ distinctive, ∀ w ∈ ws.head?, w ∉ published.wordList l := by
    intro l hl w hw hmem
    obtain ⟨hwritten, htwin⟩ := not_distinctive_of_twin ht
    rcases eq_or_eq_of_twin ht (hws w (List.mem_of_mem_head? hw)) hmem with rfl | rfl
    · exact hwritten hl
    · exact htwin hl
  have hunknown : published.firstUnknown configured ws = some 0 := by
    obtain ⟨w, ws, rfl⟩ := List.exists_cons_of_ne_nil hnil
    have hout : w ∉ published.wordList configured := by
      intro hmem
      rcases eq_or_eq_of_twin ht (hws w List.mem_cons_self) hmem with he | he
      · exact hne he
      · exact htwin (he ▸ ht)
    simp [firstUnknown, contains, List.findIdx?_cons, hout]
  rw [decodeWords, isPhraseLength_of_encodeWords hd h, hunknown,
    detect_eq_none hnil (twin_ne ht) hws hws' hfirst]
  rfl

/-- Shared words keep their meaning only between the Chinese lists. -/
theorem decodeWords_twin_iff (h : published.encodeWords written bytes = .ok ws)
    (htwin : twin? written = some configured) (hws : ∀ w ∈ ws, w ∈ publishedList configured) :
    published.decodeWords configured ws = .ok bytes ↔ written ∈ chinese ∧ configured ∈ chinese := by
  have hd := published_digest_length bytes
  obtain ⟨hb, he⟩ := encodeWords_ok_iff.mp h
  obtain ⟨-, -, hlt⟩ := indicesOf_bits hd hb
  rw [decodeWords_iff_encodeWords (isWordList_wordList configured) hd hws, encodeWords_ok_iff,
    and_iff_right hb]
  constructor
  · intro he'
    by_contra hout
    -- the first words of both phrases differ already
    obtain ⟨i, indices, hi⟩ : ∃ i indices, indicesOf published.digest bytes = i :: indices := by
      refine List.exists_cons_of_ne_nil fun hnil => ne_nil_of_encodeWords h ?_
      rw [he, hnil]
      rfl
    have hmaps := he.symm.trans he'
    rw [hi, List.map_cons, List.map_cons] at hmaps
    exact getD_ne_of_twin htwin hout (hlt i (hi ▸ List.mem_cons_self)) (List.cons.inj hmaps).1
  · rintro ⟨hwritten, hconfigured⟩
    rw [he] at hws ⊢
    refine List.map_congr_left fun i hi => ?_
    have hword := hws _ (List.mem_map_of_mem hi)
    exact (chinese_getD_eq hwritten hconfigured (hlt i hi) hword).symm

/-- A phrase outlives a change of the configured language exactly if one of its words is in no other
list, or both languages are Chinese. One whose words are all shared is refused by a third language
at its first word. -/
theorem decode_in_other_language (hne : configured ≠ written) {phrase : String}
    (h : published.encode written bytes = .ok phrase) :
    (published.decode configured phrase = .ok bytes ↔
      (∃ w ∈ phraseWords phrase.toList, ∀ l, w ∈ publishedList l → l = written) ∨
        (written ∈ chinese ∧ configured ∈ chinese)) ∧
    ((∀ w ∈ phraseWords phrase.toList, ∃ l, l ≠ written ∧ w ∈ publishedList l) →
      twin? written ≠ some configured →
        published.decode configured phrase = .error (.unknownWord 1)) := by
  have hwritten := encodeWords_of_encode (isWordList_wordList written) (published_digest_length bytes) h
  have hws := mem_of_encodeWords (isWordList_wordList written) (published_digest_length bytes) hwritten
  rw [decode]
  generalize phraseWords phrase.toList = ws at hwritten hws ⊢
  refine ⟨?_, fun hshared htwin => decodeWords_of_shared hwritten hshared hne htwin⟩
  by_cases hown : ∃ w ∈ ws, ∀ l, w ∈ publishedList l → l = written
  · exact iff_of_true (decodeWords_of_own_word hwritten hown) (.inl hown)
  · rw [or_iff_right hown]
    push Not at hown
    have hshared : ∀ w ∈ ws, ∃ l, l ≠ written ∧ w ∈ publishedList l := by
      intro w hw
      obtain ⟨l, hmem, hl⟩ := hown w hw
      exact ⟨l, hl, hmem⟩
    by_cases htwin : twin? written = some configured
    · obtain ⟨twin, ht, hws'⟩ := mem_twin hws hshared (ne_nil_of_encodeWords hwritten)
      obtain rfl := Option.some.inj (ht.symm.trans htwin)
      exact decodeWords_twin_iff hwritten htwin hws'
    · rw [decodeWords_of_shared hwritten hshared hne htwin]
      refine iff_of_false (fun h => ?_) fun hboth => htwin (twin_of_chinese hne hboth.1 hboth.2)
      cases h

theorem decode_in_other_language_one :
    published.encode .chineseSimplified one = .ok onePhrase ∧
      published.decode .chineseTraditional onePhrase = .ok one := by
  have hne : Language.chineseTraditional ≠ .chineseSimplified := by decide
  exact ⟨encode_one, (decode_in_other_language hne encode_one).1.mpr (.inr (by decide))⟩

theorem decode_one_english :
    published.encode .chineseSimplified one = .ok onePhrase ∧
      published.decode .english onePhrase = .error (.unknownWord 1) := by
  have htraditional : ∀ w ∈ oneWords, w ∈ publishedList .chineseTraditional := by
    rw [publishedList_eq]
    decide +kernel
  have hshared : ∀ w ∈ oneWords, ∃ l, l ≠ .chineseSimplified ∧ w ∈ publishedList l :=
    fun w hw => ⟨.chineseTraditional, by decide, htraditional w hw⟩
  refine ⟨encode_one, ?_⟩
  rw [decode, phraseWords_one]
  exact decodeWords_of_shared encodeWords_one hshared (by decide) (by decide)

end Credentials.Mnemonic.Scheme
