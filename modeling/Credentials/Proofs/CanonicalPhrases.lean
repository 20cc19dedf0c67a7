import Credentials.Proofs.Phrases

/-! Reading a phrase undoes writing it. The words that a list accepts are the words it makes of the
bytes it gives for them, so each byte string has one sequence of words in a list. -/

namespace Credentials.Mnemonic

theorem groups_bitsOfIndices (indices : List Nat) :
    groups 11 indices.length (bitsOfIndices indices) = indices.map (bitsOf 11) := by
  induction indices with
  | nil => rfl
  | cons i indices ih =>
    have hcons : bitsOfIndices (i :: indices) = bitsOf 11 i ++ bitsOfIndices indices := rfl
    have hlen : (bitsOf 11 i).length = 11 := bitsOf_length 11 i
    rw [List.length_cons, groups, hcons, List.take_left' hlen, List.drop_left' hlen, ih, List.map_cons]

/-- Indices are those of the bytes whose bits, check bits behind them, they consist of. -/
theorem indicesOf_eq {digest : List UInt8 → List UInt8} {bytes : List UInt8} {indices : List Nat}
    (hi : ∀ i ∈ indices, i < 2048) (hlen : indices.length = bytes.length / 4 * 3)
    (h : bitsOfIndices indices = bitsOfBytes bytes ++ checkBits digest bytes) :
    indicesOf digest bytes = indices := by
  have hnumbers : ∀ i ∈ indices, (numberOf ∘ bitsOf 11) i = i := by
    intro i hmem
    exact numberOf_bitsOf (hi i hmem)
  rw [indicesOf, ← h, ← hlen, groups_bitsOfIndices, List.map_map, List.map_congr_left hnumbers,
    List.map_id']

theorem getD_idxOf {list : List Word} {w : Word} (h : w ∈ list) : list.getD (list.idxOf w) [] = w := by
  rw [List.getD_eq_getElem _ _ (List.idxOf_lt_length_of_mem h), List.getElem_idxOf]

namespace Scheme

variable {scheme : Scheme} {language : Language} {bytes : List UInt8} {ws : List Word}

/-- The language the words are read in: the configured one if it has them all, else the one they
are taken to be written in, if that one does. -/
def readingLanguage (scheme : Scheme) (language : Language) (ws : List Word) : Option Language :=
  if scheme.firstUnknown language ws = none then some language
  else (scheme.detect ws).filter fun detected => scheme.firstUnknown detected ws = none

theorem mem_of_readingLanguage {l : Language} (h : scheme.readingLanguage language ws = some l) :
    ∀ w ∈ ws, w ∈ scheme.wordList l := by
  unfold readingLanguage at h
  split at h
  · rename_i hknown
    exact Option.some.inj h ▸ firstUnknown_eq_none_iff.mp hknown
  · have hknown := (Option.filter_eq_some_iff.mp h).2
    exact firstUnknown_eq_none_iff.mp (of_decide_eq_true hknown)

theorem decodeWords_ok_iff : scheme.decodeWords language ws = .ok bytes ↔
    isPhraseLength ws.length = true ∧
      ∃ l, scheme.readingLanguage language ws = some l ∧ scheme.verify l ws = .ok bytes := by
  unfold decodeWords readingLanguage
  by_cases hcount : isPhraseLength ws.length = true
  · cases hknown : scheme.firstUnknown language ws with
    | none => simp [hcount]
    | some i =>
      cases hdetect : scheme.detect ws with
      | none => simp [hcount]
      | some detected =>
        cases hdetected : scheme.firstUnknown detected ws with
        | none => simp [hcount, hdetected, Option.filter]
        | some j => simp [hcount, hdetected, Option.filter]
  · simp [hcount]

theorem encodeWords_of_verify (hlist : (scheme.wordList language).length = 2048)
    (hcount : isPhraseLength ws.length = true) (hws : ∀ w ∈ ws, w ∈ scheme.wordList language)
    (h : scheme.verify language ws = .ok bytes) : scheme.encodeWords language bytes = .ok ws := by
  have hi : ∀ i ∈ ws.map ((scheme.wordList language).idxOf ·), i < 2048 := by
    intro i hi
    obtain ⟨w, hw, rfl⟩ := List.mem_map.mp hi
    exact hlist ▸ List.idxOf_lt_length_of_mem (hws w hw)
  simp only [isPhraseLength, Bool.and_eq_true, beq_iff_eq, decide_eq_true_eq] at hcount
  simp only [verify] at h
  split at h
  · rename_i hheld
    cases h
    obtain ⟨hbits, hbytes⟩ := unpack_bits hi
    rw [List.length_map] at hbits hbytes
    have hindices := indicesOf_eq hi (by rw [List.length_map, hbytes]; omega)
      (by rw [← hheld, hbytes, hbits, List.take_append_drop])
    rw [encodeWords_ok_iff, hindices, List.map_map, isEncodable_iff, hbytes]
    refine ⟨by omega, ?_⟩
    have hword : ∀ w ∈ ws, ((fun i => (scheme.wordList language).getD i []) ∘
        fun w => (scheme.wordList language).idxOf w) w = w := by
      intro w hw
      exact getD_idxOf (hws w hw)
    rw [List.map_congr_left hword, List.map_id']
  · cases h

/-- What is read at all is read in some language as the bytes that it is written from. -/
theorem encodeWords_of_decodeWords (hlists : ∀ l, (scheme.wordList l).length = 2048)
    (h : scheme.decodeWords language ws = .ok bytes) :
    ∃ l, scheme.readingLanguage language ws = some l ∧ scheme.encodeWords l bytes = .ok ws := by
  obtain ⟨hcount, l, hl, hverify⟩ := decodeWords_ok_iff.mp h
  exact ⟨l, hl, encodeWords_of_verify (hlists l) hcount (mem_of_readingLanguage hl) hverify⟩

theorem decodeWords_iff_readingLanguage (hl : ∀ l, IsWordList (scheme.wordList l))
    (hd : (scheme.digest bytes).length = 32) :
    scheme.decodeWords language ws = .ok bytes ↔
      ∃ l, scheme.readingLanguage language ws = some l ∧ scheme.encodeWords l bytes = .ok ws := by
  constructor
  · exact encodeWords_of_decodeWords fun l => (hl l).length
  · rintro ⟨l, hread, hencode⟩
    rw [decodeWords_ok_iff]
    exact ⟨isPhraseLength_of_encodeWords hd hencode, l, hread, verify_encodeWords (hl l) hd hencode⟩

theorem decodeWords_iff_encodeWords (hl : IsWordList (scheme.wordList language))
    (hd : (scheme.digest bytes).length = 32) (hws : ∀ w ∈ ws, w ∈ scheme.wordList language) :
    scheme.decodeWords language ws = .ok bytes ↔ scheme.encodeWords language bytes = .ok ws := by
  constructor
  · intro h
    obtain ⟨hcount, l, hread, hverify⟩ := decodeWords_ok_iff.mp h
    rw [readingLanguage, if_pos (firstUnknown_eq_none_iff.mpr hws), Option.some.injEq] at hread
    exact encodeWords_of_verify hl.length hcount hws (hread ▸ hverify)
  · exact decodeWords_encodeWords hl hd

/-- A phrase in the form it is given out in: its words as lists have them, one space between them. -/
def normalized (phrase : String) : String :=
  String.ofList ([' '].intercalate (phraseWords phrase.toList))

theorem words_normalized (phrase : String) :
    Text.words (normalized phrase).toList = phraseWords phrase.toList := by
  rw [normalized, String.toList_ofList]
  exact Text.words_intercalate fun w hw => Text.of_mem_runs hw

theorem encode_normalized_iff (hl : IsWordList (scheme.wordList language))
    (hd : (scheme.digest bytes).length = 32) {phrase : String} :
    scheme.encode language bytes = .ok (normalized phrase) ↔
      scheme.encodeWords language bytes = .ok (phraseWords phrase.toList) := by
  rw [encode_ok_iff]
  constructor
  · rintro ⟨ws, hws, he⟩
    have hmem := mem_of_encodeWords hl hd hws
    -- both sides fall apart into the words that were joined
    have hwords := words_normalized phrase
    rw [he, String.toList_ofList, Text.words_intercalate fun w hw =>
      ⟨hl.ne_nil w (hmem w hw), hl.not_blank w (hmem w hw)⟩] at hwords
    exact hwords ▸ hws
  · intro hws
    exact ⟨_, hws, rfl⟩

theorem encodeWords_of_encode (hl : IsWordList (scheme.wordList language))
    (hd : (scheme.digest bytes).length = 32) {phrase : String}
    (h : scheme.encode language bytes = .ok phrase) :
    scheme.encodeWords language bytes = .ok (phraseWords phrase.toList) := by
  obtain ⟨ws, hws, rfl⟩ := encode_ok_iff.mp h
  rw [String.toList_ofList, hl.phraseWords (mem_of_encodeWords hl hd hws)]
  exact hws

end Scheme

end Credentials.Mnemonic
