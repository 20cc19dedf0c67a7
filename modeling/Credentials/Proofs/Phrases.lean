import Credentials.Mnemonic.Phrase
import Credentials.Proofs.TypedText
import Credentials.Proofs.Unpacking

/-! A phrase and the bytes it stands for. A word list has to be told apart word by word once the
words have been joined, put in lower case and decomposed. -/

namespace Credentials

theorem Digest.Sha256.digest_length (message : List UInt8) : (digest message).length = 32 := by
  simp [digest, bytesOf]

namespace Mnemonic

/-- What a list needs for its phrases to be read back. -/
structure IsWordList (list : List Word) : Prop where
  length : list.length = 2048
  nodup : list.Nodup
  ne_nil : ∀ w ∈ list, w ≠ []
  not_blank : ∀ w ∈ list, ∀ c ∈ w, Text.isBlank c = false
  lowerCase : ∀ w ∈ list, Text.lowerCase w = w
  decompose : ∀ w ∈ list, Text.decompose w = w

variable {list : List Word}

/-- Joined words stay as they are: a space is no mark, so ordering the marks of one word never
reaches into the next. -/
theorem IsWordList.joined (h : IsWordList list) {ws : List Word} (hws : ∀ w ∈ ws, w ∈ list) :
    Text.lowerCase ([' '].intercalate ws) = [' '].intercalate ws ∧
      Text.decompose ([' '].intercalate ws) = [' '].intercalate ws := by
  induction ws with
  | nil => exact ⟨rfl, rfl⟩
  | cons w ws ih =>
    have hw : w ∈ list := hws w List.mem_cons_self
    cases ws with
    | nil =>
      rw [List.intercalate_singleton]
      exact ⟨h.lowerCase w hw, h.decompose w hw⟩
    | cons v ws =>
      obtain ⟨hlower, hdecomposed⟩ := ih fun u hu => hws u (List.mem_cons_of_mem _ hu)
      rw [List.intercalate_cons_cons, List.append_assoc, List.singleton_append]
      refine ⟨?_, ?_⟩
      · rw [Text.lowerCase_append Text.isBreak_space, h.lowerCase w hw, hlower]
      · rw [Text.decompose_append rfl rfl, h.decompose w hw, hdecomposed]

theorem IsWordList.phraseWords (h : IsWordList list) {ws : List Word} (hws : ∀ w ∈ ws, w ∈ list) :
    Scheme.phraseWords ([' '].intercalate ws) = ws := by
  obtain ⟨hlower, hdecomposed⟩ := h.joined hws
  rw [Scheme.phraseWords, hlower, hdecomposed]
  exact Text.words_intercalate fun w hw => ⟨h.ne_nil w (hws w hw), h.not_blank w (hws w hw)⟩

theorem IsWordList.word_mem (h : IsWordList list) {i : Nat} (hi : i < 2048) :
    list.getD i [] ∈ list := by
  have hlt : i < list.length := by rwa [h.length]
  rw [List.getD_eq_getElem _ _ hlt]
  exact List.getElem_mem hlt

theorem IsWordList.idxOf_word (h : IsWordList list) {i : Nat} (hi : i < 2048) :
    list.idxOf (list.getD i []) = i := by
  have hlt : i < list.length := by rwa [h.length]
  rw [List.getD_eq_getElem _ _ hlt, h.nodup.idxOf_getElem]

section
variable {scheme : Scheme} {language : Language} {bytes : List UInt8}

theorem isEncodable_iff {n : Nat} :
    isEncodable n = true ↔ n = 16 ∨ n = 20 ∨ n = 24 ∨ n = 28 ∨ n = 32 := by
  simp only [isEncodable, Bool.and_eq_true, beq_iff_eq, decide_eq_true_eq]
  omega

/-- The bits of a byte string and its check bits fill whole groups of eleven. -/
theorem indicesOf_bits {digest : List UInt8 → List UInt8} (hd : (digest bytes).length = 32)
    (hb : isEncodable bytes.length = true) :
    bitsOfIndices (indicesOf digest bytes) = bitsOfBytes bytes ++ checkBits digest bytes ∧
      (indicesOf digest bytes).length = bytes.length / 4 * 3 ∧
      ∀ i ∈ indicesOf digest bytes, i < 2048 := by
  have hlen : (bitsOfBytes bytes ++ checkBits digest bytes).length =
      11 * (bytes.length / 4 * 3) := by
    rw [List.length_append, bitsOfBytes_length, checkBits, List.length_take, bitsOfBytes_length, hd]
    have := isEncodable_iff.mp hb
    omega
  refine ⟨bitsOfIndices_groups hlen, ?_, fun i hi => lt_of_mem_groups hlen hi⟩
  rw [indicesOf, List.length_map, groups_length]

theorem unpack_indicesOf {digest : List UInt8 → List UInt8} (hd : (digest bytes).length = 32)
    (hb : isEncodable bytes.length = true) : unpack (indicesOf digest bytes) = bytes := by
  obtain ⟨hbits, hlen, hlt⟩ := indicesOf_bits hd hb
  obtain ⟨hunpacked, -⟩ := unpack_bits hlt
  refine bitsOfBytes_injective ?_
  have h8 : 8 * ((indicesOf digest bytes).length / 3 * 4) = (bitsOfBytes bytes).length := by
    rw [hlen, bitsOfBytes_length]
    have := isEncodable_iff.mp hb
    omega
  rw [hunpacked, hbits, h8, List.take_left]

theorem Scheme.encodeWords_ok_iff {ws : List Word} :
    scheme.encodeWords language bytes = .ok ws ↔
      isEncodable bytes.length = true ∧
        ws = (indicesOf scheme.digest bytes).map ((scheme.wordList language).getD · []) := by
  unfold encodeWords
  by_cases hb : isEncodable bytes.length = true
  · rw [if_pos hb, Except.ok.injEq, eq_comm, and_iff_right hb]
  · rw [if_neg hb]
    exact iff_of_false nofun fun h => hb h.1

theorem Scheme.encode_ok_iff {phrase : String} :
    scheme.encode language bytes = .ok phrase ↔
      ∃ ws, scheme.encodeWords language bytes = .ok ws ∧
        phrase = String.ofList ([' '].intercalate ws) := by
  unfold encode
  cases scheme.encodeWords language bytes with
  | error => exact iff_of_false nofun nofun
  | ok ws =>
    constructor
    · rintro ⟨⟩
      exact ⟨ws, rfl, rfl⟩
    · rintro ⟨_, ⟨⟩, rfl⟩
      rfl

theorem Scheme.firstUnknown_eq_none_iff {ws : List Word} :
    scheme.firstUnknown language ws = none ↔ ∀ w ∈ ws, w ∈ scheme.wordList language := by
  simp [firstUnknown, contains]

theorem Scheme.mem_of_encodeWords (hl : IsWordList (scheme.wordList language))
    (hd : (scheme.digest bytes).length = 32) {ws : List Word}
    (h : scheme.encodeWords language bytes = .ok ws) : ∀ w ∈ ws, w ∈ scheme.wordList language := by
  obtain ⟨hb, rfl⟩ := encodeWords_ok_iff.mp h
  obtain ⟨-, -, hlt⟩ := indicesOf_bits hd hb
  intro w hw
  obtain ⟨i, hi, rfl⟩ := List.mem_map.mp hw
  exact hl.word_mem (hlt i hi)

/-- Words that were made of bytes are found in their list, at the indices they were taken from. -/
theorem Scheme.verify_encodeWords (hl : IsWordList (scheme.wordList language))
    (hd : (scheme.digest bytes).length = 32) {ws : List Word}
    (h : scheme.encodeWords language bytes = .ok ws) : scheme.verify language ws = .ok bytes := by
  obtain ⟨hb, rfl⟩ := encodeWords_ok_iff.mp h
  obtain ⟨hbits, -, hlt⟩ := indicesOf_bits hd hb
  have hindices : ((indicesOf scheme.digest bytes).map ((scheme.wordList language).getD · [])).map
      ((scheme.wordList language).idxOf ·) = indicesOf scheme.digest bytes := by
    rw [List.map_map]
    exact (List.map_congr_left fun i hi => hl.idxOf_word (hlt i hi)).trans (List.map_id' _)
  rw [verify, hindices, unpack_indicesOf hd hb, hbits, ← bitsOfBytes_length]
  simp only [List.drop_left, if_true]

theorem Scheme.isPhraseLength_of_encodeWords (hd : (scheme.digest bytes).length = 32)
    {ws : List Word} (h : scheme.encodeWords language bytes = .ok ws) :
    isPhraseLength ws.length = true := by
  obtain ⟨hb, rfl⟩ := encodeWords_ok_iff.mp h
  obtain ⟨-, hlen, -⟩ := indicesOf_bits hd hb
  rw [List.length_map, hlen, isPhraseLength]
  have := isEncodable_iff.mp hb
  simp only [Bool.and_eq_true, beq_iff_eq, decide_eq_true_eq]
  omega

theorem Scheme.decodeWords_encodeWords (hl : IsWordList (scheme.wordList language))
    (hd : (scheme.digest bytes).length = 32) {ws : List Word}
    (h : scheme.encodeWords language bytes = .ok ws) :
    scheme.decodeWords language ws = .ok bytes := by
  have hknown := firstUnknown_eq_none_iff.mpr (mem_of_encodeWords hl hd h)
  rw [decodeWords, isPhraseLength_of_encodeWords hd h, hknown]
  exact verify_encodeWords hl hd h

/-- A byte string of a length that has phrases is read back from its phrase, in the language it was
written in; the other lengths have none. -/
theorem Scheme.decode_of_encode (hl : IsWordList (scheme.wordList language))
    (hd : ∀ bytes, (scheme.digest bytes).length = 32) (bytes : List UInt8) :
    (bytes.length ∈ [16, 20, 24, 28, 32] →
      ∃ phrase, scheme.encode language bytes = .ok phrase ∧
        scheme.decode language phrase = .ok bytes ∧
        scheme.decodeExact language phrase bytes.length = .ok bytes) ∧
    (bytes.length ∉ [16, 20, 24, 28, 32] →
      scheme.encode language bytes = .error (.unsupportedLength bytes.length)) := by
  have hmem : bytes.length ∈ [16, 20, 24, 28, 32] ↔ isEncodable bytes.length = true := by
    rw [isEncodable_iff]
    simp
  constructor
  · intro hb
    rw [hmem] at hb
    obtain ⟨ws, hws⟩ : ∃ ws, scheme.encodeWords language bytes = .ok ws :=
      ⟨_, encodeWords_ok_iff.mpr ⟨hb, rfl⟩⟩
    have hdecode : scheme.decode language (String.ofList ([' '].intercalate ws)) = .ok bytes := by
      rw [decode, String.toList_ofList, hl.phraseWords (mem_of_encodeWords hl (hd bytes) hws),
        decodeWords_encodeWords hl (hd bytes) hws]
    refine ⟨_, encode_ok_iff.mpr ⟨ws, hws, rfl⟩, hdecode, ?_⟩
    rw [decodeExact, hdecode]
    exact if_pos rfl
  · intro hb
    rw [hmem] at hb
    simp only [encode, encodeWords, hb, Bool.false_eq_true, if_false]
    rfl

end

/-- The numbers below 2048 as words of the letters a and b. -/
def lettered : List Word :=
  (List.range 2048).map fun i => (bitsOf 11 i).map fun b => if b then 'b' else 'a'

theorem mem_lettered {w : Word} (hw : w ∈ lettered) :
    w.length = 11 ∧ ∀ c ∈ w, c = 'a' ∨ c = 'b' := by
  obtain ⟨i, -, rfl⟩ := List.mem_map.mp hw
  refine ⟨by rw [List.length_map, bitsOf_length], fun c hc => ?_⟩
  obtain ⟨b, -, rfl⟩ := List.mem_map.mp hc
  cases b
  · exact Or.inl rfl
  · exact Or.inr rfl

theorem nodup_lettered : lettered.Nodup := by
  have hletter : Function.Injective fun b : Bool => if b then 'b' else 'a' := by decide
  refine List.Nodup.map_on ?_ List.nodup_range
  intro i hi j hj h
  have hi : i < 2 ^ 11 := List.mem_range.mp hi
  have hj : j < 2 ^ 11 := List.mem_range.mp hj
  have hbits := congrArg numberOf (List.map_injective_iff.mpr hletter h)
  rwa [numberOf_bitsOf hi, numberOf_bitsOf hj] at hbits

theorem isWordList_lettered : IsWordList lettered where
  length := by rw [lettered, List.length_map, List.length_range]
  nodup := nodup_lettered
  ne_nil w hw := by
    rintro rfl
    exact absurd (mem_lettered hw).1 (by decide)
  not_blank w hw c hc := by
    rcases (mem_lettered hw).2 c hc with rfl | rfl <;> rfl
  lowerCase w hw := by
    refine Text.lowerCase_eq_self fun c hc => ?_
    rcases (mem_lettered hw).2 c hc with rfl | rfl <;> decide
  decompose w hw := by
    refine Text.decompose_eq_self fun c hc => ?_
    rcases (mem_lettered hw).2 c hc with rfl | rfl <;> decide

def Scheme.lettered : Scheme := ⟨fun _ => Mnemonic.lettered, Digest.Sha256.digest⟩

theorem Scheme.decode_of_encode_lettered :
    ∃ phrase, Scheme.lettered.encode .czech (List.replicate 16 255) = .ok phrase ∧
      Scheme.lettered.decode .czech phrase = .ok (List.replicate 16 255) := by
  have hl : IsWordList (Scheme.lettered.wordList .czech) := by
    simp only [Scheme.lettered]
    exact isWordList_lettered
  have hd : ∀ bytes, (Scheme.lettered.digest bytes).length = 32 := by
    simp only [Scheme.lettered]
    exact Digest.Sha256.digest_length
  have hb : (List.replicate 16 (255 : UInt8)).length ∈ [16, 20, 24, 28, 32] := by simp
  obtain ⟨phrase, hencode, hdecode, -⟩ := (Scheme.decode_of_encode hl hd _).1 hb
  exact ⟨phrase, hencode, hdecode⟩

end Mnemonic

end Credentials
