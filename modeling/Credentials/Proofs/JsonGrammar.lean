import Credentials.Proofs.JsonTokens

/-! The grammar of JSON, and that the reader follows it. What the grammar writes for a tree is read as
that tree (`read_written`), and what is read without a fault the grammar writes (`written_read`). -/

namespace Credentials.Json

open Decoding (Node)

mutual

/-- A text of a tree, with any white space inside but none around it. -/
inductive Written : Node → List Char → Prop
  | null : Written .null ['n', 'u', 'l', 'l']
  | yes : Written (.boolean true) ['t', 'r', 'u', 'e']
  | no : Written (.boolean false) ['f', 'a', 'l', 's', 'e']
  | number {n : Numeral} {s : List Char} : NumeralText n s → Written n.toNode s
  | text {ps : List Piece} {s : List Char} : PiecesText ps s →
      Written (textNode ps.reverse) ('"' :: (s ++ ['"']))
  | emptyArray {gap : List Char} : Gap gap → Written (.sequence [] true) ('[' :: (gap ++ [']']))
  | array {gap s : List Char} {items : List Node} : Gap gap → WrittenItems items s →
      Written (.sequence items true) ('[' :: (gap ++ (s ++ [']'])))
  | emptyObject {gap : List Char} : Gap gap → Written (.map [] true) ('\x7b' :: (gap ++ ['\x7d']))
  | object {gap s : List Char} {members : List (Option String × Node)} : Gap gap →
      WrittenMembers members s → Written (mapOf members true) ('\x7b' :: (gap ++ (s ++ ['\x7d'])))

/-- The items of an array from the first to just before the closing bracket. -/
inductive WrittenItems : List Node → List Char → Prop
  | last {v : Node} {s gap : List Char} : Written v s → Gap gap → WrittenItems [v] (s ++ gap)
  | more {v : Node} {vs : List Node} {s gap gap' t : List Char} : Written v s → Gap gap →
      Gap gap' → WrittenItems vs t → WrittenItems (v :: vs) (s ++ (gap ++ ',' :: (gap' ++ t)))

inductive WrittenMembers : List (Option String × Node) → List Char → Prop
  | last {ps : List Piece} {name : Option String} {v : Node} {k s gap₁ gap₂ gap₃ : List Char} :
      PiecesText ps k → contentOf ps.reverse = name → Gap gap₁ → Gap gap₂ → Written v s → Gap gap₃ →
      WrittenMembers [(name, v)] ('"' :: (k ++ '"' :: (gap₁ ++ ':' :: (gap₂ ++ (s ++ gap₃)))))
  | more {ps : List Piece} {name : Option String} {v : Node} {ms : List (Option String × Node)}
      {k s gap₁ gap₂ gap₃ gap₄ t : List Char} :
      PiecesText ps k → contentOf ps.reverse = name → Gap gap₁ → Gap gap₂ → Written v s → Gap gap₃ →
      Gap gap₄ → WrittenMembers ms t →
      WrittenMembers ((name, v) :: ms)
        ('"' :: (k ++ '"' :: (gap₁ ++ ':' :: (gap₂ ++ (s ++ (gap₃ ++ ',' :: (gap₄ ++ t)))))))

end

/-- A whole text, with any white space around its value. -/
def WrittenText (v : Node) (s : List Char) : Prop :=
  ∃ gap t gap', Gap gap ∧ Written v t ∧ Gap gap' ∧ s = gap ++ (t ++ gap')

section
variable {s : List Char}

/-- A value starts with a character that neither is white space nor closes an array. -/
theorem Written.start {v : Node} (h : Written v s) :
    ∃ c t, s = c :: t ∧ isSpace c = false ∧ c ≠ ']' := by
  cases h with
  | number hn =>
    obtain ⟨c, t, rfl, rfl | hd⟩ := hn.start
    · exact ⟨_, _, rfl, rfl, by decide⟩
    · exact ⟨c, t, rfl, isSpace_of_isDigit hd, by rintro rfl; cases hd⟩
  | _ => exact ⟨_, _, rfl, rfl, by decide⟩

theorem WrittenItems.start {vs : List Node} (h : WrittenItems vs s) :
    ∃ c t, s = c :: t ∧ isSpace c = false ∧ c ≠ ']' := by
  cases h with
  | last hv | more hv =>
    obtain ⟨c, t, rfl, hc⟩ := hv.start
    exact ⟨c, _, rfl, hc⟩

theorem WrittenMembers.start {ms : List (Option String × Node)} (h : WrittenMembers ms s) :
    ∃ t, s = '"' :: t := by
  cases h <;> exact ⟨_, rfl⟩

theorem readValue_gap {gap : List Char} (h : Gap gap) (fuel : Nat) (s : List Char) :
    readValue fuel (gap ++ s) = readValue fuel s := by
  cases fuel with
  | zero => rfl
  | succ fuel => rw [readValue, readValue, skipSpace_gap h]

theorem readValue_number {c : Char} (h : c = '-' ∨ c.isDigit = true) (fuel : Nat) (t : List Char) :
    readValue (fuel + 1) (c :: t) = match readNumeral (c :: t) with
      | some (n, rest) => (n.toNode, rest)
      | none => (.broken, []) := by
  have hne : ∀ x : Char, x ≠ '-' → x.isDigit = false → ∀ u v : List Char, c :: u = x :: v → False := by
    rintro x hminus hx u v he
    rw [(List.cons.inj he).1, hx] at h
    exact h.elim hminus nofun
  have hspace : isSpace c = false := h.elim (fun h => h ▸ rfl) isSpace_of_isDigit
  rw [readValue, skipSpace_cons hspace]
  split
  · next he => exact absurd he (hne _ (by decide) rfl _ _)
  · next he => exact absurd he (hne _ (by decide) rfl _ _)
  · next he => exact absurd he (hne _ (by decide) rfl _ _)
  · next he => exact absurd he (hne _ (by decide) rfl _ _)
  · next he => exact absurd he (hne _ (by decide) rfl _ _)
  · next he => exact absurd he (hne _ (by decide) rfl _ _)
  · rfl

end

mutual

theorem readValue_append {v : Node} {s : List Char} (h : Written v s) {fuel : Nat}
    {rest : List Char} (hf : s.length ≤ fuel) (hr : EndsNumber rest) :
    readValue fuel (s ++ rest) = (v, rest) := by
  obtain ⟨c, t, hs, -, -⟩ := h.start
  obtain ⟨fuel, rfl⟩ : ∃ n, fuel = n + 1 := ⟨fuel - 1, by rw [hs, List.length_cons] at hf; omega⟩
  cases h with
  | null | yes | no => rfl
  | number hn =>
    obtain ⟨c, t, rfl, hc⟩ := hn.start
    have hread := readNumeral_append hn hr
    rw [List.cons_append] at hread ⊢
    rw [readValue_number hc, hread]
  | text hp =>
    have hread := readPieces_append hp [] rest
    rw [List.append_nil] at hread
    simp only [List.cons_append, List.append_assoc, List.nil_append, readValue,
      skipSpace_cons (c := '"') rfl, hread]
  | emptyArray hg =>
    rw [List.cons_append, List.append_assoc, readValue, skipSpace_cons rfl]
    simp only [skipSpace_gap hg, List.singleton_append, skipSpace_cons (c := ']') rfl]
  | @array gap s items hg hi =>
    obtain ⟨d, u, hd, hsp, hne⟩ := hi.start
    have hlen : s.length + 1 ≤ fuel := by
      simp only [List.length_cons, List.length_append, List.length_nil] at hf
      omega
    have hread := readItems_append hi [] rest hlen
    rw [List.cons_append, List.append_assoc, List.append_assoc, List.singleton_append, readValue,
      skipSpace_cons rfl]
    simp only [skipSpace_gap hg]
    rw [hd, List.cons_append] at hread ⊢
    rw [skipSpace_cons hsp]
    split
    · next he => exact absurd (List.cons.inj he).1 hne
    · exact hread
  | emptyObject hg =>
    rw [List.cons_append, List.append_assoc, readValue, skipSpace_cons rfl]
    simp only [skipSpace_gap hg, List.singleton_append, skipSpace_cons (c := '\x7d') rfl]
  | @object gap s members hg hm =>
    obtain ⟨u, hd⟩ := hm.start
    have hlen : s.length + 1 ≤ fuel := by
      simp only [List.length_cons, List.length_append, List.length_nil] at hf
      omega
    have hread := readMembers_append hm [] rest hlen
    rw [List.cons_append, List.append_assoc, List.append_assoc, List.singleton_append, readValue,
      skipSpace_cons rfl]
    simp only [skipSpace_gap hg]
    rw [hd, List.cons_append] at hread ⊢
    rw [skipSpace_cons rfl]
    exact hread

theorem readItems_append {vs : List Node} {s : List Char} (h : WrittenItems vs s) {fuel : Nat}
    (done : List Node) (rest : List Char) (hf : s.length + 1 ≤ fuel) :
    readItems fuel done (s ++ ']' :: rest) = (.sequence (done.reverse ++ vs) true, rest) := by
  obtain ⟨fuel, rfl⟩ : ∃ n, fuel = n + 1 := ⟨fuel - 1, by omega⟩
  cases h with
  | last hv hg =>
    have he := endsNumber_gap hg (endsNumber_cons (c := ']') (by decide) rest)
    rw [List.append_assoc, readItems, readValue_append hv (by simp at hf; omega) he]
    simp only [skipSpace_gap hg, skipSpace_cons (c := ']') rfl, List.reverse_cons]
  | @more v vs s gap gap' u hv hg hg' ht =>
    obtain ⟨c, t, hs, hc, hne⟩ := ht.start
    have he := endsNumber_gap hg
      (endsNumber_cons (c := ',') (by decide) (gap' ++ (u ++ ']' :: rest)))
    simp only [List.length_append, List.length_cons] at hf
    have hread := readItems_append ht (v :: done) rest (by omega : u.length + 1 ≤ fuel)
    rw [List.append_assoc, List.append_assoc, List.cons_append, List.append_assoc, readItems,
      readValue_append hv (by omega) he]
    simp only [skipSpace_gap hg, skipSpace_cons (c := ',') rfl, skipSpace_gap hg']
    rw [hs, List.cons_append] at hread ⊢
    rw [skipSpace_cons hc]
    split
    · next he => exact absurd (List.cons.inj he).1 hne
    · rw [hread, List.reverse_cons, List.append_assoc]
      rfl

theorem readMembers_append {ms : List (Option String × Node)} {s : List Char}
    (h : WrittenMembers ms s) {fuel : Nat} (done : List (Option String × Node)) (rest : List Char)
    (hf : s.length + 1 ≤ fuel) :
    readMembers fuel done (s ++ '\x7d' :: rest) = (mapOf (done.reverse ++ ms) true, rest) := by
  obtain ⟨fuel, rfl⟩ : ∃ n, fuel = n + 1 := ⟨fuel - 1, by omega⟩
  cases h with
  | @last ps name v k s gap₁ gap₂ gap₃ hp hname h₁ h₂ hv h₃ =>
    have hread :=
      readPieces_append hp [] (gap₁ ++ ':' :: (gap₂ ++ (s ++ (gap₃ ++ '\x7d' :: rest))))
    have he := endsNumber_gap h₃ (endsNumber_cons (c := '\x7d') (by decide) rest)
    simp only [List.length_append, List.length_cons, List.append_nil] at hf hread
    simp only [List.cons_append, List.append_assoc, readMembers, hread, hname, skipSpace_gap h₁,
      skipSpace_cons (c := ':') rfl, readValue_gap h₂,
      readValue_append hv (by omega : s.length ≤ fuel) he, skipSpace_gap h₃,
      skipSpace_cons (c := '\x7d') rfl, List.reverse_cons]
  | @more ps name v ms k s gap₁ gap₂ gap₃ gap₄ u hp hname h₁ h₂ hv h₃ h₄ ht =>
    obtain ⟨t, hs⟩ := ht.start
    have hread := readPieces_append hp []
      (gap₁ ++ ':' :: (gap₂ ++ (s ++ (gap₃ ++ ',' :: (gap₄ ++ (u ++ '\x7d' :: rest))))))
    have he := endsNumber_gap h₃
      (endsNumber_cons (c := ',') (by decide) (gap₄ ++ (u ++ '\x7d' :: rest)))
    simp only [List.length_append, List.length_cons, List.append_nil] at hf hread
    have htail := readMembers_append ht ((name, v) :: done) rest (by omega : u.length + 1 ≤ fuel)
    have hskip : skipSpace (u ++ '\x7d' :: rest) = u ++ '\x7d' :: rest := by
      rw [hs, List.cons_append, skipSpace_cons rfl]
    simp only [List.cons_append, List.append_assoc, readMembers, hread, hname, skipSpace_gap h₁,
      skipSpace_cons (c := ':') rfl, readValue_gap h₂,
      readValue_append hv (by omega : s.length ≤ fuel) he, skipSpace_gap h₃,
      skipSpace_cons (c := ',') rfl, skipSpace_gap h₄, hskip, htail, List.reverse_cons]
    rfl

end

theorem exists_gap_of_skipSpace {c : Char} {s t : List Char} (h : skipSpace s = c :: t) :
    s ≠ [] ∧ ∃ gap, Gap gap ∧ s = gap ++ c :: t := by
  obtain ⟨gap, hg, hs⟩ := exists_gap s
  rw [h] at hs
  exact ⟨by simp [hs], gap, hg, hs⟩

mutual

/-- What is read without a fault is written there. After a fault there is no rest and the tree is not
whole, so either will do. -/
theorem of_readValue {fuel : Nat} {v : Node} {s rest : List Char}
    (h : readValue fuel s = (v, rest)) (hw : v.isWhole = true ∨ rest ≠ []) :
    ∃ gap t, Gap gap ∧ s = gap ++ (t ++ rest) ∧ Written v t := by
  have hbroken : ∀ {w : Node}, (Node.broken, ([] : List Char)) = (w, rest) →
      ¬ (w.isWhole = true ∨ rest ≠ []) := by
    rintro w he
    cases he
    simp [Node.isWhole]
  cases fuel with
  | zero => exact absurd hw (hbroken h)
  | succ fuel =>
    obtain ⟨gap, hg, hs⟩ := exists_gap s
    rw [readValue] at h
    split at h
    · next t ht =>
      rw [ht] at hs
      split at h
      · next pieces u hp =>
        cases h
        obtain ⟨ps, k, rfl, rfl, hk⟩ := exists_of_readPieces hp
        rw [List.append_nil]
        exact ⟨gap, _, hg, by simp [hs], .text hk⟩
      · exact absurd hw (hbroken h)
    · next t ht =>
      rw [ht] at hs
      split at h
      · next u hu =>
        cases h
        obtain ⟨-, gap', hg', rfl⟩ := exists_gap_of_skipSpace hu
        exact ⟨gap, _, hg, by simp [hs], .emptyArray hg'⟩
      · obtain ⟨gap', hg', ht'⟩ := exists_gap t
        obtain ⟨gap'', items, u, hg'', hu, rfl, hitems⟩ := of_readItems h hw
        rw [hu] at ht'
        exact ⟨gap, _, hg, by simp [hs, ht'], .array (hg'.append hg'') hitems⟩
    · next t ht =>
      rw [ht] at hs
      split at h
      · next u hu =>
        cases h
        obtain ⟨-, gap', hg', rfl⟩ := exists_gap_of_skipSpace hu
        exact ⟨gap, _, hg, by simp [hs], .emptyObject hg'⟩
      · obtain ⟨gap', hg', ht'⟩ := exists_gap t
        obtain ⟨members, u, hu, rfl, hmembers⟩ := of_readMembers h hw
        rw [hu] at ht'
        exact ⟨gap, _, hg, by simp [hs, ht'], .object hg' hmembers⟩
    · next ht =>
      rw [ht] at hs
      cases h
      exact ⟨gap, _, hg, hs, .null⟩
    · next ht =>
      rw [ht] at hs
      cases h
      exact ⟨gap, _, hg, hs, .yes⟩
    · next ht =>
      rw [ht] at hs
      cases h
      exact ⟨gap, _, hg, hs, .no⟩
    · split at h
      · next n u hn =>
        cases h
        obtain ⟨t, ht, hnum⟩ := of_readNumeral hn
        exact ⟨gap, t, hg, by rw [← ht]; exact hs, .number hnum⟩
      · exact absurd hw (hbroken h)

theorem of_readItems {fuel : Nat} {done : List Node} {v : Node} {s rest : List Char}
    (h : readItems fuel done s = (v, rest)) (hw : v.isWhole = true ∨ rest ≠ []) :
    ∃ gap items t, Gap gap ∧ s = gap ++ (t ++ ']' :: rest) ∧
      v = .sequence (done.reverse ++ items) true ∧ WrittenItems items t := by
  have hopen : ∀ {items : List Node} {w : Node},
      (Node.sequence items false, ([] : List Char)) = (w, rest) →
      ¬ (w.isWhole = true ∨ rest ≠ []) := by
    rintro items w he
    cases he
    simp [Node.isWhole]
  cases fuel with
  | zero => exact absurd hw (hopen h)
  | succ fuel =>
    rw [readItems] at h
    generalize hread : readValue fuel s = r at h
    obtain ⟨item, u⟩ := r
    simp only at h
    split at h
    · next w hu =>
      cases h
      obtain ⟨hne, gap', hg', rfl⟩ := exists_gap_of_skipSpace hu
      obtain ⟨gap, t, hg, rfl, ht⟩ := of_readValue hread (.inr hne)
      exact ⟨gap, [item], _, hg, by simp, by simp, .last ht hg'⟩
    · next w hu =>
      obtain ⟨hne, gap', hg', rfl⟩ := exists_gap_of_skipSpace hu
      obtain ⟨gap, t, hg, rfl, ht⟩ := of_readValue hread (.inr hne)
      split at h
      · exact absurd hw (hopen h)
      · obtain ⟨gap₁, hg₁, hw₁⟩ := exists_gap w
        obtain ⟨gap₂, items, k, hg₂, hk, rfl, hitems⟩ := of_readItems h hw
        rw [hk] at hw₁
        exact ⟨gap, item :: items, _, hg, by simp [hw₁], by simp,
          .more ht hg' (hg₁.append hg₂) hitems⟩
    · exact absurd hw (hopen h)

theorem of_readMembers {fuel : Nat} {done : List (Option String × Node)} {v : Node}
    {s rest : List Char} (h : readMembers fuel done s = (v, rest))
    (hw : v.isWhole = true ∨ rest ≠ []) :
    ∃ members t, s = t ++ '\x7d' :: rest ∧ v = mapOf (done.reverse ++ members) true ∧
      WrittenMembers members t := by
  have hopen : ∀ {members : List (Option String × Node)} {w : Node},
      (mapOf members false, ([] : List Char)) = (w, rest) → ¬ (w.isWhole = true ∨ rest ≠ []) := by
    rintro items w he
    cases he
    simp [mapOf, Node.isWhole]
  cases fuel with
  | zero => exact absurd hw (hopen h)
  | succ fuel =>
    unfold readMembers at h
    split at h
    · next t =>
      split at h
      · exact absurd hw (hopen h)
      · next pieces u hp =>
        obtain ⟨ps, k, rfl, hps, hk⟩ := exists_of_readPieces hp
        rw [List.append_nil] at hps
        subst hps
        simp only at h
        split at h
        · next w hu =>
          obtain ⟨-, gap₁, hg₁, rfl⟩ := exists_gap_of_skipSpace hu
          generalize hread : readValue fuel w = r at h
          obtain ⟨value, u₂⟩ := r
          simp only at h
          split at h
          · next w' hu₂ =>
            cases h
            obtain ⟨hne, gap₃, hg₃, rfl⟩ := exists_gap_of_skipSpace hu₂
            obtain ⟨gap₂, t, hg₂, rfl, ht⟩ := of_readValue hread (.inr hne)
            exact ⟨[(_, value)], _, by simp, by simp, .last hk rfl hg₁ hg₂ ht hg₃⟩
          · next w' hu₂ =>
            obtain ⟨hne, gap₃, hg₃, rfl⟩ := exists_gap_of_skipSpace hu₂
            obtain ⟨gap₂, t, hg₂, rfl, ht⟩ := of_readValue hread (.inr hne)
            obtain ⟨gap₄, hg₄, hw₄⟩ := exists_gap w'
            obtain ⟨members, k', hk', rfl, hmembers⟩ := of_readMembers h hw
            rw [hk'] at hw₄
            exact ⟨(_, value) :: members, _, by simp [hw₄], by simp,
              .more hk rfl hg₁ hg₂ ht hg₃ hg₄ hmembers⟩
          · exact absurd hw (hopen h)
        · exact absurd hw (hopen h)
    · exact absurd hw (hopen h)

end

theorem isWhole_toNode (n : Numeral) : n.toNode.isWhole = true := by
  unfold Numeral.toNode
  extract_lets whole
  split
  · split <;> rfl
  split
  · rfl
  split
  · rfl
  split <;> rfl

theorem isWhole_textNode (ps : List Piece) : (textNode ps).isWhole = true := by
  unfold textNode
  split <;> rfl

theorem isWhole_mapOf {members : List (Option String × Node)}
    (h : Node.membersAreWhole (named members) = true) : (mapOf members true).isWhole = true := by
  unfold mapOf
  split
  · rfl
  · rw [Node.isWhole, h]
    rfl

mutual

theorem Written.isWhole : {v : Node} → {s : List Char} → Written v s → v.isWhole = true
  | _, _, .null | _, _, .yes | _, _, .no | _, _, .emptyArray _ | _, _, .emptyObject _ => rfl
  | _, _, .number _ => isWhole_toNode _
  | _, _, .text _ => isWhole_textNode _
  | _, _, .array _ hitems => by rw [Node.isWhole, hitems.areWhole]; rfl
  | _, _, .object _ hmembers => isWhole_mapOf hmembers.areWhole

theorem WrittenItems.areWhole : {vs : List Node} → {s : List Char} → WrittenItems vs s →
    Node.areWhole vs = true
  | _, _, .last hv _ => by rw [Node.areWhole, hv.isWhole]; rfl
  | _, _, .more hv _ _ ht => by rw [Node.areWhole, hv.isWhole, ht.areWhole]; rfl

theorem WrittenMembers.areWhole : {ms : List (Option String × Node)} → {s : List Char} →
    WrittenMembers ms s → Node.membersAreWhole (named ms) = true
  | (none, _) :: _, _, _ => rfl
  | (some _, _) :: _, _, .last _ _ _ _ hv _ => by rw [named, Node.membersAreWhole, hv.isWhole]; rfl
  | (some _, _) :: _, _, .more _ _ _ _ hv _ _ ht => by
    rw [named, Node.membersAreWhole, hv.isWhole, ht.areWhole]
    rfl

end

theorem read_written {v : Node} {text : String} (h : WrittenText v text.toList) :
    read text = (v, true) := by
  obtain ⟨gap, t, gap', hg, ht, hg', hs⟩ := h
  have hlen : t.length ≤ text.toList.length + 1 := by
    simp only [hs, List.length_append]
    omega
  have hread := readValue_append ht hlen (endsNumber_gap hg' endsNumber_nil)
  have hrest : skipSpace gap' = [] := by
    have := skipSpace_gap hg' []
    rwa [List.append_nil] at this
  rw [List.append_nil, ← readValue_gap hg, ← hs] at hread
  simp only [read, hread, hrest]
  rfl

/-- And what is read to its end without a fault the grammar writes. -/
theorem written_read {v : Node} {text : String} (h : read text = (v, true))
    (hw : v.isWhole = true) : WrittenText v text.toList := by
  simp only [read] at h
  generalize hread : readValue (text.toList.length + 1) text.toList = r at h
  obtain ⟨node, rest⟩ := r
  obtain ⟨rfl, hall⟩ := Prod.mk.inj h
  obtain ⟨gap, t, hg, hs, ht⟩ := of_readValue hread (.inl hw)
  obtain ⟨gap', hg', hrest⟩ := exists_gap rest
  rw [List.isEmpty_iff.mp hall, List.append_nil] at hrest
  rw [hrest] at hs
  exact ⟨gap, t, gap', hg, ht, hg', hs⟩

end Credentials.Json
