import Credentials.Proofs.JsonGrammar
import Credentials.Proofs.JsonScalars

/-! Reading a written JSON value. A value may be spelled with any white space between its tokens;
every spelling is read as the same tree, and both printers spell. -/

namespace Credentials.Json

open Decoding (Node)

namespace Value

mutual

def node : Value → Node
  | null => .null
  | boolean b => .boolean b
  | natural n => Numeral.toNode ⟨false, naturalText n, none, none⟩
  | text s => .text s
  | array items => .sequence (nodes items) true
  | object members => .map (memberNodes members) true

def nodes : List Value → List Node
  | [] => []
  | v :: vs => v.node :: nodes vs

def memberNodes : List (String × Value) → List (String × Node)
  | [] => []
  | (key, v) :: ms => (key, v.node) :: memberNodes ms

end

theorem nodes_eq_map (items : List Value) : nodes items = items.map node := by
  induction items with
  | nil => rfl
  | cons v vs ih => rw [nodes, ih, List.map_cons]

end Value

mutual

/-- A text of a value, with any white space inside but none around it. -/
inductive Spelled : Value → List Char → Prop
  | null : Spelled .null ['n', 'u', 'l', 'l']
  | yes : Spelled (.boolean true) ['t', 'r', 'u', 'e']
  | no : Spelled (.boolean false) ['f', 'a', 'l', 's', 'e']
  | natural (n : Nat) : Spelled (.natural n) (naturalText n)
  | text (s : String) : Spelled (.text s) (quote s)
  | emptyArray {gap : List Char} : Gap gap → Spelled (.array []) ('[' :: (gap ++ [']']))
  | array {gap s : List Char} {items : List Value} : Gap gap → SpelledItems items s →
      Spelled (.array items) ('[' :: (gap ++ (s ++ [']'])))
  | emptyObject {gap : List Char} : Gap gap → Spelled (.object []) ('\x7b' :: (gap ++ ['\x7d']))
  | object {gap s : List Char} {members : List (String × Value)} : Gap gap →
      SpelledMembers members s → Spelled (.object members) ('\x7b' :: (gap ++ (s ++ ['\x7d'])))

/-- The items of an array from the first to just before the closing bracket. -/
inductive SpelledItems : List Value → List Char → Prop
  | last {v : Value} {s gap : List Char} : Spelled v s → Gap gap → SpelledItems [v] (s ++ gap)
  | more {v : Value} {vs : List Value} {s gap gap' t : List Char} : Spelled v s → Gap gap →
      Gap gap' → SpelledItems vs t → SpelledItems (v :: vs) (s ++ (gap ++ ',' :: (gap' ++ t)))

inductive SpelledMembers : List (String × Value) → List Char → Prop
  | last {key : String} {v : Value} {s gap₁ gap₂ gap₃ : List Char} : Gap gap₁ → Gap gap₂ →
      Spelled v s → Gap gap₃ →
      SpelledMembers [(key, v)] (quote key ++ (gap₁ ++ ':' :: (gap₂ ++ (s ++ gap₃))))
  | more {key : String} {v : Value} {ms : List (String × Value)}
      {s gap₁ gap₂ gap₃ gap₄ t : List Char} : Gap gap₁ → Gap gap₂ → Spelled v s → Gap gap₃ →
      Gap gap₄ → SpelledMembers ms t →
      SpelledMembers ((key, v) :: ms)
        (quote key ++ (gap₁ ++ ':' :: (gap₂ ++ (s ++ (gap₃ ++ ',' :: (gap₄ ++ t))))))

end

theorem naturalText_start (n : Nat) : ∃ c t, naturalText n = c :: t ∧ c.isDigit = true := by
  obtain ⟨c, t, hc⟩ := List.exists_cons_of_ne_nil (Nat.toDigits_ne_nil (n := n) (b := 10))
  exact ⟨c, t, hc, naturalText_digits (n := n) (by simp [naturalText, hc])⟩

theorem Spelled.not_blank {v : Value} {s : List Char} (h : Spelled v s) :
    s.all Text.isBlank = false := by
  cases h with
  | natural n =>
    obtain ⟨c, t, hc, hd⟩ := naturalText_start n
    rw [hc, List.all_cons, Text.isBlank_of_isDigit hd, Bool.false_and]
  | _ => rfl

theorem quote_append (s : String) (rest : List Char) :
    quote s ++ rest = '"' :: (s.toList.flatMap escapeChar ++ '"' :: rest) := by
  simp [quote]

theorem mapOf_named (members : List (String × Node)) :
    mapOf (members.map fun m => (some m.1, m.2)) true = .map members true := by
  have hnamed : named (members.map fun m => (some m.1, m.2)) = members := by
    induction members with
    | nil => rfl
    | cons m members ih => rw [List.map_cons, named, ih]
  have hnone : (members.map fun m => (some m.1, m.2)).any (·.1.isNone) = false := by simp
  rw [mapOf, hnone, hnamed]
  rfl

mutual

/-- A spelling of a value is among the texts of its tree. -/
theorem Spelled.written : {v : Value} → {s : List Char} → Spelled v s → Written v.node s
  | _, _, .null => .null
  | _, _, .yes => .yes
  | _, _, .no => .no
  | _, _, .natural n => .number (numeralText_natural n)
  | _, _, .text s => by
    have h := Written.text (piecesText_escaped s.toList)
    rw [textNode, contentOf_written] at h
    rwa [← List.append_nil (quote s), quote_append]
  | _, _, .emptyArray hg => .emptyArray hg
  | _, _, .array hg hitems => .array hg hitems.written
  | _, _, .emptyObject hg => .emptyObject hg
  | _, _, .object hg hmembers => by
    have h := Written.object hg hmembers.written
    rwa [mapOf_named] at h

theorem SpelledItems.written : {vs : List Value} → {s : List Char} → SpelledItems vs s →
    WrittenItems (Value.nodes vs) s
  | _, _, .last hv hg => .last hv.written hg
  | _, _, .more hv hg hg' ht => .more hv.written hg hg' ht.written

theorem SpelledMembers.written : {ms : List (String × Value)} → {s : List Char} →
    SpelledMembers ms s →
    WrittenMembers ((Value.memberNodes ms).map fun m => (some m.1, m.2)) s
  | _, _, .last h₁ h₂ hv h₃ => by
    rw [quote_append]
    exact .last (piecesText_escaped _) (contentOf_written _) h₁ h₂ hv.written h₃
  | _, _, .more h₁ h₂ hv h₃ h₄ ht => by
    rw [quote_append]
    exact .more (piecesText_escaped _) (contentOf_written _) h₁ h₂ hv.written h₃ h₄ ht.written

end

namespace Value

theorem gap_newline (depth : Nat) : Gap (newline depth) := by
  intro c hc
  rcases List.mem_cons.mp hc with rfl | hc
  · rfl
  · rw [List.eq_of_mem_replicate hc]
    rfl

mutual

theorem spelled_pretty : (v : Value) → (depth : Nat) → Spelled v (v.pretty depth)
  | .null, _ => .null
  | .boolean true, _ => .yes
  | .boolean false, _ => .no
  | .natural n, _ => .natural n
  | .text s, _ => .text s
  | .array [], _ => .emptyArray gap_nil
  | .array (v :: vs), depth => by
    have h := spelledItems_pretty v vs (depth + 1) (gap_newline depth)
    have := Spelled.array (gap_newline (depth + 1)) h
    simpa [pretty, prettyItems] using this
  | .object [], _ => .emptyObject gap_nil
  | .object ((key, v) :: ms), depth => by
    have h := spelledMembers_pretty key v ms (depth + 1) (gap_newline depth)
    have := Spelled.object (gap_newline (depth + 1)) h
    simpa [pretty, prettyMembers] using this
termination_by v => sizeOf v

theorem spelledItems_pretty (v : Value) (vs : List Value) (depth : Nat) {gap : List Char}
    (hg : Gap gap) :
    SpelledItems (v :: vs) (v.pretty depth ++ (prettyItems depth false vs ++ gap)) := by
  match vs with
  | [] => exact .last (spelled_pretty v depth) hg
  | w :: ws =>
    have := SpelledItems.more (spelled_pretty v depth) gap_nil (gap_newline depth)
      (spelledItems_pretty w ws depth hg)
    simpa [prettyItems] using this
termination_by sizeOf (v :: vs)

theorem spelledMembers_pretty (key : String) (v : Value) (ms : List (String × Value)) (depth : Nat)
    {gap : List Char} (hg : Gap gap) :
    SpelledMembers ((key, v) :: ms)
      (quote key ++ ':' :: ' ' :: (v.pretty depth ++ (prettyMembers depth false ms ++ gap))) := by
  match ms with
  | [] => exact .last gap_nil gap_space (spelled_pretty v depth) hg
  | (key', w) :: ms =>
    have := @SpelledMembers.more key _ _ _ _ _ _ _ _ gap_nil gap_space (spelled_pretty v depth) gap_nil
      (gap_newline depth) (spelledMembers_pretty key' w ms depth hg)
    simpa [prettyMembers] using this
termination_by sizeOf ((key, v) :: ms)

end

mutual

theorem spelled_compact : (v : Value) → Spelled v v.compact
  | .null => .null
  | .boolean true => .yes
  | .boolean false => .no
  | .natural n => .natural n
  | .text s => .text s
  | .array [] => .emptyArray gap_nil
  | .array (v :: vs) => by
    have := Spelled.array gap_nil (spelledItems_compact v vs)
    simpa [compact, compactItems] using this
  | .object [] => .emptyObject gap_nil
  | .object ((key, v) :: ms) => by
    have := Spelled.object gap_nil (spelledMembers_compact key v ms)
    simpa [compact, compactMembers] using this
termination_by v => sizeOf v

theorem spelledItems_compact (v : Value) (vs : List Value) :
    SpelledItems (v :: vs) (v.compact ++ compactItems false vs) := by
  match vs with
  | [] => exact .last (spelled_compact v) gap_nil
  | w :: ws =>
    have := SpelledItems.more (spelled_compact v) gap_nil gap_nil (spelledItems_compact w ws)
    simpa [compactItems] using this
termination_by sizeOf (v :: vs)

theorem spelledMembers_compact (key : String) (v : Value) (ms : List (String × Value)) :
    SpelledMembers ((key, v) :: ms) (quote key ++ ':' :: (v.compact ++ compactMembers false ms)) := by
  match ms with
  | [] =>
    have := @SpelledMembers.last key _ _ _ _ _ gap_nil gap_nil (spelled_compact v) gap_nil
    simpa [compactMembers] using this
  | (key', w) :: ms =>
    have := @SpelledMembers.more key _ _ _ _ _ _ _ _ gap_nil gap_nil (spelled_compact v) gap_nil
      gap_nil (spelledMembers_compact key' w ms)
    simpa [compactMembers] using this
termination_by sizeOf ((key, v) :: ms)

end

end Value

theorem Value.prettyText_not_blank (v : Value) : v.prettyText.toList.all Text.isBlank = false := by
  rw [Value.prettyText, String.toList_ofList]
  exact (v.spelled_pretty 0).not_blank

/-- A text of a value is read as its tree, and nothing is left over. -/
theorem read_spelled {v : Value} {s : List Char} (hs : Spelled v s) :
    read (String.ofList s) = (v.node, true) :=
  read_written ⟨[], s, [], gap_nil, hs.written, gap_nil, by simp⟩

theorem decodeText_ok_iff {α : Type} {decode : Decoding.Decode α} {text : String} {a : α} :
    decodeText decode text = .ok a ↔ ∃ node, read text = (node, true) ∧ decode node = .ok a := by
  rw [decodeText]
  obtain ⟨node, isAll⟩ := read text
  cases hd : decode node with
  | ok b => cases isAll <;> simp [hd]
  | error mismatch =>
    have hnone : ¬ ∃ node', (node, isAll) = (node', true) ∧ decode node' = .ok a := by
      rintro ⟨node', he, ha⟩
      cases he
      cases hd.symm.trans ha
    simp only [hd, hnone, iff_false]
    split <;> simp

theorem decodeText_spelled {α : Type} {decode : Decoding.Decode α} {v : Value} {s : List Char} {a : α}
    (hs : Spelled v s) : decodeText decode (String.ofList s) = .ok a ↔ decode v.node = .ok a := by
  simp [decodeText_ok_iff, read_spelled hs]

end Credentials.Json
