import Credentials.Config.Shown
import Credentials.Proofs.Paths
import Credentials.Proofs.TomlLines

/-! The notes that a shown configuration has at the ends of its lines. Most of them are comments. In
a string of several lines they are part of the string. -/

namespace Credentials.Config

open Toml (IsQuote Remark Spelled)

def noteText : Option Layer → List Char
  | none => []
  | some layer => "  # [".toList ++ layer.name.toList ++ [']']

/-- Whether a text is another one with notes at the ends of its lines. -/
inductive Noted : List Char → List Char → Prop
  | nil : Noted [] []
  | char {c : Char} {s t : List Char} : c ≠ '\n' → Noted s t → Noted (c :: s) (c :: t)
  | line {s t : List Char} (note : Option Layer) : Noted s t →
      Noted ('\n' :: s) (noteText note ++ '\n' :: t)

section
variable {a b s t u w x y : List Char} {c q : Char} {run : Nat} {isLong : Bool}
  {note : Option Layer}

theorem plain_noteText : ∀ c ∈ noteText note,
    Toml.isPlain c = true ∧ c ≠ '"' ∧ c ≠ '\'' ∧ c ≠ '\\' := by
  cases note with
  | none => exact List.forall_mem_nil _
  | some layer =>
    have hall : (noteText (some layer)).all (fun c =>
        Toml.isPlain c && (c != '"' && (c != '\'' && c != '\\'))) = true := by
      cases layer <;> decide
    simpa only [List.all_eq_true, Bool.and_eq_true, bne_iff_ne] using hall

theorem remark_noteText : Remark (noteText note) := by
  cases note with
  | none => exact .inl rfl
  | some layer =>
    have hall : (" [".toList ++ layer.name.toList ++ [']']).all Toml.isPlain = true := by
      cases layer <;> decide
    exact .inr ⟨_, rfl, List.all_eq_true.mp hall⟩

theorem Noted.cons (h : Noted s t) : Noted (c :: s) (c :: t) := by
  by_cases hc : c = '\n'
  · subst hc
    exact .line none h
  · exact .char hc h

theorem Noted.refl (s : List Char) : Noted s s := by
  induction s with
  | nil => exact .nil
  | cons c s ih => exact ih.cons

theorem Noted.append (h : Noted a s) (h' : Noted b t) : Noted (a ++ b) (s ++ t) := by
  induction h with
  | nil => exact h'
  | char hc _ ih => exact .char hc ih
  | line note _ ih =>
    rw [List.append_assoc]
    exact .line note ih

theorem exists_of_noted_append (h : Noted (a ++ b) t) :
    ∃ s u, t = s ++ u ∧ Noted a s ∧ Noted b u := by
  induction a generalizing t with
  | nil => exact ⟨[], t, rfl, .nil, h⟩
  | cons c a ih =>
    rw [List.cons_append] at h
    cases h with
    | char hc h =>
      obtain ⟨s, u, rfl, hs, hu⟩ := ih h
      exact ⟨c :: s, u, rfl, .char hc hs, hu⟩
    | line note h =>
      obtain ⟨s, u, rfl, hs, hu⟩ := ih h
      exact ⟨noteText note ++ '\n' :: s, u, by simp, .line note hs, hu⟩

/-- A text of one line has no place for a note. -/
theorem eq_of_noted (h : Noted s t) (hs : '\n' ∉ s) : t = s := by
  induction h with
  | nil => rfl
  | char _ _ ih => rw [ih fun hm => hs (.tail _ hm)]
  | line => exact absurd (.head _) hs

theorem length_le_of_noted (h : Noted s t) : s.length ≤ t.length := by
  induction h with
  | nil => exact le_rfl
  | char _ _ ih => simpa using ih
  | line =>
    simp only [List.length_cons, List.length_append]
    omega

theorem exists_of_noted_line (h : Noted (a ++ '\n' :: b) t) (ha : '\n' ∉ a) :
    ∃ note u, t = a ++ (noteText note ++ '\n' :: u) ∧ Noted b u := by
  obtain ⟨s, t, rfl, hs, ht⟩ := exists_of_noted_append h
  rw [eq_of_noted hs ha]
  cases ht with
  | char hc => exact absurd rfl hc
  | line note ht => exact ⟨note, _, rfl, ht⟩

theorem spelled_note (hq : IsQuote q) (h : Spelled true q 0 s w) :
    Spelled true q run (noteText note ++ '\n' :: s) (noteText note ++ '\n' :: w) := by
  have hplain := @plain_noteText note
  generalize noteText note = n at hplain
  induction n generalizing run with
  | nil => exact .feed rfl h
  | cons c n ih =>
    obtain ⟨⟨hc, hdouble, hsingle, hback⟩, hn⟩ := List.forall_mem_cons.mp hplain
    have hne : c ≠ q := by
      rcases hq with rfl | rfl
      · exact hdouble
      · exact hsingle
    exact .plain hc hne (fun _ => hback) (ih hn)

/-- Notes on the lines of a spelling are notes on the lines of the string. -/
theorem exists_of_noted_spelled (hq : IsQuote q) (h : Spelled isLong q run s w) (hn : Noted w y) :
    ∃ u, Noted s u ∧ Spelled isLong q run u y := by
  induction h generalizing y with
  | nil =>
    cases hn
    exact ⟨[], .nil, .nil⟩
  | quote hlong hrun _ ih =>
    cases hn with
    | char hc hn =>
      obtain ⟨u, hu, hspelled⟩ := ih hn
      exact ⟨q :: u, hu.cons, .quote hlong hrun hspelled⟩
    | line => exact absurd hq.isPlain (by decide)
  | feed hlong _ ih =>
    cases hn with
    | char hc => exact absurd rfl hc
    | line note hn =>
      obtain ⟨u, hu, hspelled⟩ := ih hn
      subst hlong
      exact ⟨_, .line note hu, spelled_note hq hspelled⟩
  | @plain _ c _ _ hc hne hback _ ih =>
    cases hn with
    | char _ hn =>
      obtain ⟨u, hu, hspelled⟩ := ih hn
      exact ⟨c :: u, hu.cons, .plain hc hne hback hspelled⟩
    | line => exact absurd hc (by decide)
  | @escaped _ c e _ _ hquote he _ ih =>
    cases hn with
    | char _ hn =>
      obtain ⟨e', y, rfl, he', hy⟩ := exists_of_noted_append hn
      obtain rfl := eq_of_noted he' fun hm => absurd (he.plain _ hm) (by decide)
      obtain ⟨u, hu, hspelled⟩ := ih hy
      exact ⟨c :: u, hu.cons, .escaped hquote he hspelled⟩

end

/-- How a string comes back: with notes at the ends of its lines, and if it has more than one line
perhaps with a note on a line in front of them. -/
inductive ShownAs (text t : String) : Prop
  | within : Noted text.toList t.toList → ShownAs text t
  | below {layer : Layer} {u : List Char} : '\n' ∈ text.toList → Noted text.toList u →
      t.toList = noteText (some layer) ++ '\n' :: u → ShownAs text t

theorem ShownAs.eq {text t : String} (h : ShownAs text t) (hline : '\n' ∉ text.toList) :
    t = text := by
  cases h with
  | within h => exact String.toList_inj.mp (eq_of_noted h hline)
  | below hm => exact absurd hm hline

section
variable {text : String} {x y rest : List Char} {q : Char} {depth : Nat}

theorem head?_ne_of_endsValue (h : Toml.EndsValue rest) :
    ∀ q, IsQuote q → rest.head? ≠ some q := by
  obtain ⟨c, t, rfl, hc⟩ := h
  rintro q hq ⟨⟩
  rcases hq with rfl | rfl <;> revert hc <;> decide

theorem noted_stringText (hline : '\n' ∈ text.toList) (h : Noted (Toml.stringText text) x) :
    ∃ q note u y, IsQuote q ∧ Noted text.toList u ∧ Spelled true q 0 u y ∧
      x = q :: q :: q :: (noteText note ++ '\n' :: (y ++ [q, q, q])) := by
  rcases Toml.stringText_spelled text with ⟨-, -, -, -, hnone, -⟩ | ⟨q, w, hq, hw, htext⟩
  · exact absurd hline hnone
  · have hquotes : '\n' ∉ [q, q, q] := by
      simp [(Toml.ne_feed_of_isPlain hq.isPlain).symm]
    have hfeed : Toml.stringText text = [q, q, q] ++ '\n' :: (w ++ [q, q, q]) := by
      rw [htext, if_pos hline]
      rfl
    obtain ⟨note, t, rfl, ht⟩ := exists_of_noted_line (hfeed ▸ h) hquotes
    obtain ⟨y, v, rfl, hy, hv⟩ := exists_of_noted_append ht
    rw [eq_of_noted hv hquotes]
    obtain ⟨u, hu, hspelled⟩ := exists_of_noted_spelled hq hw hy
    exact ⟨q, note, u, y, hq, hu, hspelled, rfl⟩

/-- A string that was written, with notes, is read as the string with notes. If the first line had a
note after its three quotes, it is another string than the one that was written. -/
theorem exists_of_noted_string (h : Noted (Toml.stringText text) x) :
    ∃ t, ShownAs text t ∧ Toml.Holds depth x (.scalar (.text t)) ∧ Toml.Starts x ∧
      ∀ q layer rest rest', '\n' ∈ text.toList →
        x ++ rest = q :: q :: q :: (noteText (some layer) ++ '\n' :: rest') → t ≠ text := by
  by_cases hline : '\n' ∈ text.toList
  · obtain ⟨q, note, u, y, hq, hu, hspelled, rfl⟩ := noted_stringText hline h
    have hholds {t : String} (hread : ∀ rest, Toml.EndsValue rest → Toml.string
        (q :: q :: q :: (noteText note ++ '\n' :: (y ++ q :: q :: q :: rest))) = some (t, rest)) :
        Toml.Holds depth (q :: q :: q :: (noteText note ++ '\n' :: (y ++ [q, q, q])))
          (.scalar (.text t)) := by
      refine Toml.holds_of_string hq fun rest hrest => ?_
      rw [← hread rest hrest]
      simp
    have hlength := length_le_of_noted hu
    cases note with
    | none =>
      refine ⟨String.ofList u, .within (by rwa [String.toList_ofList]), hholds fun rest hrest => ?_,
        Toml.starts_of_quote hq, ?_⟩
      · exact Toml.string_of_long_feed hq (head?_ne_of_endsValue hrest q hq) hspelled
      · intro q' layer rest rest' _ he
        simp [noteText] at he
    | some layer =>
      refine ⟨String.ofList (noteText (some layer) ++ '\n' :: u), .below hline hu
        (String.toList_ofList ..), hholds fun rest hrest => ?_, Toml.starts_of_quote hq, ?_⟩
      · have hread := Toml.string_of_long hq (head?_ne_of_endsValue hrest q hq)
          (@spelled_note _ _ _ 0 (some layer) hq hspelled) (by simp [noteText])
        rw [← hread]
        simp
      · rintro q' layer' rest rest' - - he
        rw [← he, String.toList_ofList] at hlength
        simp at hlength
        omega
  · have hfeed : '\n' ∉ Toml.stringText text :=
      fun hm => hline ((Toml.plain_stringText text _ hm).resolve_left (by decide)).2
    obtain rfl := eq_of_noted h hfeed
    obtain ⟨q, w, hq, htext⟩ := Toml.stringText_start text
    refine ⟨text, .within (.refl _), ?_, ?_, fun _ _ _ _ hm => absurd hm hline⟩
    · rw [htext]
      refine Toml.holds_of_string hq fun rest hrest => ?_
      rw [← htext]
      exact Toml.string_stringText (head?_ne_of_endsValue hrest)
    · rw [htext]
      exact Toml.starts_of_quote hq

def textItem (t : String) : Toml.Item := .scalar (.text t)

theorem exists_of_noted_rows {texts : List String}
    (h : Noted (texts.flatMap fun t => "    ".toList ++ Toml.stringText t ++ [',', '\n']) x) :
    ∃ ts, List.Forall₂ ShownAs texts ts ∧ Toml.Rows (ts.map textItem) x := by
  induction texts generalizing x with
  | nil =>
    cases h
    exact ⟨[], .nil, .nil⟩
  | cons text texts ih =>
    rw [List.flatMap_cons] at h
    obtain ⟨row, x, rfl, hrow, hx⟩ := exists_of_noted_append h
    obtain ⟨front, last, rfl, hfront, hlast⟩ := exists_of_noted_append hrow
    obtain ⟨indent, y, rfl, hindent, hy⟩ := exists_of_noted_append hfront
    obtain ⟨note, u, rfl, hu⟩ := exists_of_noted_line (a := [',']) (b := []) hlast (by decide)
    obtain rfl := eq_of_noted hindent (by decide)
    cases hu
    obtain ⟨t, hshown, hholds, hstarts, -⟩ := exists_of_noted_string hy
    obtain ⟨ts, hall, hrows⟩ := ih hx
    refine ⟨t :: ts, .cons hshown hall, ?_⟩
    have hrow := Toml.Rows.cons hholds hstarts (@remark_noteText note) hrows
    simp only [List.append_assoc, List.cons_append, List.nil_append] at hrow ⊢
    exact hrow

theorem exists_of_noted_strings {texts : List String} (h : Noted (Toml.stringsText texts) x) :
    ∃ ts, List.Forall₂ ShownAs texts ts ∧ Toml.Holds 0 x (.array (ts.map textItem)) ∧
      Toml.Starts x := by
  have hstarts (v : List Char) : Toml.Starts ('[' :: v) :=
    ⟨'[', v, rfl, by decide, by decide, by decide, by decide⟩
  rcases texts with _ | ⟨text, _ | ⟨text', texts⟩⟩
  · obtain rfl := eq_of_noted h (by decide)
    exact ⟨[], .nil, Toml.holds_empty, hstarts _⟩
  · cases h with
    | char _ h =>
      obtain ⟨x, last, rfl, hx, hlast⟩ := exists_of_noted_append h
      obtain rfl := eq_of_noted hlast (by decide)
      obtain ⟨t, hshown, hholds, hstart, -⟩ := exists_of_noted_string hx
      exact ⟨[t], .cons hshown .nil, Toml.holds_one hholds hstart, hstarts _⟩
  · have hopen : Noted (['['] ++ '\n' :: ((text :: text' :: texts).flatMap
        (fun t => "    ".toList ++ Toml.stringText t ++ [',', '\n']) ++ [']'])) x := by
      simpa [Toml.stringsText] using h
    obtain ⟨note, u, rfl, hu⟩ := exists_of_noted_line hopen (by decide)
    obtain ⟨w, last, rfl, hw, hlast⟩ := exists_of_noted_append hu
    obtain rfl := eq_of_noted hlast (by decide)
    obtain ⟨ts, hall, hrows⟩ := exists_of_noted_rows hw
    refine ⟨ts, hall, ?_, hstarts _⟩
    have hholds := Toml.holds_rows hrows (@remark_noteText note)
    simp only [List.append_assoc, List.cons_append, List.nil_append] at hholds ⊢
    exact hholds

end

section
variable {sources : Sources} {title line s u : List Char} {ls : List (List Char)}

def noteOf (sources : Sources) (title line : List Char) : Option Layer :=
  lineLayer sources ((sectionName? (Text.trim line)).getD title) (Text.trim line)

theorem annotate_cons : annotate sources title (line :: ls) =
    line ++ (noteText (noteOf sources title line) ++ '\n' ::
      annotate sources ((sectionName? (Text.trim line)).getD title) ls) := by
  rw [annotate, noteOf]
  cases lineLayer sources ((sectionName? (Text.trim line)).getD title) (Text.trim line) with
  | none => rfl
  | some layer => simp [noteText]

theorem noted_annotate (h : ∀ l ∈ ls, '\n' ∉ l) :
    Noted (ls.flatMap (· ++ ['\n'])) (annotate sources title ls) := by
  induction ls generalizing title with
  | nil => exact .nil
  | cons l ls ih =>
    obtain ⟨-, hls⟩ := List.forall_mem_cons.mp h
    rw [annotate_cons, List.flatMap_cons, List.append_assoc]
    exact (Noted.refl l).append (.line _ (ih hls))

theorem linesOf_cons (hline : '\n' ∉ line) (hreturn : line.getLast? ≠ some '\r') :
    linesOf (line ++ '\n' :: s) = line :: linesOf s := by
  have hsplit : (line ++ '\n' :: s).splitOn '\n' = line :: s.splitOn '\n' := by
    rw [List.splitOn_append_cons_self, List.splitOn_eq_singleton hline]
    rfl
  have hne := List.splitOn_ne_nil '\n' s
  rw [linesOf, linesOf, Text.fields_eq_splitOn, Text.fields_eq_splitOn, hsplit]
  simp only [List.getLast?_cons_of_ne_nil hne, List.dropLast_cons_of_ne_nil hne]
  split <;> rw [List.map_cons, if_neg hreturn]

theorem flatMap_line_feed (h : ls ≠ []) :
    ls.flatMap (· ++ ['\n']) = ['\n'].intercalate ls ++ ['\n'] := by
  induction ls with
  | nil => exact absurd rfl h
  | cons l ls ih =>
    cases ls with
    | nil => simp
    | cons l' ls =>
      rw [List.flatMap_cons, ih (List.cons_ne_nil _ _), List.intercalate_cons_cons]
      simp

theorem flatMap_splitOn (u : List Char) :
    (u.splitOn '\n').flatMap (· ++ ['\n']) = u ++ ['\n'] := by
  rw [flatMap_line_feed (List.splitOn_ne_nil '\n' u), List.intercalate_splitOn]

/-- The lines of a text that ends with a line, and has no carriage returns. -/
theorem linesOf_eq (h : '\r' ∉ u) : linesOf (u ++ ['\n']) = u.splitOn '\n' := by
  have hsplit : (u ++ ['\n']).splitOn '\n' = u.splitOn '\n' ++ [[]] :=
    List.splitOn_append_cons_self ..
  have hlines : ∀ l ∈ u.splitOn '\n', '\r' ∉ l := by
    intro l hl hm
    have hmem : '\r' ∈ u ++ ['\n'] := by
      rw [← flatMap_splitOn]
      exact List.mem_flatMap.mpr ⟨l, hl, List.mem_append_left _ hm⟩
    exact h ((List.mem_append.mp hmem).resolve_right (by decide))
  rw [linesOf, Text.fields_eq_splitOn, hsplit]
  simp only [List.getLast?_concat, if_true, List.dropLast_concat]
  refine (List.map_congr_left fun l hl => if_neg fun he => ?_).trans (List.map_id _)
  exact hlines l hl (List.mem_of_mem_getLast? he)

theorem noted_annotate_linesOf (h : '\r' ∉ u) :
    Noted (u ++ ['\n']) (annotate sources title (linesOf (u ++ ['\n']))) := by
  rw [linesOf_eq h, ← flatMap_splitOn]
  exact noted_annotate fun l hl => not_mem_of_mem_splitOn hl

end

end Credentials.Config
