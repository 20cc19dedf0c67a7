import Credentials.Proofs.LaidFiles

/-! What variables fill in. A variable sets its own field and no other, and only if nothing above
the defaults is recorded for it. -/

namespace Credentials.Config

open Toml (Members Tree)

section
variable {env env' : Environment} {t v : Tree} {table field key : String} {f : Field}
  {s : Filling} {b : Fallback} {l : List Fallback}

theorem isTable_setField (path : List String) : (setField v field path t).isTable = t.isTable := by
  cases path <;> cases t <;> rfl

theorem below?_setField_nil (h : t.isTable = true) :
    (setField v field [] t).below? key = if key = field then some v else t.below? key := by
  cases t with
  | table members => exact Members.lookup_insert field key v members
  | _ => cases h

theorem setField_of_not_table (path : List String) (h : t.isTable = false) :
    setField v field path t = t := by
  cases t with
  | table => cases h
  | _ => cases path <;> rfl

theorem below?_setField (h : t.isTable = true) : (setField v field [table] t).below? key =
    if key = table then some (setField v field [] ((t.below? table).getD (.table [])))
    else t.below? key := by
  cases t with
  | table members => exact Members.lookup_insert table key _ members
  | _ => cases h

theorem at?_setField_of_ne (h : f.title ≠ table ∨ f.name ≠ field) :
    (setField v field [table] t).at? f.keys = t.at? f.keys := by
  cases ht : t.isTable with
  | false => rw [setField_of_not_table [table] ht]
  | true =>
    simp only [Field.keys, Tree.at?, below?_setField ht]
    by_cases htitle : f.title = table
    · have hname : f.name ≠ field := h.resolve_left (not_not_intro htitle)
      rw [if_pos htitle, htitle]
      -- the section may be missing, a table, or something else, which stays as it is
      cases hsection : t.below? table with
      | none =>
        rw [Option.getD_none, Option.bind_some, below?_setField_nil rfl, if_neg hname]
        rfl
      | some u =>
        rw [Option.getD_some, Option.bind_some, Option.bind_some]
        cases hu : u.isTable with
        | false => rw [setField_of_not_table [] hu]
        | true => rw [below?_setField_nil hu, if_neg hname]
    · rw [if_neg htitle]

theorem at?_setField (h : t.isTable = true) (hb : ¬ t.Blocks f.keys) :
    (setField v f.name [f.title] t).at? f.keys = some v := by
  rw [Field.blocks_iff h] at hb
  have hsection : ((t.below? f.title).getD (.table [])).isTable = true := by
    cases hu : t.below? f.title with
    | none => rfl
    | some u => exact Bool.eq_true_of_not_eq_false fun hleaf => hb ⟨u, hu, hleaf⟩
  simp only [Field.keys, Tree.at?, below?_setField h, if_true, Option.bind_some,
    below?_setField_nil hsection]

theorem below?_setField_leaf {w : Tree} (hw : w.isTable = false) :
    (setField v field [table] t).below? key = some w ↔ t.below? key = some w := by
  cases ht : t.isTable with
  | false => rw [setField_of_not_table [table] ht]
  | true =>
    rw [below?_setField ht]
    by_cases hk : key = table
    · subst hk
      rw [if_pos rfl]
      cases hu : t.below? key with
      | none =>
        refine iff_of_false ?_ nofun
        rintro ⟨⟩
        cases hw
      | some u =>
        rw [Option.getD_some]
        cases hut : u.isTable with
        | false => rw [setField_of_not_table [] hut]
        | true =>
          refine iff_of_false ?_ ?_
          · rintro ⟨⟩
            rw [isTable_setField, hut] at hw
            cases hw
          · rintro ⟨⟩
            rw [hut] at hw
            cases hw
    · rw [if_neg hk]

theorem fillOne_cases (env : Environment) (s : Filling) (b : Fallback) : fillOne env s b = s ∨
    ∃ raw, fillOne env s b = ⟨setField (b.value raw) b.field [b.table] s.tree,
      s.sources.set b.path .environment, s.count + 1⟩ := by
  rw [fillOne]
  split
  · exact .inl rfl
  · cases env.lookup b.name with
    | none => exact .inl rfl
    | some raw => exact .inr ⟨raw, rfl⟩

theorem isTable_foldl : (l.foldl (fillOne env) s).tree.isTable = s.tree.isTable := by
  induction l generalizing s with
  | nil => rfl
  | cons b l ih =>
    rw [List.foldl_cons, ih]
    rcases fillOne_cases env s b with he | ⟨raw, he⟩
    · rw [he]
    · rw [he]
      exact isTable_setField _

theorem below?_foldl_leaf {w : Tree} (hw : w.isTable = false) :
    (l.foldl (fillOne env) s).tree.below? key = some w ↔ s.tree.below? key = some w := by
  induction l generalizing s with
  | nil => rfl
  | cons b l ih =>
    rw [List.foldl_cons, ih]
    rcases fillOne_cases env s b with he | ⟨raw, he⟩
    · rw [he]
    · rw [he]
      exact below?_setField_leaf hw

theorem foldl_of_other (h : ∀ b ∈ l, b.path ≠ f.path) :
    (l.foldl (fillOne env) s).tree.at? f.keys = s.tree.at? f.keys ∧
      (l.foldl (fillOne env) s).sources.find? f.path = s.sources.find? f.path := by
  induction l generalizing s with
  | nil => exact ⟨rfl, rfl⟩
  | cons b l ih =>
    obtain ⟨hb, hl⟩ := List.forall_mem_cons.mp h
    obtain ⟨hvalue, hsource⟩ := @ih (fillOne env s b) hl
    rw [List.foldl_cons, hvalue, hsource]
    rcases fillOne_cases env s b with he | ⟨raw, he⟩
    · rw [he]
      exact ⟨rfl, rfl⟩
    · rw [he]
      constructor
      · apply at?_setField_of_ne
        by_contra hsame
        obtain ⟨htitle, hname⟩ := not_or.mp hsame
        exact hb (by rw [Fallback.path, Field.path, not_not.mp htitle, not_not.mp hname])
      · exact Sources.find?_set.trans (if_neg (Ne.symm hb))

theorem isSet_fillOne {q : String} (h : isSet s.sources q = true) :
    isSet (fillOne env s b).sources q = true := by
  rcases fillOne_cases env s b with he | ⟨raw, he⟩
  · rw [he]
    exact h
  · rw [he, isSet]
    rcases @Sources.find?_set_or .environment b.path q s.sources with hq | hq
    · rw [hq]
      exact h
    · rw [hq]
      rfl

/-- A variable whose field was recorded makes no difference. -/
theorem foldl_congr
    (h : ∀ b ∈ l, isSet s.sources b.path = true ∨ env.lookup b.name = env'.lookup b.name) :
    l.foldl (fillOne env) s = l.foldl (fillOne env') s := by
  induction l generalizing s with
  | nil => rfl
  | cons b l ih =>
    obtain ⟨hb, hl⟩ := List.forall_mem_cons.mp h
    have hstep : fillOne env s b = fillOne env' s b := by
      rw [fillOne, fillOne]
      rcases hb with hb | hb
      · rw [if_pos hb, if_pos hb]
      · rw [hb]
    rw [List.foldl_cons, List.foldl_cons, ← hstep]
    exact ih fun c hc => (hl c hc).imp_left isSet_fillOne

namespace Field

/-- The variable of a field, if it has one. -/
def fallback? (f : Field) : Option Fallback :=
  fallbacks.find? fun b => b.table == f.title && b.field == f.name

/-- Whether the variable of a field is missing, or there is none for it. -/
def Unset (f : Field) (env : Environment) : Prop := ∀ b ∈ f.fallback?, env.lookup b.name = none

theorem of_fallback (hb : f.fallback? = some b) :
    b.table = f.title ∧ b.field = f.name ∧ b.path = f.path := by
  obtain ⟨htable, hfield⟩ : b.table = f.title ∧ b.field = f.name := by
    simpa using List.find?_some hb
  exact ⟨htable, hfield, by rw [Fallback.path, Field.path, htable, hfield]⟩

/-- Where a field has its place among those that have a variable. -/
theorem fallbacks_eq (hb : f.fallback? = some b) : ∃ before after,
    fallbacks = before ++ b :: after ∧ (∀ c ∈ before, c.path ≠ f.path) ∧
      ∀ c ∈ after, c.path ≠ f.path := by
  obtain ⟨-, -, hpath⟩ := of_fallback hb
  have hdistinct : fallbacks.Pairwise fun b c => b.path ≠ c.path := by decide
  obtain ⟨-, before, after, hall, -⟩ := List.find?_eq_some_iff_append.mp hb
  rw [hall, List.pairwise_append] at hdistinct
  obtain ⟨-, htail, hbefore⟩ := hdistinct
  rw [← hpath]
  exact ⟨before, after, hall, fun c hc => hbefore c hc b List.mem_cons_self,
    fun c hc => Ne.symm ((List.pairwise_cons.mp htail).1 c hc)⟩

theorem path_ne_of_fallback (hb : f.fallback? = none) : ∀ c ∈ fallbacks, c.path ≠ f.path := by
  cases f with
  | language | directives => decide
  | _ => cases hb

theorem path_eq_or (f : Field) :
    ∀ b ∈ fallbacks, b.path = f.path ∨ ∀ c ∈ f.fallback?, b.name ≠ c.name := by
  cases f <;> decide

end Field

section
variable {tree : Tree} {sources : Sources}

theorem isTable_fill : (fill env tree sources).tree.isTable = tree.isTable := isTable_foldl

theorem below?_fill_leaf {w : Tree} (hw : w.isTable = false) :
    (fill env tree sources).tree.below? key = some w ↔ tree.below? key = some w :=
  below?_foldl_leaf hw

theorem at?_fill_of_unused (h : isSet sources f.path = true ∨ f.Unset env) :
    (fill env tree sources).tree.at? f.keys = tree.at? f.keys := by
  rw [fill]
  cases hb : f.fallback? with
  | none => exact (foldl_of_other (f.path_ne_of_fallback hb)).1
  | some b =>
    obtain ⟨before, after, hall, hbefore, hafter⟩ := f.fallbacks_eq hb
    obtain ⟨hvalue, hsource⟩ := @foldl_of_other env f ⟨tree, sources, 0⟩ before hbefore
    rw [hall, List.foldl_append, List.foldl_cons, (foldl_of_other hafter).1]
    refine Eq.trans ?_ hvalue
    rcases h with h | h
    · rw [fillOne, if_pos (by rwa [isSet, (f.of_fallback hb).2.2, hsource])]
    · rw [fillOne, h b hb]
      split <;> rfl

theorem at?_fill_of_used {raw : String} (hset : isSet sources f.path = false)
    (ht : tree.isTable = true) (hblocks : ¬ tree.Blocks f.keys) (hb : f.fallback? = some b)
    (hraw : env.lookup b.name = some raw) :
    (fill env tree sources).tree.at? f.keys = some (b.value raw) := by
  obtain ⟨before, after, hall, hbefore, hafter⟩ := f.fallbacks_eq hb
  obtain ⟨htable, hfield, hpath⟩ := f.of_fallback hb
  -- the variables on either side leave the field, what counts is the step in the middle
  rw [fill, hall, List.foldl_append, List.foldl_cons, (foldl_of_other hafter).1]
  have hfree := (@foldl_of_other env f ⟨tree, sources, 0⟩ before hbefore).2
  have hroot := (@isTable_foldl env ⟨tree, sources, 0⟩ before).trans ht
  have hopen : ¬ (before.foldl (fillOne env) ⟨tree, sources, 0⟩).tree.Blocks f.keys := by
    rw [Field.blocks_iff ht] at hblocks
    rw [Field.blocks_iff hroot]
    rintro ⟨w, hw, hleaf⟩
    exact hblocks ⟨w, (below?_foldl_leaf hleaf).mp hw, hleaf⟩
  generalize before.foldl (fillOne env) ⟨tree, sources, 0⟩ = s at hfree hroot hopen ⊢
  have hunset : isSet s.sources b.path = false := by
    rw [isSet, hpath, hfree]
    exact hset
  rw [fillOne, if_neg (by simp [hunset]), hraw, htable, hfield]
  exact at?_setField hroot hopen

/-- Environments that differ in the variable of one field fill in the same, if that field was
recorded. -/
theorem fill_congr (hset : isSet sources f.path = true)
    (h : ∀ name, (∀ b ∈ f.fallback?, name ≠ b.name) → env.lookup name = env'.lookup name) :
    fill env tree sources = fill env' tree sources := by
  apply foldl_congr
  intro b hb
  rcases f.path_eq_or b hb with hpath | hother
  · exact .inl (hpath ▸ hset)
  · exact .inr (h b.name hother)

end

end

end Credentials.Config
