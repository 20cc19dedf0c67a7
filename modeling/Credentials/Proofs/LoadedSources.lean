import Credentials.Proofs.ExactSources

/-! Where a configuration that was loaded is said to come from. The variables that are used make one
layer each, on top of the files. What is recorded is the layer that set a path last; this is where
the values come from as long as no file has a value in the place of a section. -/

namespace Credentials.Config

open Files (FileSystem Path)
open Toml (Members Tree)

namespace Fallback

def keys (b : Fallback) : List String := [b.table, b.field]

def layer (b : Fallback) (raw : String) : File :=
  ⟨.environment, [], .table [(b.table, .table [(b.field, b.value raw)])]⟩

def layer? (b : Fallback) (laid : List File) (env : Environment) : Option File :=
  if laid.any fun file => (file.tree.at? b.keys).isSome then none
  else (env.lookup b.name).map b.layer

theorem isTable_value (b : Fallback) (raw : String) : (b.value raw).isTable = false := by
  rw [value]
  split
  · split <;> rfl
  · rfl

theorem dotted_keys (b : Fallback) : dotted b.keys = b.path := rfl

/-- The defaults have a value for every field that a variable can set. -/
theorem at?_defaultTree {b : Fallback} (h : b ∈ fallbacks) :
    ∃ members v, defaultTree.below? b.table = some (.table members) ∧
      members.lookup b.field = some v ∧ v.isTable = false := by
  revert b
  simp only [fallbacks, List.forall_mem_cons]
  exact ⟨⟨_, _, rfl, rfl, rfl⟩, ⟨_, _, rfl, rfl, rfl⟩, ⟨_, _, rfl, rfl, rfl⟩,
    ⟨_, _, rfl, rfl, rfl⟩, ⟨_, _, rfl, rfl, rfl⟩, List.forall_mem_nil _⟩

theorem within_layer {b : Fallback} (h : b ∈ fallbacks) (raw : String) :
    (b.layer raw).tree.Within defaultTree := by
  obtain ⟨members, v, hsection, hv, hleaf⟩ := at?_defaultTree h
  refine within_table rfl (List.forall_mem_singleton.mpr ⟨_, hsection, ?_⟩)
  exact within_table rfl
    (List.forall_mem_singleton.mpr ⟨v, hv, within_leaf (b.isTable_value raw) hleaf⟩)

theorem ordered_layer (b : Fallback) (raw : String) : (b.layer raw).tree.Ordered := by
  refine ordered_one (ordered_one ?_)
  rw [value]
  split
  · split <;> exact .plain rfl
  · exact .plain rfl

end Fallback

def variableLayers (laid : List File) (env : Environment) : List File :=
  fallbacks.filterMap fun b => b.layer? laid env

def mergedTree (laid : List File) (env : Environment) : Tree :=
  (fill env (Stack.of laid).tree (Stack.of laid).sources).tree

/-- Whether a variable sets a path: it is there, and no file has set the path. -/
def FilledIn (laid : List File) (env : Environment) (q : String) : Prop :=
  (∃ b ∈ fallbacks, b.path = q ∧ (env.lookup b.name).isSome) ∧
    ∀ layer, LastSets laid q layer → layer = .defaults

section
variable {env : Environment} {s : Filling} {b : Fallback} {l : List Fallback} {t v : Tree}
  {sources : Sources} {title name q : String} {layer : Layer} {keys : List String}

theorem recordAt_of_not_table {path : String} (hv : v.isTable = false) (old : Option Tree) :
    recordAt layer path old sources v = sources.set path layer := by
  cases old with
  | none =>
    cases v with
    | table => cases hv
    | _ => rfl
  | some old => rw [recordAt, overlay_of_not_table hv]

theorem overlayMembers_leaf {path : String} {inner : Members} (hv : v.isTable = false) :
    overlayMembers layer path inner sources [(name, v)] =
      (Members.insert name v inner, sources.set (joinPath path name) layer) := by
  rw [overlayMembers_cons, overlayMembers, mergeAt_of_not_table _ hv, recordAt_of_not_table hv]

/-- Setting a field is laying a tree down that has nothing but the field, unless something else
stands in the place of its section. -/
theorem overlay_field (ht : t.isTable = true) (hv : v.isTable = false)
    (hsection : ∀ w, t.below? title = some w → w.isTable = true) :
    overlay layer "" t sources (.table [(title, .table [(name, v)])]) =
      (setField v name [title] t, sources.set (joinPath title name) layer) := by
  obtain ⟨below, rfl⟩ := Tree.exists_of_isTable ht
  have htitle : joinPath "" title = title := rfl
  rw [Tree.below?] at hsection
  cases hold : below.lookup title with
  | none =>
    have hrecord : record layer (joinPath title name) sources v =
        sources.set (joinPath title name) layer := recordAt_of_not_table hv none
    simp only [overlay, overlayMembers, hold, record, recordMembers, htitle, hrecord, setField,
      Option.getD_none]
    rfl
  | some old =>
    obtain ⟨inner, rfl⟩ := Tree.exists_of_isTable (hsection old hold)
    have hinner : overlay layer title (.table inner) sources (.table [(name, v)]) =
        (.table (Members.insert name v inner), sources.set (joinPath title name) layer) := by
      rw [overlay, overlayMembers_leaf hv]
    rw [overlay, overlayMembers, hold]
    simp only [htitle, hinner, overlayMembers, Tree.isTable, if_true, setField, hold,
      Option.getD_some]

theorem fillOne_eq_lay {raw : String} (hset : isSet s.sources b.path = false)
    (hraw : env.lookup b.name = some raw) (ht : s.tree.isTable = true)
    (hsection : ∀ w, s.tree.below? b.table = some w → w.isTable = true) :
    (fillOne env s b).tree = merge s.tree (b.layer raw).tree ∧
      (fillOne env s b).sources =
        (overlay .environment "" s.tree s.sources (b.layer raw).tree).2 := by
  have hfield : overlay .environment "" s.tree s.sources (b.layer raw).tree =
      (setField (b.value raw) b.field [b.table] s.tree, s.sources.set b.path .environment) :=
    overlay_field ht (b.isTable_value raw) hsection
  have hmerge := @overlay_fst .environment "" s.sources s.tree (b.layer raw).tree
  rw [hfield] at hmerge
  rw [fillOne, if_neg (by simp [hset]), hraw, hfield]
  exact ⟨hmerge, rfl⟩

theorem find?_fillOne : (fillOne env s b).sources.find? q =
    if b.path = q ∧ isSet s.sources q = false ∧ (env.lookup b.name).isSome
    then some .environment else s.sources.find? q := by
  rw [fillOne]
  by_cases hset : isSet s.sources b.path = true
  · rw [if_pos hset, if_neg]
    rintro ⟨rfl, hunset, -⟩
    rw [hset] at hunset
    cases hunset
  · rw [if_neg hset]
    cases hraw : env.lookup b.name with
    | none => simp
    | some raw =>
      refine Sources.find?_set.trans ?_
      by_cases hq : q = b.path
      · subst hq
        simp [hset]
      · simp [hq, Ne.symm hq]

theorem find?_foldl_of_unused
    (h : isSet s.sources q = true ∨ ∀ b ∈ l, b.path = q → (env.lookup b.name).isSome = false) :
    (l.foldl (fillOne env) s).sources.find? q = s.sources.find? q := by
  induction l generalizing s with
  | nil => rfl
  | cons b l ih =>
    have hstep : (fillOne env s b).sources.find? q = s.sources.find? q := by
      rw [find?_fillOne, if_neg]
      rintro ⟨hq, hunset, hsome⟩
      rcases h with h | h
      · rw [h] at hunset
        cases hunset
      · rw [h b List.mem_cons_self hq] at hsome
        cases hsome
    rw [List.foldl_cons, ih, hstep]
    refine h.imp (fun h => ?_) fun h c hc => h c (List.mem_cons_of_mem b hc)
    rw [isSet, hstep]
    exact h

theorem find?_foldl_of_used (hset : isSet s.sources q = false)
    (h : ∃ b ∈ l, b.path = q ∧ (env.lookup b.name).isSome) :
    (l.foldl (fillOne env) s).sources.find? q = some .environment := by
  induction l generalizing s with
  | nil => simp at h
  | cons b l ih =>
    rw [List.foldl_cons]
    by_cases hb : b.path = q ∧ (env.lookup b.name).isSome
    · have hfound : (fillOne env s b).sources.find? q = some .environment := by
        rw [find?_fillOne, if_pos ⟨hb.1, hset, hb.2⟩]
      -- from here on the path counts as set
      rw [find?_foldl_of_unused (.inl (by rw [isSet, hfound]; rfl)), hfound]
    · obtain ⟨c, hc, hpath, hsome⟩ := h
      have hrest : c ∈ l := (List.mem_cons.mp hc).resolve_left fun he => hb ⟨he ▸ hpath, he ▸ hsome⟩
      refine ih ?_ ⟨c, hrest, hpath, hsome⟩
      rw [isSet, find?_fillOne, if_neg fun h => hb ⟨h.1, h.2.2⟩]
      exact hset

theorem find?_fill_iff {laid : List File} (h : ∀ file ∈ laid, file.Sound) :
    (fill env (Stack.of laid).tree (Stack.of laid).sources).sources.find? q = some layer ↔
      (FilledIn laid env q ∧ layer = .environment) ∨
        (¬ FilledIn laid env q ∧ LastSets laid q layer) := by
  have hunset : isSet (Stack.of laid).sources q = false ↔
      ∀ layer, LastSets laid q layer → layer = .defaults := by
    simp only [isSet, ← find?_stack_iff h]
    cases (Stack.of laid).sources.find? q <;> simp
  rw [fill]
  by_cases hfilled : FilledIn laid env q
  · rw [find?_foldl_of_used (hunset.mpr hfilled.2) hfilled.1]
    simp [hfilled, eq_comm]
  · rw [find?_foldl_of_unused, find?_stack_iff h]
    · simp [hfilled]
    · by_contra hneither
      obtain ⟨hset, hsome⟩ := not_or.mp hneither
      refine hfilled ⟨?_, hunset.mp (Bool.eq_false_of_not_eq_true hset)⟩
      simpa using hsome

structure Filled (files : List File) (s : Filling) : Prop where
  exact : Exact files s.sources s.tree
  plain : s.tree.HasPlainKeys
  agrees : s.tree.Agrees defaultTree
  isTable : s.tree.isTable = true

theorem Filled.use {files : List File} {raw : String} (h : Filled files s) (hb : b ∈ fallbacks)
    (hset : isSet s.sources b.path = false) (hraw : env.lookup b.name = some raw) :
    Filled (files ++ [b.layer raw]) (fillOne env s b) := by
  have hsection : ∀ w, s.tree.below? b.table = some w → w.isTable = true := by
    intro w hw
    obtain ⟨members, v, hdefault, -⟩ := Fallback.at?_defaultTree hb
    refine h.agrees [b.table] w (.table members) ?_ ?_
    · rw [Tree.at?, hw]
      rfl
    · rw [Tree.at?, hdefault]
      rfl
  obtain ⟨htree, hsources⟩ := fillOne_eq_lay hset hraw h.isTable hsection
  have hordered := b.ordered_layer raw
  have hwithin := Fallback.within_layer hb raw
  have hplain := hasPlainKeys_of_within hasPlainKeys_defaultTree hwithin
  have hagrees := agrees_of_within h.agrees hwithin
  refine ⟨?_, ?_, ?_, ?_⟩
  · rw [htree, hsources]
    exact h.exact.lay hordered hagrees h.plain hplain
  · rw [htree]
    exact hasPlainKeys_merge hordered h.plain hplain
  · rw [htree]
    exact agrees_merge hordered h.agrees
      (agrees_symm (agrees_of_within (agrees_refl defaultTree) hwithin))
  · rw [htree, isTable_merge]
    rfl

section
variable {laid : List File}

/-- Of files that agree, a path of a variable counts as set if one of them has its field. -/
theorem isSet_eq_any (hsound : ∀ file ∈ laid, file.Sound) (h : Compatible laid)
    (hb : b ∈ fallbacks) : isSet (Stack.of laid).sources b.path =
      laid.any fun file => (file.tree.at? b.keys).isSome := by
  have hsorted := sorted_of_compatible hsound h
  obtain ⟨members, v, hsection, hv, hleaf⟩ := Fallback.at?_defaultTree hb
  have hdefault : defaultTree.at? b.keys = some v := by
    rw [Fallback.keys, Tree.at?, hsection, Option.bind_some, Tree.at?, Tree.below?, hv]
    rfl
  obtain ⟨w, hw, hshape⟩ := hsorted.stands _ _ hdefault
  obtain ⟨layer, ⟨below, file, above, hall, hlayer, hvalue, habove⟩, hfind⟩ :=
    hsorted.exact.value _ _ hw (hshape.trans hleaf)
  rw [isSet, ← b.dotted_keys, hfind, Option.any_some]
  cases below with
  | nil =>
    -- the value is that of the defaults, and no file has one
    obtain ⟨rfl, rfl⟩ := List.cons.inj hall
    rw [List.any_eq_false.mpr fun g hg => by simp [(habove g hg).1], ← hlayer]
    rfl
  | cons first below =>
    have hfile : file ∈ laid := by
      rw [(List.cons.inj hall).2]
      simp
    have hany : (laid.any fun file => (file.tree.at? b.keys).isSome) = true :=
      List.any_eq_true.mpr ⟨file, hfile, by rw [hvalue]; rfl⟩
    rw [hany, ← hlayer]
    exact bne_iff_ne.mpr (hsound file hfile).layer

theorem Filled.of_compatible (hsound : ∀ file ∈ laid, file.Sound) (h : Compatible laid) :
    Filled (defaultFile :: laid) ⟨(Stack.of laid).tree, (Stack.of laid).sources, 0⟩ := by
  have hsorted := sorted_of_compatible hsound h
  refine ⟨hsorted.exact, hsorted.plain, hsorted.agrees _ ?_, isTable_of hsound⟩
  refine List.forall_mem_cons.mpr ⟨agrees_refl defaultTree, fun file hfile => ?_⟩
  exact agrees_symm ((List.pairwise_cons.mp h.agrees).1 file hfile)

theorem Filled.fold {files : List File} (h : Filled files s) (hl : ∀ b ∈ l, b ∈ fallbacks)
    (hdistinct : l.Pairwise fun b c => b.path ≠ c.path)
    (hset : ∀ b ∈ l, isSet s.sources b.path = laid.any fun file => (file.tree.at? b.keys).isSome) :
    Filled (files ++ l.filterMap fun b => b.layer? laid env) (l.foldl (fillOne env) s) := by
  induction l generalizing files s with
  | nil =>
    rw [List.filterMap_nil, List.append_nil]
    exact h
  | cons b l ih =>
    obtain ⟨hb, hl⟩ := List.forall_mem_cons.mp hl
    obtain ⟨hset, hrest⟩ := List.forall_mem_cons.mp hset
    obtain ⟨hothers, hdistinct⟩ := List.pairwise_cons.mp hdistinct
    have hkept : ∀ c ∈ l, isSet (fillOne env s b).sources c.path =
        laid.any fun file => (file.tree.at? c.keys).isSome := by
      intro c hc
      rw [isSet, find?_fillOne, if_neg fun he => hothers c hc he.1]
      exact hrest c hc
    rw [List.foldl_cons, List.filterMap_cons, Fallback.layer?, ← hset]
    cases hb' : isSet s.sources b.path with
    | true =>
      have hstep : fillOne env s b = s := by rw [fillOne, if_pos hb']
      rw [hstep] at hkept ⊢
      exact ih h hl hdistinct hkept
    | false =>
      cases hraw : env.lookup b.name with
      | none =>
        have hstep : fillOne env s b = s := by rw [fillOne, if_neg (by simp [hb']), hraw]
        rw [hstep] at hkept ⊢
        exact ih h hl hdistinct hkept
      | some raw =>
        have hused := h.use hb hb' hraw
        have hfold := ih hused hl hdistinct hkept
        rw [List.append_assoc] at hfold
        exact hfold

end

section
variable {u : Tree}

theorem hasPlainKeys_of_below
    (h : ∀ key w, t.below? key = some w → IsPlainKey key ∧ w.HasPlainKeys) : t.HasPlainKeys := by
  intro keys w hw
  cases keys with
  | nil => exact List.forall_mem_nil _
  | cons key keys =>
    obtain ⟨u, hu, hw⟩ := Option.bind_eq_some_iff.mp hw
    obtain ⟨hkey, hplain⟩ := h key u hu
    exact List.forall_mem_cons.mpr ⟨hkey, hplain keys w hw⟩

theorem hasPlainKeys_below (h : t.HasPlainKeys) {key : String} (hu : t.below? key = some u) :
    IsPlainKey key ∧ u.HasPlainKeys := by
  have hat (keys : List String) : t.at? (key :: keys) = u.at? keys := by
    rw [Tree.at?, hu, Option.bind_some]
  constructor
  · exact h [key] u (hat []) key (List.mem_singleton_self key)
  · intro keys w hw k hk
    exact h (key :: keys) w ((hat keys).trans hw) k (List.mem_cons_of_mem key hk)

theorem hasPlainKeys_setField {path : List String} (hpath : ∀ k ∈ path, IsPlainKey k)
    (hname : IsPlainKey name) (hv : v.isTable = false) (h : t.HasPlainKeys) :
    (setField v name path t).HasPlainKeys := by
  induction path generalizing t with
  | nil =>
    cases ht : t.isTable with
    | false =>
      rw [setField_of_not_table [] ht]
      exact h
    | true =>
      refine hasPlainKeys_of_below fun key w hw => ?_
      rw [below?_setField_nil ht] at hw
      split at hw
      · next hkey =>
        obtain rfl := Option.some.inj hw
        exact ⟨hkey ▸ hname, hasPlainKeys_leaf hv⟩
      · exact hasPlainKeys_below h hw
  | cons k path ih =>
    obtain ⟨hk, hpath⟩ := List.forall_mem_cons.mp hpath
    cases t with
    | table members =>
      refine hasPlainKeys_of_below fun key w hw => ?_
      have hw : (if key = k then some (setField v name path ((members.lookup k).getD (.table [])))
          else members.lookup key) = some w := (Members.lookup_insert ..).symm.trans hw
      split at hw
      · next hkey =>
        obtain rfl := Option.some.inj hw
        refine ⟨hkey ▸ hk, ih hpath ?_⟩
        cases hold : members.lookup k with
        | none => exact hasPlainKeys_table (List.forall_mem_nil _)
        | some old => exact (hasPlainKeys_below h hold).2
      · exact hasPlainKeys_below h hw
    | _ => exact h

end

section
variable {laid above : List File}

theorem hasPlainKeys_mergedTree (hsound : ∀ file ∈ laid, file.Sound)
    (h : ∀ file ∈ laid, file.tree.HasPlainKeys) : (mergedTree laid env).HasPlainKeys := by
  have hfiles : (Stack.of laid).tree.HasPlainKeys := by
    induction laid using List.reverseRecOn with
    | nil => exact hasPlainKeys_defaultTree
    | append_singleton laid file ih =>
      obtain ⟨hlaid, hfile⟩ := List.forall_mem_append.mp hsound
      obtain ⟨hplain, hplain'⟩ := List.forall_mem_append.mp h
      rw [List.forall_mem_singleton] at hfile hplain'
      rw [Stack.of_concat, Stack.lay_tree]
      exact hasPlainKeys_merge hfile.ordered (ih hlaid hplain) hplain'
  have hfields : ∀ b ∈ fallbacks, IsPlainKey b.table ∧ IsPlainKey b.field := by
    unfold IsPlainKey
    decide
  refine List.foldlRecOn fallbacks (fillOne env)
    (motive := fun s : Filling => s.tree.HasPlainKeys) hfiles fun s hs b hb => ?_
  obtain ⟨htable, hfield⟩ := hfields b hb
  rcases fillOne_cases env s b with he | ⟨raw, he⟩
  · rwa [he]
  · rw [he]
    exact hasPlainKeys_setField (List.forall_mem_singleton.mpr htable) hfield
      (b.isTable_value raw) hs

theorem LastSets.append (h : ∃ layer, LastSets laid q layer) :
    ∃ layer, LastSets (laid ++ above) q layer := by
  induction above using List.reverseRecOn with
  | nil =>
    rw [List.append_nil]
    exact h
  | append_singleton above file ih =>
    rw [← List.append_assoc]
    by_cases hsets : Sets (Stack.of (laid ++ above)).tree file.tree q
    · exact ⟨file.layer, .sets hsets⟩
    · obtain ⟨layer, h⟩ := ih
      exact ⟨layer, .keeps hsets h⟩

/-- The defaults have set every field, so something has set it last. -/
theorem exists_lastSets (f : Field) : ∃ layer, LastSets laid (dotted f.keys) layer := by
  refine @LastSets.append _ [] laid ⟨.defaults, ?_⟩
  exact (find?_stack_iff (List.forall_mem_nil _)).mp (base_find? f)

theorem exists_lastSets_of_blocks {file : File} {f : Field} (hsound : ∀ file ∈ laid, file.Sound)
    (hfile : file ∈ laid) (hb : file.tree.Blocks f.keys) :
    ∃ layer, LastSets laid (dotted [f.title]) layer := by
  obtain ⟨below, above, rfl⟩ := List.append_of_mem hfile
  rw [List.append_cons]
  refine LastSets.append ⟨file.layer, .sets ⟨[f.title], rfl, ?_⟩⟩
  obtain ⟨w, hw, hleaf⟩ := (Field.blocks_iff (hsound file hfile).isTable).mp hb
  have hroot := isTable_of fun g hg => hsound g (List.mem_append_left _ hg)
  refine ⟨?_, w, ?_, .inl hleaf⟩
  · rintro (h | ⟨-, -, ⟨⟩⟩)
    rw [hroot] at h
    cases h
  · rw [Tree.at?, hw]
    rfl

theorem exists_find?_fill (hsound : ∀ file ∈ laid, file.Sound)
    (h : ∃ layer, LastSets laid q layer) :
    ∃ layer, (fill env (Stack.of laid).tree (Stack.of laid).sources).sources.find? q =
      some layer := by
  obtain ⟨layer, h⟩ := h
  by_cases hfilled : FilledIn laid env q
  · exact ⟨.environment, (find?_fill_iff hsound).mpr (.inl ⟨hfilled, rfl⟩)⟩
  · exact ⟨layer, (find?_fill_iff hsound).mpr (.inr ⟨hfilled, h⟩)⟩

/-- A file with a value in the place of a section leaves a record that is exact for nothing: the
section and its fields are recorded both. -/
theorem not_exact_of_blocks {files : List File} {file : File} {f : Field}
    (hsound : ∀ file ∈ laid, file.Sound) (hplain : ∀ file ∈ laid, file.tree.HasPlainKeys)
    (hfile : file ∈ laid) (hb : file.tree.Blocks f.keys) :
    ¬ Exact files (fill env (Stack.of laid).tree (Stack.of laid).sources).sources
      (mergedTree laid env) := by
  intro hexact
  have hkeys : IsPlainKey f.title ∧ IsPlainKey f.name := by
    unfold IsPlainKey
    cases f <;> decide
  have hvalue (keys : List String) (hk : ∀ k ∈ keys, IsPlainKey k)
      (h : ∃ layer, LastSets laid (dotted keys) layer) :
      ∃ v, (mergedTree laid env).at? keys = some v ∧ v.isTable = false := by
    obtain ⟨layer, hfind⟩ := exists_find?_fill hsound h
    obtain ⟨others, v, hsame, hv, hleaf⟩ := hexact.entry _ _ hfind
    obtain rfl := dotted_injective (hasPlainKeys_mergedTree hsound hplain others v hv) hk hsame
    exact ⟨v, hv, hleaf⟩
  obtain ⟨v, hv, hleaf⟩ := hvalue [f.title] (by simpa using hkeys.1)
    (exists_lastSets_of_blocks hsound hfile hb)
  obtain ⟨w, hw, -⟩ := hvalue f.keys (by simpa [Field.keys] using hkeys) (exists_lastSets f)
  -- below a value there is nothing
  obtain ⟨u, hu, hv⟩ := Option.bind_eq_some_iff.mp hv
  obtain rfl := Option.some.inj hv
  rw [Field.keys, Tree.at?, hu, Option.bind_some, Tree.at?, Tree.below?_of_not_table hleaf] at hw
  cases hw

end

end

section
variable {files : FileSystem} {places : Locations} {explicit : Option Path} {env : Environment}
  {laid : List File} {resolved : Resolved}

theorem of_load (h : found files places explicit = .ok laid)
    (hload : load files places explicit env = .ok resolved) :
    resolved.config.check = .ok () ∧
      resolved.sources = (fill env (Stack.of laid).tree (Stack.of laid).sources).sources := by
  rw [load_of_found h] at hload
  split at hload
  · cases hload
  · split at hload
    · cases hload
    · next hcheck =>
      obtain rfl := Except.ok.inj hload
      exact ⟨hcheck, rfl⟩

theorem check_of_load (hload : load files places explicit env = .ok resolved) :
    resolved.config.check = .ok () := by
  cases h : found files places explicit with
  | error cause =>
    rw [load_of_not_found h] at hload
    cases hload
  | ok laid => exact (of_load h hload).1

theorem exists_find?_of_load (hload : load files places explicit env = .ok resolved) (f : Field) :
    ∃ layer, resolved.sources.find? (dotted f.keys) = some layer := by
  cases h : found files places explicit with
  | error cause =>
    rw [load_of_not_found h] at hload
    cases hload
  | ok laid =>
    rw [(of_load h hload).2]
    exact exists_find?_fill (sound_of_found h) (exists_lastSets f)

/-- For each path the layer is recorded that set it last. Where the files agree with the defaults
and with each other on what is a table, and their keys have no dots, the record is exact for the
merged tree. A file with a value in the place of a section makes it inexact, whatever is laid over
it. -/
theorem load_sources (h : found files places explicit = .ok laid)
    (hload : load files places explicit env = .ok resolved) :
    (∀ q layer, resolved.sources.find? q = some layer ↔
      (FilledIn laid env q ∧ layer = .environment) ∨
        (¬ FilledIn laid env q ∧ LastSets laid q layer)) ∧
    (Compatible laid → Exact (defaultFile :: laid ++ variableLayers laid env) resolved.sources
      (mergedTree laid env)) ∧
    ((∀ file ∈ laid, file.tree.HasPlainKeys) →
      (∃ file ∈ laid, ∃ f : Field, file.tree.Blocks f.keys) →
        ∀ layers, ¬ Exact layers resolved.sources (mergedTree laid env)) := by
  have hsound := sound_of_found h
  rw [(of_load h hload).2]
  refine ⟨fun q layer => find?_fill_iff hsound, fun hcompatible => ?_, ?_⟩
  · have hdistinct : fallbacks.Pairwise fun b c => b.path ≠ c.path := by decide
    exact ((Filled.of_compatible hsound hcompatible).fold (fun _ hb => hb) hdistinct
      fun b hb => isSet_eq_any hsound hcompatible hb).exact
  · rintro hplain ⟨file, hfile, f, hb⟩ layers
    exact not_exact_of_blocks hsound hplain hfile hb

end

/-- Files that have nothing but known fields, and no table in the place of one, are compatible. -/
theorem compatible_of_within {laid : List File}
    (h : ∀ file ∈ laid, file.tree.Within defaultTree) : Compatible laid := by
  have hall : ∀ file ∈ defaultFile :: laid, defaultTree.Agrees file.tree :=
    List.forall_mem_cons.mpr ⟨agrees_refl defaultTree,
      fun file hfile => agrees_of_within (agrees_refl defaultTree) (h file hfile)⟩
  refine ⟨fun file hfile => hasPlainKeys_of_within hasPlainKeys_defaultTree (h file hfile), ?_⟩
  refine List.pairwise_cons.mpr ⟨fun file hfile => hall file (List.mem_cons_of_mem _ hfile), ?_⟩
  exact List.pairwise_of_forall_mem_list fun f hf g hg =>
    agrees_of_within (agrees_symm (hall f (List.mem_cons_of_mem _ hf))) (h g hg)

theorem within_field {members : Members} {title name : String} {v w : Tree}
    (hsection : defaultTree.below? title = some (.table members))
    (hw : members.lookup name = some w) (hwleaf : w.isTable = false) (hv : v.isTable = false) :
    ∃ u, defaultTree.below? title = some u ∧ (Tree.table [(name, v)]).Within u :=
  ⟨_, hsection,
    within_table rfl (List.forall_mem_singleton.mpr ⟨w, hw, within_leaf hv hwleaf⟩)⟩

theorem within_layered : ∀ file ∈ layeredFiles, file.tree.Within defaultTree := by
  simp only [layeredFiles, List.forall_mem_cons]
  refine ⟨within_table rfl ?_, within_table rfl ?_, within_table rfl ?_, List.forall_mem_nil _⟩
  · exact List.forall_mem_cons.mpr ⟨within_field rfl rfl rfl rfl,
      List.forall_mem_singleton.mpr (within_field rfl rfl rfl rfl)⟩
  · exact List.forall_mem_singleton.mpr (within_field rfl rfl rfl rfl)
  · exact List.forall_mem_singleton.mpr (within_field rfl rfl rfl rfl)

/-- A file of the user with an array in the place of a section, and no other file. -/
def arrayed : FileSystem :=
  (FileSystem.bare []).setEntry ["user".toList]
    (.file (.text "store = [\"/srv/tokens.json\", 2000]\n"))

def arrayedFiles : List File :=
  [⟨.user, threePlaces.user,
    .table [("store", .array [.text "/srv/tokens.json", .integer 2000])]⟩]

theorem found_arrayed : found arrayed threePlaces none = .ok arrayedFiles := by
  have hmissing : arrayed.readText threePlaces.system = .error .notFound := by rfl
  have hsystem : readFile arrayed threePlaces.system = .ok none := by
    rw [readFile, hmissing]
  have huser : readFile arrayed threePlaces.user =
      .ok (some (.table [("store", .array [.text "/srv/tokens.json", .integer 2000])])) :=
    readFile_of_same (by decide +kernel)
  simp [found, findFile, hsystem, huser, Except.map, bind, Except.bind, pure, Except.pure,
    arrayedFiles]

theorem hasPlainKeys_arrayed : ∀ file ∈ arrayedFiles, file.tree.HasPlainKeys := by
  refine List.forall_mem_singleton.mpr (hasPlainKeys_leaves (List.forall_mem_singleton.mpr ?_))
  exact ⟨⟨by decide, by decide⟩, rfl⟩

theorem load_arrayed : ∃ resolved, load arrayed threePlaces none [] = .ok resolved ∧
    resolved.sources.find? "store.path" = some .defaults ∧
    resolved.config.store.path = "/srv/tokens.json" := by
  obtain ⟨resolved, hload, hfind⟩ : ∃ resolved,
      (load arrayed threePlaces none []).toOption = some resolved ∧
        (resolved.sources.find? "store.path", resolved.config.store.path) =
          (some .defaults, "/srv/tokens.json") :=
    Option.map_eq_some_iff.mp (by decide +kernel)
  exact ⟨resolved, ok_of_toOption hload, congrArg Prod.fst hfind, congrArg Prod.snd hfind⟩

/-- Of three files and two variables the record is exact; one of the variables is used, as no file
has its field. Of an array in the place of a section it is not. -/
theorem load_sources_layered :
    let env := [("HEARTH_LOG_LEVEL", "error"), ("HEARTH_PAIRING_TTL_SECS", " 60 ")]
    (∃ resolved, load layered threePlaces (some "explicit".toList) env = .ok resolved ∧
      Exact (defaultFile :: layeredFiles ++ variableLayers layeredFiles env) resolved.sources
        (mergedTree layeredFiles env) ∧
      resolved.sources.find? "auth.pairing_ttl_secs" = some .environment) ∧
    ∃ resolved, load arrayed threePlaces none [] = .ok resolved ∧
      ∀ layers, ¬ Exact layers resolved.sources (mergedTree arrayedFiles []) := by
  intro env
  constructor
  · obtain ⟨resolved, hresolved⟩ : ∃ resolved,
        (load layered threePlaces (some "explicit".toList) env).toOption = some resolved :=
      Option.isSome_iff_exists.mp (by decide +kernel)
    have hload := ok_of_toOption hresolved
    obtain ⟨hlaw, hexact, -⟩ := load_sources found_layered hload
    refine ⟨resolved, hload, hexact (compatible_of_within within_layered), ?_⟩
    have hdefault : (Stack.of layeredFiles).sources.find? "auth.pairing_ttl_secs" =
        some .defaults := by decide +kernel
    refine (hlaw _ _).mpr (.inl ⟨⟨⟨_, .tail _ (.tail _ (.head _)), rfl, rfl⟩, ?_⟩, rfl⟩)
    intro layer hlast
    rw [← find?_stack_iff (sound_of_found found_layered), hdefault] at hlast
    exact (Option.some.inj hlast).symm
  · obtain ⟨resolved, hload, -⟩ := load_arrayed
    obtain ⟨-, -, hinexact⟩ := load_sources found_arrayed hload
    refine ⟨resolved, hload, hinexact hasPlainKeys_arrayed ⟨_, .head _, .storePath, ?_⟩⟩
    exact .inr ⟨_, rfl, .inl rfl⟩

/-- A path stays recorded although nothing stands there any more, under whatever keys. -/
theorem load_stale_source : ∃ resolved, load arrayed threePlaces none [] = .ok resolved ∧
    found arrayed threePlaces none = .ok arrayedFiles ∧
    resolved.sources.find? "store.path" = some .defaults ∧
    ∀ keys, dotted keys = "store.path" → (mergedTree arrayedFiles []).at? keys = none := by
  obtain ⟨resolved, hload, hfind, -⟩ := load_arrayed
  refine ⟨resolved, hload, found_arrayed, hfind, fun keys hkeys => ?_⟩
  by_contra hsome
  obtain ⟨v, hv⟩ := Option.ne_none_iff_exists'.mp hsome
  have hsound := sound_of_found found_arrayed
  have hplain := hasPlainKeys_mergedTree hsound hasPlainKeys_arrayed keys v hv
  obtain rfl : keys = ["store", "path"] :=
    dotted_injective hplain (by unfold IsPlainKey; decide) hkeys
  have hnone : ((mergedTree arrayedFiles []).at? ["store", "path"]).isNone = true := by
    decide +kernel
  rw [hv] at hnone
  cases hnone

end Credentials.Config
