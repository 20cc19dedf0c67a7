import Credentials.Proofs.FieldSources
import Credentials.Proofs.MergedTrees
import Credentials.Proofs.Paths

/-! The paths that a layer is recorded for, whatever it is laid over: those of its values, unless a
value stands in the way, and those where it has a table in the place of a value. What was recorded
for other paths stays. -/

namespace Credentials.Config

open Toml (Members Tree)

def dotted (keys : List String) : String := keys.foldl joinPath ""

/-- Whether a tree that is laid over another sets what stands at a path: it has a value there and
nothing below is in the way, or it has a table in the place of a value. -/
def Marks (base upper : Tree) (keys : List String) : Prop :=
  ¬ base.Blocks keys ∧ ∃ v, upper.at? keys = some v ∧
    (v.isTable = false ∨ ∃ old, base.at? keys = some old ∧ old.isTable = false)

section
variable {layer layer' : Layer} {path key q : String} {sources : Sources} {base upper v : Tree}
  {below members : Members} {keys : List String}

theorem marks_nil : Marks base upper [] ↔ upper.isTable = false ∨ base.isTable = false := by
  have hblocks : ¬ base.Blocks [] := id
  simp [Marks, hblocks, Tree.at?]

theorem not_blocks_empty : ¬ (Tree.table []).Blocks keys := by
  cases keys with
  | nil => exact id
  | cons key keys =>
    rintro (h | ⟨v, hv, -⟩)
    · cases h
    · cases hv

theorem isTable_of_empty (h : (Tree.table []).at? keys = some v) : v.isTable = true := by
  cases keys with
  | nil =>
    obtain rfl := Option.some.inj h
    rfl
  | cons key keys => cases h

theorem marks_empty_iff : Marks (.table []) upper keys ↔
    ∃ v, upper.at? keys = some v ∧ v.isTable = false := by
  constructor
  · rintro ⟨-, v, hv, hleaf | ⟨old, hold, hleaf⟩⟩
    · exact ⟨v, hv, hleaf⟩
    · rw [isTable_of_empty hold] at hleaf
      cases hleaf
  · rintro ⟨v, hv, hleaf⟩
    exact ⟨not_blocks_empty, v, hv, .inl hleaf⟩

theorem marks_cons : Marks base upper (key :: keys) ↔ base.isTable = true ∧
    ∃ w, upper.below? key = some w ∧ Marks ((base.below? key).getD (.table [])) w keys := by
  cases hold : base.below? key with
  | none =>
    have hat : base.at? (key :: keys) = none := by rw [Tree.at?, hold, Option.bind_none]
    have hblocks : base.Blocks (key :: keys) ↔ base.isTable = false := by
      simp [Tree.Blocks, hold]
    rw [Marks, hat, hblocks, Option.getD_none, Tree.at?]
    simp only [marks_empty_iff, Option.bind_eq_some_iff]
    grind
  | some old =>
    have hat : base.at? (key :: keys) = old.at? keys := by rw [Tree.at?, hold, Option.bind_some]
    have hblocks : base.Blocks (key :: keys) ↔ base.isTable = false ∨ old.Blocks keys := by
      simp [Tree.Blocks, hold]
    rw [Marks, hat, hblocks, Option.getD_some, Tree.at?, not_or]
    simp only [Marks, Option.bind_eq_some_iff]
    grind

theorem overlayMembers_snd_of_new (hkeys : (members.map (·.1)).Nodup)
    (hnew : ∀ m ∈ members, below.lookup m.1 = none) :
    (overlayMembers layer path below sources members).2 =
      recordMembers layer path sources members := by
  induction members generalizing below sources with
  | nil => rfl
  | cons m members ih =>
    obtain ⟨key, v⟩ := m
    obtain ⟨hkey, hkeys⟩ := List.nodup_cons.mp hkeys
    obtain ⟨hm, hnew⟩ := List.forall_mem_cons.mp hnew
    rw [overlayMembers_cons, hm, recordMembers]
    refine ih hkeys fun n hn => ?_
    rw [Members.lookup_insert, if_neg fun he => hkey (List.mem_map.mpr ⟨n, hn, he⟩), hnew n hn]

theorem recordAt_eq (hv : v.Ordered) (old : Option Tree) :
    recordAt layer path old sources v =
      (overlay layer path (old.getD (.table [])) sources v).2 := by
  cases old with
  | some old => rfl
  | none =>
    cases v with
    | table members =>
      cases hv with
      | plain h => cases h
      | table hkeys => exact (overlayMembers_snd_of_new hkeys.nodup fun _ _ => rfl).symm
    | _ => rfl

/-- A key makes no difference to a path if it makes none for what stands there below. -/
theorem find?_overlayMembers_of_unmarked (hkeys : (members.map (·.1)).Nodup)
    (h : ∀ m ∈ members, ∀ sources : Sources,
      (recordAt layer (joinPath path m.1) (below.lookup m.1) sources m.2).find? q =
        sources.find? q) :
    (overlayMembers layer path below sources members).2.find? q = sources.find? q := by
  induction members generalizing below sources with
  | nil => rfl
  | cons m members ih =>
    obtain ⟨key, v⟩ := m
    obtain ⟨hkey, hkeys⟩ := List.nodup_cons.mp hkeys
    obtain ⟨hm, hrest⟩ := List.forall_mem_cons.mp h
    rw [overlayMembers_cons, ih hkeys fun n hn sources => ?_, hm]
    rw [Members.lookup_insert, if_neg fun he => hkey (List.mem_map.mpr ⟨n, hn, he⟩)]
    exact hrest n hn sources

/-- A layer is recorded for what it sets, by induction on the path. -/
theorem find?_overlay_of_marks (hu : upper.Ordered) (h : Marks base upper keys) :
    (overlay layer path base sources upper).2.find? (keys.foldl joinPath path) = some layer := by
  induction keys generalizing base upper path sources with
  | nil =>
    have hset : (overlay layer path base sources upper).2 = sources.set path layer := by
      rcases marks_nil.mp h with hleaf | hleaf
      · rw [overlay_of_not_table hleaf]
      · cases base with
        | table => cases hleaf
        | _ => cases upper <;> rfl
    rw [hset]
    exact Sources.find?_set.trans (if_pos rfl)
  | cons key keys ih =>
    obtain ⟨hbase, w, hw, hmarks⟩ := marks_cons.mp h
    obtain ⟨below, rfl⟩ := Tree.exists_of_isTable hbase
    cases upper with
    | table members =>
      refine find?_overlayMembers_of_key hw fun sources => ?_
      rw [recordAt_eq (ordered_of_below? hu hw)]
      exact ih (ordered_of_below? hu hw) hmarks
    | _ => cases hw

theorem find?_overlay_of_not_marks (hu : upper.Ordered)
    (h : ∀ keys, keys.foldl joinPath path = q → ¬ Marks base upper keys) :
    (overlay layer path base sources upper).2.find? q = sources.find? q := by
  have hroot : upper.isTable = false ∨ base.isTable = false →
      (sources.set path layer).find? q = sources.find? q := by
    intro hleaf
    rw [Sources.find?_set, if_neg]
    rintro rfl
    exact h [] rfl (marks_nil.mpr hleaf)
  induction hu generalizing base path sources with
  | plain hplain =>
    have hleaf := Tree.isTable_of_isPlain hplain
    rw [overlay_of_not_table hleaf]
    exact hroot (.inl hleaf)
  | array => exact hroot (.inl rfl)
  | @table members hkeys hmembers ih =>
    cases hbase : base.isTable with
    | false =>
      cases base with
      | table => cases hbase
      | _ => exact hroot (.inr rfl)
    | true =>
      obtain ⟨below, rfl⟩ := Tree.exists_of_isTable hbase
      refine find?_overlayMembers_of_unmarked hkeys.nodup fun m hm sources => ?_
      have hnone : ∀ keys, keys.foldl joinPath (joinPath path m.1) = q →
          ¬ Marks ((below.lookup m.1).getD (.table [])) m.2 keys := by
        intro keys hq hmarks
        refine h (m.1 :: keys) hq (marks_cons.mpr ⟨rfl, m.2, ?_, hmarks⟩)
        exact Toml.lookup_of_mem hkeys.nodup hm
      rw [recordAt_eq (hmembers m hm)]
      refine ih m hm hnone fun hleaf => ?_
      rw [Sources.find?_set, if_neg]
      rintro rfl
      exact hnone [] rfl (marks_nil.mpr hleaf)

/-- Whether laying a tree over another sets what a recorded path stands for. -/
def Sets (base upper : Tree) (q : String) : Prop := ∃ keys, dotted keys = q ∧ Marks base upper keys

/-- What is recorded for a path once a layer was laid down: that layer if it sets the path, and else
what was recorded before. -/
theorem find?_overlay_iff (hu : upper.Ordered) :
    (overlay layer "" base sources upper).2.find? q = some layer' ↔
      (Sets base upper q ∧ layer' = layer) ∨
        (¬ Sets base upper q ∧ sources.find? q = some layer') := by
  by_cases h : Sets base upper q
  · obtain ⟨keys, rfl, hmarks⟩ := h
    have hset : Sets base upper (dotted keys) := ⟨keys, rfl, hmarks⟩
    have hfind : (overlay layer "" base sources upper).2.find? (dotted keys) = some layer :=
      find?_overlay_of_marks hu hmarks
    simp [hfind, hset, eq_comm]
  · rw [find?_overlay_of_not_marks hu fun keys hq hmarks => h ⟨keys, hq, hmarks⟩]
    simp [h]

end

/-- A key that can be told apart in a path: it is not empty and has no dot. -/
def IsPlainKey (key : String) : Prop := key ≠ "" ∧ '.' ∉ key.toList

section
variable {keys others : List String}

theorem dotted_ne_empty (h : ∀ k ∈ keys, IsPlainKey k) (hne : keys ≠ []) : dotted keys ≠ "" := by
  obtain ⟨front, key, rfl⟩ := (List.eq_nil_or_concat keys).resolve_left hne
  rw [dotted, List.concat_eq_append, List.foldl_concat, joinPath]
  split
  · exact (h key (by simp)).1
  · simp

theorem toList_dotted (h : ∀ k ∈ keys, IsPlainKey k) (hne : keys ≠ []) :
    (dotted keys).toList = ['.'].intercalate (keys.map String.toList) := by
  induction keys using List.reverseRecOn with
  | nil => exact absurd rfl hne
  | append_singleton keys key ih =>
    rw [dotted, List.foldl_concat, ← dotted]
    by_cases hkeys : keys = []
    · subst hkeys
      simp [dotted, joinPath]
    · have hfront : ∀ k ∈ keys, IsPlainKey k := fun k hk => h k (List.mem_append_left _ hk)
      have hmap : keys.map String.toList ≠ [] := by simpa using hkeys
      rw [List.map_append, List.map_singleton, intercalate_append hmap (List.cons_ne_nil _ _),
        ← ih hfront hkeys, joinPath_of_ne (dotted_ne_empty hfront hkeys)]
      simp

theorem dotted_injective (h : ∀ k ∈ keys, IsPlainKey k) (h' : ∀ k ∈ others, IsPlainKey k)
    (heq : dotted keys = dotted others) : keys = others := by
  by_cases hkeys : keys = []
  · by_contra hne
    exact dotted_ne_empty h' (hkeys ▸ Ne.symm hne) (by rw [← heq, hkeys]; rfl)
  · by_cases hothers : others = []
    · exact absurd (by rw [heq, hothers]; rfl) (dotted_ne_empty h hkeys)
    · have hsplit {l : List String} (hl : ∀ k ∈ l, IsPlainKey k) (hne : l ≠ []) :
          (dotted l).toList.splitOn '.' = l.map String.toList := by
        rw [toList_dotted hl hne]
        refine List.splitOn_intercalate '.' (fun f hf => ?_) (by simpa using hne)
        obtain ⟨k, hk, rfl⟩ := List.mem_map.mp hf
        exact (hl k hk).2
      have hmap : keys.map String.toList = others.map String.toList := by
        rw [← hsplit h hkeys, heq, hsplit h' hothers]
      exact List.map_injective_iff.mpr (fun _ _ => String.toList_injective) hmap

end

end Credentials.Config
