import Credentials.Config.Layers
import Credentials.Proofs.TomlTables

/-! One layer laid over another. What stands at a key afterwards depends on what either layer has
there; what is recorded for a path depends on the keys that lead to it. -/

namespace Credentials

open Toml (Members Tree)

namespace Toml.Tree

def below? (key : String) : Tree → Option Tree
  | table members => members.lookup key
  | _ => none

def at? : List String → Tree → Option Tree
  | [], t => some t
  | key :: keys, t => (t.below? key).bind (at? keys)

/-- Whether something else than a table stands on the way to the end of a path. -/
def Blocks : List String → Tree → Prop
  | [], _ => False
  | key :: keys, t => t.isTable = false ∨ ∃ v, t.below? key = some v ∧ v.Blocks keys

theorem exists_of_isTable {t : Tree} (h : t.isTable = true) : ∃ members, t = table members := by
  cases t with
  | table members => exact ⟨members, rfl⟩
  | _ => cases h

theorem below?_of_not_table {key : String} {t : Tree} (h : t.isTable = false) :
    t.below? key = none := by
  cases t with
  | table => cases h
  | _ => rfl

theorem at?_eq_none_of_blocks {keys : List String} {t : Tree} (h : t.Blocks keys) :
    t.at? keys = none := by
  induction keys generalizing t with
  | nil => cases h
  | cons key keys ih =>
    rw [at?]
    rcases h with h | ⟨v, hv, h⟩
    · rw [below?_of_not_table h, Option.bind_none]
    · rw [hv, Option.bind_some, ih h]

end Toml.Tree

namespace Config

variable {layer : Layer} {path key q : String} {sources : Sources} {base upper t v : Tree}
  {below members : Members}

/-- What a layer leaves of a tree it is laid over. What is recorded makes no difference to that. -/
def merge (base upper : Tree) : Tree := (overlay .defaults "" base [] upper).1

def mergeAt (old : Option Tree) (v : Tree) : Tree := old.elim v (merge · v)

def recordAt (layer : Layer) (path : String) (old : Option Tree) (sources : Sources) (v : Tree) :
    Sources :=
  match old with
  | none => record layer path sources v
  | some old => (overlay layer path old sources v).2

theorem overlay_of_not_table (h : v.isTable = false) :
    overlay layer path base sources v = (v, sources.set path layer) := by
  cases v with
  | table => cases h
  | _ => rfl

mutual

theorem overlay_fst_congr (layer layer' : Layer) (path path' : String) (base : Tree)
    (sources sources' : Sources) (t : Tree) :
    (overlay layer path base sources t).1 = (overlay layer' path' base sources' t).1 := by
  cases t with
  | table members =>
    cases base with
    | table below =>
      simp only [overlay]
      rw [overlayMembers_fst_congr layer layer' path path' below sources sources' members]
    | _ => rfl
  | _ => rfl

theorem overlayMembers_fst_congr (layer layer' : Layer) (path path' : String) (base : Members)
    (sources sources' : Sources) (members : Members) :
    (overlayMembers layer path base sources members).1 =
      (overlayMembers layer' path' base sources' members).1 := by
  cases members with
  | nil => rfl
  | cons m rest =>
    obtain ⟨key, v⟩ := m
    simp only [overlayMembers]
    cases base.lookup key with
    | none => exact overlayMembers_fst_congr layer layer' path path' _ _ _ rest
    | some old =>
      simp only
      split
      · rw [overlay_fst_congr layer layer' (joinPath path key) (joinPath path' key) old sources
          sources' v]
        exact overlayMembers_fst_congr layer layer' path path' _ _ _ rest
      · exact overlayMembers_fst_congr layer layer' path path' _ _ _ rest

end

theorem overlay_fst : (overlay layer path base sources t).1 = merge base t :=
  overlay_fst_congr layer .defaults path "" base sources [] t

theorem overlayMembers_cons (rest : Members) :
    overlayMembers layer path below sources ((key, v) :: rest) =
      overlayMembers layer path (below.insert key (mergeAt (below.lookup key) v))
        (recordAt layer (joinPath path key) (below.lookup key) sources v) rest := by
  rw [overlayMembers]
  cases below.lookup key with
  | none => rfl
  | some old =>
    simp only [mergeAt, recordAt, Option.elim_some]
    split
    · rw [overlay_fst]
    · next h =>
      rw [overlay_of_not_table (Bool.eq_false_iff.mpr h), merge,
        overlay_of_not_table (Bool.eq_false_iff.mpr h)]

/-- Keys of the upper layer are merged with what was there, the others stay. -/
theorem overlayMembers_lookup (h : (members.map (·.1)).Nodup) :
    (overlayMembers layer path below sources members).1.lookup q =
      ((members.lookup q).map (mergeAt (below.lookup q))).or (below.lookup q) := by
  induction members generalizing below sources with
  | nil => rfl
  | cons m rest ih =>
    obtain ⟨key, v⟩ := m
    obtain ⟨hkey, hrest⟩ := List.nodup_cons.mp h
    rw [overlayMembers_cons, ih hrest, Members.lookup_insert, Toml.lookup_cons_eq]
    by_cases hq : q = key
    · subst hq
      have hlast : rest.lookup q = none :=
        Toml.lookup_eq_none_iff.mpr fun m hm he => hkey (List.mem_map.mpr ⟨m, hm, he⟩)
      simp [hlast]
    · rw [if_neg hq, if_neg hq]

theorem merge_of_not_table (h : v.isTable = false) : merge base v = v := by
  rw [merge, overlay_of_not_table h]

theorem merge_tables : merge (.table below) (.table members) =
    .table (overlayMembers .defaults "" below [] members).1 := rfl

theorem isTable_merge : (merge base upper).isTable = upper.isTable := by
  cases upper with
  | table members => cases base <;> rfl
  | _ => rfl

theorem below?_merge (h : (members.map (·.1)).Nodup) :
    (merge (.table below) (.table members)).below? key =
      ((members.lookup key).map (mergeAt (below.lookup key))).or (below.lookup key) := by
  rw [merge_tables, Tree.below?, overlayMembers_lookup h]

theorem mergeAt_of_not_table (old : Option Tree) (h : v.isTable = false) : mergeAt old v = v := by
  cases old with
  | none => rfl
  | some old => exact merge_of_not_table h

theorem isTable_mergeAt (old : Option Tree) : (mergeAt old v).isTable = v.isTable := by
  cases old with
  | none => rfl
  | some old => exact isTable_merge

section
variable {keys : List String} (h : upper.Ordered)
include h

theorem below?_merge_of_some (hv : upper.below? key = some v) :
    (merge base upper).below? key = some (mergeAt (base.below? key) v) := by
  cases upper with
  | table members =>
    rw [Tree.below?] at hv
    cases h with
    | plain h => cases h
    | table hkeys hmembers =>
      cases base with
      | table below =>
        rw [below?_merge hkeys.nodup, hv]
        rfl
      | _ => exact hv
  | _ => cases hv

theorem below?_merge_of_none (ht : upper.isTable = true) (hv : upper.below? key = none) :
    (merge base upper).below? key = base.below? key := by
  cases upper with
  | table members =>
    rw [Tree.below?] at hv
    cases h with
    | plain h => cases h
    | table hkeys hmembers =>
      cases base with
      | table below =>
        rw [below?_merge hkeys.nodup, hv]
        rfl
      | _ => exact hv
  | _ => cases ht

theorem ordered_of_below? (hv : upper.below? key = some v) : v.Ordered := by
  cases upper with
  | table members =>
    cases h with
    | plain h => cases h
    | table hkeys hmembers => exact hmembers _ (Toml.mem_of_lookup hv)
  | _ => cases hv

theorem at?_merge_of_value (hv : upper.at? keys = some v) (hleaf : v.isTable = false) :
    (merge base upper).at? keys = some v := by
  induction keys generalizing base upper with
  | nil =>
    obtain rfl := Option.some.inj hv
    exact congrArg some (merge_of_not_table hleaf)
  | cons key keys ih =>
    obtain ⟨w, hw, hv⟩ := Option.bind_eq_some_iff.mp hv
    rw [Tree.at?, below?_merge_of_some h hw, Option.bind_some]
    cases base.below? key with
    | none => exact hv
    | some old => exact ih (ordered_of_below? h hw) hv

theorem at?_merge_of_table (hv : upper.at? keys = some v) (ht : v.isTable = true) :
    ∃ t, (merge base upper).at? keys = some t ∧ t.isTable = true := by
  induction keys generalizing base upper with
  | nil =>
    obtain rfl := Option.some.inj hv
    exact ⟨_, rfl, isTable_merge.trans ht⟩
  | cons key keys ih =>
    obtain ⟨w, hw, hv⟩ := Option.bind_eq_some_iff.mp hv
    rw [Tree.at?, below?_merge_of_some h hw, Option.bind_some]
    cases base.below? key with
    | none => exact ⟨v, hv, ht⟩
    | some old => exact ih (ordered_of_below? h hw) hv

/-- What the upper layer has nothing of stays, unless the way to it is taken. -/
theorem at?_merge_of_none (hv : upper.at? keys = none) (hb : ¬ upper.Blocks keys) :
    (merge base upper).at? keys = base.at? keys := by
  induction keys generalizing base upper with
  | nil => cases hv
  | cons key keys ih =>
    obtain ⟨ht, hb⟩ := not_or.mp hb
    rw [Tree.at?, Tree.at?]
    cases hw : upper.below? key with
    | none => rw [below?_merge_of_none h (Bool.eq_true_of_not_eq_false ht) hw]
    | some w =>
      rw [Tree.at?, hw, Option.bind_some] at hv
      have hbelow : ¬ w.Blocks keys := fun hblocks => hb ⟨w, hw, hblocks⟩
      rw [below?_merge_of_some h hw, Option.bind_some]
      cases base.below? key with
      | none => exact hv
      | some old => exact ih (ordered_of_below? h hw) hv hbelow

theorem blocks_merge_of_blocks (hb : upper.Blocks keys) : (merge base upper).Blocks keys := by
  induction keys generalizing base upper with
  | nil => cases hb
  | cons key keys ih =>
    rcases hb with ht | ⟨w, hw, hb⟩
    · exact .inl (isTable_merge.trans ht)
    · refine .inr ⟨_, below?_merge_of_some h hw, ?_⟩
      cases base.below? key with
      | none => exact hb
      | some old => exact ih (ordered_of_below? h hw) hb

end

end Config

end Credentials
