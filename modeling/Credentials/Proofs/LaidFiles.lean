import Credentials.Proofs.ConfigFields
import Credentials.Proofs.FieldSources

/-! The files of a configuration, laid over each other. The highest file that has a field gives its
value, unless a file above it puts something else in the place of the section. Its layer is
recorded, unless it puts the section in the place of something else. -/

namespace Credentials.Config

open Files (FileSystem Path)
open Toml (Members Tree)

structure File where
  layer : Layer
  path : Path
  tree : Tree

def findFile (files : FileSystem) (layer : Layer) (path : Path) : Except Error (Option File) :=
  (readFile files path).map fun tree => tree.map (⟨layer, path, ·⟩)

def found (files : FileSystem) (places : Locations) (explicit : Option Path) :
    Except Error (List File) := do
  let system ← findFile files .system places.system
  let user ← findFile files .user places.user
  match explicit with
  | none => return system.toList ++ user.toList
  | some path =>
    match ← findFile files .explicit path with
    | none => throw (.missing path)
    | some file => return system.toList ++ user.toList ++ [file]

/-- A file as the files of a configuration are: a table, and not the defaults. -/
structure File.Sound (file : File) : Prop where
  layer : file.layer ≠ .defaults
  ordered : file.tree.Ordered
  isTable : file.tree.isTable = true

def Stack.lay (s : Stack) (file : File) : Stack := s.push file.layer file.path file.tree

def Stack.of (laid : List File) : Stack := laid.foldl Stack.lay Stack.base

section
variable {files : FileSystem} {places : Locations} {explicit : Option Path} {layer : Layer}
  {path : Path} {file : File} {laid : List File}

theorem Stack.lay_tree (s : Stack) (file : File) : (s.lay file).tree = merge s.tree file.tree :=
  overlay_fst

theorem Stack.lay_sources (s : Stack) (file : File) :
    (s.lay file).sources = (overlay file.layer "" s.tree s.sources file.tree).2 := rfl

theorem Stack.of_concat (below : List File) (file : File) :
    Stack.of (below ++ [file]) = (Stack.of below).lay file := List.foldl_concat ..

theorem sound_of_findFile (hlayer : layer ≠ .defaults)
    (h : findFile files layer path = .ok (some file)) : file.Sound := by
  obtain ⟨found, hread, h⟩ := map_ok_iff.mp h
  obtain ⟨tree, rfl, rfl⟩ := Option.map_eq_some_iff.mp h.symm
  have htext : ∃ text, Toml.read? text = some tree := by
    unfold readFile at hread
    grind
  obtain ⟨text, htree⟩ := htext
  obtain ⟨members, rfl, hordered⟩ := Toml.read?_ordered htree
  exact ⟨hlayer, hordered, rfl⟩

theorem sound_of_found (h : found files places explicit = .ok laid) :
    ∀ file ∈ laid, file.Sound := by
  obtain ⟨system, hsystem, h⟩ := bind_ok_iff.mp h
  obtain ⟨user, huser, h⟩ := bind_ok_iff.mp h
  have hoptional : ∀ file ∈ system.toList ++ user.toList, file.Sound := by
    intro file hfile
    rcases List.mem_append.mp hfile with hfile | hfile
    · rw [Option.mem_toList.mp hfile] at hsystem
      exact sound_of_findFile (by decide) hsystem
    · rw [Option.mem_toList.mp hfile] at huser
      exact sound_of_findFile (by decide) huser
  cases explicit with
  | none =>
    cases h
    exact hoptional
  | some path =>
    obtain ⟨found, hfound, h⟩ := bind_ok_iff.mp h
    cases found with
    | none => cases h
    | some file =>
      cases h
      have hfile := sound_of_findFile (by decide) hfound
      exact List.forall_mem_append.mpr ⟨hoptional, List.forall_mem_singleton.mpr hfile⟩

theorem pushFile_eq (s : Stack) : s.pushFile files layer path =
    (findFile files layer path).map fun file => file.toList.foldl Stack.lay s := by
  rw [Stack.pushFile, findFile]
  rcases readFile files path with cause | tree
  · rfl
  · cases tree <;> rfl

theorem pushExplicit_eq (s : Stack) : s.pushExplicit files path =
    (findFile files .explicit path).bind fun file =>
      file.elim (.error (.missing path)) fun file => .ok (s.lay file) := by
  rw [Stack.pushExplicit, findFile]
  rcases readFile files path with cause | tree
  · rfl
  · cases tree <;> rfl

/-- Laying files down while they are found is finding them first and laying them down then. -/
theorem stack_eq : stack files places explicit =
    (found files places explicit).map Stack.of := by
  simp only [stack, found, pushFile_eq, pushExplicit_eq]
  rcases findFile files .system places.system with cause | system
  · rfl
  · rcases findFile files .user places.user with cause | user
    · rfl
    · cases explicit with
      | none => cases system <;> cases user <;> rfl
      | some path =>
        rcases hfile : findFile files .explicit path with cause | file
        · cases system <;> cases user <;> simp [Except.map, bind, Except.bind, hfile]
        · cases system <;> cases user <;> cases file <;>
            simp [Except.map, bind, Except.bind, hfile] <;> rfl

theorem readFile_of_same {tree : Tree}
    (h : (readFile files path).toOption.any (·.any (·.same tree)) = true) :
    readFile files path = .ok (some tree) := by
  rcases hread : readFile files path with cause | held
  · rw [hread] at h
    cases h
  · rw [hread] at h
    change held.any (·.same tree) = true at h
    obtain ⟨t, rfl, ht⟩ := (Option.any_eq_true _ _).mp h
    rw [Tree.eq_of_same ht]

end

namespace Field

def path (f : Field) : String := joinPath f.title f.name

theorem isField (f : Field) : IsField f.title f.name := by
  cases f <;> exact ⟨by decide, by decide, by decide⟩

/-- The highest file that has a field gives its value, unless one above it has something else than a
table in the place of the section. -/
def Gives (f : Field) (laid : List File) (v : Tree) : Prop :=
  ∃ below file above, laid = below ++ file :: above ∧ file.tree.at? f.keys = some v ∧
    ∀ g ∈ above, g.tree.at? f.keys = none ∧ ¬ g.tree.Blocks f.keys

/-- Whether the highest file that has anything in the place of the section has no table there. -/
def Blocked (f : Field) (laid : List File) : Prop :=
  ∃ below file above, laid = below ++ file :: above ∧ file.tree.Blocks f.keys ∧
    ∀ g ∈ above, g.tree.below? f.title = none

/-- Whether a file has a value for a field, in a section that it does not put in the place of
something else. -/
def Recorded (f : Field) (laid : List File) : Prop :=
  ∃ below file above v, laid = below ++ file :: above ∧ file.tree.at? f.keys = some v ∧
    v.isTable = false ∧ ¬ f.Blocked below

/-- Whether no key of a file could be mistaken for the path of a field. -/
structure Spared (f : Field) (file : File) : Prop where
  empty : file.tree.below? "" = none
  spelled : file.tree.below? f.path = none

end Field

section
variable {f : Field} {laid below above : List File} {file : File} {v : Tree}

theorem Field.Gives.concat (h : f.Gives laid v) (hnone : file.tree.at? f.keys = none)
    (hb : ¬ file.tree.Blocks f.keys) : f.Gives (laid ++ [file]) v := by
  obtain ⟨below, g, above, rfl, hv, habove⟩ := h
  refine ⟨below, g, above ++ [file], by simp, hv, ?_⟩
  exact List.forall_mem_append.mpr ⟨habove, List.forall_mem_singleton.mpr ⟨hnone, hb⟩⟩

theorem Field.blocks_iff {t : Tree} (h : t.isTable = true) :
    t.Blocks f.keys ↔ ∃ w, t.below? f.title = some w ∧ w.isTable = false := by
  simp [Field.keys, Tree.Blocks, h]

theorem Field.recorded_of_mem (h : ∀ g ∈ laid, ¬ g.tree.Blocks f.keys) (hfile : file ∈ laid)
    (hv : file.tree.at? f.keys = some v) (hleaf : v.isTable = false) : f.Recorded laid := by
  obtain ⟨below, above, rfl⟩ := List.append_of_mem hfile
  refine ⟨below, file, above, v, rfl, hv, hleaf, ?_⟩
  rintro ⟨lower, g, upper, rfl, hb, -⟩
  exact h g (by simp) hb

theorem Field.not_gives (h : ∀ g ∈ laid, g.tree.at? f.keys = none) : ¬ f.Gives laid v := by
  rintro ⟨below, file, above, rfl, hv, -⟩
  rw [h file (by simp)] at hv
  cases hv

theorem base_at? (f : Field) : ∃ v, Stack.base.tree.at? f.keys = some v ∧ v.toNode = f.node {} := by
  cases f <;> exact ⟨_, rfl, rfl⟩

theorem base_find? (f : Field) : Stack.base.sources.find? f.path = some .defaults := by
  cases f <;> rfl

theorem isTable_of (h : ∀ file ∈ laid, file.Sound) : (Stack.of laid).tree.isTable = true := by
  induction laid using List.reverseRecOn with
  | nil => rfl
  | append_singleton below file ih =>
    rw [Stack.of_concat, Stack.lay_tree, isTable_merge]
    exact (h file (by simp)).isTable

theorem at?_of_append (h : ∀ g ∈ above, g.Sound)
    (habove : ∀ g ∈ above, g.tree.at? f.keys = none ∧ ¬ g.tree.Blocks f.keys) :
    (Stack.of (laid ++ above)).tree.at? f.keys = (Stack.of laid).tree.at? f.keys := by
  induction above using List.reverseRecOn with
  | nil => rw [List.append_nil]
  | append_singleton above g ih =>
    obtain ⟨h, hg⟩ := List.forall_mem_append.mp h
    obtain ⟨habove, hfree⟩ := List.forall_mem_append.mp habove
    obtain ⟨hnone, hb⟩ := List.forall_mem_singleton.mp hfree
    have hordered := (List.forall_mem_singleton.mp hg).ordered
    rw [← List.append_assoc, Stack.of_concat, Stack.lay_tree,
      at?_merge_of_none hordered hnone hb, ih h habove]

/-- The value that a field is given stands in the end. A table does not count as a value, but it
leaves a table. -/
theorem at?_of_gives (h : ∀ g ∈ laid, g.Sound) (hv : f.Gives laid v) :
    ∃ w, (Stack.of laid).tree.at? f.keys = some w ∧ w.isTable = v.isTable ∧
      (v.isTable = false → w = v) := by
  obtain ⟨below, file, above, rfl, hv, habove⟩ := hv
  rw [List.append_cons] at h ⊢
  obtain ⟨hbelow, h⟩ := List.forall_mem_append.mp h
  have hordered := (hbelow file (by simp)).ordered
  rw [at?_of_append h habove, Stack.of_concat, Stack.lay_tree]
  cases ht : v.isTable with
  | false => exact ⟨v, at?_merge_of_value hordered hv ht, ht, fun _ => rfl⟩
  | true =>
    obtain ⟨w, hw, hwt⟩ := at?_merge_of_table hordered hv ht
    exact ⟨w, hw, hwt, nofun⟩

theorem at?_of_not_gives (h : ∀ g ∈ laid, g.Sound) (hnone : ∀ v, ¬ f.Gives laid v) :
    (((Stack.of laid).tree.at? f.keys).map Tree.toNode).getD (f.node {}) = f.node {} := by
  induction laid using List.reverseRecOn with
  | nil =>
    obtain ⟨v, hv, hnode⟩ := base_at? f
    rw [Stack.of, List.foldl_nil, hv, Option.map_some, Option.getD_some, hnode]
  | append_singleton below file ih =>
    obtain ⟨hbelow, hfile⟩ := List.forall_mem_append.mp h
    have hordered := (List.forall_mem_singleton.mp hfile).ordered
    have hmissing : file.tree.at? f.keys = none := by
      rw [Option.eq_none_iff_forall_ne_some]
      intro v hv
      exact hnone v ⟨below, file, [], rfl, hv, List.forall_mem_nil _⟩
    rw [Stack.of_concat, Stack.lay_tree]
    by_cases hb : file.tree.Blocks f.keys
    · rw [Tree.at?_eq_none_of_blocks (blocks_merge_of_blocks hordered hb)]
      rfl
    · rw [at?_merge_of_none hordered hmissing hb]
      exact ih hbelow fun v hv => hnone v (hv.concat hmissing hb)

/-- What stands in the place of a section in the end, and is no table, was put there by the highest
file that has it. -/
theorem exists_file_of_leaf (h : ∀ g ∈ laid, g.Sound)
    (hw : (Stack.of laid).tree.below? f.title = some v) (hleaf : v.isTable = false) :
    ∃ below file above, laid = below ++ file :: above ∧ file.tree.below? f.title = some v ∧
      ∀ g ∈ above, g.tree.below? f.title = none := by
  induction laid using List.reverseRecOn with
  | nil =>
    -- the defaults have a table for every section
    exfalso
    have hbase : ∃ members, Stack.base.tree.below? f.title = some (.table members) := by
      cases f <;> exact ⟨_, rfl⟩
    obtain ⟨members, hbase⟩ := hbase
    rw [Stack.of, List.foldl_nil, hbase] at hw
    cases hw
    cases hleaf
  | append_singleton below file ih =>
    obtain ⟨hbelow, hfile⟩ := List.forall_mem_append.mp h
    have hsound := List.forall_mem_singleton.mp hfile
    rw [Stack.of_concat, Stack.lay_tree] at hw
    cases hsection : file.tree.below? f.title with
    | none =>
      rw [below?_merge_of_none hsound.ordered hsound.isTable hsection] at hw
      obtain ⟨below, g, above, rfl, hg, habove⟩ := ih hbelow hw
      refine ⟨below, g, above ++ [file], by simp, hg, ?_⟩
      exact List.forall_mem_append.mpr ⟨habove, List.forall_mem_singleton.mpr hsection⟩
    | some u =>
      rw [below?_merge_of_some hsound.ordered hsection] at hw
      obtain rfl := Option.some.inj hw
      rw [isTable_mergeAt] at hleaf
      rw [mergeAt_of_not_table _ hleaf]
      exact ⟨below, file, [], rfl, hsection, List.forall_mem_nil _⟩

/-- A section that is no table in the end blocks its fields in the highest file that has it. -/
theorem blocked_of_blocks (h : ∀ g ∈ laid, g.Sound) (hb : (Stack.of laid).tree.Blocks f.keys) :
    f.Blocked laid := by
  obtain ⟨w, hw, hleaf⟩ := (Field.blocks_iff (isTable_of h)).mp hb
  obtain ⟨below, file, above, rfl, hsection, habove⟩ := exists_file_of_leaf h hw hleaf
  have hroot := (h file (by simp)).isTable
  exact ⟨below, file, above, rfl, (Field.blocks_iff hroot).mpr ⟨w, hsection, hleaf⟩, habove⟩

theorem isSet_lay {s : Stack} {q : String} (hlayer : file.layer ≠ .defaults)
    (h : isSet s.sources q = true) : isSet (s.lay file).sources q = true := by
  rw [isSet, Stack.lay_sources]
  rcases find?_overlay_or file.layer "" q s.tree s.sources file.tree with he | he
  · rw [he]
    exact h
  · rw [he, Option.any_some]
    exact bne_iff_ne.mpr hlayer

theorem isSet_of_recorded (h : ∀ g ∈ laid, g.Sound) (hr : f.Recorded laid) :
    isSet (Stack.of laid).sources f.path = true := by
  obtain ⟨below, file, above, v, rfl, hv, hleaf, hb⟩ := hr
  rw [List.append_cons] at h ⊢
  obtain ⟨hupto, habove⟩ := List.forall_mem_append.mp h
  obtain ⟨hbelow, hfile⟩ := List.forall_mem_append.mp hupto
  clear h
  -- the files above cannot undo it, so the induction is on them alone
  induction above using List.reverseRecOn with
  | nil =>
    rw [List.append_nil, Stack.of_concat, isSet, Stack.lay_sources, Field.path,
      find?_overlay_of_value hv hleaf fun hblocks => hb (blocked_of_blocks hbelow hblocks)]
    exact bne_iff_ne.mpr (List.forall_mem_singleton.mp hfile).layer
  | append_singleton above g ih =>
    obtain ⟨habove, hg⟩ := List.forall_mem_append.mp habove
    rw [← List.append_assoc, Stack.of_concat]
    exact isSet_lay (List.forall_mem_singleton.mp hg).layer (ih habove)

theorem isSet_of_missing (h : ∀ g ∈ laid, g.Sound)
    (hnone : ∀ g ∈ laid, g.tree.at? f.keys = none ∧ f.Spared g) :
    isSet (Stack.of laid).sources f.path = false := by
  have hfind : (Stack.of laid).sources.find? f.path = some .defaults := by
    induction laid using List.reverseRecOn with
    | nil => exact base_find? f
    | append_singleton below file ih =>
      obtain ⟨hbelow, hfile⟩ := List.forall_mem_append.mp h
      obtain ⟨hnone, hmissing⟩ := List.forall_mem_append.mp hnone
      have hsound := List.forall_mem_singleton.mp hfile
      obtain ⟨hat, hspared⟩ := List.forall_mem_singleton.mp hmissing
      rw [Stack.of_concat, Stack.lay_sources, Field.path, find?_overlay_of_none f.isField
        hsound.ordered hsound.isTable hat hspared.empty hspared.spelled]
      exact ih hbelow hnone
  rw [isSet, hfind]
  rfl

end

end Credentials.Config
