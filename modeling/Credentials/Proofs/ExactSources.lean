import Credentials.Proofs.Precedence
import Credentials.Proofs.RecordedPaths

/-! What is recorded of where a configuration comes from. For each path it is the layer that set it
last. Where the layers agree on what is a table and no key has a dot, the record is exact: it has
the paths of the values of the merged tree and no others, each with the layer that the value is
from. A value in the place of a section makes it wrong for good. -/

namespace Credentials

open Files (FileSystem Path)
open Toml (Members Tree)

/-- Whether two trees have tables in the same places, wherever both have something. -/
def Toml.Tree.Agrees (t u : Tree) : Prop :=
  ∀ keys v w, t.at? keys = some v → u.at? keys = some w → v.isTable = w.isTable

/-- Whether a tree has nothing that another one has not, tables where that has tables. -/
def Toml.Tree.Within (t u : Tree) : Prop :=
  ∀ keys v, t.at? keys = some v → ∃ w, u.at? keys = some w ∧ v.isTable = w.isTable

/-- Whether the keys of a tree can be read off its paths. -/
def Toml.Tree.HasPlainKeys (t : Tree) : Prop :=
  ∀ keys v, t.at? keys = some v → ∀ k ∈ keys, Config.IsPlainKey k

namespace Config

section
variable {base upper t v : Tree} {keys : List String}

theorem isTable_of_blocks (h : upper.Blocks keys) (hv : base.at? keys = some v) :
    ∃ front w u, base.at? front = some w ∧ upper.at? front = some u ∧
      w.isTable = true ∧ u.isTable = false := by
  induction keys generalizing base upper with
  | nil => cases h
  | cons key keys ih =>
    obtain ⟨w, hw, hv⟩ := Option.bind_eq_some_iff.mp hv
    rcases h with hleaf | ⟨u, hu, h⟩
    · refine ⟨[], base, upper, rfl, rfl, ?_, hleaf⟩
      cases base with
      | table => rfl
      | _ => cases hw
    · obtain ⟨front, w', u', hw', hu', htable, hleaf⟩ := ih h hv
      refine ⟨key :: front, w', u', ?_, ?_, htable, hleaf⟩
      · rw [Tree.at?, hw, Option.bind_some, hw']
      · rw [Tree.at?, hu, Option.bind_some, hu']

theorem agrees_symm (h : base.Agrees upper) : upper.Agrees base :=
  fun keys v w hv hw => (h keys w v hw hv).symm

theorem agrees_refl (t : Tree) : t.Agrees t := by
  intro keys v w hv hw
  rw [Option.some.inj (hv.symm.trans hw)]

theorem agrees_of_within (h : t.Agrees base) (hu : upper.Within base) : t.Agrees upper := by
  intro keys v w hv hw
  obtain ⟨u, hu, hshape⟩ := hu keys w hw
  rw [hshape, h keys v u hv hu]

theorem hasPlainKeys_of_within (h : base.HasPlainKeys) (hu : upper.Within base) :
    upper.HasPlainKeys := by
  intro keys v hv
  obtain ⟨w, hw, -⟩ := hu keys v hv
  exact h keys w hw

theorem within_leaf (hleaf : t.isTable = false) (hv : v.isTable = false) : t.Within v := by
  intro keys w hw
  cases keys with
  | nil =>
    obtain rfl := Option.some.inj hw
    exact ⟨v, rfl, by rw [hleaf, hv]⟩
  | cons key keys =>
    rw [Tree.at?, Tree.below?_of_not_table hleaf] at hw
    cases hw

theorem within_table {members : Members} (htable : base.isTable = true)
    (h : ∀ m ∈ members, ∃ w, base.below? m.1 = some w ∧ m.2.Within w) :
    (Tree.table members).Within base := by
  intro keys v hv
  cases keys with
  | nil =>
    obtain rfl := Option.some.inj hv
    exact ⟨base, rfl, htable.symm⟩
  | cons key keys =>
    obtain ⟨u, hu, hv⟩ := Option.bind_eq_some_iff.mp hv
    obtain ⟨w, hw, hwithin⟩ := h _ (Toml.mem_of_lookup hu)
    rw [Tree.at?, hw, Option.bind_some]
    exact hwithin keys v hv

theorem not_blocks_of_agrees (h : base.Agrees upper) (hv : base.at? keys = some v) :
    ¬ upper.Blocks keys := by
  intro hblocks
  obtain ⟨front, w, u, hw, hu, htable, hleaf⟩ := isTable_of_blocks hblocks hv
  rw [h front w u hw hu, hleaf] at htable
  cases htable

section
variable (hu : upper.Ordered)
include hu

theorem exists_of_at?_merge (hv : (merge base upper).at? keys = some v) :
    ∃ w, (base.at? keys = some w ∨ upper.at? keys = some w) ∧ w.isTable = v.isTable := by
  cases hleaf : v.isTable with
  | false =>
    rcases (value_merge_iff hu hleaf).mp hv with hv | ⟨-, -, hv⟩
    · exact ⟨v, .inr hv, hleaf⟩
    · exact ⟨v, .inl hv, hleaf⟩
  | true =>
    rcases (hasTable_merge_iff hu).mp ⟨v, hv, hleaf⟩ with ⟨w, hw, ht⟩ | ⟨-, -, w, hw, ht⟩
    · exact ⟨w, .inr hw, ht⟩
    · exact ⟨w, .inl hw, ht⟩

theorem agrees_merge (hb : base.Agrees t) (ha : upper.Agrees t) : (merge base upper).Agrees t := by
  intro keys v w hv hw
  obtain ⟨u, hu | hu, htable⟩ := exists_of_at?_merge hu hv
  · rw [← htable, hb keys u w hu hw]
  · rw [← htable, ha keys u w hu hw]

theorem hasPlainKeys_merge (hb : base.HasPlainKeys) (ha : upper.HasPlainKeys) :
    (merge base upper).HasPlainKeys := by
  intro keys v hv
  obtain ⟨w, hw | hw, -⟩ := exists_of_at?_merge hu hv
  · exact hb keys w hw
  · exact ha keys w hw

theorem exists_at?_merge (h : base.Agrees upper) (hv : base.at? keys = some v) :
    ∃ w, (merge base upper).at? keys = some w ∧ w.isTable = v.isTable := by
  cases hat : upper.at? keys with
  | none => exact ⟨v, (at?_merge_of_none hu hat (not_blocks_of_agrees h hv)).trans hv, rfl⟩
  | some u =>
    have hshape : v.isTable = u.isTable := h keys v u hv hat
    cases ht : u.isTable with
    | false => exact ⟨u, at?_merge_of_value hu hat ht, hshape.symm⟩
    | true =>
      obtain ⟨w, hw, htable⟩ := at?_merge_of_table hu hat ht
      exact ⟨w, hw, by rw [htable, hshape, ht]⟩

end

end

/-- Whether a file has nothing at a path and nothing that is in the way. -/
def File.Passes (file : File) (keys : List String) : Prop :=
  file.tree.at? keys = none ∧ ¬ file.tree.Blocks keys

/-- The highest of some layers that has a value for a path, where none above it takes the path
away. -/
def Supplies (files : List File) (layer : Layer) (keys : List String) (v : Tree) : Prop :=
  ∃ below file above, files = below ++ file :: above ∧ file.layer = layer ∧
    file.tree.at? keys = some v ∧ ∀ g ∈ above, g.Passes keys

/-- A record of sources that has the paths of the values of a tree and no others, with the layers
that the values are from. -/
structure Exact (files : List File) (sources : Sources) (tree : Tree) : Prop where
  value : ∀ keys v, tree.at? keys = some v → v.isTable = false →
    ∃ layer, Supplies files layer keys v ∧ sources.find? (dotted keys) = some layer
  entry : ∀ q layer, sources.find? q = some layer →
    ∃ keys v, dotted keys = q ∧ tree.at? keys = some v ∧ v.isTable = false

section
variable {files : List File} {file : File} {sources : Sources} {tree v : Tree} {layer : Layer}
  {keys : List String}

theorem Supplies.concat (h : Supplies files layer keys v) (hp : file.Passes keys) :
    Supplies (files ++ [file]) layer keys v := by
  obtain ⟨below, g, above, rfl, hlayer, hv, habove⟩ := h
  refine ⟨below, g, above ++ [file], by simp, hlayer, hv, ?_⟩
  exact List.forall_mem_append.mpr ⟨habove, List.forall_mem_singleton.mpr hp⟩

theorem supplies_top (hv : file.tree.at? keys = some v) :
    Supplies (files ++ [file]) file.layer keys v :=
  ⟨files, file, [], rfl, rfl, hv, List.forall_mem_nil _⟩

theorem Exact.lay (h : Exact files sources tree) (ho : file.tree.Ordered)
    (hagrees : tree.Agrees file.tree) (hplain : tree.HasPlainKeys)
    (hplain' : file.tree.HasPlainKeys) :
    Exact (files ++ [file]) (overlay file.layer "" tree sources file.tree).2
      (merge tree file.tree) := by
  have hmarks {keys : List String} {v : Tree} (hv : file.tree.at? keys = some v)
      (hleaf : v.isTable = false) : Marks tree file.tree keys :=
    ⟨not_blocks_of_agrees (agrees_symm hagrees) hv, v, hv, .inl hleaf⟩
  constructor
  · intro keys v hv hleaf
    rcases (value_merge_iff ho hleaf).mp hv with hv | ⟨hnone, hopen, hv⟩
    · exact ⟨file.layer, supplies_top hv, find?_overlay_of_marks ho (hmarks hv hleaf)⟩
    · obtain ⟨layer, hsupplies, hfind⟩ := h.value keys v hv hleaf
      refine ⟨layer, hsupplies.concat ⟨hnone, Tree.isOpen_iff.mp hopen⟩, ?_⟩
      rw [find?_overlay_of_not_marks ho, hfind]
      -- another path that is recorded under the same name would have the same keys
      rintro others hsame ⟨-, w, hw, -⟩
      obtain rfl := dotted_injective (hplain' others w hw) (hplain keys v hv) hsame
      rw [hnone] at hw
      cases hw
  · intro q layer hfind
    rcases (find?_overlay_iff ho).mp hfind with ⟨⟨keys, hq, -, v, hv, hset⟩, -⟩ | ⟨hkept, hfind⟩
    · refine ⟨keys, v, hq, ?_⟩
      have hleaf : v.isTable = false := by
        rcases hset with hleaf | ⟨old, hold, hleaf⟩
        · exact hleaf
        · rw [← hagrees keys old v hold hv, hleaf]
      exact ⟨at?_merge_of_value ho hv hleaf, hleaf⟩
    · obtain ⟨keys, v, hq, hv, hleaf⟩ := h.entry q layer hfind
      refine ⟨keys, v, hq, ?_, hleaf⟩
      cases hat : file.tree.at? keys with
      | none => exact (at?_merge_of_none ho hat (not_blocks_of_agrees hagrees hv)).trans hv
      | some w =>
        have hw : w.isTable = false := by rw [← hagrees keys v w hv hat, hleaf]
        exact absurd ⟨keys, hq, hmarks hat hw⟩ hkept

end

def defaultFile : File := ⟨.defaults, [], defaultTree⟩

/-- Files that agree with the defaults and with each other on what is a table, and whose keys can be
told apart. -/
structure Compatible (laid : List File) : Prop where
  plain : ∀ file ∈ laid, file.tree.HasPlainKeys
  agrees : (defaultFile :: laid).Pairwise fun f g => f.tree.Agrees g.tree

/-- The layer that set a path last, whatever was laid down. -/
inductive LastSets : List File → String → Layer → Prop
  | defaults {q : String} : Sets (.table []) defaultTree q → LastSets [] q .defaults
  | sets {laid : List File} {file : File} {q : String} :
      Sets (Stack.of laid).tree file.tree q → LastSets (laid ++ [file]) q file.layer
  | keeps {laid : List File} {file : File} {q : String} {layer : Layer} :
      ¬ Sets (Stack.of laid).tree file.tree q → LastSets laid q layer →
        LastSets (laid ++ [file]) q layer

theorem ordered_of_leaves {members : Members} (h : members.Ordered)
    (hleaf : ∀ m ∈ members, m.2.isPlain = true ∨ m.2 = .array []) :
    (Tree.table members).Ordered := by
  refine .table h fun m hm => ?_
  rcases hleaf m hm with hplain | hempty
  · exact .plain hplain
  · rw [hempty]
    exact .array (List.forall_mem_nil _)

theorem ordered_defaultTree : defaultTree.Ordered := by
  refine .table (by unfold Members.Ordered; decide) ?_
  simp only [List.forall_mem_cons]
  refine ⟨ordered_of_leaves (by unfold Members.Ordered; decide) ?_,
    ordered_of_leaves (by unfold Members.Ordered; decide) ?_,
    ordered_of_leaves (by unfold Members.Ordered; decide) ?_, List.forall_mem_nil _⟩
  all_goals simp [Tree.isPlain]

section
variable {laid : List File} {file : File} {q : String} {layer : Layer}

theorem lastSets_nil : LastSets [] q layer ↔
    Sets (.table []) defaultTree q ∧ layer = .defaults := by
  constructor
  · generalize hlaid : ([] : List File) = laid
    intro h
    cases h with
    | defaults hsets => exact ⟨hsets, rfl⟩
    | sets => simp at hlaid
    | keeps => simp at hlaid
  · rintro ⟨hsets, rfl⟩
    exact .defaults hsets

theorem lastSets_concat : LastSets (laid ++ [file]) q layer ↔
    (Sets (Stack.of laid).tree file.tree q ∧ layer = file.layer) ∨
      (¬ Sets (Stack.of laid).tree file.tree q ∧ LastSets laid q layer) := by
  constructor
  · generalize hall : laid ++ [file] = all
    intro h
    cases h with
    | defaults => simp at hall
    | sets hsets =>
      obtain ⟨rfl, rfl⟩ := List.append_singleton_inj.mp hall
      exact .inl ⟨hsets, rfl⟩
    | keeps hsets h =>
      obtain ⟨rfl, rfl⟩ := List.append_singleton_inj.mp hall
      exact .inr ⟨hsets, h⟩
  · rintro (⟨hsets, rfl⟩ | ⟨hsets, h⟩)
    · exact .sets hsets
    · exact .keeps hsets h

theorem base_eq : Stack.base.sources = (overlay .defaults "" (.table []) [] defaultTree).2 ∧
    Stack.base.tree = merge (.table []) defaultTree :=
  ⟨recordAt_eq ordered_defaultTree none, rfl⟩

theorem find?_stack_iff (h : ∀ file ∈ laid, file.Sound) :
    (Stack.of laid).sources.find? q = some layer ↔ LastSets laid q layer := by
  induction laid using List.reverseRecOn generalizing layer with
  | nil =>
    have hnone : Sources.find? [] q ≠ some layer := nofun
    rw [Stack.of, List.foldl_nil, base_eq.1, find?_overlay_iff ordered_defaultTree, lastSets_nil]
    simp [hnone]
  | append_singleton laid file ih =>
    obtain ⟨hlaid, hfile⟩ := List.forall_mem_append.mp h
    have hordered := (List.forall_mem_singleton.mp hfile).ordered
    rw [Stack.of_concat, Stack.lay_sources, find?_overlay_iff hordered, lastSets_concat, ih hlaid]

theorem hasPlainKeys_leaf {t : Tree} (h : t.isTable = false) : t.HasPlainKeys := by
  intro keys v hv
  cases keys with
  | nil => exact List.forall_mem_nil _
  | cons key keys =>
    rw [Tree.at?, Tree.below?_of_not_table h] at hv
    cases hv

theorem hasPlainKeys_table {members : Members}
    (h : ∀ m ∈ members, IsPlainKey m.1 ∧ m.2.HasPlainKeys) : (Tree.table members).HasPlainKeys := by
  intro keys v hv
  cases keys with
  | nil => exact List.forall_mem_nil _
  | cons key keys =>
    obtain ⟨w, hw, hv⟩ := Option.bind_eq_some_iff.mp hv
    obtain ⟨hkey, hbelow⟩ := h _ (Toml.mem_of_lookup hw)
    exact List.forall_mem_cons.mpr ⟨hkey, hbelow keys v hv⟩

theorem hasPlainKeys_leaves {members : Members}
    (h : ∀ m ∈ members, IsPlainKey m.1 ∧ m.2.isTable = false) :
    (Tree.table members).HasPlainKeys :=
  hasPlainKeys_table fun m hm => ⟨(h m hm).1, hasPlainKeys_leaf (h m hm).2⟩

theorem hasPlainKeys_defaultTree : defaultTree.HasPlainKeys := by
  refine hasPlainKeys_table ?_
  simp only [List.forall_mem_cons]
  refine ⟨⟨by unfold IsPlainKey; decide, hasPlainKeys_leaves ?_⟩,
    ⟨by unfold IsPlainKey; decide, hasPlainKeys_leaves ?_⟩,
    ⟨by unfold IsPlainKey; decide, hasPlainKeys_leaves ?_⟩, List.forall_mem_nil _⟩
  all_goals
    simp only [List.forall_mem_cons, IsPlainKey]
    decide

structure Sorted (laid : List File) : Prop where
  exact : Exact (defaultFile :: laid) (Stack.of laid).sources (Stack.of laid).tree
  plain : (Stack.of laid).tree.HasPlainKeys
  stands : ∀ keys v, defaultTree.at? keys = some v →
    ∃ w, (Stack.of laid).tree.at? keys = some w ∧ w.isTable = v.isTable
  agrees : ∀ t, (∀ f ∈ defaultFile :: laid, f.tree.Agrees t) → (Stack.of laid).tree.Agrees t

theorem sorted_nil : Sorted [] := by
  refine ⟨?_, hasPlainKeys_defaultTree, fun keys v hv => ⟨v, hv, rfl⟩,
    fun t ht => ht defaultFile (List.mem_singleton_self _)⟩
  have hempty : Exact [] [] (.table []) := by
    refine ⟨fun keys v hv hleaf => ?_, nofun⟩
    rw [isTable_of_empty hv] at hleaf
    cases hleaf
  have hagrees : (Tree.table []).Agrees defaultTree := by
    rintro keys v w hv hw
    cases keys with
    | nil =>
      cases hv
      cases hw
      rfl
    | cons key keys => cases hv
  rw [Stack.of, List.foldl_nil, base_eq.1, base_eq.2]
  exact hempty.lay ordered_defaultTree hagrees (hasPlainKeys_table (List.forall_mem_nil _))
    hasPlainKeys_defaultTree

theorem Sorted.concat {file : File} (h : Sorted laid) (hfile : file.Sound)
    (hplain : file.tree.HasPlainKeys)
    (hagrees : ∀ f ∈ defaultFile :: laid, f.tree.Agrees file.tree) : Sorted (laid ++ [file]) := by
  have htop := h.agrees file.tree hagrees
  refine ⟨?_, ?_, fun keys v hv => ?_, fun t ht => ?_⟩
  · rw [Stack.of_concat, Stack.lay_sources, Stack.lay_tree]
    exact h.exact.lay hfile.ordered htop h.plain hplain
  · rw [Stack.of_concat, Stack.lay_tree]
    exact hasPlainKeys_merge hfile.ordered h.plain hplain
  · obtain ⟨w, hw, hshape⟩ := h.stands keys v hv
    rw [Stack.of_concat, Stack.lay_tree, ← hshape]
    exact exists_at?_merge hfile.ordered htop hw
  · rw [← List.cons_append] at ht
    obtain ⟨hbelow, hlast⟩ := List.forall_mem_append.mp ht
    rw [Stack.of_concat, Stack.lay_tree]
    exact agrees_merge hfile.ordered (h.agrees t hbelow) (hlast file (List.mem_singleton_self _))

theorem sorted_of_compatible (hsound : ∀ file ∈ laid, file.Sound) (h : Compatible laid) :
    Sorted laid := by
  induction laid using List.reverseRecOn with
  | nil => exact sorted_nil
  | append_singleton laid file ih =>
    obtain ⟨hlaid, hfile⟩ := List.forall_mem_append.mp hsound
    obtain ⟨hplain, hplain'⟩ := List.forall_mem_append.mp h.plain
    rw [List.forall_mem_singleton] at hplain' hfile
    obtain ⟨hpairs, -, hagrees⟩ := List.pairwise_append.mp (List.cons_append ▸ h.agrees)
    exact (ih hlaid ⟨hplain, hpairs⟩).concat hfile hplain'
      fun f hf => hagrees f hf file (List.mem_singleton_self _)

end

end Config

end Credentials
