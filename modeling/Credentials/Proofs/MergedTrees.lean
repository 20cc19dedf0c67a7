import Credentials.Proofs.Overlays

/-! What two layers merge to, path by path: what the upper layer has there, or, if it has nothing there
and leaves the way open, what the lower one has. Laying the same layer over the outcome again changes
nothing. -/

namespace Credentials

open Toml (Members Tree)

namespace Toml

/-- Whether only tables stand on the way to the end of a path. -/
def Tree.IsOpen (keys : List String) (t : Tree) : Prop :=
  ∀ q, q <+: keys → q ≠ keys → ∀ v, t.at? q = some v → v.isTable = true

theorem Tree.isOpen_iff {keys : List String} {t : Tree} : t.IsOpen keys ↔ ¬ t.Blocks keys := by
  induction keys generalizing t with
  | nil => exact iff_of_true (fun q hq hne => absurd (List.prefix_nil.mp hq) hne) id
  | cons key keys ih =>
    have hblocks : t.Blocks (key :: keys) ↔
        t.isTable = false ∨ ∃ v, t.below? key = some v ∧ v.Blocks keys := Iff.rfl
    rw [hblocks, not_or, not_exists, Bool.not_eq_false]
    constructor
    · intro h
      refine ⟨h [] List.nil_prefix (List.cons_ne_nil key keys).symm t rfl, fun v ⟨hv, hb⟩ => ?_⟩
      refine ih.mp (fun q hq hne w hw => h (key :: q) ?_ ?_ w ?_) hb
      · exact List.cons_prefix_cons.mpr ⟨rfl, hq⟩
      · exact fun he => hne (List.cons.inj he).2
      · rw [at?, hv, Option.bind_some, hw]
    · rintro ⟨ht, hbelow⟩ q hq hne w hw
      cases q with
      | nil => exact Option.some.inj hw ▸ ht
      | cons k q =>
        obtain ⟨rfl, hq'⟩ := List.cons_prefix_cons.mp hq
        obtain ⟨v, hv, hw⟩ := Option.bind_eq_some_iff.mp hw
        have hne' : q ≠ keys := fun he => hne (congrArg (k :: ·) he)
        exact ih.mpr (fun hb => hbelow v ⟨hv, hb⟩) q hq' hne' w hw

def Tree.HasTable (keys : List String) (t : Tree) : Prop :=
  ∃ v, t.at? keys = some v ∧ v.isTable = true

theorem Tree.isTable_of_isPlain {t : Tree} (h : t.isPlain = true) : t.isTable = false := by
  cases t with
  | table => cases h
  | _ => rfl

/-- Setting a key to what it stands for already changes nothing. -/
theorem Members.insert_of_lookup {key : String} {v : Tree} {members : Members}
    (h : members.Ordered) (hv : members.lookup key = some v) : members.insert key v = members := by
  induction members with
  | nil => cases hv
  | cons m members ih =>
    obtain ⟨k, old⟩ := m
    obtain ⟨hk, hrest⟩ := List.pairwise_cons.mp h
    rw [lookup_cons_eq] at hv
    by_cases he : key = k
    · rw [if_pos he] at hv
      rw [insert, if_pos he, he, Option.some.inj hv]
    · rw [if_neg he] at hv
      have hlt : k < key := hk key (List.mem_map_of_mem (mem_of_lookup hv))
      rw [insert, if_neg he, if_neg hlt.asymm, ih hrest hv]

end Toml

namespace Config

variable {layer : Layer} {path : String} {sources : Sources} {base upper v : Tree}
  {below members : Members}

theorem ordered_overlayMembers (h : below.Ordered) :
    (overlayMembers layer path below sources members).1.Ordered := by
  induction members generalizing below sources with
  | nil => exact h
  | cons m members ih =>
    obtain ⟨key, v⟩ := m
    rw [overlayMembers_cons]
    exact ih (Members.ordered_insert h)

theorem overlayMembers_eq_self (h : below.Ordered)
    (hold : ∀ m ∈ members, ∃ old, below.lookup m.1 = some old ∧ merge old m.2 = old) :
    (overlayMembers layer path below sources members).1 = below := by
  induction members generalizing sources with
  | nil => rfl
  | cons m members ih =>
    obtain ⟨⟨old, hlookup, hmerge⟩, hrest⟩ := List.forall_mem_cons.mp hold
    obtain ⟨key, v⟩ := m
    have hsame : below.insert key (mergeAt (below.lookup key) v) = below := by
      rw [hlookup, mergeAt, Option.elim_some, hmerge]
      exact Members.insert_of_lookup h hlookup
    rw [overlayMembers_cons, hsame]
    exact ih hrest

theorem merge_of_base_not_table (h : base.isTable = false) : merge base v = v := by
  cases base with
  | table => cases h
  | _ => cases v <;> rfl

section
variable (ih : ∀ {base : Tree}, base.Ordered → merge (merge base v) v = merge base v)
include ih

/-- A tree laid over itself, as if it had been laid over something that is no table before. -/
theorem merge_self : merge v v = v := by
  have hplain : merge (.boolean true) v = v := merge_of_base_not_table rfl
  have hagain : merge (merge (.boolean true) v) v = merge (.boolean true) v := ih (.plain rfl)
  rwa [hplain] at hagain

theorem merge_mergeAt {old : Option Tree} (hold : ∀ t ∈ old, t.Ordered) :
    merge (mergeAt old v) v = mergeAt old v := by
  cases old with
  | none => exact merge_self ih
  | some t => exact ih (hold t rfl)

end

theorem merge_merge (hb : base.Ordered) (hu : upper.Ordered) :
    merge (merge base upper) upper = merge base upper := by
  induction hu generalizing base with
  | plain hplain =>
    have hleaf := Tree.isTable_of_isPlain hplain
    rw [merge_of_not_table hleaf, merge_of_not_table hleaf]
  | array => rfl
  | @table members hkeys hmembers ih =>
    cases ht : base.isTable with
    | false =>
      rw [merge_of_base_not_table ht, merge_tables]
      refine congrArg Tree.table (overlayMembers_eq_self hkeys fun m hm => ⟨m.2, ?_, ?_⟩)
      · exact Toml.lookup_of_mem hkeys.nodup hm
      · exact merge_self (ih m hm)
    | true =>
      obtain ⟨below, rfl⟩ := Tree.exists_of_isTable ht
      cases hb with
      | plain h => cases h
      | table hbelow hvalues =>
        rw [merge_tables, merge_tables]
        refine congrArg Tree.table (overlayMembers_eq_self (ordered_overlayMembers hbelow) ?_)
        intro m hm
        refine ⟨mergeAt (below.lookup m.1) m.2, ?_, ?_⟩
        · rw [overlayMembers_lookup hkeys.nodup, Toml.lookup_of_mem hkeys.nodup hm]
          rfl
        · exact merge_mergeAt (ih m hm) fun t ht => hvalues _ (Toml.mem_of_lookup ht)

section
variable {keys : List String} (hu : upper.Ordered)
include hu

theorem at?_merge_of_absent (hat : upper.at? keys = none) :
    (merge base upper).at? keys = some v ↔ upper.IsOpen keys ∧ base.at? keys = some v := by
  rw [Tree.isOpen_iff]
  by_cases hb : upper.Blocks keys
  · rw [Tree.at?_eq_none_of_blocks (blocks_merge_of_blocks hu hb)]
    exact iff_of_false nofun fun h => h.1 hb
  · rw [at?_merge_of_none hu hat hb, and_iff_right hb]

theorem value_merge_iff (hleaf : v.isTable = false) :
    (merge base upper).at? keys = some v ↔ upper.at? keys = some v ∨
      (upper.at? keys = none ∧ upper.IsOpen keys ∧ base.at? keys = some v) := by
  cases hat : upper.at? keys with
  | none => simp [at?_merge_of_absent hu hat]
  | some w =>
    rw [or_iff_left (fun h => nomatch h.1)]
    cases ht : w.isTable with
    | false => rw [at?_merge_of_value hu hat ht]
    | true =>
      obtain ⟨t, htop, htable⟩ : ∃ t, (merge base upper).at? keys = some t ∧ t.isTable = true :=
        at?_merge_of_table hu hat ht
      rw [htop]
      refine iff_of_false ?_ ?_
      · rintro ⟨⟩
        exact Bool.false_ne_true (hleaf.symm.trans htable)
      · rintro ⟨⟩
        exact Bool.false_ne_true (hleaf.symm.trans ht)

theorem hasTable_merge_iff :
    (merge base upper).HasTable keys ↔ upper.HasTable keys ∨
      (upper.at? keys = none ∧ upper.IsOpen keys ∧ base.HasTable keys) := by
  unfold Tree.HasTable
  cases hat : upper.at? keys with
  | none => simp [at?_merge_of_absent hu hat, and_assoc]
  | some w =>
    rw [or_iff_left (fun h => nomatch h.1)]
    cases ht : w.isTable with
    | false => rw [at?_merge_of_value hu hat ht]
    | true => exact iff_of_true (at?_merge_of_table hu hat ht) ⟨w, rfl, ht⟩

end

/-- What stands at a path after one layer has been laid over another: what the upper layer has there
if that is no table, what the lower one has if the upper has nothing there and leaves the way open,
and a table where one of them has one on these terms. Laid over the outcome, the upper layer changes
nothing. -/
theorem overlay_at (layer : Layer) (path : String) (sources : Sources) (hb : base.Ordered)
    (hu : upper.Ordered) :
    (∀ keys v, v.isTable = false →
      ((overlay layer path base sources upper).1.at? keys = some v ↔
        upper.at? keys = some v ∨
          (upper.at? keys = none ∧ upper.IsOpen keys ∧ base.at? keys = some v))) ∧
    (∀ keys, (overlay layer path base sources upper).1.HasTable keys ↔
      upper.HasTable keys ∨ (upper.at? keys = none ∧ upper.IsOpen keys ∧ base.HasTable keys)) ∧
    ∀ layer' path' sources',
      (overlay layer' path' (overlay layer path base sources upper).1 sources' upper).1 =
        (overlay layer path base sources upper).1 := by
  rw [overlay_fst]
  refine ⟨fun keys v => value_merge_iff hu, fun keys => hasTable_merge_iff hu, ?_⟩
  intro layer' path' sources'
  rw [overlay_fst, merge_merge hb hu]

/-- Two layers at odds over what is a table. -/
def lowerTree : Tree :=
  .table [("cache", .table [("size", .integer 4)]),
    ("store", .table [("lock", .integer 5), ("path", .text "/a")])]

def upperTree : Tree :=
  .table [("cache", .boolean false), ("store", .table [("path", .table [("root", .text "/b")])])]

theorem ordered_one {k : String} (hv : v.Ordered) : (Tree.table [(k, v)]).Ordered :=
  .table (List.pairwise_singleton _ _) (List.forall_mem_singleton.mpr hv)

theorem ordered_two {k l : String} {w : Tree} (hlt : k < l) (hv : v.Ordered) (hw : w.Ordered) :
    (Tree.table [(k, v), (l, w)]).Ordered :=
  .table (List.pairwise_pair.mpr hlt) (by simp [hv, hw])

theorem ordered_lowerTree : lowerTree.Ordered :=
  ordered_two (by decide) (ordered_one (.plain rfl))
    (ordered_two (by decide) (.plain rfl) (.plain rfl))

theorem ordered_upperTree : upperTree.Ordered :=
  ordered_two (by decide) (.plain rfl) (ordered_one (ordered_one (.plain rfl)))

theorem overlay_at_conflict :
    (overlay .user "" lowerTree [] upperTree).1.at? ["store", "lock"] = some (.integer 5) ∧
      (overlay .user "" lowerTree [] upperTree).1.at? ["cache"] = some (.boolean false) ∧
      (overlay .user "" lowerTree [] upperTree).1.HasTable ["store", "path"] ∧
      (overlay .user "" lowerTree [] upperTree).1.at? ["cache", "size"] ≠ some (.integer 4) ∧
      (overlay .user "" (overlay .user "" lowerTree [] upperTree).1 [] upperTree).1 =
        (overlay .user "" lowerTree [] upperTree).1 := by
  obtain ⟨hvalue, htable, hagain⟩ := overlay_at .user "" [] ordered_lowerTree ordered_upperTree
  have hopen : upperTree.IsOpen ["store", "lock"] := by
    rw [Tree.isOpen_iff]
    simp [Tree.Blocks, upperTree, Tree.below?, Tree.isTable, Toml.lookup_cons_eq]
  refine ⟨(hvalue _ _ rfl).mpr (.inr ⟨rfl, hopen, rfl⟩), (hvalue _ _ rfl).mpr (.inl rfl),
    (htable _).mpr (.inl ⟨_, rfl, rfl⟩), fun h => ?_, hagain _ _ _⟩
  rcases (hvalue _ _ rfl).mp h with h | ⟨-, hopen, -⟩
  · cases h
  · have hcache := hopen ["cache"] (by decide) (by decide) (.boolean false) rfl
    cases hcache

end Config

end Credentials
