import Credentials.Toml.Reader
import Mathlib.Data.String.Basic
import Mathlib.Data.List.Nodup

/-! The tables of a TOML text. However they were put together, by headers, by dotted keys or between
braces, the tree that is read has no key twice in a table. -/

namespace Credentials.Toml

theorem lookup_cons_eq {α : Type} (q k : String) (v : α) (l : List (String × α)) :
    ((k, v) :: l).lookup q = if q = k then some v else l.lookup q := by
  rw [List.lookup_cons]
  by_cases h : q = k
  · simp [h]
  · rw [beq_eq_false_iff_ne.mpr h, if_neg h]

theorem mem_of_lookup {α : Type} {q : String} {v : α} {l : List (String × α)}
    (h : l.lookup q = some v) : (q, v) ∈ l := by
  obtain ⟨before, after, rfl, -⟩ := List.lookup_eq_some_iff.mp h
  exact List.mem_append_right _ List.mem_cons_self

theorem lookup_eq_none_iff {α : Type} {q : String} {l : List (String × α)} :
    l.lookup q = none ↔ ∀ m ∈ l, m.1 ≠ q := by
  simp only [List.lookup_eq_none_iff, bne_iff_ne, ne_comm]

theorem lookup_of_mem {α : Type} {m : String × α} {l : List (String × α)}
    (h : (l.map (·.1)).Nodup) (hm : m ∈ l) : l.lookup m.1 = some m.2 := by
  induction l with
  | nil => cases hm
  | cons n l ih =>
    obtain ⟨hn, hl⟩ := List.nodup_cons.mp h
    rw [lookup_cons_eq]
    rcases List.mem_cons.mp hm with rfl | hm
    · rw [if_pos rfl]
    · have hne : m.1 ≠ n.1 := fun he => hn (List.mem_map.mpr ⟨m, hm, he⟩)
      rw [if_neg hne, ih hl hm]

theorem Members.lookup_insert (key q : String) (v : Tree) (members : Members) :
    (members.insert key v).lookup q = if q = key then some v else members.lookup q := by
  induction members with
  | nil => rw [insert, lookup_cons_eq]
  | cons m members ih =>
    obtain ⟨k, old⟩ := m
    by_cases hk : key = k
    · subst hk
      rw [insert, if_pos rfl, lookup_cons_eq, lookup_cons_eq]
      split <;> rfl
    · by_cases hlt : key < k
      · rw [insert, if_neg hk, if_pos hlt, lookup_cons_eq]
      · rw [insert, if_neg hk, if_neg hlt, lookup_cons_eq, lookup_cons_eq, ih]
        by_cases hq : q = k
        · subst hq
          rw [if_pos rfl, if_neg (Ne.symm hk), if_pos rfl]
        · rw [if_neg hq, if_neg hq]

/-- Members in the order of their keys, none of which comes twice. -/
def Members.Ordered (members : Members) : Prop := (members.map (·.1)).Pairwise (· < ·)

theorem Members.mem_insert {key : String} {v : Tree} {members : Members} {m : String × Tree}
    (h : m ∈ members.insert key v) : m = (key, v) ∨ m ∈ members := by
  induction members with
  | nil => exact .inl (List.mem_singleton.mp h)
  | cons n members ih =>
    obtain ⟨k, old⟩ := n
    rw [insert] at h
    split at h
    · exact (List.mem_cons.mp h).imp_right (List.mem_cons_of_mem _)
    · split at h
      · exact List.mem_cons.mp h
      · rcases List.mem_cons.mp h with rfl | h
        · exact .inr List.mem_cons_self
        · exact (ih h).imp_right (List.mem_cons_of_mem _)

theorem Members.keys_insert {key q : String} {v : Tree} {members : Members}
    (h : q ∈ (members.insert key v).map (·.1)) : q = key ∨ q ∈ members.map (·.1) := by
  obtain ⟨m, hm, rfl⟩ := List.mem_map.mp h
  rcases mem_insert hm with rfl | hm
  · exact .inl rfl
  · exact .inr (List.mem_map_of_mem hm)

theorem Members.ordered_insert {key : String} {v : Tree} {members : Members}
    (h : members.Ordered) : (members.insert key v).Ordered := by
  induction members with
  | nil => exact List.pairwise_singleton _ _
  | cons m members ih =>
    obtain ⟨k, old⟩ := m
    obtain ⟨hk, hrest⟩ := List.pairwise_cons.mp h
    simp only [insert]
    split
    · next heq =>
      subst heq
      exact List.pairwise_cons.mpr ⟨hk, hrest⟩
    · next hne =>
      split
      · next hlt =>
        refine List.pairwise_cons.mpr ⟨?_, h⟩
        exact List.forall_mem_cons.mpr ⟨hlt, fun q hq => hlt.trans (hk q hq)⟩
      · next hle =>
        refine List.pairwise_cons.mpr ⟨fun q hq => ?_, ih hrest⟩
        rcases keys_insert hq with rfl | hq
        · exact lt_of_le_of_ne (not_lt.mp hle) (Ne.symm hne)
        · exact hk q hq

theorem Members.Ordered.nodup {members : Members} (h : members.Ordered) :
    (members.map (·.1)).Nodup := h.imp fun hlt => hlt.ne

/-- Whether a value holds no others. -/
def Tree.isPlain : Tree → Bool
  | array _ => false
  | table _ => false
  | _ => true

/-- A tree in which the members of every table are ordered. -/
inductive Tree.Ordered : Tree → Prop
  | plain {t : Tree} : t.isPlain = true → Ordered t
  | array {items : List Tree} : (∀ t ∈ items, t.Ordered) → Ordered (.array items)
  | table {members : Members} : members.Ordered → (∀ m ∈ members, m.2.Ordered) →
      Ordered (.table members)

section
variable {v : Tree} {s rest : List Char}

theorem isPlain_integerOf {negative : Bool} {n : Nat} (h : integerOf negative n = some v) :
    v.isPlain = true := by
  unfold integerOf at h
  grind [Tree.isPlain]

theorem isPlain_floatOf {negative : Bool} {n : Nat} {e : Int} (h : floatOf negative n e = some v) :
    v.isPlain = true := by
  unfold floatOf at h
  grind [Tree.isPlain]

theorem isPlain_basedInteger {base : Nat} (h : basedInteger base s = some (v, rest)) :
    v.isPlain = true := by
  unfold basedInteger at h
  simp only [Option.bind_eq_bind, Option.bind_eq_some_iff, Option.some.injEq, Prod.mk.injEq] at h
  obtain ⟨_, -, _, hv, rfl, -⟩ := h
  exact isPlain_integerOf hv

theorem isPlain_specialFloat (h : specialFloat s = some (v, rest)) : v.isPlain = true := by
  unfold specialFloat at h
  grind [Tree.isPlain]

theorem isPlain_number (h : number s = some (v, rest)) : v.isPlain = true := by
  unfold number at h
  split at h
  · exact isPlain_basedInteger h
  · exact isPlain_basedInteger h
  · exact isPlain_basedInteger h
  · simp only at h
    split at h
    · exact isPlain_specialFloat h
    · simp only [Option.bind_eq_bind, Option.bind_eq_some_iff] at h
      obtain ⟨whole, -, h⟩ := h
      -- with decimals or without
      split at h <;>
      · obtain ⟨fraction, -, h⟩ := Option.bind_eq_some_iff.mp h
        obtain ⟨exponent, -, h⟩ := Option.bind_eq_some_iff.mp h
        split at h
        · obtain ⟨value, hv, h⟩ := Option.bind_eq_some_iff.mp h
          cases h
          exact isPlain_integerOf hv
        · obtain ⟨value, hv, h⟩ := Option.bind_eq_some_iff.mp h
          cases h
          exact isPlain_floatOf hv

theorem isPlain_dayTime (h : dayTime s = some (v, rest)) : v.isPlain = true := by
  simp only [dayTime, Option.bind_eq_bind, Option.bind_eq_some_iff] at h
  obtain ⟨_, -, h⟩ := h
  split at h
  · split at h
    · simp only [Option.bind_eq_some_iff, Option.some.injEq, Prod.mk.injEq] at h
      obtain ⟨_, -, _, -, rfl, -⟩ := h
      rfl
    · cases h
      rfl
  · cases h
    rfl

theorem isPlain_numberOrTime (h : numberOrTime s = some (v, rest)) : v.isPlain = true := by
  unfold numberOrTime at h
  split at h
  · exact isPlain_dayTime h
  · split at h
    · obtain ⟨_, -, he⟩ := Option.map_eq_some_iff.mp h
      cases he
      rfl
    · exact isPlain_number h

end

/-- An item all of whose scalars hold no other values. -/
inductive Item.Sound : Item → Prop
  | scalar {v : Tree} : v.isPlain = true → Sound (.scalar v)
  | array {items : List Item} : (∀ v ∈ items, v.Sound) → Sound (.array items)
  | table {origin : Origin} {members : Items} : (∀ m ∈ members, m.2.Sound) →
      Sound (.table origin members)
  | tables {rows : List Items} : (∀ row ∈ rows, ∀ m ∈ row, m.2.Sound) → Sound (.tables rows)

def Items.Sound (items : Items) : Prop := ∀ m ∈ items, m.2.Sound

namespace Items

variable {items items' : Items} {key : String} {item : Item} {path header : List String}

theorem Sound.set (h : items.Sound) (hi : item.Sound) : (items.set key item).Sound := by
  induction items with
  | nil => exact List.forall_mem_singleton.mpr hi
  | cons m items ih =>
    obtain ⟨hm, hrest⟩ := List.forall_mem_cons.mp h
    rw [Items.set]
    split
    · exact List.forall_mem_cons.mpr ⟨hi, hrest⟩
    · exact List.forall_mem_cons.mpr ⟨hm, ih hrest⟩

theorem Sound.append (h : items.Sound) (hi : item.Sound) : Items.Sound (items ++ [(key, item)]) :=
  List.forall_mem_append.mpr ⟨h, List.forall_mem_singleton.mpr hi⟩

theorem Sound.find? (h : items.Sound) (hf : items.find? key = some item) : item.Sound := by
  induction items with
  | nil => cases hf
  | cons m items ih =>
    obtain ⟨hm, hrest⟩ := List.forall_mem_cons.mp h
    rw [Items.find?, lookup_cons_eq] at hf
    split at hf
    · exact Option.some.inj hf ▸ hm
    · exact ih hrest hf

theorem Sound.of_table {origin : Origin} {members : Items} (h : items.Sound)
    (hf : items.find? key = some (.table origin members)) : members.Sound := by
  cases h.find? hf with
  | table hmembers => exact hmembers

theorem Sound.of_tables {rows : List Items} (h : items.Sound)
    (hf : items.find? key = some (.tables rows)) : ∀ row ∈ rows, row.Sound := by
  cases h.find? hf with
  | tables hrows => exact hrows

theorem Sound.add (h : items.Sound) (hi : item.Sound) (ha : items.add key item = some items') :
    items'.Sound := by
  unfold Items.add at ha
  split at ha
  · cases ha
  · exact Option.some.inj ha ▸ h.append hi

theorem Sound.within {origin : Origin} {change : Bool → Items → Option Items} {isDotted : Bool}
    (hchange : ∀ {isDotted : Bool} {items items' : Items}, items.Sound →
      change isDotted items = some items' → items'.Sound)
    (h : items.Sound) (hw : Items.within origin change path isDotted items = some items') :
    items'.Sound := by
  induction path generalizing isDotted items items' with
  | nil => exact hchange h hw
  | cons key path ih =>
    rw [Items.within] at hw
    split at hw
    · obtain ⟨members, hm, hw⟩ := Option.bind_eq_some_iff.mp hw
      cases hw
      exact h.set (.table (ih (List.forall_mem_nil _) hm))
    · next found members hf =>
      split at hw
      · cases hw
      · obtain ⟨members', hm, hw⟩ := Option.bind_eq_some_iff.mp hw
        cases hw
        exact h.set (.table (ih (h.of_table hf) hm))
    · next rows hf =>
      obtain ⟨row, hrow, hw⟩ := Option.bind_eq_some_iff.mp hw
      obtain ⟨row', hr, hw⟩ := Option.bind_eq_some_iff.mp hw
      cases hw
      have hrows := h.of_tables hf
      have hrow' := ih (hrows row (List.mem_of_getLast? hrow)) hr
      refine h.set (.tables (List.forall_mem_append.mpr ⟨?_, List.forall_mem_singleton.mpr hrow'⟩))
      exact fun row hmem => hrows row ((List.dropLast_sublist rows).subset hmem)
    · cases hw

theorem Sound.assign (h : items.Sound) (hi : item.Sound)
    (ha : items.assign path item = some items') : items'.Sound := by
  unfold Items.assign at ha
  split at ha
  · cases ha
  · refine h.within (fun hm hc => ?_) ha
    split at hc
    · cases hc
    · exact hm.add hi hc

theorem Sound.openTable (h : items.Sound) (ho : items.openTable path = some items') :
    items'.Sound := by
  unfold Items.openTable at ho
  split at ho
  · cases ho
  · refine h.within (fun hm hc => ?_) ho
    split at hc
    · cases hc
      exact hm.append (.table (List.forall_mem_nil _))
    · next inner hf =>
      cases hc
      exact hm.set (.table (hm.of_table hf))
    · cases hc

theorem Sound.openRow (h : items.Sound) (ho : items.openRow path = some items') : items'.Sound := by
  unfold Items.openRow at ho
  split at ho
  · cases ho
  · refine h.within (fun hm hc => ?_) ho
    split at hc
    · cases hc
      exact hm.append (.tables (List.forall_mem_singleton.mpr (List.forall_mem_nil _)))
    · next rows hf =>
      cases hc
      refine hm.set (.tables (List.forall_mem_append.mpr ⟨hm.of_tables hf, ?_⟩))
      exact List.forall_mem_singleton.mpr (List.forall_mem_nil _)
    · cases hc

theorem Sound.assignIn (h : items.Sound) (hi : item.Sound)
    (ha : items.assignIn header path item = some items') : items'.Sound :=
  h.within (fun hm hc => hm.assign hi hc) ha

end Items

/-- What the three readers of values give is sound, by induction on the fuel they share. -/
theorem sound_values (fuel : Nat) :
    (∀ {depth : Nat} {s rest : List Char} {item : Item}, value fuel depth s = some (item, rest) →
      item.Sound) ∧
    (∀ {depth : Nat} {s rest : List Char} {done : List Item} {item : Item},
      (∀ v ∈ done, v.Sound) → arrayItems fuel depth done s = some (item, rest) → item.Sound) ∧
    ∀ {depth : Nat} {s rest : List Char} {items : Items} {item : Item}, items.Sound →
      inlineMembers fuel depth items s = some (item, rest) → item.Sound := by
  induction fuel with
  | zero =>
    refine ⟨fun h => ?_, fun _ h => ?_, fun _ h => ?_⟩
    · simp [value] at h
    · simp [arrayItems] at h
    · simp [inlineMembers] at h
  | succ fuel ih =>
    obtain ⟨ihValue, ihItems, ihMembers⟩ := ih
    refine ⟨fun h => ?_, fun hdone h => ?_, fun hitems h => ?_⟩
    · unfold value at h
      split at h
      · obtain ⟨_, -, he⟩ := Option.map_eq_some_iff.mp h
        cases he
        exact .scalar rfl
      · obtain ⟨_, -, he⟩ := Option.map_eq_some_iff.mp h
        cases he
        exact .scalar rfl
      · split at h
        · exact ihItems (List.forall_mem_nil _) h
        · cases h
      · split at h
        · split at h
          · cases h
            exact .table (List.forall_mem_nil _)
          · exact ihMembers (List.forall_mem_nil _) h
        · cases h
      · cases h
        exact .scalar rfl
      · cases h
        exact .scalar rfl
      · obtain ⟨⟨v, _⟩, hv, he⟩ := Option.map_eq_some_iff.mp h
        cases he
        exact .scalar (isPlain_numberOrTime hv)
    · simp only [arrayItems, Option.bind_eq_bind, Option.bind_eq_some_iff] at h
      obtain ⟨t, -, h⟩ := h
      split at h
      · cases h
        exact .array fun v hv => hdone v (List.mem_reverse.mp hv)
      · obtain ⟨⟨v, u⟩, hv, h⟩ := Option.bind_eq_some_iff.mp h
        have hmore : ∀ w ∈ v :: _, w.Sound := List.forall_mem_cons.mpr ⟨ihValue hv, hdone⟩
        obtain ⟨_, -, h⟩ := Option.bind_eq_some_iff.mp h
        split at h
        · cases h
          exact .array fun w hw => hmore w (List.mem_reverse.mp hw)
        · exact ihItems hmore h
        · cases h
    · simp only [inlineMembers, Option.bind_eq_bind, Option.bind_eq_some_iff] at h
      obtain ⟨⟨path, _⟩, -, _, -, ⟨v, _⟩, hv, items', ha, h⟩ := h
      have hmore : Items.Sound items' := hitems.assign (ihValue hv) ha
      split at h
      · cases h
        exact .table hmore
      · exact ihMembers hmore h
      · cases h

theorem sound_keyValue {s rest : List Char} {path : List String} {item : Item}
    (h : keyValue s = some (path, item, rest)) : item.Sound := by
  simp only [keyValue, Option.bind_eq_bind, Option.bind_eq_some_iff] at h
  obtain ⟨_, -, _, -, ⟨v, _⟩, hv, _, -, he⟩ := h
  cases he
  exact (sound_values _).1 hv

theorem sound_lines {fuel : Nat} {header : List String} {items items' : Items} {s : List Char}
    (h : items.Sound) (hl : lines fuel header items s = some items') : items'.Sound := by
  induction fuel generalizing header items s with
  | zero => cases hl
  | succ fuel ih =>
    rw [lines] at hl
    split at hl
    · cases hl
      exact h
    · obtain ⟨_, -, hl⟩ := Option.bind_eq_some_iff.mp hl
      exact ih h hl
    · exact ih h hl
    · obtain ⟨_, -, hl⟩ := Option.bind_eq_some_iff.mp hl
      exact ih h hl
    · simp only [Option.bind_eq_bind, Option.bind_eq_some_iff] at hl
      obtain ⟨_, -, _, -, _, -, _, -, _, ho, hl⟩ := hl
      exact ih (h.openRow ho) hl
    · simp only [Option.bind_eq_bind, Option.bind_eq_some_iff] at hl
      obtain ⟨_, -, _, -, _, -, _, ho, hl⟩ := hl
      exact ih (h.openTable ho) hl
    · simp only [Option.bind_eq_bind, Option.bind_eq_some_iff] at hl
      obtain ⟨⟨path, v, _⟩, hv, _, ha, hl⟩ := hl
      exact ih (h.assignIn (sound_keyValue hv) ha) hl

theorem ordered_toMembers (items : Items) : (toMembers items).Ordered := by
  induction items with
  | nil => exact List.Pairwise.nil
  | cons m items ih =>
    obtain ⟨k, v⟩ := m
    rw [toMembers]
    exact Members.ordered_insert ih

mutual

theorem Item.Sound.ordered {item : Item} (h : item.Sound) : item.toTree.Ordered := by
  cases item with
  | scalar v =>
    cases h with
    | scalar hv => exact .plain hv
  | array items =>
    cases h with
    | array hitems => exact .array (ordered_toTrees items hitems)
  | table origin members =>
    cases h with
    | table hmembers => exact .table (ordered_toMembers members) (ordered_members members hmembers)
  | tables rows =>
    cases h with
    | tables hrows => exact .array (ordered_rowTrees rows hrows)

theorem ordered_toTrees (items : List Item) (h : ∀ v ∈ items, v.Sound) :
    ∀ t ∈ toTrees items, t.Ordered := by
  cases items with
  | nil => exact List.forall_mem_nil _
  | cons v items =>
    obtain ⟨hv, hitems⟩ := List.forall_mem_cons.mp h
    rw [toTrees]
    exact List.forall_mem_cons.mpr ⟨hv.ordered, ordered_toTrees items hitems⟩

theorem ordered_members (items : Items) (h : items.Sound) : ∀ m ∈ toMembers items, m.2.Ordered := by
  cases items with
  | nil => exact List.forall_mem_nil _
  | cons m items =>
    obtain ⟨k, v⟩ := m
    obtain ⟨hv, hitems⟩ := List.forall_mem_cons.mp h
    intro m hm
    rcases Members.mem_insert hm with rfl | hm
    · exact hv.ordered
    · exact ordered_members items hitems m hm

theorem ordered_rowTrees (rows : List Items) (h : ∀ row ∈ rows, Items.Sound row) :
    ∀ t ∈ rowTrees rows, t.Ordered := by
  cases rows with
  | nil => exact List.forall_mem_nil _
  | cons row rows =>
    obtain ⟨hrow, hrows⟩ := List.forall_mem_cons.mp h
    rw [rowTrees]
    refine List.forall_mem_cons.mpr ⟨?_, ordered_rowTrees rows hrows⟩
    exact .table (ordered_toMembers row) (ordered_members row hrow)

end

/-- A document is a table, in which as in all tables below it no key comes twice. -/
theorem read?_ordered {text : String} {tree : Tree} (h : read? text = some tree) :
    ∃ members, tree = .table members ∧ (Tree.table members).Ordered := by
  obtain ⟨items, hl, rfl⟩ := Option.map_eq_some_iff.mp h
  have hsound : Items.Sound items := sound_lines (List.forall_mem_nil _) hl
  exact ⟨_, rfl, .table (ordered_toMembers items) (ordered_members items hsound)⟩

mutual

/-- Whether two trees are the same. Numbers with a fraction never count as the same. -/
def Tree.same : Tree → Tree → Bool
  | .text s, .text t => s == t
  | .integer m, .integer n => m == n
  | .boolean a, .boolean b => a == b
  | .time s, .time t => s == t
  | .array items, .array others => sameItems items others
  | .table members, .table others => Members.same members others
  | _, _ => false

def sameItems : List Tree → List Tree → Bool
  | [], [] => true
  | v :: items, w :: others => v.same w && sameItems items others
  | _, _ => false

def Members.same : Members → Members → Bool
  | [], [] => true
  | (k, v) :: members, (l, w) :: others => k == l && v.same w && Members.same members others
  | _, _ => false

end

mutual

theorem Tree.eq_of_same {t u : Tree} (h : t.same u = true) : t = u := by
  cases t <;> cases u <;> simp only [Tree.same, Bool.false_eq_true, beq_iff_eq] at h
  all_goals first
    | rw [h]
    | rw [eq_of_sameItems h]
    | rw [Members.eq_of_same h]

theorem eq_of_sameItems {items others : List Tree} (h : sameItems items others = true) :
    items = others := by
  cases items <;> cases others <;> simp only [sameItems, Bool.false_eq_true, Bool.and_eq_true] at h
  · rfl
  · rw [Tree.eq_of_same h.1, eq_of_sameItems h.2]

theorem Members.eq_of_same {members others : Members} (h : members.same others = true) :
    members = others := by
  cases members <;> cases others <;>
    simp only [Members.same, Bool.false_eq_true, Bool.and_eq_true, beq_iff_eq] at h
  · rfl
  · rename_i m rest n rest'
    obtain ⟨⟨hk, hv⟩, hrest⟩ := h
    rw [Members.eq_of_same hrest, Prod.ext hk (Tree.eq_of_same hv)]

end

end Credentials.Toml
