import Credentials.Proofs.Overlays

/-! Where fields are said to come from. A layer is recorded for the dotted path of each value that
it lays over nothing, over another value, or into a table; nothing is recorded for the values of a
table that takes the place of something else. -/

namespace Credentials.Config

open Toml (Members Tree)

variable {layer : Layer} {path key q : String} {sources : Sources} {base upper t v : Tree}
  {below members : Members}

theorem Sources.find?_set : (sources.set path layer).find? q =
    if q = path then some layer else sources.find? q := by
  induction sources with
  | nil => exact Toml.lookup_cons_eq q path layer []
  | cons entry sources ih =>
    obtain ⟨p, l⟩ := entry
    rw [Sources.find?] at ih ⊢
    rw [Sources.set, Sources.find?]
    by_cases hp : p = path
    · subst hp
      rw [if_pos rfl, Toml.lookup_cons_eq, Toml.lookup_cons_eq]
      split <;> rfl
    · rw [if_neg hp, Toml.lookup_cons_eq, Toml.lookup_cons_eq, ih]
      by_cases hq : q = p
      · rw [if_pos hq, if_pos hq, if_neg (hq ▸ hp)]
      · rw [if_neg hq, if_neg hq]
        rfl

theorem Sources.find?_set_or : (sources.set path layer).find? q = sources.find? q ∨
    (sources.set path layer).find? q = some layer := by
  rw [find?_set]
  split
  · exact .inr rfl
  · exact .inl rfl

theorem or_trans {α : Type} {a b c d : α} (h : b = a ∨ b = d) (h' : c = b ∨ c = d) :
    c = a ∨ c = d := by
  rcases h' with rfl | rfl
  · exact h
  · exact .inr rfl

mutual

theorem find?_record_or (layer : Layer) (path q : String) (sources : Sources) (t : Tree) :
    (record layer path sources t).find? q = sources.find? q ∨
      (record layer path sources t).find? q = some layer := by
  cases t with
  | table members => exact find?_recordMembers_or layer path q sources members
  | _ => exact Sources.find?_set_or

theorem find?_recordMembers_or (layer : Layer) (path q : String) (sources : Sources)
    (members : Members) : (recordMembers layer path sources members).find? q = sources.find? q ∨
      (recordMembers layer path sources members).find? q = some layer := by
  cases members with
  | nil => exact .inl rfl
  | cons m rest =>
    obtain ⟨key, v⟩ := m
    exact or_trans (find?_record_or layer (joinPath path key) q sources v)
      (find?_recordMembers_or layer path q _ rest)

end

mutual

theorem find?_overlay_or (layer : Layer) (path q : String) (base : Tree) (sources : Sources)
    (t : Tree) : (overlay layer path base sources t).2.find? q = sources.find? q ∨
      (overlay layer path base sources t).2.find? q = some layer := by
  cases t with
  | table members =>
    cases base with
    | table below => exact find?_overlayMembers_or layer path q below sources members
    | _ => exact Sources.find?_set_or
  | _ => exact Sources.find?_set_or

theorem find?_overlayMembers_or (layer : Layer) (path q : String) (below : Members)
    (sources : Sources) (members : Members) :
    (overlayMembers layer path below sources members).2.find? q = sources.find? q ∨
      (overlayMembers layer path below sources members).2.find? q = some layer := by
  cases members with
  | nil => exact .inl rfl
  | cons m rest =>
    obtain ⟨key, v⟩ := m
    rw [overlayMembers_cons]
    refine or_trans ?_ (find?_overlayMembers_or layer path q _ _ rest)
    cases below.lookup key with
    | none => exact find?_record_or layer _ q sources v
    | some old => exact find?_overlay_or layer _ q old sources v

end

/-- Whether a dotted path is that of a tree or leads into it. -/
def Covers (path q : String) : Prop := path = "" ∨ q = path ∨ ∃ rest, q = path ++ "." ++ rest

theorem joinPath_of_ne (h : path ≠ "") : joinPath path key = path ++ "." ++ key := by
  rw [joinPath, if_neg (by simpa using h)]

theorem Covers.of_join (h : Covers (joinPath path key) q) : Covers path q := by
  by_cases hp : path = ""
  · exact .inl hp
  · rw [joinPath_of_ne hp] at h
    rcases h with h | rfl | ⟨rest, rfl⟩
    · simp at h
    · exact .inr (.inr ⟨key, rfl⟩)
    · exact .inr (.inr ⟨key ++ "." ++ rest, by simp [String.append_assoc]⟩)

theorem Sources.find?_set_of_not_covers (h : ¬ Covers path q) :
    (sources.set path layer).find? q = sources.find? q := by
  rw [find?_set, if_neg fun hq => h (.inr (.inl hq))]

mutual

theorem find?_record_of_not_covers {layer : Layer} {path q : String} (h : ¬ Covers path q)
    (sources : Sources) (t : Tree) :
    (record layer path sources t).find? q = sources.find? q := by
  cases t with
  | table members =>
    exact find?_recordMembers_of_not_covers (fun _ _ hm => h hm.of_join) sources
  | _ => exact Sources.find?_set_of_not_covers h

theorem find?_recordMembers_of_not_covers {layer : Layer} {path q : String} {members : Members}
    (h : ∀ m ∈ members, ¬ Covers (joinPath path m.1) q) (sources : Sources) :
    (recordMembers layer path sources members).find? q = sources.find? q := by
  cases members with
  | nil => rfl
  | cons m rest =>
    obtain ⟨hm, hrest⟩ := List.forall_mem_cons.mp h
    exact (find?_recordMembers_of_not_covers hrest _).trans
      (find?_record_of_not_covers hm sources m.2)

end

theorem find?_overlayMembers_of_forall
    (h : ∀ m ∈ members, ∀ (old : Option Tree) (sources : Sources),
      (recordAt layer (joinPath path m.1) old sources m.2).find? q = sources.find? q) :
    (overlayMembers layer path below sources members).2.find? q = sources.find? q := by
  induction members generalizing below sources with
  | nil => rfl
  | cons m rest ih =>
    obtain ⟨hm, hrest⟩ := List.forall_mem_cons.mp h
    rw [overlayMembers_cons, ih hrest, hm]

mutual

theorem find?_overlay_of_not_covers {layer : Layer} {path q : String} (h : ¬ Covers path q)
    (base : Tree) (sources : Sources) (t : Tree) :
    (overlay layer path base sources t).2.find? q = sources.find? q := by
  cases t with
  | table members =>
    cases base with
    | table below =>
      exact find?_overlayMembers_of_not_covers (fun _ _ hm => h hm.of_join) below sources
    | _ => exact Sources.find?_set_of_not_covers h
  | _ => exact Sources.find?_set_of_not_covers h

theorem find?_overlayMembers_of_not_covers {layer : Layer} {path q : String} {members : Members}
    (h : ∀ m ∈ members, ¬ Covers (joinPath path m.1) q) (below : Members) (sources : Sources) :
    (overlayMembers layer path below sources members).2.find? q = sources.find? q := by
  cases members with
  | nil => rfl
  | cons m rest =>
    obtain ⟨hm, hrest⟩ := List.forall_mem_cons.mp h
    rw [overlayMembers_cons, find?_overlayMembers_of_not_covers hrest]
    cases below.lookup m.1 with
    | none => exact find?_record_of_not_covers hm sources m.2
    | some old => exact find?_overlay_of_not_covers hm old sources m.2

end

theorem find?_overlayMembers_of_key (hv : members.lookup key = some v)
    (hset : ∀ sources : Sources, (recordAt layer (joinPath path key) (below.lookup key) sources
      v).find? q = some layer) :
    (overlayMembers layer path below sources members).2.find? q = some layer := by
  induction members generalizing below sources with
  | nil => cases hv
  | cons m rest ih =>
    obtain ⟨k, w⟩ := m
    rw [Toml.lookup_cons_eq] at hv
    rw [overlayMembers_cons]
    by_cases hk : key = k
    · subst hk
      rw [if_pos rfl] at hv
      obtain rfl := Option.some.inj hv
      rcases find?_overlayMembers_or layer path q _ (recordAt layer (joinPath path key)
        (below.lookup key) sources w) rest with h | h
      · rw [h, hset]
      · exact h
    · rw [if_neg hk] at hv
      apply ih hv
      rw [Members.lookup_insert, if_neg hk]
      exact hset

theorem find?_recordMembers_of_key (hv : members.lookup key = some v) (hleaf : v.isTable = false) :
    (recordMembers layer path sources members).find? (joinPath path key) = some layer := by
  induction members generalizing sources with
  | nil => cases hv
  | cons m rest ih =>
    obtain ⟨k, w⟩ := m
    rw [Toml.lookup_cons_eq] at hv
    rw [recordMembers]
    by_cases hk : key = k
    · subst hk
      rw [if_pos rfl] at hv
      obtain rfl := Option.some.inj hv
      have hrecord : record layer (joinPath path key) sources w =
          sources.set (joinPath path key) layer := by
        cases w with
        | table => cases hleaf
        | _ => rfl
      rcases find?_recordMembers_or layer path (joinPath path key)
        (record layer (joinPath path key) sources w) rest with h | h
      · rw [h, hrecord, Sources.find?_set, if_pos rfl]
      · exact h
    · rw [if_neg hk] at hv
      exact ih hv

theorem find?_recordAt_of_not_covers (h : ¬ Covers path q) (old : Option Tree) :
    (recordAt layer path old sources v).find? q = sources.find? q := by
  cases old with
  | none => exact find?_record_of_not_covers h sources v
  | some old => exact find?_overlay_of_not_covers h old sources v

theorem find?_recordAt_of_not_table (old : Option Tree) (h : v.isTable = false) :
    (recordAt layer path old sources v).find? path = some layer := by
  cases old with
  | none =>
    cases v with
    | table => cases h
    | _ => exact Sources.find?_set.trans (if_pos rfl)
  | some old =>
    rw [recordAt, overlay_of_not_table h]
    exact Sources.find?_set.trans (if_pos rfl)

section
variable {title name : String}

/-- The value of a field in a section is recorded, if the section is laid over nothing or over a
table. -/
theorem find?_overlay_of_value (hv : upper.at? [title, name] = some v) (hleaf : v.isTable = false)
    (hbase : ¬ base.Blocks [title, name]) :
    (overlay layer "" base sources upper).2.find? (joinPath title name) = some layer := by
  obtain ⟨w, hw, hv⟩ := Option.bind_eq_some_iff.mp hv
  obtain ⟨u, hu, hv⟩ := Option.bind_eq_some_iff.mp hv
  obtain rfl := Option.some.inj hv
  obtain ⟨hroot, hsection⟩ := not_or.mp hbase
  cases upper with
  | table members =>
    cases base with
    | table below =>
      refine find?_overlayMembers_of_key hw fun sources => ?_
      cases w with
      | table inner =>
        cases hold : below.lookup title with
        | none => exact find?_recordMembers_of_key hu hleaf
        | some old =>
          cases old with
          | table fields =>
            exact find?_overlayMembers_of_key hu fun sources => find?_recordAt_of_not_table _ hleaf
          | _ => exact absurd ⟨_, hold, .inl rfl⟩ hsection
      | _ => cases hu
    | _ => exact absurd rfl hroot
  | _ => cases hw

/-- A section and a field of it, whose names have no dot. -/
structure IsField (title name : String) : Prop where
  named : title ≠ ""
  title : '.' ∉ title.toList
  name : '.' ∉ name.toList

/-- Of two dotted paths that are the same, one with a single dot, the first parts are the same, and
so are the second ones. -/
theorem IsField.eq_of_append {head tail : String} (h : IsField title name)
    (he : title ++ "." ++ name = head ++ "." ++ tail) : title = head ∧ name = tail := by
  have hlist : title.toList ++ '.' :: name.toList = head.toList ++ '.' :: tail.toList := by
    simpa using congrArg String.toList he
  obtain ⟨htitle, -, hname⟩ := (List.append_cons_inj_of_notMem h.title h.name).mp hlist
  exact ⟨String.toList_inj.mp htitle, String.toList_inj.mp hname⟩

theorem IsField.not_covers_root (h : IsField title name) (hkey : key ≠ "")
    (hpath : key ≠ joinPath title name) (htitle : key ≠ title) :
    ¬ Covers key (joinPath title name) := by
  rintro (rfl | rfl | ⟨rest, he⟩)
  · exact hkey rfl
  · exact hpath rfl
  · rw [joinPath_of_ne h.named] at he
    exact htitle (h.eq_of_append he).1.symm

theorem IsField.not_covers_section (h : IsField title name) (hkey : key ≠ name) :
    ¬ Covers (joinPath title key) (joinPath title name) := by
  rw [joinPath_of_ne h.named, joinPath_of_ne h.named]
  rintro (he | he | ⟨rest, he⟩)
  · simp at he
  · exact hkey (h.eq_of_append he).2.symm
  · have hjoined : title ++ "." ++ name = title ++ "." ++ (key ++ "." ++ rest) := by
      rw [he]
      simp only [String.append_assoc]
    have hdot : '.' ∈ name.toList := by
      rw [(h.eq_of_append hjoined).2]
      simp
    exact h.name hdot

/-- A tree that has nothing for a field leaves what is recorded for it, as long as no key is empty
or spells the whole dotted path. -/
theorem find?_overlay_of_none (h : IsField title name) (ho : upper.Ordered)
    (hroot : upper.isTable = true) (hv : upper.at? [title, name] = none)
    (hempty : upper.below? "" = none) (hpath : upper.below? (joinPath title name) = none) :
    (overlay layer "" base sources upper).2.find? (joinPath title name) =
      sources.find? (joinPath title name) := by
  have hne : joinPath title name ≠ "" := by
    rw [joinPath_of_ne h.named]
    simp
  have hsection (sources : Sources) :
      (sources.set title layer).find? (joinPath title name) =
        sources.find? (joinPath title name) := by
    rw [Sources.find?_set, if_neg]
    rw [joinPath_of_ne h.named]
    intro he
    have hlength := congrArg String.length he
    simp only [String.length_append] at hlength
    have hdot : ".".length = 1 := rfl
    omega
  cases upper with
  | table members =>
    cases base with
    | table below =>
      refine find?_overlayMembers_of_forall fun m hm old sources => ?_
      -- the section has no such name in it, and other keys lead elsewhere
      by_cases htitle : m.1 = title
      · have hlookup : members.lookup title = some m.2 := by
          cases ho with
          | plain ho => cases ho
          | table hkeys => exact htitle ▸ Toml.lookup_of_mem hkeys.nodup hm
        have hbelow : m.2.below? name = none := by
          rw [Tree.at?, Tree.below?, hlookup, Option.bind_some] at hv
          simpa [Tree.at?] using hv
        rw [htitle]
        cases hvalue : m.2 with
        | table inner =>
          rw [hvalue] at hbelow
          have hnames : ∀ e ∈ inner, ¬ Covers (joinPath title e.1) (joinPath title name) :=
            fun e he => h.not_covers_section (Toml.lookup_eq_none_iff.mp hbelow e he)
          cases old with
          | none => exact find?_recordMembers_of_not_covers hnames sources
          | some old =>
            cases old with
            | table fields => exact find?_overlayMembers_of_not_covers hnames fields sources
            | _ => exact hsection sources
        | _ => cases old <;> exact hsection sources
      · apply find?_recordAt_of_not_covers
        refine h.not_covers_root ?_ ?_ htitle
        · intro he
          exact Toml.lookup_eq_none_iff.mp hempty m hm he
        · intro he
          exact Toml.lookup_eq_none_iff.mp hpath m hm he
    | _ => exact Sources.find?_set.trans (if_neg hne)
  | _ => cases hroot

end

end Credentials.Config
