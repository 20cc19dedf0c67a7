import Credentials.Proofs.ConfigFields
import Credentials.Proofs.MergedTrees

/-! The defaults are kept twice: as what a structure has for a key that is missing, and as a tree
that every layer is laid over. It makes no difference to a configuration which of them it is filled
up from. -/

namespace Credentials

open Decoding (Node Shape)
open Toml (Members Tree)

namespace Toml.Tree

mutual

theorem isWhole_toNode (t : Tree) : t.toNode.isWhole = true := by
  cases t with
  | array items =>
    rw [toNode, Node.isWhole, areWhole_toNodes items]
    rfl
  | table members =>
    rw [toNode, Node.isWhole, membersAreWhole_memberNodes members]
    rfl
  | _ => rfl

theorem areWhole_toNodes (items : List Tree) : Node.areWhole (toNodes items) = true := by
  cases items with
  | nil => rfl
  | cons t items =>
    rw [toNodes, Node.areWhole, isWhole_toNode t, areWhole_toNodes items]
    rfl

theorem membersAreWhole_memberNodes (members : Members) :
    Node.membersAreWhole (memberNodes members) = true := by
  cases members with
  | nil => rfl
  | cons m members =>
    obtain ⟨key, t⟩ := m
    rw [memberNodes, Node.membersAreWhole, isWhole_toNode t, membersAreWhole_memberNodes members]
    rfl

end

theorem mem_memberNodes {m : String × Node} {members : Members} (h : m ∈ memberNodes members) :
    m.2.isWhole = true := by
  induction members with
  | nil => cases h
  | cons n members ih =>
    obtain ⟨key, t⟩ := n
    rcases List.mem_cons.mp h with rfl | h
    · exact isWhole_toNode t
    · exact ih h

theorem keys_memberNodes (members : Members) :
    (memberNodes members).map (·.1) = members.map (·.1) := by
  induction members with
  | nil => rfl
  | cons m members ih =>
    rw [memberNodes, List.map_cons, List.map_cons, ih]

end Toml.Tree

namespace Decoding

variable {δ α : Type} {shape : Shape δ α} {a : α} {below members : Members}

/-- A key of a structure: the slot that it sets while the structure is read, the field that this
becomes in the end, and what the field is where the key is missing. -/
structure Shape.Entry (shape : Shape δ α) where
  {β : Type}
  key : String
  get : δ → Option β
  field : α → β
  default : β
  Reads : Node → β → Prop
  slot : shape.Slot key get Reads
  finish : ∀ {s : δ} {a : α}, shape.finish s = .ok a → field a = (get s).getD default
  unique : ∀ {node : Node} {b c : β}, Reads node b → Reads node c → b = c

/-- Whether a field is what was found for its key, or its default if nothing was. -/
def Shape.Entry.ReadsFrom (e : shape.Entry) (found : Option Node) (a : α) : Prop :=
  match found with
  | none => e.field a = e.default
  | some node => e.Reads node (e.field a)

theorem Shape.Entry.readsFrom_of_decode (e : shape.Entry)
    (hd : shape.decode (Tree.table members).toNode = .ok a) :
    e.ReadsFrom ((members.lookup e.key).map Tree.toNode) a := by
  obtain ⟨s, hfinish, hrel⟩ := e.slot.of_decode hd
  rw [Config.lookup_memberNodes] at hrel
  rw [ReadsFrom.eq_def, e.finish hfinish]
  generalize (members.lookup e.key).map Tree.toNode = found at hrel ⊢
  generalize e.get s = slot at hrel ⊢
  cases hrel with
  | none => rfl
  | some hreads => exact hreads

/-- A structure that has no other keys than these, none of which has to be there. -/
structure Shape.Complete (shape : Shape δ α) (entries : List shape.Entry) : Prop where
  member : ∀ {s : δ} {key : String} {node : Node}, node.isWhole = true →
    (∀ e ∈ entries, e.key = key → e.get s = none ∧ ∃ b, e.Reads node b) →
      ∃ s', shape.member s key node = .ok s'
  finish : ∀ s, ∃ a, shape.finish s = .ok a
  ext : ∀ {a b : α}, (∀ e ∈ entries, e.field a = e.field b) → a = b

namespace Shape.Complete

variable {entries : List shape.Entry} (h : shape.Complete entries)
include h

theorem exists_foldlM {members : List (String × Node)} {s : δ}
    (hkeys : (members.map (·.1)).Nodup)
    (hread : ∀ m ∈ members, m.2.isWhole = true ∧ ∀ e ∈ entries, e.key = m.1 → ∃ b, e.Reads m.2 b)
    (hfree : ∀ m ∈ members, ∀ e ∈ entries, e.key = m.1 → e.get s = none) :
    ∃ s', members.foldlM shape.take s = .ok s' := by
  induction members generalizing s with
  | nil => exact ⟨s, rfl⟩
  | cons m members ih =>
    obtain ⟨hm, hkeys⟩ := List.nodup_cons.mp hkeys
    obtain ⟨⟨hwhole, hfits⟩, hread⟩ := List.forall_mem_cons.mp hread
    obtain ⟨hslot, hfree⟩ := List.forall_mem_cons.mp hfree
    obtain ⟨s₁, hs₁⟩ := h.member hwhole fun e he hk => ⟨hslot e he hk, hfits e he hk⟩
    -- the slots of the keys to come are still empty
    have hlater : ∀ n ∈ members, ∀ e ∈ entries, e.key = n.1 → e.get s₁ = none := by
      intro n hn e he hk
      have hne : m.1 ≠ e.key := fun heq => hm (List.mem_map.mpr ⟨n, hn, (heq.trans hk).symm⟩)
      exact (e.slot.other hne hs₁).trans (hfree n hn e he hk)
    obtain ⟨s', hs'⟩ := ih hkeys hread hlater
    refine ⟨s', ?_⟩
    rw [List.foldlM_cons, bind_ok_iff]
    exact ⟨s₁, take_ok_iff.mpr hs₁, hs'⟩

theorem decode_table_iff (hm : members.Ordered) :
    shape.decode (Tree.table members).toNode = .ok a ↔
      ∀ e ∈ entries, e.ReadsFrom ((members.lookup e.key).map Tree.toNode) a := by
  constructor
  · exact fun hd e _ => e.readsFrom_of_decode hd
  · intro hall
    have hkeys : ((Tree.memberNodes members).map (·.1)).Nodup := by
      rw [Tree.keys_memberNodes]
      exact hm.nodup
    have hread : ∀ m ∈ Tree.memberNodes members, m.2.isWhole = true ∧
        ∀ e ∈ entries, e.key = m.1 → ∃ b, e.Reads m.2 b := by
      refine fun m hmem => ⟨Tree.mem_memberNodes hmem, fun e he hk => ⟨e.field a, ?_⟩⟩
      have hfield := hall e he
      rwa [← Config.lookup_memberNodes, hk, Toml.lookup_of_mem hkeys hmem] at hfield
    obtain ⟨s, hs⟩ := h.exists_foldlM hkeys hread fun _ _ e _ _ => e.slot.start
    obtain ⟨a', ha'⟩ := h.finish s
    have hd : shape.decode (Tree.table members).toNode = .ok a' :=
      decode_map_ok_iff.mpr ⟨s, hs, ha'⟩
    -- what was read is the structure in question, since each field is read from the same node
    have hsame : a' = a := by
      refine h.ext fun e he => ?_
      have hread := e.readsFrom_of_decode hd
      have hfield := hall e he
      cases hfound : (members.lookup e.key).map Tree.toNode with
      | none =>
        rw [hfound] at hread hfield
        exact Eq.trans hread (Eq.symm hfield)
      | some node =>
        rw [hfound] at hread hfield
        exact e.unique hread hfield
    exact hsame ▸ hd

/-- A tree that has the default of every field can be laid under what a structure is read from. -/
theorem decode_merge_iff (hb : below.Ordered)
    (hdefault : ∀ e ∈ entries, ∃ old, below.lookup e.key = some old ∧ e.Reads old.toNode e.default ∧
      ∀ v : Tree, v.Ordered → ∀ b, e.Reads (Config.merge old v).toNode b ↔ e.Reads v.toNode b)
    {v : Tree} (hv : v.Ordered) :
    shape.decode (Config.merge (.table below) v).toNode = .ok a ↔
      shape.decode v.toNode = .ok a := by
  cases v with
  | table members =>
    cases hv with
    | plain hplain => cases hplain
    | table hm hvalues =>
      rw [Config.merge_tables, h.decode_table_iff (Config.ordered_overlayMembers hb),
        h.decode_table_iff hm]
      refine forall₂_congr fun e he => ?_
      obtain ⟨old, hold, hdefault, hmerge⟩ := hdefault e he
      rw [Config.overlayMembers_lookup hm.nodup, hold]
      cases hlookup : members.lookup e.key with
      | none =>
        constructor
        · exact fun hread => e.unique hread hdefault
        · intro hsame
          change e.Reads old.toNode (e.field a)
          rw [show e.field a = e.default from hsame]
          exact hdefault
      | some w => exact hmerge w (hvalues _ (Toml.mem_of_lookup hlookup)) (e.field a)
  | _ => rw [Config.merge_of_not_table rfl]

theorem decode_merge_leaves (hb : below.Ordered)
    (hdefault : ∀ e ∈ entries, ∃ old, below.lookup e.key = some old ∧ old.isTable = false ∧
      e.Reads old.toNode e.default) {v : Tree} (hv : v.Ordered) (a : α) :
    shape.decode (Config.merge (.table below) v).toNode = .ok a ↔
      shape.decode v.toNode = .ok a := by
  refine h.decode_merge_iff hb (fun e he => ?_) hv
  obtain ⟨old, hold, hleaf, hreads⟩ := hdefault e he
  refine ⟨old, hold, hreads, fun w _ b => ?_⟩
  rw [Config.merge_of_base_not_table hleaf]

end Shape.Complete

theorem natural64_toNat (n : UInt64) : natural64 (.integer n.toNat) = .ok n := by
  have hn : n.toNat < UInt64.size := n.toNat_lt
  have h0 : ¬ (n.toNat : Int) < 0 := by omega
  simp [natural64, hn, h0]

theorem sequence_texts (ts : List String) :
    sequence text (.sequence (ts.map .text) true) = .ok ts := by
  have hitems : (ts.map Node.text).mapM text = .ok ts := by
    induction ts with
    | nil => rfl
    | cons t ts ih => simp [ih, text, bind, Except.bind, pure, Except.pure]
  rw [sequence, hitems]
  rfl

end Decoding

namespace Config

open Decoding (natural64_toNat once sequence_texts)

theorem toOption_congr {ε α : Type} {x y : Except ε α} (h : ∀ a, x = .ok a ↔ y = .ok a) :
    x.toOption = y.toOption := by
  cases x with
  | ok a => rw [(h a).mp rfl]
  | error =>
    cases y with
    | ok b => cases (h b).mpr rfl
    | error => rfl

theorem text_unique {node : Node} {s t : String} (hs : node = .text s) (ht : node = .text t) :
    s = t := Node.text.inj (hs.symm.trans ht)

theorem natural_unique {node : Node} {m n : UInt64} (hm : node = .integer m.toNat)
    (hn : node = .integer n.toNat) : m = n :=
  UInt64.toNat_inj.mp (Int.ofNat.inj (Node.integer.inj (hm.symm.trans hn)))

theorem texts_unique {node : Node} {ss ts : List String}
    (hs : node = .sequence (ss.map .text) true) (ht : node = .sequence (ts.map .text) true) :
    ss = ts := by
  have hmap := (Node.sequence.inj (hs.symm.trans ht)).1
  exact List.map_injective_iff.mpr (fun _ _ => Node.text.inj) hmap

theorem decoded_unique {α : Type} {decode : Decoding.Decode α} {node : Node} {a b : α}
    (ha : decode node = .ok a) (hb : decode node = .ok b) : a = b :=
  Except.ok.inj (ha.symm.trans hb)

def StoreSection.entries : List StoreSection.shape.Entry :=
  [⟨"path", (·.path), (·.path), "/var/lib/hearth/tokens.json", _, slot_path,
      by rintro s a ⟨⟩; rfl, text_unique⟩,
    ⟨"lock_timeout_ms", (·.lockTimeoutMillis), (·.lockTimeoutMillis), 10000, _, slot_lockTimeout,
      by rintro s a ⟨⟩; rfl, natural_unique⟩]

theorem StoreSection.complete : StoreSection.shape.Complete entries where
  member {s key node} hwhole h := by
    simp only [entries, List.forall_mem_cons, List.not_mem_nil, false_implies, implies_true] at h
    obtain ⟨hpath, htimeout, -⟩ := h
    simp only [StoreSection.shape]
    split
    · obtain ⟨hfree, t, rfl⟩ := hpath rfl
      exact ⟨_, by rw [hfree]; rfl⟩
    · obtain ⟨hfree, n, rfl⟩ := htimeout rfl
      exact ⟨_, by rw [hfree, once, natural64_toNat]; rfl⟩
    · exact ⟨s, if_pos hwhole⟩
  finish s := ⟨_, rfl⟩
  ext {a b} h := by
    simp only [entries, List.forall_mem_cons, List.not_mem_nil, false_implies, implies_true] at h
    obtain ⟨hpath, htimeout, -⟩ := h
    cases a
    cases b
    congr

def AuthSection.entries : List AuthSection.shape.Entry :=
  [⟨"pairing_ttl_secs", (·.pairingLifeSeconds), (·.pairingLifeSeconds), 600, _, slot_pairingLife,
      by rintro s a ⟨⟩; rfl, natural_unique⟩,
    ⟨"mnemonic_language", (·.language), (·.language), "english", _, slot_language,
      by rintro s a ⟨⟩; rfl, text_unique⟩]

theorem AuthSection.complete : AuthSection.shape.Complete entries where
  member {s key node} hwhole h := by
    simp only [entries, List.forall_mem_cons, List.not_mem_nil, false_implies, implies_true] at h
    obtain ⟨hlife, hlanguage, -⟩ := h
    simp only [AuthSection.shape]
    split
    · obtain ⟨hfree, n, rfl⟩ := hlife rfl
      exact ⟨_, by rw [hfree, once, natural64_toNat]; rfl⟩
    · obtain ⟨hfree, t, rfl⟩ := hlanguage rfl
      exact ⟨_, by rw [hfree]; rfl⟩
    · exact ⟨s, if_pos hwhole⟩
  finish s := ⟨_, rfl⟩
  ext {a b} h := by
    simp only [entries, List.forall_mem_cons, List.not_mem_nil, false_implies, implies_true] at h
    obtain ⟨hlife, hlanguage, -⟩ := h
    cases a
    cases b
    congr

def LoggingSection.entries : List LoggingSection.shape.Entry :=
  [⟨"level", (·.level), (·.level), "info", _, slot_level, by rintro s a ⟨⟩; rfl, text_unique⟩,
    ⟨"format", (·.format), (·.format), "compact", _, slot_format, by rintro s a ⟨⟩; rfl,
      text_unique⟩,
    ⟨"directives", (·.directives), (·.directives), [], _, slot_directives, by rintro s a ⟨⟩; rfl,
      texts_unique⟩]

theorem LoggingSection.complete : LoggingSection.shape.Complete entries where
  member {s key node} hwhole h := by
    simp only [entries, List.forall_mem_cons, List.not_mem_nil, false_implies, implies_true] at h
    obtain ⟨hlevel, hformat, hdirectives, -⟩ := h
    simp only [LoggingSection.shape]
    split
    · obtain ⟨hfree, t, rfl⟩ := hlevel rfl
      exact ⟨_, by rw [hfree]; rfl⟩
    · obtain ⟨hfree, t, rfl⟩ := hformat rfl
      exact ⟨_, by rw [hfree]; rfl⟩
    · obtain ⟨hfree, ts, rfl⟩ := hdirectives rfl
      exact ⟨_, by rw [hfree, once, sequence_texts]; rfl⟩
    · exact ⟨s, if_pos hwhole⟩
  finish s := ⟨_, rfl⟩
  ext {a b} h := by
    simp only [entries, List.forall_mem_cons, List.not_mem_nil, false_implies, implies_true] at h
    obtain ⟨hlevel, hformat, hdirectives, -⟩ := h
    cases a
    cases b
    congr

def entries : List shape.Entry :=
  [⟨"store", (·.store), (·.store), {}, _, slot_store, by rintro s a ⟨⟩; rfl, decoded_unique⟩,
    ⟨"auth", (·.auth), (·.auth), {}, _, slot_auth, by rintro s a ⟨⟩; rfl, decoded_unique⟩,
    ⟨"logging", (·.logging), (·.logging), {}, _, slot_logging, by rintro s a ⟨⟩; rfl,
      decoded_unique⟩]

theorem complete : shape.Complete entries where
  member {s key node} hwhole h := by
    simp only [entries, List.forall_mem_cons, List.not_mem_nil, false_implies, implies_true] at h
    obtain ⟨hstore, hauth, hlogging, -⟩ := h
    simp only [shape]
    split
    · obtain ⟨hfree, x, hx⟩ := hstore rfl
      exact ⟨_, by rw [hfree, once, hx]; rfl⟩
    · obtain ⟨hfree, x, hx⟩ := hauth rfl
      exact ⟨_, by rw [hfree, once, hx]; rfl⟩
    · obtain ⟨hfree, x, hx⟩ := hlogging rfl
      exact ⟨_, by rw [hfree, once, hx]; rfl⟩
    · exact ⟨s, if_pos hwhole⟩
  finish s := ⟨_, rfl⟩
  ext {a b} h := by
    simp only [entries, List.forall_mem_cons, List.not_mem_nil, false_implies, implies_true] at h
    obtain ⟨hstore, hauth, hlogging, -⟩ := h
    cases a
    cases b
    congr

def defaultMembers (title : String) : Members :=
  match defaultTree.below? title with
  | some (.table members) => members
  | _ => []

theorem ordered_defaultMembers :
    ∀ title ∈ ["auth", "logging", "store"], (defaultMembers title).Ordered := by
  simp only [Members.Ordered]
  decide

theorem StoreSection.reads_defaults : ∀ e ∈ entries, ∃ old,
    (defaultMembers "store").lookup e.key = some old ∧ old.isTable = false ∧
      e.Reads old.toNode e.default := by
  simp only [entries, List.forall_mem_cons]
  exact ⟨⟨_, rfl, rfl, rfl⟩, ⟨_, rfl, rfl, rfl⟩, List.forall_mem_nil _⟩

theorem AuthSection.reads_defaults : ∀ e ∈ entries, ∃ old,
    (defaultMembers "auth").lookup e.key = some old ∧ old.isTable = false ∧
      e.Reads old.toNode e.default := by
  simp only [entries, List.forall_mem_cons]
  exact ⟨⟨_, rfl, rfl, rfl⟩, ⟨_, rfl, rfl, rfl⟩, List.forall_mem_nil _⟩

theorem LoggingSection.reads_defaults : ∀ e ∈ entries, ∃ old,
    (defaultMembers "logging").lookup e.key = some old ∧ old.isTable = false ∧
      e.Reads old.toNode e.default := by
  simp only [entries, List.forall_mem_cons]
  exact ⟨⟨_, rfl, rfl, rfl⟩, ⟨_, rfl, rfl, rfl⟩, ⟨_, rfl, rfl, rfl⟩, List.forall_mem_nil _⟩

/-- A tree gives the same configuration when it is laid over the defaults as when it is read alone,
and gives none in the one way if it gives none in the other. -/
theorem decode_over_defaults {t : Tree} (ht : t.Ordered) (layer : Layer) (path : String)
    (sources : Sources) :
    (decode (overlay layer path defaultTree sources t).1.toNode).toOption =
      (decode t.toNode).toOption := by
  have hordered : Members.Ordered [("auth", .table (defaultMembers "auth")),
      ("logging", .table (defaultMembers "logging")),
      ("store", .table (defaultMembers "store"))] := by
    simp only [Members.Ordered]
    decide
  have hsame (c : Config) : decode (overlay layer path defaultTree sources t).1.toNode = .ok c ↔
      decode t.toNode = .ok c := by
    rw [overlay_fst]
    refine complete.decode_merge_iff hordered ?_ ht
    simp only [entries, List.forall_mem_cons]
    refine ⟨⟨_, rfl, rfl, fun v hv => ?_⟩, ⟨_, rfl, rfl, fun v hv => ?_⟩,
      ⟨_, rfl, rfl, fun v hv => ?_⟩, List.forall_mem_nil _⟩
    · exact StoreSection.complete.decode_merge_leaves (ordered_defaultMembers _ (by decide))
        StoreSection.reads_defaults hv
    · exact AuthSection.complete.decode_merge_leaves (ordered_defaultMembers _ (by decide))
        AuthSection.reads_defaults hv
    · exact LoggingSection.complete.decode_merge_leaves (ordered_defaultMembers _ (by decide))
        LoggingSection.reads_defaults hv
  exact toOption_congr hsame

/-- A section that is written as an array with the first of its fields only, one that is missing,
one that is empty and a key that nothing knows. -/
def partialTree : Tree :=
  .table [("auth", .table []), ("cache", .integer 4), ("store", .array [.text "/srv/tokens.json"])]

theorem ordered_partialTree : partialTree.Ordered := by
  refine .table (by simp only [Members.Ordered]; decide) ?_
  simp only [List.forall_mem_cons]
  refine ⟨.table List.Pairwise.nil (List.forall_mem_nil _), .plain rfl, .array ?_,
    List.forall_mem_nil _⟩
  exact List.forall_mem_singleton.mpr (.plain rfl)

theorem decode_over_defaults_partialTree :
    (decode (overlay .user "" defaultTree [] partialTree).1.toNode).toOption =
      some { store := { path := "/srv/tokens.json" } } :=
  (decode_over_defaults ordered_partialTree .user "" []).trans rfl

end Config

end Credentials
