import Credentials.Config.Loading
import Credentials.Proofs.Members
import Credentials.Proofs.Overlays

/-! The fields of a configuration one by one. A field has the value that stands at its keys in the
tree that the configuration was taken from, and its default where nothing stands there. -/

namespace Credentials

open Toml (Members Tree)

namespace Decoding

variable {δ α β : Type} {shape : Shape δ α} {key k : String} {get : δ → Option β}
  {Reads : Node → β → Prop} {members : List (String × Node)} {s s' : δ} {a : α}

theorem path_ok_iff {node : Node} {t : String} : path node = .ok t ↔ node = .text t := by
  cases node <;> simp [path]

theorem integer_of_natural64 {node : Node} {n : UInt64} (h : natural64 node = .ok n) :
    node = .integer n.toNat := by
  cases node with
  | integer m =>
    rw [natural64] at h
    split at h
    · cases h
    · next hm =>
      split at h
      · next hsize =>
        obtain rfl := Except.ok.inj h
        rw [UInt64.toNat_ofNat', Nat.mod_eq_of_lt hsize, Int.toNat_of_nonneg (not_lt.mp hm)]
      · cases h
  | _ => cases h

theorem sequence_of_texts {node : Node} {ts : List String} (h : sequence text node = .ok ts) :
    node = .sequence (ts.map .text) true := by
  have hitems : ∀ (items : List Node) (ts : List String), items.mapM text = .ok ts →
      items = ts.map .text := by
    intro items
    induction items with
    | nil =>
      rintro ts ⟨⟩
      rfl
    | cons item items ih =>
      intro ts h
      simp only [List.mapM_cons, bind_ok_iff, text_ok_iff] at h
      obtain ⟨t, rfl, ts', hts, h⟩ := h
      cases h
      rw [ih ts' hts, List.map_cons]
  cases node with
  | sequence items closed =>
    obtain ⟨ts', hts, h⟩ := bind_ok_iff.mp h
    cases closed with
    | false => cases h
    | true =>
      obtain rfl := Except.ok.inj h
      rw [hitems items ts' hts]
  | _ => cases h

/-- A key of a structure that sets a slot once, and is the only one that does. -/
structure Shape.Slot (shape : Shape δ α) (key : String) (get : δ → Option β)
    (Reads : Node → β → Prop) : Prop where
  start : get shape.start = none
  own : ∀ {s s' : δ} {node : Node}, shape.member s key node = .ok s' →
    get s = none ∧ ∃ b, get s' = some b ∧ Reads node b
  other : ∀ {s s' : δ} {k : String} {node : Node}, k ≠ key → shape.member s k node = .ok s' →
    get s' = get s

namespace Shape.Slot

theorem lookup_of_some (h : shape.Slot key get Reads) (hs : members.foldlM shape.take s = .ok s')
    {b : β} (hb : get s = some b) : get s' = some b ∧ members.lookup key = none := by
  induction members generalizing s with
  | nil =>
    cases hs
    exact ⟨hb, rfl⟩
  | cons m rest ih =>
    obtain ⟨k, node⟩ := m
    rw [List.foldlM_cons] at hs
    obtain ⟨s₁, h₁, hrest⟩ := bind_ok_iff.mp hs
    rw [take_ok_iff] at h₁
    rw [Toml.lookup_cons_eq]
    by_cases hk : key = k
    · subst hk
      rw [(h.own h₁).1] at hb
      cases hb
    · rw [if_neg hk]
      exact ih hrest ((h.other (Ne.symm hk) h₁).trans hb)

theorem lookup_of_none (h : shape.Slot key get Reads) (hs : members.foldlM shape.take s = .ok s')
    (hnone : get s = none) : Option.Rel Reads (members.lookup key) (get s') := by
  induction members generalizing s with
  | nil =>
    cases hs
    rw [hnone]
    exact .none
  | cons m rest ih =>
    obtain ⟨k, node⟩ := m
    rw [List.foldlM_cons] at hs
    obtain ⟨s₁, h₁, hrest⟩ := bind_ok_iff.mp hs
    rw [take_ok_iff] at h₁
    rw [Toml.lookup_cons_eq]
    by_cases hk : key = k
    · subst hk
      obtain ⟨-, b, hb, hreads⟩ := h.own h₁
      rw [if_pos rfl, (h.lookup_of_some hrest hb).1]
      exact .some hreads
    · rw [if_neg hk]
      exact ih hrest ((h.other (Ne.symm hk) h₁).trans hnone)

theorem of_decode (h : shape.Slot key get Reads) (hd : shape.decode (.map members true) = .ok a) :
    ∃ s, shape.finish s = .ok a ∧ Option.Rel Reads (members.lookup key) (get s) := by
  obtain ⟨s, hs, hfinish⟩ := decode_map_ok_iff.mp hd
  exact ⟨s, hfinish, h.lookup_of_none hs h.start⟩

end Shape.Slot

end Decoding

namespace Config

open Decoding (Node Shape integer_of_natural64 once_ok_iff path_ok_iff sequence_of_texts
  text_ok_iff)

section
variable {key : String} {node : Node}

theorem StoreSection.member_cases {s s' : StoreSection.Fields}
    (h : StoreSection.shape.member s key node = .ok s') :
    (key = "path" ∧ s.path = none ∧ ∃ t, node = .text t ∧ s' = { s with path := some t }) ∨
    (key = "lock_timeout_ms" ∧ s.lockTimeoutMillis = none ∧
      ∃ n : UInt64, node = .integer n.toNat ∧ s' = { s with lockTimeoutMillis := some n }) ∨
    (key ≠ "path" ∧ key ≠ "lock_timeout_ms" ∧ s' = s) := by
  simp only [StoreSection.shape] at h
  split at h
  · obtain ⟨o, ho, h⟩ := bind_ok_iff.mp h
    obtain ⟨hfree, t, ht, rfl⟩ := once_ok_iff.mp ho
    exact .inl ⟨rfl, hfree, t, path_ok_iff.mp ht, (Except.ok.inj h).symm⟩
  · obtain ⟨o, ho, h⟩ := bind_ok_iff.mp h
    obtain ⟨hfree, n, hn, rfl⟩ := once_ok_iff.mp ho
    exact .inr (.inl ⟨rfl, hfree, n, integer_of_natural64 hn, (Except.ok.inj h).symm⟩)
  · next hpath htimeout =>
    exact .inr (.inr ⟨hpath, htimeout, (Decoding.skip_ok_iff.mp h).2⟩)

theorem StoreSection.slot_path :
    StoreSection.shape.Slot "path" (·.path) fun node t => node = .text t where
  start := rfl
  own h := by grind [member_cases h]
  other hk h := by grind [member_cases h]

theorem StoreSection.slot_lockTimeout : StoreSection.shape.Slot "lock_timeout_ms"
    (·.lockTimeoutMillis) fun node n => node = .integer n.toNat where
  start := rfl
  own h := by grind [member_cases h]
  other hk h := by grind [member_cases h]

theorem AuthSection.member_cases {s s' : AuthSection.Fields}
    (h : AuthSection.shape.member s key node = .ok s') :
    (key = "pairing_ttl_secs" ∧ s.pairingLifeSeconds = none ∧
      ∃ n : UInt64, node = .integer n.toNat ∧ s' = { s with pairingLifeSeconds := some n }) ∨
    (key = "mnemonic_language" ∧ s.language = none ∧
      ∃ t, node = .text t ∧ s' = { s with language := some t }) ∨
    (key ≠ "pairing_ttl_secs" ∧ key ≠ "mnemonic_language" ∧ s' = s) := by
  simp only [AuthSection.shape] at h
  split at h
  · obtain ⟨o, ho, h⟩ := bind_ok_iff.mp h
    obtain ⟨hfree, n, hn, rfl⟩ := once_ok_iff.mp ho
    exact .inl ⟨rfl, hfree, n, integer_of_natural64 hn, (Except.ok.inj h).symm⟩
  · obtain ⟨o, ho, h⟩ := bind_ok_iff.mp h
    obtain ⟨hfree, t, ht, rfl⟩ := once_ok_iff.mp ho
    exact .inr (.inl ⟨rfl, hfree, t, text_ok_iff.mp ht, (Except.ok.inj h).symm⟩)
  · next hlife hlanguage =>
    exact .inr (.inr ⟨hlife, hlanguage, (Decoding.skip_ok_iff.mp h).2⟩)

theorem AuthSection.slot_pairingLife : AuthSection.shape.Slot "pairing_ttl_secs"
    (·.pairingLifeSeconds) fun node n => node = .integer n.toNat where
  start := rfl
  own h := by grind [member_cases h]
  other hk h := by grind [member_cases h]

theorem AuthSection.slot_language :
    AuthSection.shape.Slot "mnemonic_language" (·.language) fun node t => node = .text t where
  start := rfl
  own h := by grind [member_cases h]
  other hk h := by grind [member_cases h]

theorem LoggingSection.member_cases {s s' : LoggingSection.Fields}
    (h : LoggingSection.shape.member s key node = .ok s') :
    (key = "level" ∧ s.level = none ∧
      ∃ t, node = .text t ∧ s' = { s with level := some t }) ∨
    (key = "format" ∧ s.format = none ∧ ∃ t, node = .text t ∧ s' = { s with format := some t }) ∨
    (key = "directives" ∧ s.directives = none ∧
      ∃ ts : List String, node = .sequence (ts.map .text) true ∧
        s' = { s with directives := some ts }) ∨
    (key ≠ "level" ∧ key ≠ "format" ∧ key ≠ "directives" ∧ s' = s) := by
  simp only [LoggingSection.shape] at h
  split at h
  · obtain ⟨o, ho, h⟩ := bind_ok_iff.mp h
    obtain ⟨hfree, t, ht, rfl⟩ := once_ok_iff.mp ho
    exact .inl ⟨rfl, hfree, t, text_ok_iff.mp ht, (Except.ok.inj h).symm⟩
  · obtain ⟨o, ho, h⟩ := bind_ok_iff.mp h
    obtain ⟨hfree, t, ht, rfl⟩ := once_ok_iff.mp ho
    exact .inr (.inl ⟨rfl, hfree, t, text_ok_iff.mp ht, (Except.ok.inj h).symm⟩)
  · obtain ⟨o, ho, h⟩ := bind_ok_iff.mp h
    obtain ⟨hfree, ts, hts, rfl⟩ := once_ok_iff.mp ho
    exact .inr (.inr (.inl ⟨rfl, hfree, ts, sequence_of_texts hts, (Except.ok.inj h).symm⟩))
  · next hlevel hformat hdirectives =>
    exact .inr (.inr (.inr ⟨hlevel, hformat, hdirectives, (Decoding.skip_ok_iff.mp h).2⟩))

theorem LoggingSection.slot_level :
    LoggingSection.shape.Slot "level" (·.level) fun node t => node = .text t where
  start := rfl
  own h := by grind [member_cases h]
  other hk h := by grind [member_cases h]

theorem LoggingSection.slot_format :
    LoggingSection.shape.Slot "format" (·.format) fun node t => node = .text t where
  start := rfl
  own h := by grind [member_cases h]
  other hk h := by grind [member_cases h]

theorem LoggingSection.slot_directives : LoggingSection.shape.Slot "directives" (·.directives)
    fun node ts => node = .sequence (ts.map .text) true where
  start := rfl
  own h := by grind [member_cases h]
  other hk h := by grind [member_cases h]

theorem member_cases {s s' : Fields} (h : shape.member s key node = .ok s') :
    (key = "store" ∧ s.store = none ∧
      ∃ x, StoreSection.shape.decode node = .ok x ∧ s' = { s with store := some x }) ∨
    (key = "auth" ∧ s.auth = none ∧
      ∃ x, AuthSection.shape.decode node = .ok x ∧ s' = { s with auth := some x }) ∨
    (key = "logging" ∧ s.logging = none ∧
      ∃ x, LoggingSection.shape.decode node = .ok x ∧ s' = { s with logging := some x }) ∨
    (key ≠ "store" ∧ key ≠ "auth" ∧ key ≠ "logging" ∧ s' = s) := by
  simp only [shape] at h
  split at h
  · obtain ⟨o, ho, h⟩ := bind_ok_iff.mp h
    obtain ⟨hfree, x, hx, rfl⟩ := once_ok_iff.mp ho
    exact .inl ⟨rfl, hfree, x, hx, (Except.ok.inj h).symm⟩
  · obtain ⟨o, ho, h⟩ := bind_ok_iff.mp h
    obtain ⟨hfree, x, hx, rfl⟩ := once_ok_iff.mp ho
    exact .inr (.inl ⟨rfl, hfree, x, hx, (Except.ok.inj h).symm⟩)
  · obtain ⟨o, ho, h⟩ := bind_ok_iff.mp h
    obtain ⟨hfree, x, hx, rfl⟩ := once_ok_iff.mp ho
    exact .inr (.inr (.inl ⟨rfl, hfree, x, hx, (Except.ok.inj h).symm⟩))
  · next hstore hauth hlogging =>
    exact .inr (.inr (.inr ⟨hstore, hauth, hlogging, (Decoding.skip_ok_iff.mp h).2⟩))

theorem slot_store : shape.Slot "store" (·.store)
    fun node x => StoreSection.shape.decode node = .ok x where
  start := rfl
  own h := by grind [member_cases h]
  other hk h := by grind [member_cases h]

theorem slot_auth : shape.Slot "auth" (·.auth)
    fun node x => AuthSection.shape.decode node = .ok x where
  start := rfl
  own h := by grind [member_cases h]
  other hk h := by grind [member_cases h]

theorem slot_logging : shape.Slot "logging" (·.logging)
    fun node x => LoggingSection.shape.decode node = .ok x where
  start := rfl
  own h := by grind [member_cases h]
  other hk h := by grind [member_cases h]

end

inductive Field where
  | storePath
  | lockTimeout
  | pairingLife
  | language
  | level
  | format
  | directives
  deriving DecidableEq, Repr

namespace Field

def title : Field → String
  | storePath | lockTimeout => "store"
  | pairingLife | language => "auth"
  | level | format | directives => "logging"

def name : Field → String
  | storePath => "path"
  | lockTimeout => "lock_timeout_ms"
  | pairingLife => "pairing_ttl_secs"
  | language => "mnemonic_language"
  | level => "level"
  | format => "format"
  | directives => "directives"

def keys (f : Field) : List String := [f.title, f.name]

def node (c : Config) : Field → Node
  | storePath => .text c.store.path
  | lockTimeout => .integer c.store.lockTimeoutMillis.toNat
  | pairingLife => .integer c.auth.pairingLifeSeconds.toNat
  | language => .text c.auth.language
  | level => .text c.logging.level
  | format => .text c.logging.format
  | directives => .sequence (c.logging.directives.map .text) true

end Field

section
variable {δ α β : Type} {shape : Shape δ α} {name : String} {get : δ → Option β} {a : α}
  {encode : β → Node} {v tree : Tree} {members : Members} {c : Config}

theorem lookup_memberNodes (members : Members) (key : String) :
    (Tree.memberNodes members).lookup key = (members.lookup key).map Tree.toNode := by
  induction members with
  | nil => rfl
  | cons m rest ih =>
    obtain ⟨k, v⟩ := m
    rw [Tree.memberNodes, Toml.lookup_cons_eq, Toml.lookup_cons_eq, ih]
    split <;> rfl

theorem exists_table_of_decode (hd : shape.decode v.toNode = .ok a)
    (harray : ∀ items, v ≠ .array items) : ∃ members, v = .table members := by
  cases v with
  | table members => exact ⟨members, rfl⟩
  | array items => exact absurd rfl (harray items)
  | _ => cases hd

theorem encode_of_decode {field : α → β} {d : β}
    (h : shape.Slot name get fun node b => node = encode b)
    (hfinish : ∀ {s : δ} {a : α}, shape.finish s = .ok a → field a = (get s).getD d)
    (hd : shape.decode (Tree.table members).toNode = .ok a) :
    encode (field a) = ((members.lookup name).map Tree.toNode).getD (encode d) := by
  obtain ⟨s, hs, hrel⟩ := h.of_decode hd
  rw [lookup_memberNodes] at hrel
  rw [hfinish hs]
  generalize (members.lookup name).map Tree.toNode = found at hrel ⊢
  generalize get s = slot at hrel ⊢
  cases hrel with
  | some hnode => exact hnode.symm
  | none => rfl

/-- A section of a tree: missing and at its default, or a table and read from it. -/
inductive ReadSection (tree : Tree) (title : String) (shape : Shape δ α) (d : α) : α → Prop
  | missing : tree.below? title = none → ReadSection tree title shape d d
  | table {inner : Members} {x : α} : tree.below? title = some (.table inner) →
      shape.decode (Tree.table inner).toNode = .ok x → ReadSection tree title shape d x

theorem section_of_decode {title : String} {get : Fields → Option α} (part : Config → α) (d : α)
    (h : Config.shape.Slot title get fun node x => shape.decode node = .ok x)
    (hfinish : ∀ {s : Fields} {c : Config}, Config.shape.finish s = .ok c → part c = (get s).getD d)
    (hd : decode (Tree.table members).toNode = .ok c)
    (harray : ∀ items, (Tree.table members).below? title ≠ some (.array items)) :
    ReadSection (.table members) title shape d (part c) := by
  obtain ⟨s, hs, hrel⟩ := h.of_decode hd
  rw [lookup_memberNodes] at hrel
  rw [hfinish hs]
  cases hv : members.lookup title with
  | none =>
    rw [hv, Option.map_none] at hrel
    generalize get s = slot at hrel ⊢
    cases hrel with
    | none => exact .missing hv
  | some v =>
    rw [hv, Option.map_some] at hrel
    generalize get s = slot at hrel ⊢
    cases hrel with
    | some hx =>
      obtain ⟨inner, rfl⟩ := exists_table_of_decode hx fun items he => harray items (he ▸ hv)
      exact .table hv hx

theorem ReadSection.isTable {title : String} {x d : α} (h : ReadSection tree title shape d x)
    (hv : tree.below? title = some v) : v.isTable = true := by
  cases h with
  | missing hnone =>
    rw [hnone] at hv
    cases hv
  | table hsome hd =>
    obtain rfl := Option.some.inj (hsome.symm.trans hv)
    rfl

theorem ReadSection.field {title : String} {x d : α} (hx : ReadSection tree title shape d x)
    (field : α → β) (h : shape.Slot name get fun node b => node = encode b)
    (hfinish : ∀ {s : δ} {a : α}, shape.finish s = .ok a → field a = (get s).getD (field d)) :
    encode (field x) = ((tree.at? [title, name]).map Tree.toNode).getD (encode (field d)) := by
  cases hx with
  | missing hnone => simp [Tree.at?, hnone]
  | table hsome hd =>
    rw [encode_of_decode h hfinish hd, Tree.at?, hsome]
    simp [Tree.at?, Tree.below?]

section
variable (hd : decode (Tree.table members).toNode = .ok c)
include hd

theorem read_store (harray : ∀ items, (Tree.table members).below? "store" ≠ some (.array items)) :
    ReadSection (.table members) "store" StoreSection.shape {} c.store :=
  section_of_decode (·.store) {} slot_store (by rintro s c ⟨⟩; rfl) hd harray

theorem read_auth (harray : ∀ items, (Tree.table members).below? "auth" ≠ some (.array items)) :
    ReadSection (.table members) "auth" AuthSection.shape {} c.auth :=
  section_of_decode (·.auth) {} slot_auth (by rintro s c ⟨⟩; rfl) hd harray

theorem read_logging
    (harray : ∀ items, (Tree.table members).below? "logging" ≠ some (.array items)) :
    ReadSection (.table members) "logging" LoggingSection.shape {} c.logging :=
  section_of_decode (·.logging) {} slot_logging (by rintro s c ⟨⟩; rfl) hd harray

variable (f : Field) (harray : ∀ items, (Tree.table members).below? f.title ≠ some (.array items))
include harray

/-- A configuration is read from a tree whose sections are tables. -/
theorem Field.isTable_of_decode (hv : (Tree.table members).below? f.title = some v) :
    v.isTable = true := by
  cases f with
  | storePath | lockTimeout => exact (read_store hd harray).isTable hv
  | pairingLife | language => exact (read_auth hd harray).isTable hv
  | level | format | directives => exact (read_logging hd harray).isTable hv

/-- A field has the value that the tree has at its keys, and its default where it has none. -/
theorem Field.node_of_decode : f.node c =
    (((Tree.table members).at? f.keys).map Tree.toNode).getD (f.node {}) := by
  cases f with
  | storePath =>
    exact (read_store hd harray).field (·.path) StoreSection.slot_path (by rintro s a ⟨⟩; rfl)
  | lockTimeout =>
    exact (read_store hd harray).field (·.lockTimeoutMillis) StoreSection.slot_lockTimeout
      (by rintro s a ⟨⟩; rfl)
  | pairingLife =>
    exact (read_auth hd harray).field (·.pairingLifeSeconds) AuthSection.slot_pairingLife
      (by rintro s a ⟨⟩; rfl)
  | language =>
    exact (read_auth hd harray).field (·.language) AuthSection.slot_language
      (by rintro s a ⟨⟩; rfl)
  | level =>
    exact (read_logging hd harray).field (·.level) LoggingSection.slot_level
      (by rintro s a ⟨⟩; rfl)
  | format =>
    exact (read_logging hd harray).field (·.format) LoggingSection.slot_format
      (by rintro s a ⟨⟩; rfl)
  | directives =>
    exact (read_logging hd harray).field (·.directives) LoggingSection.slot_directives
      (by rintro s a ⟨⟩; rfl)

end

end

end Config

end Credentials
