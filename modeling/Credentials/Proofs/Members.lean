import Credentials.Proofs.DocumentText

/-! Structures whose keys each have a slot of their own. They take members in any order, pass over
the names they do not know, and leave nothing of a map unread. -/

namespace Credentials.Decoding

section
variable {α β : Type}

theorem once_ok_iff {name : String} {slot o : Option β} {decode : Decode β} {node : Node} :
    once name slot decode node = .ok o ↔ slot = none ∧ ∃ b, decode node = .ok b ∧ o = some b := by
  cases slot with
  | none => simp only [once, map_ok_iff, true_and]
  | some b => simp [once]

theorem text_ok_iff {node : Node} {t : String} : text node = .ok t ↔ node = .text t := by
  cases node <;> simp [text]

theorem skip_ok_iff {s s' : α} {node : Node} :
    skip s node = .ok s' ↔ node.isWhole = true ∧ s' = s := by
  rw [skip]
  split
  · next h => simp [h, eq_comm]
  · next h => simp [h]

/-- A value is only taken from a tree that is all there. -/
def Thorough (decode : Decode α) : Prop := ∀ {node : Node} {a : α}, decode node = .ok a →
  node.isWhole = true

theorem thorough_text : Thorough text := by
  intro node t h
  rw [text_ok_iff.mp h]
  rfl

theorem thorough_natural64 : Thorough natural64 := by
  intro node n h
  cases node with
  | integer => rfl
  | _ => cases h

theorem thorough_optional {decode : Decode α} (h : Thorough decode) : Thorough (optional decode) := by
  intro node o ho
  cases node with
  | null => rfl
  | _ =>
    obtain ⟨a, ha, -⟩ := map_ok_iff.mp ho
    exact h ha

theorem areWhole_of_mapM {decode : Decode α} (h : Thorough decode) {items : List Node} {as : List α}
    (hm : items.mapM decode = .ok as) : Node.areWhole items = true := by
  induction items generalizing as with
  | nil => rfl
  | cons item items ih =>
    simp only [List.mapM_cons, bind_ok_iff] at hm
    obtain ⟨a, ha, as', has, -⟩ := hm
    rw [Node.areWhole, h ha, ih has]
    rfl

theorem thorough_sequence {decode : Decode α} (h : Thorough decode) : Thorough (sequence decode) := by
  intro node as hs
  cases node with
  | sequence items closed =>
    obtain ⟨as', hm, hc⟩ := bind_ok_iff.mp hs
    cases closed with
    | false => cases hc
    | true => rw [Node.isWhole, areWhole_of_mapM h hm]; rfl
  | _ => cases hs

theorem sequence_ok_iff {decode : Decode α} {items : List Node} {as : List α} :
    sequence decode (.sequence items true) = .ok as ↔ items.mapM decode = .ok as := by
  rw [sequence, bind_ok_iff]
  simp [pure, Except.pure]

theorem sequence_replace {decode : Decode α} {before after : List Node} {node node' : Node}
    {as : List α} (hsame : ∀ a, decode node = .ok a → decode node' = .ok a)
    (hs : sequence decode (.sequence (before ++ node :: after) true) = .ok as) :
    sequence decode (.sequence (before ++ node' :: after) true) = .ok as := by
  rw [sequence_ok_iff, List.mapM_append, bind_ok_iff] at hs ⊢
  obtain ⟨as₁, h₁, hs⟩ := hs
  obtain ⟨as₂, h₂, hs⟩ := bind_ok_iff.mp hs
  rw [List.mapM_cons] at h₂
  obtain ⟨a, ha, h₂⟩ := bind_ok_iff.mp h₂
  refine ⟨as₁, h₁, bind_ok_iff.mpr ⟨as₂, ?_, hs⟩⟩
  rw [List.mapM_cons]
  exact bind_ok_iff.mpr ⟨a, hsame a ha, h₂⟩

theorem optional_replace {decode : Decode α} {members members' : List (String × Node)}
    {o : Option α}
    (hsame : ∀ a, decode (.map members true) = .ok a → decode (.map members' true) = .ok a)
    (ho : optional decode (.map members true) = .ok o) :
    optional decode (.map members' true) = .ok o := by
  obtain ⟨a, ha, rfl⟩ := map_ok_iff.mp ho
  exact map_ok_iff.mpr ⟨a, hsame a ha, rfl⟩

end

section
variable {δ α : Type}

/-- A key of a structure, and the slot for what stands there. -/
structure Shape.Key (shape : Shape δ α) where
  {β : Type}
  name : String
  decode : Decode β
  get : δ → Option β
  set : δ → Option β → δ

/-- A key for which null says no more than nothing does. -/
def Shape.Key.Nullable {shape : Shape δ α} (k : shape.Key) : Prop :=
  ∃ b, k.decode .null = .ok b ∧ ∀ s, k.get s = none → shape.finish (k.set s (some b)) = shape.finish s

/-- Two keys whose slots have nothing to do with each other. -/
@[mk_iff] structure Shape.Key.Apart {shape : Shape δ α} (k l : shape.Key) : Prop where
  get : ∀ (s : δ) (o : Option l.β), k.get (l.set s o) = k.get s
  get' : ∀ (s : δ) (o : Option k.β), l.get (k.set s o) = l.get s
  set : ∀ (s : δ) (o : Option k.β) (p : Option l.β), k.set (l.set s p) o = l.set (k.set s o) p

instance Shape.Key.symm_apart {shape : Shape δ α} : Std.Symm (@Shape.Key.Apart δ α shape) :=
  ⟨fun _ _ h => ⟨h.get', h.get, fun s o p => (h.set s p o).symm⟩⟩

/-- A structure has these keys and no others, and their slots are apart. -/
structure Shape.HasKeys (shape : Shape δ α) (keys : List shape.Key) : Prop where
  start : ∀ k ∈ keys, k.get shape.start = none
  known : ∀ k ∈ keys, ∀ (s : δ) (node : Node),
    shape.member s k.name node = (once k.name (k.get s) k.decode node).map (k.set s)
  unknown : ∀ {key : String}, key ∉ keys.map (·.name) → ∀ (s : δ) (node : Node),
    shape.member s key node = skip s node
  get_set : ∀ k ∈ keys, ∀ (s : δ) (o : Option k.β), k.get (k.set s o) = o
  apart : keys.Pairwise Shape.Key.Apart
  thorough : ∀ k ∈ keys, Thorough k.decode
  place : ∀ {s s' : δ} {i : Nat} {node : Node}, shape.place s i node = .ok s' → node.isWhole = true

namespace Shape.HasKeys

variable {shape : Shape δ α} {keys : List shape.Key} (h : shape.HasKeys keys) {k : shape.Key}
  {s s' s₁ s₂ : δ} {key : String} {node node' : Node} {m n : String × Node}
  {members members' : List (String × Node)} {a : α}
include h

theorem eq_or_apart {l : shape.Key} (hk : k ∈ keys) (hl : l ∈ keys) : k = l ∨ k.Apart l :=
  or_iff_not_imp_left.mpr (h.apart.forall hk hl)

theorem take_known_iff (hk : k ∈ keys) :
    shape.take s (k.name, node) = .ok s' ↔
      k.get s = none ∧ ∃ b, k.decode node = .ok b ∧ s' = k.set s (some b) := by
  rw [take_ok_iff, h.known k hk, map_ok_iff]
  constructor
  · rintro ⟨o, ho, rfl⟩
    obtain ⟨hfree, b, hb, rfl⟩ := once_ok_iff.mp ho
    exact ⟨hfree, b, hb, rfl⟩
  · rintro ⟨hfree, b, hb, rfl⟩
    exact ⟨_, once_ok_iff.mpr ⟨hfree, b, hb, rfl⟩, rfl⟩

theorem take_unknown_iff (hk : key ∉ keys.map (·.name)) :
    shape.take s (key, node) = .ok s' ↔ node.isWhole = true ∧ s' = s := by
  rw [take_ok_iff, h.unknown hk, skip_ok_iff]

theorem take_comm (h₁ : shape.take s m = .ok s₁) (h₂ : shape.take s₁ n = .ok s₂) :
    ∃ s₁', shape.take s n = .ok s₁' ∧ shape.take s₁' m = .ok s₂ := by
  obtain ⟨key, node⟩ := m
  obtain ⟨key', node'⟩ := n
  by_cases hm : key ∈ keys.map (·.name)
  · obtain ⟨k, hk, rfl⟩ := List.mem_map.mp hm
    obtain ⟨hfree, b, hb, rfl⟩ := (h.take_known_iff hk).mp h₁
    by_cases hn : key' ∈ keys.map (·.name)
    · obtain ⟨l, hl, rfl⟩ := List.mem_map.mp hn
      obtain ⟨hfree', c, hc, rfl⟩ := (h.take_known_iff hl).mp h₂
      -- a key cannot come twice
      obtain rfl | hapart := h.eq_or_apart hk hl
      · rw [h.get_set k hk] at hfree'
        cases hfree'
      rw [hapart.get'] at hfree'
      have hfree := (hapart.get s (some c)).trans hfree
      exact ⟨_, (h.take_known_iff hl).mpr ⟨hfree', c, hc, rfl⟩,
        (h.take_known_iff hk).mpr ⟨hfree, b, hb, (hapart.set s (some b) (some c)).symm⟩⟩
    · obtain ⟨hwhole, rfl⟩ := (h.take_unknown_iff hn).mp h₂
      exact ⟨s, (h.take_unknown_iff hn).mpr ⟨hwhole, rfl⟩, h₁⟩
  · obtain ⟨hwhole, rfl⟩ := (h.take_unknown_iff hm).mp h₁
    exact ⟨s₂, h₂, (h.take_unknown_iff hm).mpr ⟨hwhole, rfl⟩⟩

theorem foldlM_perm (hp : members.Perm members') (hs : members.foldlM shape.take s = .ok s') :
    members'.foldlM shape.take s = .ok s' := by
  induction hp generalizing s with
  | nil => exact hs
  | cons m _ ih =>
    obtain ⟨s₁, h₁, hs⟩ := bind_ok_iff.mp hs
    exact bind_ok_iff.mpr ⟨s₁, h₁, ih hs⟩
  | swap m n members =>
    obtain ⟨s₁, h₁, hs⟩ := bind_ok_iff.mp hs
    obtain ⟨s₂, h₂, hs⟩ := bind_ok_iff.mp hs
    obtain ⟨s₁', h₁', h₂'⟩ := h.take_comm h₁ h₂
    exact bind_ok_iff.mpr ⟨s₁', h₁', bind_ok_iff.mpr ⟨s₂, h₂', hs⟩⟩
  | trans _ _ ih₁ ih₂ => exact ih₂ (ih₁ hs)

theorem decode_perm (hp : members.Perm members') (hd : shape.decode (.map members true) = .ok a) :
    shape.decode (.map members' true) = .ok a := by
  obtain ⟨s, hs, ha⟩ := decode_map_ok_iff.mp hd
  exact decode_map_ok_iff.mpr ⟨s, h.foldlM_perm hp hs, ha⟩

/-- A name that a structure does not know makes no difference, with any whole value. -/
theorem decode_insert (hk : key ∉ keys.map (·.name)) (hw : node.isWhole = true)
    (hd : shape.decode (.map members true) = .ok a) :
    shape.decode (.map ((key, node) :: members) true) = .ok a := by
  obtain ⟨s, hs, ha⟩ := decode_map_ok_iff.mp hd
  have htake := (h.take_unknown_iff hk).mpr ⟨hw, @rfl _ shape.start⟩
  exact decode_map_ok_iff.mpr ⟨s, bind_ok_iff.mpr ⟨_, htake, hs⟩, ha⟩

/-- What stands at a key may be replaced by what is taken for the same. -/
theorem decode_replace (hk : k ∈ keys) (hsame : ∀ b, k.decode node = .ok b → k.decode node' = .ok b)
    (hd : shape.decode (.map ((k.name, node) :: members) true) = .ok a) :
    shape.decode (.map ((k.name, node') :: members) true) = .ok a := by
  obtain ⟨s, hs, ha⟩ := decode_map_ok_iff.mp hd
  obtain ⟨s₁, h₁, hs⟩ := bind_ok_iff.mp hs
  obtain ⟨hfree, b, hb, rfl⟩ := (h.take_known_iff hk).mp h₁
  have htake := (h.take_known_iff hk).mpr ⟨hfree, b, hsame b hb, rfl⟩
  exact decode_map_ok_iff.mpr ⟨s, bind_ok_iff.mpr ⟨_, htake, hs⟩, ha⟩

theorem get_foldlM (hk : k ∈ keys) (hmissing : k.name ∉ members.map (·.1))
    (hs : members.foldlM shape.take s = .ok s') : k.get s' = k.get s := by
  induction members generalizing s with
  | nil =>
    cases hs
    rfl
  | cons m members ih =>
    obtain ⟨key, node⟩ := m
    obtain ⟨s₁, h₁, hs⟩ := bind_ok_iff.mp hs
    obtain ⟨hne, hmissing⟩ := not_or.mp (List.mem_cons.not.mp hmissing)
    rw [ih hmissing hs]
    by_cases hm : key ∈ keys.map (·.name)
    · obtain ⟨l, hl, rfl⟩ := List.mem_map.mp hm
      obtain ⟨-, b, -, rfl⟩ := (h.take_known_iff hl).mp h₁
      obtain rfl | hapart := h.eq_or_apart hk hl
      · exact absurd rfl hne
      · exact hapart.get s (some b)
    · rw [((h.take_unknown_iff hm).mp h₁).2]

theorem decode_drop (hk : k ∈ keys) (hnull : k.Nullable)
    (hd : shape.decode (.map ((k.name, .null) :: members) true) = .ok a) :
    shape.decode (.map members true) = .ok a := by
  obtain ⟨s', hs, ha⟩ := decode_map_ok_iff.mp (h.decode_perm (List.perm_append_singleton _ _).symm hd)
  rw [List.foldlM_append, bind_ok_iff] at hs
  obtain ⟨s, hs, hlast⟩ := hs
  obtain ⟨s₁, h₁, hlast⟩ := bind_ok_iff.mp hlast
  cases hlast
  obtain ⟨hfree, b, hb, rfl⟩ := (h.take_known_iff hk).mp h₁
  obtain ⟨b', hb', hfinish⟩ := hnull
  obtain rfl : b' = b := Except.ok.inj (hb'.symm.trans hb)
  exact decode_map_ok_iff.mpr ⟨s, hs, (hfinish s hfree).symm.trans ha⟩

theorem decode_null (hk : k ∈ keys) (hnull : k.Nullable) (hmissing : k.name ∉ members.map (·.1))
    (hd : shape.decode (.map members true) = .ok a) :
    shape.decode (.map ((k.name, .null) :: members) true) = .ok a := by
  obtain ⟨s, hs, ha⟩ := decode_map_ok_iff.mp hd
  obtain ⟨b, hb, hfinish⟩ := hnull
  have hfree : k.get s = none := (h.get_foldlM hk hmissing hs).trans (h.start k hk)
  have hlast := (h.take_known_iff hk).mpr ⟨hfree, b, hb, rfl⟩
  have hfold : (members ++ [(k.name, Node.null)]).foldlM shape.take shape.start =
      .ok (k.set s (some b)) := by
    rw [List.foldlM_append, bind_ok_iff]
    exact ⟨s, hs, bind_ok_iff.mpr ⟨_, hlast, rfl⟩⟩
  exact h.decode_perm (List.perm_append_singleton _ _)
    (decode_map_ok_iff.mpr ⟨_, hfold, (hfinish s hfree).trans ha⟩)

theorem isWhole_of_take (ht : shape.take s m = .ok s') : m.2.isWhole = true := by
  obtain ⟨key, node⟩ := m
  by_cases hm : key ∈ keys.map (·.name)
  · obtain ⟨k, hk, rfl⟩ := List.mem_map.mp hm
    obtain ⟨-, b, hb, -⟩ := (h.take_known_iff hk).mp ht
    exact h.thorough k hk hb
  · exact ((h.take_unknown_iff hm).mp ht).1

theorem membersAreWhole_of_foldlM (hs : members.foldlM shape.take s = .ok s') :
    Node.membersAreWhole members = true := by
  induction members generalizing s with
  | nil => rfl
  | cons m members ih =>
    obtain ⟨s₁, h₁, hs⟩ := bind_ok_iff.mp hs
    rw [Node.membersAreWhole, h.isWhole_of_take h₁, ih hs]
    rfl

/-- Items past the places are left over. -/
theorem areWhole_of_places {left i : Nat} {items surplus : List Node}
    (hs : shape.places true left i items s = .ok (s', surplus)) (hall : surplus = []) :
    Node.areWhole items = true := by
  induction left generalizing i items s with
  | zero =>
    cases hs
    rw [hall]
    rfl
  | succ left ih =>
    cases items with
    | nil => rfl
    | cons item items =>
      obtain ⟨s₁, h₁, hs⟩ := bind_ok_iff.mp hs
      rw [Node.areWhole, h.place h₁, ih hs]
      rfl

theorem thorough_decode : Thorough shape.decode := by
  intro node a hd
  cases node with
  | map members closed =>
    cases closed with
    | false =>
      obtain ⟨s, -, hc⟩ := bind_ok_iff.mp hd
      cases hc
    | true =>
      obtain ⟨s, hs, -⟩ := decode_map_ok_iff.mp hd
      rw [Node.isWhole, h.membersAreWhole_of_foldlM hs]
      rfl
  | misnamed => rfl
  | sequence items closed =>
    obtain ⟨⟨s, surplus⟩, hs, hd⟩ := bind_ok_iff.mp hd
    obtain ⟨b, -, hd⟩ := bind_ok_iff.mp hd
    cases closed with
    | false => cases hd
    | true =>
      cases surplus with
      | nil => rw [Node.isWhole, h.areWhole_of_places hs rfl]; rfl
      | cons => cases hd
  | _ => cases hd

end Shape.HasKeys

end

end Credentials.Decoding
