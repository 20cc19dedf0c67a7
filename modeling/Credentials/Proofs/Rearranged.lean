import Credentials.Proofs.Members

/-! Documents whose text is arranged in another way: members in another order, members that nothing
knows, nulls written out or left out, other white space. All of it is read as the same document. -/

namespace Credentials

open Decoding
open Time (Instant)

theorem thorough_instant : Thorough Document.instant := by
  intro node t h
  obtain ⟨s, hs, -⟩ := bind_ok_iff.mp h
  exact thorough_text hs

theorem thorough_secretBytes : Thorough Document.secretBytes := by
  intro node bytes h
  obtain ⟨s, hs, -⟩ := bind_ok_iff.mp h
  exact thorough_text hs

namespace Device

abbrev secretKey : shape.Key where
  name := "token"
  decode := text
  get := (·.secret)
  set s o := { s with secret := o }

abbrev nameKey : shape.Key where
  name := "name"
  decode := text
  get := (·.name)
  set s o := { s with name := o }

abbrev dateKey : shape.Key where
  name := "date"
  decode := Document.instant
  get := (·.createdAt)
  set s o := { s with createdAt := o }

theorem hasKeys : shape.HasKeys [secretKey, nameKey, dateKey] where
  start := by
    simp only [List.forall_mem_cons]
    exact ⟨rfl, rfl, rfl, List.forall_mem_nil _⟩
  known := by
    simp only [List.forall_mem_cons]
    refine ⟨fun s node => ?_, fun s node => ?_, fun s node => ?_, List.forall_mem_nil _⟩
    all_goals
      simp only [shape, ← map_eq_pure_bind]
      rfl
  unknown := by
    intro key hk s node
    simp only [List.map_cons, List.map_nil, List.mem_cons, List.not_mem_nil, not_or, or_false] at hk
    simp [shape, hk]
  get_set := by simp
  apart := by simp [Shape.Key.apart_iff]
  thorough := by
    simp only [List.forall_mem_cons]
    exact ⟨thorough_text, thorough_text, thorough_instant, List.forall_mem_nil _⟩
  place := by
    intro s s' i node h
    simp only [shape] at h
    split at h <;> obtain ⟨x, hx, -⟩ := bind_ok_iff.mp h
    · exact thorough_text hx
    · exact thorough_text hx
    · exact thorough_instant hx

end Device

namespace Recovery

abbrev secretKey : shape.Key where
  name := "token"
  decode := Document.secretBytes
  get := (·.secret)
  set s o := { s with secret := o }

abbrev dateKey : shape.Key where
  name := "date"
  decode := Document.instant
  get := (·.createdAt)
  set s o := { s with createdAt := o }

abbrev expirationKey : shape.Key where
  name := "expiration"
  decode := optional Document.instant
  get := (·.expiresAt)
  set s o := { s with expiresAt := o }

abbrev usesKey : shape.Key where
  name := "uses_left"
  decode := optional natural64
  get := (·.usesLeft)
  set s o := { s with usesLeft := o }

theorem hasKeys : shape.HasKeys [secretKey, dateKey, expirationKey, usesKey] where
  start := by
    simp only [List.forall_mem_cons]
    exact ⟨rfl, rfl, rfl, rfl, List.forall_mem_nil _⟩
  known := by
    simp only [List.forall_mem_cons]
    refine ⟨fun s node => ?_, fun s node => ?_, fun s node => ?_, fun s node => ?_,
      List.forall_mem_nil _⟩
    all_goals
      simp only [shape, ← map_eq_pure_bind]
      rfl
  unknown := by
    intro key hk s node
    simp only [List.map_cons, List.map_nil, List.mem_cons, List.not_mem_nil, not_or, or_false] at hk
    simp [shape, hk]
  get_set := by simp
  apart := by simp [Shape.Key.apart_iff]
  thorough := by
    simp only [List.forall_mem_cons]
    exact ⟨thorough_secretBytes, thorough_instant, thorough_optional thorough_instant,
      thorough_optional thorough_natural64, List.forall_mem_nil _⟩
  place := by
    intro s s' i node h
    simp only [shape] at h
    split at h <;> obtain ⟨x, hx, -⟩ := bind_ok_iff.mp h
    · exact thorough_secretBytes hx
    · exact thorough_instant hx
    · exact (thorough_optional thorough_instant) hx
    · exact (thorough_optional thorough_natural64) hx

theorem nullable_expirationKey : expirationKey.Nullable := by
  refine ⟨none, rfl, fun s hfree => ?_⟩
  have hfree : s.expiresAt = none := hfree
  simp [shape, hfree]

theorem nullable_usesKey : usesKey.Nullable := by
  refine ⟨none, rfl, fun s hfree => ?_⟩
  have hfree : s.usesLeft = none := hfree
  simp [shape, hfree]

end Recovery

namespace Pairing

abbrev secretKey : shape.Key where
  name := "token"
  decode := text
  get := (·.secret)
  set s o := { s with secret := o }

abbrev dateKey : shape.Key where
  name := "date"
  decode := Document.instant
  get := (·.createdAt)
  set s o := { s with createdAt := o }

abbrev expirationKey : shape.Key where
  name := "expiration"
  decode := Document.instant
  get := (·.expiresAt)
  set s o := { s with expiresAt := o }

theorem hasKeys : shape.HasKeys [secretKey, dateKey, expirationKey] where
  start := by
    simp only [List.forall_mem_cons]
    exact ⟨rfl, rfl, rfl, List.forall_mem_nil _⟩
  known := by
    simp only [List.forall_mem_cons]
    refine ⟨fun s node => ?_, fun s node => ?_, fun s node => ?_, List.forall_mem_nil _⟩
    all_goals
      simp only [shape, ← map_eq_pure_bind]
      rfl
  unknown := by
    intro key hk s node
    simp only [List.map_cons, List.map_nil, List.mem_cons, List.not_mem_nil, not_or, or_false] at hk
    simp [shape, hk]
  get_set := by simp
  apart := by simp [Shape.Key.apart_iff]
  thorough := by
    simp only [List.forall_mem_cons]
    exact ⟨thorough_text, thorough_instant, thorough_instant, List.forall_mem_nil _⟩
  place := by
    intro s s' i node h
    simp only [shape] at h
    split at h <;> obtain ⟨x, hx, -⟩ := bind_ok_iff.mp h
    · exact thorough_text hx
    · exact thorough_instant hx
    · exact thorough_instant hx

end Pairing

namespace Document

abbrev devicesKey : shape.Key where
  name := "tokens"
  decode := sequence Device.shape.decode
  get := (·.devices)
  set s o := { s with devices := o }

abbrev recoveryKey : shape.Key where
  name := "recovery_token"
  decode := optional Recovery.shape.decode
  get := (·.recovery)
  set s o := { s with recovery := o }

abbrev pairingKey : shape.Key where
  name := "new_device"
  decode := optional Pairing.shape.decode
  get := (·.pairing)
  set s o := { s with pairing := o }

theorem hasKeys : shape.HasKeys [devicesKey, recoveryKey, pairingKey] where
  start := by
    simp only [List.forall_mem_cons]
    exact ⟨rfl, rfl, rfl, List.forall_mem_nil _⟩
  known := by
    simp only [List.forall_mem_cons]
    refine ⟨fun s node => ?_, fun s node => ?_, fun s node => ?_, List.forall_mem_nil _⟩
    all_goals
      simp only [shape, ← map_eq_pure_bind]
      rfl
  unknown := by
    intro key hk s node
    simp only [List.map_cons, List.map_nil, List.mem_cons, List.not_mem_nil, not_or, or_false] at hk
    simp [shape, hk]
  get_set := by simp
  apart := by simp [Shape.Key.apart_iff]
  thorough := by
    simp only [List.forall_mem_cons]
    exact ⟨thorough_sequence Device.hasKeys.thorough_decode,
      thorough_optional Recovery.hasKeys.thorough_decode,
      thorough_optional Pairing.hasKeys.thorough_decode, List.forall_mem_nil _⟩
  place := by
    intro s s' i node h
    simp only [shape] at h
    split at h <;> obtain ⟨x, hx, -⟩ := bind_ok_iff.mp h
    · exact (thorough_sequence Device.hasKeys.thorough_decode) hx
    · exact (thorough_optional Recovery.hasKeys.thorough_decode) hx
    · exact (thorough_optional Pairing.hasKeys.thorough_decode) hx

theorem nullable_recoveryKey : recoveryKey.Nullable := by
  refine ⟨none, rfl, fun s hfree => ?_⟩
  have hfree : s.recovery = none := hfree
  simp [shape, hfree]

theorem nullable_pairingKey : pairingKey.Nullable := by
  refine ⟨none, rfl, fun s hfree => ?_⟩
  have hfree : s.pairing = none := hfree
  simp [shape, hfree]

/-- The document and the parts of it that are written as objects. -/
inductive Part where
  | document
  | device
  | recovery
  | pairing

namespace Part

def keys : Part → List String
  | document => ["tokens", "recovery_token", "new_device"]
  | device => ["token", "name", "date"]
  | recovery => ["token", "date", "expiration", "uses_left"]
  | pairing => ["token", "date", "expiration"]

def nullable : Part → List String
  | document => ["recovery_token", "new_device"]
  | recovery => ["expiration", "uses_left"]
  | _ => []

def Result : Part → Type
  | document => Document
  | device => Device
  | recovery => Recovery
  | pairing => Pairing

def Slots : Part → Type
  | document => Document.Fields
  | device => Device.Fields
  | recovery => Recovery.Fields
  | pairing => Pairing.Fields

def shape : (part : Part) → Shape part.Slots part.Result
  | document => Document.shape
  | device => Device.shape
  | recovery => Recovery.shape
  | pairing => Pairing.shape

def shapeKeys : (part : Part) → List part.shape.Key
  | document => [devicesKey, recoveryKey, pairingKey]
  | device => [Device.secretKey, Device.nameKey, Device.dateKey]
  | recovery => [Recovery.secretKey, Recovery.dateKey, Recovery.expirationKey, Recovery.usesKey]
  | pairing => [Pairing.secretKey, Pairing.dateKey, Pairing.expirationKey]

theorem hasKeys : (part : Part) → part.shape.HasKeys part.shapeKeys
  | document => Document.hasKeys
  | device => Device.hasKeys
  | recovery => Recovery.hasKeys
  | pairing => Pairing.hasKeys

theorem names_shapeKeys (part : Part) : part.shapeKeys.map (·.name) = part.keys := by
  cases part <;> rfl

theorem exists_nullable {part : Part} {key : String} (h : key ∈ part.nullable) :
    ∃ k ∈ part.shapeKeys, k.name = key ∧ k.Nullable := by
  cases part with
  | document =>
    simp only [nullable, List.mem_cons, List.not_mem_nil, or_false] at h
    rcases h with rfl | rfl
    · exact ⟨recoveryKey, .tail _ (.head _), rfl, nullable_recoveryKey⟩
    · exact ⟨pairingKey, .tail _ (.tail _ (.head _)), rfl, nullable_pairingKey⟩
  | recovery =>
    simp only [nullable, List.mem_cons, List.not_mem_nil, or_false] at h
    rcases h with rfl | rfl
    · exact ⟨Recovery.expirationKey, .tail _ (.tail _ (.head _)), rfl, Recovery.nullable_expirationKey⟩
    · exact ⟨Recovery.usesKey, .tail _ (.tail _ (.tail _ (.head _))), rfl, Recovery.nullable_usesKey⟩
  | device | pairing => cases h

end Part

/-- One tree and another that differ in how a part is arranged, but not in what it says. -/
inductive Rearranged : Part → Node → Node → Prop
  | permuted {part : Part} {members members' : List (String × Node)} : members.Perm members' →
      Rearranged part (.map members true) (.map members' true)
  /-- Any value at all may stand at a name that is not known. -/
  | inserted {part : Part} {key : String} {value : Node} {s : List Char}
      {members : List (String × Node)} : key ∉ part.keys → Json.Written value s →
      Rearranged part (.map members true) (.map ((key, value) :: members) true)
  | nulled {part : Part} {key : String} {members : List (String × Node)} : key ∈ part.nullable →
      key ∉ members.map (·.1) →
      Rearranged part (.map members true) (.map ((key, .null) :: members) true)
  | dropped {part : Part} {key : String} {members : List (String × Node)} : key ∈ part.nullable →
      Rearranged part (.map ((key, .null) :: members) true) (.map members true)
  | device {node node' : Node} {before after : List Node} {members : List (String × Node)} :
      Rearranged .device node node' →
      Rearranged .document (.map (("tokens", .sequence (before ++ node :: after) true) :: members) true)
        (.map (("tokens", .sequence (before ++ node' :: after) true) :: members) true)
  | recovery {node node' : Node} {members : List (String × Node)} :
      Rearranged .recovery node node' →
      Rearranged .document (.map (("recovery_token", node) :: members) true)
        (.map (("recovery_token", node') :: members) true)
  | pairing {node node' : Node} {members : List (String × Node)} :
      Rearranged .pairing node node' →
      Rearranged .document (.map (("new_device", node) :: members) true)
        (.map (("new_device", node') :: members) true)
  | trans {part : Part} {node node' node'' : Node} : Rearranged part node node' →
      Rearranged part node' node'' → Rearranged part node node''

namespace Rearranged

variable {part : Part} {node node' : Node}

theorem isMap (h : Rearranged part node node') :
    (∃ members, node = .map members true) ∧ ∃ members, node' = .map members true := by
  induction h with
  | trans _ _ ih ih' => exact ⟨ih.1, ih'.2⟩
  | _ => exact ⟨⟨_, rfl⟩, ⟨_, rfl⟩⟩

theorem decode_ok (h : Rearranged part node node') {a : part.Result}
    (hd : part.shape.decode node = .ok a) : part.shape.decode node' = .ok a := by
  induction h with
  | permuted hp => exact (Part.hasKeys _).decode_perm hp hd
  | inserted hk hv => exact (Part.hasKeys _).decode_insert (by rwa [Part.names_shapeKeys]) hv.isWhole hd
  | nulled hk hmissing =>
    obtain ⟨k, hmem, rfl, hnull⟩ := Part.exists_nullable hk
    exact (Part.hasKeys _).decode_null hmem hnull hmissing hd
  | dropped hk =>
    obtain ⟨k, hmem, rfl, hnull⟩ := Part.exists_nullable hk
    exact (Part.hasKeys _).decode_drop hmem hnull hd
  | @device node node' _ _ _ _ ih =>
    have hsame : ∀ a, Device.shape.decode node = .ok a → Device.shape.decode node' = .ok a :=
      fun _ => ih
    refine Document.hasKeys.decode_replace (k := devicesKey) (.head _) ?_ hd
    exact fun _ => sequence_replace hsame
  | recovery h ih =>
    obtain ⟨⟨members, rfl⟩, ⟨members', rfl⟩⟩ := h.isMap
    have hsame : ∀ a, Recovery.shape.decode (.map members true) = .ok a →
        Recovery.shape.decode (.map members' true) = .ok a := fun _ => ih
    refine Document.hasKeys.decode_replace (k := recoveryKey) (.tail _ (.head _)) ?_ hd
    exact fun _ => optional_replace hsame
  | pairing h ih =>
    obtain ⟨⟨members, rfl⟩, ⟨members', rfl⟩⟩ := h.isMap
    have hsame : ∀ a, Pairing.shape.decode (.map members true) = .ok a →
        Pairing.shape.decode (.map members' true) = .ok a := fun _ => ih
    refine Document.hasKeys.decode_replace (k := pairingKey) (.tail _ (.tail _ (.head _))) ?_ hd
    exact fun _ => optional_replace hsame
  | trans _ _ ih ih' => exact ih' (ih hd)

end Rearranged

/-- A text that is accepted follows the grammar, and every text of a tree that is only arranged in
another way holds the same document. -/
theorem ofJson_rearranged {text : String} {d : Document} (h : ofJson text = .ok d) :
    Json.WrittenText (Json.read text).1 text.toList ∧
      ∀ (node : Node) (text' : String), Rearranged .document (Json.read text).1 node →
        Json.WrittenText node text'.toList → ofJson text' = .ok d := by
  obtain ⟨node, hread, hd⟩ := Json.decodeText_ok_iff.mp h
  rw [hread]
  refine ⟨Json.written_read hread (Document.hasKeys.thorough_decode hd), fun node' text' hr hw => ?_⟩
  exact Json.decodeText_ok_iff.mpr ⟨node', Json.read_written hw, hr.decode_ok hd⟩

theorem ofJson_rearranged_television :
    let date : Json.Value := .text "1970-01-01T00:00:00.000000Z"
    let d : Document :=
      { devices := [⟨"a", "tv", ⟨0, 0⟩⟩], recovery := some ⟨[255], ⟨0, 0⟩, none, some 3⟩ }
    let other : Json.Value := .object
      [("new_device", .null),
       ("seen", .array [.object [("tokens", .null)], .text "tv"]),
       ("recovery_token", .object [("uses_left", .natural 3), ("token", .text "ff"), ("date", date)]),
       ("tokens", .array [.object [("name", .text "tv"), ("token", .text "a"), ("date", date)]])]
    ofJson d.toValue.compactText = .ok d ∧ ofJson other.prettyText = .ok d := by
  intro date d other
  have hd : ofJson d.toValue.compactText = .ok d :=
    (ofJson_spelled_iff d.toValue.spelled_compact).mpr
      ⟨⟨by decide +kernel, by decide +kernel, by decide +kernel⟩, by decide +kernel⟩
  obtain ⟨-, hsame⟩ := ofJson_rearranged hd
  rw [Json.Value.compactText, Json.read_spelled d.toValue.spelled_compact] at hsame
  have hvalue := (Json.Value.array [.object [("tokens", .null)], .text "tv"]).spelled_compact.written
  have hrearranged : Rearranged .document d.toValue.node other.node := by
    refine .trans (@Rearranged.device _ _ [] [] _ (.permuted (.swap _ _ _))) ?_
    refine .trans (.permuted (.swap _ _ _)) ?_
    refine .trans (.recovery (.permuted (@List.perm_append_comm _ [_, _] [_, _]))) ?_
    refine .trans (.recovery (.dropped (by decide))) ?_
    refine .trans (@Rearranged.inserted _ "seen" _ _ _ (by decide) hvalue) ?_
    exact .nulled (by decide) (by decide)
  refine ⟨hd, hsame _ _ hrearranged ⟨[], other.pretty 0, [], Json.gap_nil, ?_, Json.gap_nil, ?_⟩⟩
  · exact (other.spelled_pretty 0).written
  · simp [Json.Value.prettyText]

end Document

end Credentials
