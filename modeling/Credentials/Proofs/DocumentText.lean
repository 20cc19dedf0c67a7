import Credentials.Operation
import Credentials.Proofs.JsonText
import Credentials.Proofs.Stores
import Credentials.Proofs.TimeText

/-! The text of a document and what is read from it: the same document, its times cut to what their
texts say. A time of a year past four digits is written but never read. -/

namespace Credentials

open Time (Instant)
open Decoding

namespace Text

theorem trim_eq_self {s : List Char} (h : ∀ c ∈ s, isBlank c = false) : trim s = s := by
  have hdrop : ∀ s : List Char, (∀ c ∈ s, isBlank c = false) → s.dropWhile isBlank = s := by
    intro s hs
    cases s with
    | nil => rfl
    | cons c s => rw [List.dropWhile_cons_of_neg (by simp [hs c])]
  rw [trim, trimEnd, trimStart, hdrop s h, hdrop s.reverse (by simpa using h), List.reverse_reverse]

namespace Hex

theorem isBlank_digit : ∀ n < 16, isBlank (digit n) = false := by decide

theorem digitValue_digit : ∀ n < 16, (String.utf8EncodeChar (digit n)).map digitValue = [some n] := by
  decide

theorem utf8_digit {n : Nat} (h : n < 16) :
    ∃ b, String.utf8EncodeChar (digit n) = [b] ∧ digitValue b = some n := by
  obtain ⟨b, hb, hv⟩ := List.map_eq_singleton_iff.mp (digitValue_digit n h)
  exact ⟨b, hb, hv⟩

theorem decodePairs_encode (bytes : List UInt8) (position : Nat) :
    (utf8 (encode bytes)).length % 2 = 0 ∧
      decodePairs position (utf8 (encode bytes)) = .ok bytes := by
  induction bytes generalizing position with
  | nil => exact ⟨rfl, rfl⟩
  | cons b bytes ih =>
    have hb : b.toNat < 256 := b.toNat_lt
    obtain ⟨high, hh, hhv⟩ := utf8_digit (n := b.toNat / 16) (by omega)
    obtain ⟨low, hl, hlv⟩ := utf8_digit (n := b.toNat % 16) (by omega)
    obtain ⟨hlen, hrest⟩ := ih (position + 2)
    have hcons : utf8 (encode (b :: bytes)) = high :: low :: utf8 (encode bytes) := by
      simp [utf8, encode, hh, hl]
    rw [hcons]
    refine ⟨by simp only [List.length_cons]; omega, ?_⟩
    simp only [decodePairs, hhv, hlv, hrest]
    rw [Nat.div_add_mod, UInt8.ofNat_toNat]
    rfl

theorem decode_encode (bytes : List UInt8) : decode (utf8 (trim (encode bytes))) = .ok bytes := by
  have hdigits : ∀ c ∈ encode bytes, isBlank c = false := by
    intro c hc
    obtain ⟨b, -, hc⟩ := List.mem_flatMap.mp hc
    have hb : b.toNat < 256 := b.toNat_lt
    simp only [List.mem_cons, List.not_mem_nil, or_false] at hc
    rcases hc with rfl | rfl <;> exact isBlank_digit _ (by omega)
  obtain ⟨hlen, hpairs⟩ := decodePairs_encode bytes 0
  rw [trim_eq_self hdigits, decode, if_neg (by omega), hpairs]

end Hex

end Text

section
variable {δ α β ε : Type}

theorem Decoding.Shape.decode_map_ok_iff {shape : Shape δ α} {members : List (String × Node)} {a : α} :
    shape.decode (.map members true) = .ok a ↔
      ∃ s, members.foldlM shape.take shape.start = .ok s ∧ shape.finish s = .ok a := by
  rw [Shape.decode, bind_ok_iff]
  rfl

theorem Decoding.Shape.take_ok_iff {shape : Shape δ α} {s s' : δ} {key : String} {node : Node} :
    shape.take s (key, node) = .ok s' ↔ shape.member s key node = .ok s' := mapError_ok_iff

end

section
variable (f : Instant → Instant)

def Device.mapTimes (x : Device) : Device := { x with createdAt := f x.createdAt }

def Recovery.mapTimes (x : Recovery) : Recovery :=
  { x with createdAt := f x.createdAt, expiresAt := x.expiresAt.map f }

def Pairing.mapTimes (x : Pairing) : Pairing :=
  { x with createdAt := f x.createdAt, expiresAt := f x.expiresAt }

def Document.mapTimes (d : Document) : Document where
  devices := d.devices.map (·.mapTimes f)
  recovery := d.recovery.map (·.mapTimes f)
  pairing := d.pairing.map (·.mapTimes f)

end

theorem instant_ok_iff {t u : Instant} :
    Document.instant (instantValue t).node = .ok u ↔ t.IsReadable ∧ u = t.reread := by
  rw [← Instant.ofText_text_iff, Document.instant, instantValue, Json.Value.node]
  simp only [text, String.toList_ofList, bind, Except.bind]
  cases Instant.ofText? t.text with
  | none => simp [throw, throwThe, MonadExceptOf.throw]
  | some v => simp [pure, Except.pure]

theorem Device.decode_ok_iff {x y : Device} :
    Device.shape.decode x.toValue.node = .ok y ↔
      x.createdAt.IsReadable ∧ y = x.mapTimes Instant.reread := by
  rw [Device.toValue, Json.Value.node, Shape.decode_map_ok_iff]
  simp only [Json.Value.memberNodes, List.foldlM_cons, List.foldlM_nil, bind_ok_iff,
    Shape.take_ok_iff]
  simp [Device.shape, once, required, map_ok_iff, bind_ok_iff, instant_ok_iff, Json.Value.node, text,
    pure, Except.pure, mapTimes, @eq_comm _ _ y]

theorem optional_instant_ok_iff {o o' : Option Instant} :
    Decoding.optional Document.instant (nullable instantValue o).node = .ok o' ↔
      (∀ t ∈ o, t.IsReadable) ∧ o' = o.map Instant.reread := by
  cases o with
  | none => simp [nullable, Json.Value.node, Decoding.optional, eq_comm]
  | some t =>
    have : Decoding.optional Document.instant (instantValue t).node =
      (Document.instant (instantValue t).node).map some := rfl
    simp [nullable, this, map_ok_iff, instant_ok_iff]

theorem optional_natural64 (o : Option UInt64) :
    Decoding.optional natural64 (nullable (fun n => .natural n.toNat) o).node = .ok o := by
  cases o with
  | none => rfl
  | some n =>
    have hn : n.toNat < UInt64.size := n.toNat_lt
    have h0 : ¬ (n.toNat : Int) < 0 := by omega
    rw [nullable, Json.Value.node, Json.toNode_natural hn]
    simp [Decoding.optional, natural64, Except.map, hn, h0]

theorem secretBytes_ok (bytes : List UInt8) :
    Document.secretBytes (.text (String.ofList (Text.Hex.encode bytes))) = .ok bytes := by
  simp [Document.secretBytes, text, bind, Except.bind, Text.Hex.decode_encode, pure, Except.pure]

theorem Recovery.decode_ok_iff {x y : Recovery} :
    Recovery.shape.decode x.toValue.node = .ok y ↔
      (x.createdAt.IsReadable ∧ ∀ t ∈ x.expiresAt, t.IsReadable) ∧
        y = x.mapTimes Instant.reread := by
  rw [Recovery.toValue, Json.Value.node, Shape.decode_map_ok_iff]
  simp only [Json.Value.memberNodes, List.foldlM_cons, List.foldlM_nil, bind_ok_iff,
    Shape.take_ok_iff]
  simp [Recovery.shape, once, required, map_ok_iff, bind_ok_iff, instant_ok_iff,
    optional_instant_ok_iff, optional_natural64, secretBytes_ok, Json.Value.node,
    pure, Except.pure, mapTimes, and_assoc, @eq_comm _ _ y]

theorem Pairing.decode_ok_iff {x y : Pairing} :
    Pairing.shape.decode x.toValue.node = .ok y ↔
      (x.createdAt.IsReadable ∧ x.expiresAt.IsReadable) ∧ y = x.mapTimes Instant.reread := by
  rw [Pairing.toValue, Json.Value.node, Shape.decode_map_ok_iff]
  simp only [Json.Value.memberNodes, List.foldlM_cons, List.foldlM_nil, bind_ok_iff,
    Shape.take_ok_iff]
  simp [Pairing.shape, once, required, map_ok_iff, bind_ok_iff, instant_ok_iff, Json.Value.node,
    text, pure, Except.pure, mapTimes, and_assoc, @eq_comm _ _ y]

theorem devices_ok_iff {ds es : List Device} :
    ds.mapM (fun x => Device.shape.decode x.toValue.node) = .ok es ↔
      (∀ x ∈ ds, x.createdAt.IsReadable) ∧ es = ds.map (·.mapTimes Instant.reread) := by
  induction ds generalizing es with
  | nil => simp [pure, Except.pure, eq_comm]
  | cons x ds ih =>
    simp only [List.mapM_cons, bind_ok_iff, Device.decode_ok_iff, ih, pure, Except.pure,
      Except.ok.injEq, List.mem_cons, forall_eq_or_imp, List.map_cons]
    constructor
    · rintro ⟨_, ⟨hx, rfl⟩, _, ⟨hds, rfl⟩, rfl⟩
      exact ⟨⟨hx, hds⟩, rfl⟩
    · rintro ⟨⟨hx, hds⟩, rfl⟩
      exact ⟨_, ⟨hx, rfl⟩, _, ⟨hds, rfl⟩, rfl⟩

namespace Document

@[mk_iff] structure EachTime (p : Instant → Prop) (d : Document) : Prop where
  devices : ∀ x ∈ d.devices, p x.createdAt
  recovery : ∀ x ∈ d.recovery, p x.createdAt ∧ ∀ t ∈ x.expiresAt, p t
  pairing : ∀ x ∈ d.pairing, p x.createdAt ∧ p x.expiresAt

theorem EachTime.imp {p q : Instant → Prop} {d : Document} (h : d.EachTime p)
    (hpq : ∀ t, p t → q t) : d.EachTime q where
  devices x hx := hpq _ (h.devices x hx)
  recovery x hx := ⟨hpq _ (h.recovery x hx).1, fun t ht => hpq t ((h.recovery x hx).2 t ht)⟩
  pairing x hx := ⟨hpq _ (h.pairing x hx).1, hpq _ (h.pairing x hx).2⟩

/-- Every time in the document can be read from its own text. -/
abbrev IsReadable : Document → Prop := EachTime Instant.IsReadable

theorem sequence_ok_iff {ds es : List Device} :
    sequence Device.shape.decode (Json.Value.array (ds.map Device.toValue)).node = .ok es ↔
      (∀ x ∈ ds, x.createdAt.IsReadable) ∧ es = ds.map (·.mapTimes Instant.reread) := by
  rw [← devices_ok_iff, Json.Value.node, Json.Value.nodes_eq_map, List.map_map,
    Decoding.sequence, bind_ok_iff, List.mapM_map]
  simp only [if_true, pure, Except.pure, Except.ok.injEq, exists_eq_right]
  rfl

theorem decode_ok_iff {d d' : Document} :
    shape.decode d.toValue.node = .ok d' ↔ d.IsReadable ∧ d' = d.mapTimes Instant.reread := by
  obtain ⟨ds, r, p⟩ := d
  have hr : ∀ x : Recovery, Decoding.optional Recovery.shape.decode x.toValue.node =
      (Recovery.shape.decode x.toValue.node).map some := fun _ => rfl
  have hp : ∀ x : Pairing, Decoding.optional Pairing.shape.decode x.toValue.node =
      (Pairing.shape.decode x.toValue.node).map some := fun _ => rfl
  have hi : IsReadable ⟨ds, r, p⟩ ↔ (∀ x ∈ ds, x.createdAt.IsReadable) ∧
      (∀ x ∈ r, x.createdAt.IsReadable ∧ ∀ t ∈ x.expiresAt, t.IsReadable) ∧
      ∀ x ∈ p, x.createdAt.IsReadable ∧ x.expiresAt.IsReadable :=
    ⟨fun h => ⟨h.1, h.2, h.3⟩, fun h => ⟨h.1, h.2.1, h.2.2⟩⟩
  rw [toValue, Json.Value.node, Shape.decode_map_ok_iff, hi]
  cases r <;> cases p <;>
  · simp only [memberIfAny, List.cons_append, List.nil_append, List.append_nil,
      Json.Value.memberNodes, List.foldlM_cons, List.foldlM_nil, bind_ok_iff, Shape.take_ok_iff]
    simp [shape, once, map_ok_iff, bind_ok_iff, sequence_ok_iff, hr, Recovery.decode_ok_iff, hp,
      Pairing.decode_ok_iff, pure, Except.pure, mapTimes, and_assoc, @eq_comm _ _ d']

theorem ofJson_spelled_iff {d d' : Document} {s : List Char} (hs : Json.Spelled d.toValue s) :
    ofJson (String.ofList s) = .ok d' ↔ d.IsReadable ∧ d' = d.mapTimes Instant.reread := by
  rw [← decode_ok_iff, ofJson, Json.decodeText_spelled hs]

theorem ofJson_text_iff {d d' : Document} :
    ofJson d.toValue.prettyText = .ok d' ↔ d.IsReadable ∧ d' = d.mapTimes Instant.reread :=
  ofJson_spelled_iff (d.toValue.spelled_pretty 0)

theorem format_ofText (s : String) : format.ofText s = ofJson s := rfl

theorem format_toText (d : Document) : format.toText d = d.toValue.prettyText := rfl

theorem writesText_format : Store.Format.WritesText format := fun d => d.toValue.prettyText_not_blank

theorem mapTimes_mapTimes (f g : Instant → Instant) (d : Document) :
    (d.mapTimes f).mapTimes g = d.mapTimes (g ∘ f) := by
  obtain ⟨ds, r, p⟩ := d
  have hd : Device.mapTimes g ∘ Device.mapTimes f = Device.mapTimes (g ∘ f) := rfl
  have hr : Recovery.mapTimes g ∘ Recovery.mapTimes f = Recovery.mapTimes (g ∘ f) :=
    funext fun x => by simp [Recovery.mapTimes]
  have hp : Pairing.mapTimes g ∘ Pairing.mapTimes f = Pairing.mapTimes (g ∘ f) := rfl
  simp only [mapTimes, List.map_map, Option.map_map, hd, hr, hp]

theorem EachTime.mapTimes_congr {p : Instant → Prop} {f g : Instant → Instant} {d : Document}
    (h : d.EachTime p) (hfg : ∀ t, p t → f t = g t) : d.mapTimes f = d.mapTimes g := by
  obtain ⟨ds, r, p⟩ := d
  obtain ⟨hds, hr, hp⟩ := h
  have hdevices : ∀ x ∈ ds, x.mapTimes f = x.mapTimes g := by
    intro x hx
    simp only [Device.mapTimes, hfg _ (hds x hx)]
  have hrecovery : ∀ x ∈ r, x.mapTimes f = x.mapTimes g := by
    intro x hx
    obtain ⟨hc, he⟩ := hr x hx
    have : x.expiresAt.map f = x.expiresAt.map g := Option.map_congr fun t ht => hfg t (he t ht)
    simp only [Recovery.mapTimes, hfg _ hc, this]
  have hpairing : ∀ x ∈ p, x.mapTimes f = x.mapTimes g := by
    intro x hx
    obtain ⟨hc, he⟩ := hp x hx
    simp only [Pairing.mapTimes, hfg _ hc, hfg _ he]
  simp only [mapTimes, mk.injEq]
  exact ⟨List.map_congr_left hdevices, Option.map_congr hrecovery, Option.map_congr hpairing⟩

end Document

end Credentials
