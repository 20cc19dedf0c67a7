import Credentials.Proofs.DocumentText

/-! Writing a document and reading it again. Of a time that exists the text keeps all but what is
finer than a microsecond, so the first reading cuts the times of a document and no later one does
any more. A cut time never comes after the time it was cut from. -/

namespace Credentials

open Time (Instant)

namespace Time.Instant

/-- Only in the last second of a minute do the nanoseconds run on past a billion. -/
def IsValid (t : Instant) : Prop :=
  t.nanos < 1000000000 ∨ (t.nanos < 2000000000 ∧ t.seconds % 60 = 59)

/-- A time that exists, of a year that is written with four digits and no sign. -/
def IsFourDigit (t : Instant) : Prop := t.IsValid ∧ 0 ≤ t.date.year ∧ t.date.year ≤ 9999

instance (t : Instant) : Decidable t.IsValid := inferInstanceAs (Decidable (_ ∨ _))

instance (t : Instant) : Decidable t.IsFourDigit := inferInstanceAs (Decidable (_ ∧ _))

variable {t now : Instant}

theorem shownSecond_le (h : t.IsValid) : t.shownSecond ≤ 60 := by
  have hday := t.secondOfDay_cast
  unfold shownSecond
  rcases h with h | ⟨h, hs⟩ <;> omega

theorem IsFourDigit.isReadable (h : t.IsFourDigit) : t.IsReadable :=
  ⟨h.2.1, h.2.2, shownSecond_le h.1⟩

/-- A leap second is shown as second 60 and taken back to the second it belongs to. -/
theorem reread_eq_toMicros (h : t.IsValid) : t.reread = t.toMicros := by
  have hday := t.secondOfDay_cast
  have hshown : t.shownSecond = t.secondOfDay % 60 + t.nanos / 1000000000 := rfl
  have hseconds : t.reread.seconds = t.toMicros.seconds := by
    have hr : t.reread.seconds = t.seconds - (t.secondOfDay % 60 : Nat) + (min t.shownSecond 59 : Nat) :=
      rfl
    have hm : t.toMicros.seconds = t.seconds := rfl
    rcases h with h | ⟨h, hs⟩ <;> omega
  have hnanos : t.reread.nanos = t.toMicros.nanos := by
    have hr : t.reread.nanos = t.nanos % 1000000000 / 1000 * 1000 +
        (t.shownSecond - min t.shownSecond 59) * 1000000000 := rfl
    have hm : t.toMicros.nanos = t.nanos / 1000 * 1000 := rfl
    rcases h with h | ⟨h, hs⟩ <;> omega
  exact congrArg₂ Instant.mk hseconds hnanos

/-- The text of a time shows nothing that cutting takes away. -/
theorem text_toMicros (t : Instant) : t.toMicros.text = t.text := by
  have hsecond : t.toMicros.nanos / 1000000000 = t.nanos / 1000000000 := by
    have hm : t.toMicros.nanos = t.nanos / 1000 * 1000 := rfl
    omega
  have hdecimals : t.toMicros.nanos % 1000000000 / 1000 = t.nanos % 1000000000 / 1000 := by
    have hm : t.toMicros.nanos = t.nanos / 1000 * 1000 := rfl
    omega
  have hclock : t.toMicros.clockText = t.clockText := by
    simp only [clockText, hsecond]
    rfl
  simp only [text, dateTimeText, hclock, hdecimals]
  rfl

theorem before_iff : now.before t = true ↔
    now.seconds < t.seconds ∨ (now.seconds = t.seconds ∧ now.nanos < t.nanos) := by
  simp [before]

theorem before_of_before_toMicros (h : now.before t.toMicros = true) : now.before t = true := by
  have hle : t.nanos / 1000 * 1000 ≤ t.nanos := Nat.div_mul_le_self ..
  rw [before_iff] at h ⊢
  rcases h with hseconds | ⟨hseconds, hnanos⟩
  · exact .inl hseconds
  · exact .inr ⟨hseconds, hnanos.trans_le hle⟩

end Time.Instant

theorem instantValue_toMicros (t : Instant) : instantValue t.toMicros = instantValue t := by
  rw [instantValue, instantValue, t.text_toMicros]

theorem Device.toValue_toMicros (x : Device) : (x.mapTimes (·.toMicros)).toValue = x.toValue := by
  simp only [toValue, mapTimes, instantValue_toMicros]

theorem Recovery.toValue_toMicros (x : Recovery) : (x.mapTimes (·.toMicros)).toValue = x.toValue := by
  have hexpiry : nullable instantValue (x.expiresAt.map (·.toMicros)) =
      nullable instantValue x.expiresAt := by
    cases x.expiresAt with
    | none => rfl
    | some t => exact instantValue_toMicros t
  simp only [toValue, mapTimes, instantValue_toMicros, hexpiry]

theorem Pairing.toValue_toMicros (x : Pairing) : (x.mapTimes (·.toMicros)).toValue = x.toValue := by
  simp only [toValue, mapTimes, instantValue_toMicros]

theorem Recovery.isValidAt_of_toMicros {x : Recovery} {now : Instant}
    (h : (x.mapTimes (·.toMicros)).isValidAt now = true) : x.isValidAt now = true := by
  rw [isValidAt, Bool.and_eq_true, Option.all_eq_true] at h ⊢
  refine ⟨fun t ht => Instant.before_of_before_toMicros (h.1 t.toMicros ?_), h.2⟩
  exact Option.mem_map_of_mem _ ht

namespace Document

theorem toMicros_eq_mapTimes (d : Document) : d.toMicros = d.mapTimes (·.toMicros) := rfl

theorem toValue_toMicros (d : Document) : d.toMicros.toValue = d.toValue := by
  obtain ⟨ds, r, p⟩ := d
  have hdevices : (ds.map (·.mapTimes (·.toMicros))).map Device.toValue = ds.map Device.toValue := by
    rw [List.map_map]
    exact List.map_congr_left fun x _ => x.toValue_toMicros
  have hrecovery : memberIfAny "recovery_token" Recovery.toValue (r.map (·.mapTimes (·.toMicros))) =
      memberIfAny "recovery_token" Recovery.toValue r := by
    cases r with
    | none => rfl
    | some x => simp only [memberIfAny, Option.map_some, x.toValue_toMicros]
  have hpairing : memberIfAny "new_device" Pairing.toValue (p.map (·.mapTimes (·.toMicros))) =
      memberIfAny "new_device" Pairing.toValue p := by
    cases p with
    | none => rfl
    | some x => simp only [memberIfAny, Option.map_some, x.toValue_toMicros]
  simp only [toMicros_eq_mapTimes, mapTimes, toValue, hdevices, hrecovery, hpairing]

/-- Either form of a document whose times have four-digit years is read as the document, its times
cut to microseconds. -/
theorem ofJson_spelled {d : Document} (h : d.EachTime Instant.IsFourDigit) {s : List Char}
    (hs : Json.Spelled d.toValue s) : ofJson (String.ofList s) = .ok d.toMicros := by
  refine (ofJson_spelled_iff hs).mpr ⟨h.imp fun _ ht => ht.isReadable, ?_⟩
  exact (h.mapTimes_congr fun _ ht => Instant.reread_eq_toMicros ht.1).symm

/-- A document is read back from either of its texts, with its times cut to microseconds. The
document so read has the same text, and no credential in it is valid at a time when the one that was
written is not. -/
theorem reloaded {d : Document} (h : d.EachTime Instant.IsFourDigit) {write : Json.Value → String}
    (hw : write = Json.Value.compactText ∨ write = Json.Value.prettyText) :
    ofJson (write d.toValue) = .ok d.toMicros ∧
      write d.toMicros.toValue = write d.toValue ∧
      (∀ x ∈ d.toMicros.recovery, ∀ now, x.isValidAt now = true →
        ∃ y ∈ d.recovery, y.isValidAt now = true) ∧
      ∀ x ∈ d.toMicros.pairing, ∀ now, x.isLiveAt now = true →
        ∃ y ∈ d.pairing, y.isLiveAt now = true := by
  refine ⟨?_, by rw [d.toValue_toMicros], fun x hx now hv => ?_, fun x hx now hl => ?_⟩
  · rcases hw with rfl | rfl
    · exact ofJson_spelled h d.toValue.spelled_compact
    · exact ofJson_spelled h (d.toValue.spelled_pretty 0)
  · obtain ⟨y, hy, rfl⟩ := Option.mem_map.mp hx
    exact ⟨y, hy, Recovery.isValidAt_of_toMicros hv⟩
  · obtain ⟨y, hy, rfl⟩ := Option.mem_map.mp hx
    exact ⟨y, hy, Instant.before_of_before_toMicros hl⟩

theorem reloaded_leapSecond :
    let d : Document :=
      { devices := [⟨"tok-1\n", "büro \"😀\"", ⟨-1, 999999999⟩⟩]
        recovery := some ⟨[0, 127, 255], ⟨1483228799, 1500000001⟩, some ⟨253402300799, 1999999999⟩,
          some 18446744073709551615⟩
        pairing := some ⟨"pair", ⟨1709164800, 1⟩, ⟨1709164860, 1⟩⟩ }
    d.EachTime Instant.IsFourDigit ∧ ofJson d.toValue.prettyText = .ok d.toMicros ∧
      d.toMicros.toValue.prettyText = d.toValue.prettyText := by
  intro d
  have h : d.EachTime Instant.IsFourDigit :=
    ⟨by decide +kernel, by decide +kernel, by decide +kernel⟩
  obtain ⟨hread, hagain, -⟩ := reloaded h (.inr rfl)
  exact ⟨h, hread, hagain⟩

end Document

end Credentials
