import Credentials.Proofs.DeviceNames
import Mathlib.Data.List.Dedup

/-! The search for a free name ends. Every candidate is longer than the one before, so each that is
in use is a name of its own: there are no more digits to append than there are names that the search
can meet. -/

namespace Credentials

open DeviceName
open Time (Instant)

section
variable {taken : String → Bool} {digits : Nat → Fin 10} {used count : Nat} {name : String}
  {result : String × Nat}

/-- The search for a name without a bound: it ends at a name that is free, and goes on with one
digit more from a name that is not. -/
inductive Settles (taken : String → Bool) (digits : Nat → Fin 10) :
    Nat → String → String × Nat → Prop
  | free {used : Nat} {name : String} : taken name = false →
      Settles taken digits used name (name, used)
  | more {used : Nat} {name : String} {result : String × Nat} : taken name = true →
      Settles taken digits (used + 1) (name.push (Char.ofNat (48 + digits used))) result →
      Settles taken digits used name result

theorem settles_iff (hbefore : ∀ k < count,
      taken (withDigits name (fun i => digits (i + used)) k) = true)
    (hfree : taken (withDigits name (fun i => digits (i + used)) count) = false) :
    Settles taken digits used name result ↔
      result = (withDigits name (fun i => digits (i + used)) count, used + count) := by
  induction count generalizing used name with
  | zero =>
    rw [withDigits_zero] at hfree ⊢
    constructor
    · intro h
      cases h with
      | free => rfl
      | more htaken => cases hfree.symm.trans htaken
    · rintro rfl
      exact .free hfree
  | succ count ih =>
    have hname : taken name = true := by simpa using hbefore 0 (Nat.succ_pos _)
    have hpush (k : Nat) : withDigits (name.push (Char.ofNat (48 + digits used)))
        (fun i => digits (i + (used + 1))) k =
          withDigits name (fun i => digits (i + used)) (k + 1) := by
      rw [← withDigits_push]
      simp only [Nat.zero_add, Nat.add_right_comm, Nat.add_assoc]
    have hnext :
        Settles taken digits (used + 1) (name.push (Char.ofNat (48 + digits used))) result ↔
          result =
            (withDigits name (fun i => digits (i + used)) (count + 1), used + (count + 1)) := by
      rw [ih (fun k hk => hpush k ▸ hbefore (k + 1) (Nat.succ_lt_succ hk)) (hpush count ▸ hfree),
        hpush, Nat.add_right_comm, Nat.add_assoc]
    rw [← hnext]
    constructor
    · intro h
      cases h with
      | free hfree => cases hfree.symm.trans hname
      | more _ h => exact h
    · exact .more hname

end

namespace DeviceName

/-- Whether a name is another one with decimal digits after it, or with nothing. -/
def IsNumbered (base name : String) : Prop :=
  ∃ digits : List Char, (∀ c ∈ digits, c.isDigit = true) ∧ name = base ++ String.ofList digits

theorem isNumbered_iff {base name : String} : IsNumbered base name ↔
    base.toList <+: name.toList ∧
      (name.toList.drop base.toList.length).all Char.isDigit = true := by
  constructor
  · rintro ⟨digits, hdigits, rfl⟩
    rw [String.toList_append, String.toList_ofList, List.drop_left, List.all_eq_true]
    exact ⟨List.prefix_append _ _, hdigits⟩
  · rintro ⟨⟨digits, hname⟩, hdigits⟩
    rw [← hname, List.drop_left, List.all_eq_true] at hdigits
    refine ⟨digits, hdigits, String.toList_injective ?_⟩
    rw [String.toList_append, String.toList_ofList, hname]

instance (base : String) : DecidablePred (IsNumbered base) :=
  fun _ => decidable_of_iff' _ isNumbered_iff

theorem isNumbered_withDigits (base : String) (digits : Nat → Fin 10) (count : Nat) :
    IsNumbered base (withDigits base digits count) :=
  ⟨firstDigits digits count, fun _ => isDigit_of_mem_firstDigits, rfl⟩

end DeviceName

namespace Document

/-- The names in use that consist of a given one and digits, each of them once. -/
def numberedNames (d : Document) (base : String) : List String :=
  (d.names.filter (IsNumbered base)).dedup

theorem mem_numberedNames {d : Document} {base name : String} :
    name ∈ d.numberedNames base ↔ name ∈ d.names ∧ IsNumbered base name := by
  rw [numberedNames, List.mem_dedup, List.mem_filter, decide_eq_true_iff]

theorem length_numberedNames_le (d : Document) (base : String) :
    (d.numberedNames base).length ≤ d.devices.length := by
  calc (d.numberedNames base).length
      ≤ (d.names.filter (IsNumbered base)).length := (List.dedup_sublist _).length_le
    _ ≤ d.names.length := List.length_filter_le _ _
    _ = d.devices.length := List.length_map _

theorem le_length_numberedNames {d : Document} {base : String} {digits : Nat → Fin 10} {count : Nat}
    (h : ∀ k < count, withDigits base digits k ∈ d.names) :
    count ≤ (d.numberedNames base).length := by
  have hsub : (List.range count).map (withDigits base digits) ⊆ d.numberedNames base := by
    intro name hname
    obtain ⟨k, hk, rfl⟩ := List.mem_map.mp hname
    exact mem_numberedNames.mpr ⟨h k (List.mem_range.mp hk), isNumbered_withDigits base digits k⟩
  have hnodup : ((List.range count).map (withDigits base digits)).Nodup :=
    List.nodup_range.map (withDigits_injective base digits)
  have hlength := (hnodup.subperm hsub).length_le
  rwa [List.length_map, List.length_range] at hlength

/-- The search for the name of a new device ends, and what it ends with is the name that the device
gets. It takes no more digits than there are names in use that consist of the wanted one and digits,
so never more than there are devices. It ends at the first candidate that is free, and uses up no
other digits. -/
theorem nameFor_settles (d : Document) (requested : String) (digits : Nat → Fin 10) :
    ∃ count, (∀ result, Settles d.hasName digits 0 (sanitize requested) result ↔
        result = (withDigits (sanitize requested) digits count, count)) ∧
      d.nameFor requested digits = (withDigits (sanitize requested) digits count, count) ∧
      count ≤ (d.numberedNames (sanitize requested)).length ∧
      (d.numberedNames (sanitize requested)).length ≤ d.devices.length ∧
      withDigits (sanitize requested) digits count ∉ d.names ∧
      (∀ k < count, withDigits (sanitize requested) digits k ∈ d.names) ∧
      ∀ now draws device d' r', d.issueDevice requested now ⟨draws, digits⟩ = .ok (device, d', r') →
        device.name = withDigits (sanitize requested) digits count ∧
          r'.digits = fun i => digits (i + count) := by
  obtain ⟨count, -, hname, hbefore, hfree⟩ := d.nameFor_spec requested digits
  have hends (result : String × Nat) : Settles d.hasName digits 0 (sanitize requested) result ↔
      result = (withDigits (sanitize requested) digits count, count) := by
    have hstops := @settles_iff d.hasName digits 0 count (sanitize requested) result
      (fun k hk => hasName_iff.mpr (hbefore k hk))
      (Bool.eq_false_iff.mpr fun h => hfree (hasName_iff.mp h))
    rwa [Nat.zero_add] at hstops
  refine ⟨count, hends, hname, le_length_numberedNames hbefore, d.length_numberedNames_le _, hfree,
    hbefore, ?_⟩
  intro now draws device d' r' h
  obtain ⟨fresh, -, rfl, -, rfl⟩ := issueDevice_ok_iff.mp h
  constructor
  · exact congrArg Prod.fst hname
  · simp only [hname]

/-- A television and a second one, whose name has a digit already. -/
def televisions : Document where
  devices := [⟨secret32 1, "tv", ⟨0, 0⟩⟩, ⟨secret32 2, "tv0", ⟨0, 0⟩⟩]

theorem nameFor_settles_televisions :
    Settles televisions.hasName (fun _ => 0) 0 "tv" ("tv00", 2) ∧
      2 ≤ (televisions.numberedNames "tv").length ∧ "tv0" ∈ televisions.names ∧
      ∃ device d' r', televisions.issueDevice "tv" ⟨5, 0⟩ ⟨[bytes32 3], fun _ => 0⟩ =
        .ok (device, d', r') ∧ device.name = "tv00" := by
  obtain ⟨count, hends, hname, hcount, -, -, hbefore, hissued⟩ :=
    televisions.nameFor_settles "tv" fun _ => 0
  have hsecond : televisions.nameFor "tv" (fun _ => 0) = ("tv00", 2) := by decide +kernel
  obtain ⟨htext, rfl⟩ := Prod.mk.inj (hsecond.symm.trans hname)
  have hissue : televisions.issueDevice "tv" ⟨5, 0⟩ ⟨[bytes32 3], fun _ => 0⟩ =
      .ok (_, _, _) := rfl
  refine ⟨(hends _).mpr (by rw [htext]), hcount, hbefore 1 (by decide), _, _, _, hissue, ?_⟩
  rw [(hissued _ _ _ _ _ hissue).1, htext]

end Document

end Credentials
