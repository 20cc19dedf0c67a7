import Credentials.Proofs.DeviceChanges
import Mathlib.Data.List.Perm.Subperm

/-! Device names stay apart and stay within letters, digits and underscores. A new device gets the
name it asks for, or that name with digits after it: each device can stand in the way of one
candidate only, so a free one is found before more digits are used than there are devices. -/

namespace Credentials

open Time (Instant)

namespace DeviceName

/-- Names are made of ASCII letters, digits and underscores, of one at least. -/
structure IsWellFormed (name : String) : Prop where
  nonempty : name ≠ ""
  characters : ∀ c ∈ name.toList, c.isAlphanum = true ∨ c = '_'

theorem isWellFormed_of_all {name : String} (h : name ≠ "")
    (hc : (name.toList.all fun c => c.isAlphanum || c == '_') = true) : IsWellFormed name := by
  refine ⟨h, fun c hmem => ?_⟩
  simpa using List.all_eq_true.mp hc c hmem

theorem isWellFormed_sanitize (requested : String) : IsWellFormed (sanitize requested) := by
  unfold sanitize
  by_cases he : requested.isEmpty = true
  · rw [if_pos he]
    exact isWellFormed_of_all (by decide) (by decide)
  · rw [if_neg he]
    constructor
    · intro h
      have hnil : requested.toList = [] := by simpa using congrArg String.toList h
      exact he (String.isEmpty_iff.mpr (String.toList_injective hnil))
    · intro c hc
      rw [String.toList_ofList] at hc
      obtain ⟨a, -, rfl⟩ := List.mem_map.mp hc
      by_cases ha : a.isAlphanum = true
      · exact .inl (by rw [if_pos ha, ha])
      · exact .inr (if_neg ha)

def firstDigits (digits : Nat → Fin 10) (count : Nat) : List Char :=
  (List.range count).map fun i => Char.ofNat (48 + digits i)

def withDigits (name : String) (digits : Nat → Fin 10) (count : Nat) : String :=
  name ++ String.ofList (firstDigits digits count)

theorem toList_withDigits (name : String) (digits : Nat → Fin 10) (count : Nat) :
    (withDigits name digits count).toList = name.toList ++ firstDigits digits count := by
  simp [withDigits]

@[simp] theorem withDigits_zero (name : String) (digits : Nat → Fin 10) :
    withDigits name digits 0 = name := by
  apply String.toList_injective
  simp [toList_withDigits, firstDigits]

theorem withDigits_push (name : String) (digits : Nat → Fin 10) (count : Nat) :
    withDigits (name.push (Char.ofNat (48 + digits 0))) (fun i => digits (i + 1)) count =
      withDigits name digits (count + 1) := by
  apply String.toList_injective
  simp [toList_withDigits, firstDigits, List.range_succ_eq_map, Function.comp_def]

theorem isDigit_of_mem_firstDigits {digits : Nat → Fin 10} {count : Nat} {c : Char}
    (h : c ∈ firstDigits digits count) : c.isDigit = true := by
  obtain ⟨i, -, rfl⟩ := List.mem_map.mp h
  generalize digits i = digit
  revert digit
  decide

/-- Candidates with different numbers of digits are of different lengths. -/
theorem withDigits_injective (name : String) (digits : Nat → Fin 10) :
    Function.Injective (withDigits name digits) := by
  intro j k h
  have hl := congrArg (fun s => s.toList.length) h
  simpa [toList_withDigits, firstDigits] using hl

theorem IsWellFormed.withDigits {name : String} (h : IsWellFormed name) (digits : Nat → Fin 10)
    (count : Nat) : IsWellFormed (withDigits name digits count) := by
  constructor
  · intro he
    have hnil := congrArg String.toList he
    rw [toList_withDigits] at hnil
    exact h.nonempty (String.toList_injective (List.append_eq_nil_iff.mp hnil).1)
  · intro c hc
    rw [toList_withDigits, List.mem_append] at hc
    rcases hc with hc | hc
    · exact h.characters c hc
    · have hdigit := isDigit_of_mem_firstDigits hc
      exact .inl (by simp [Char.isAlphanum, hdigit])

end DeviceName

open DeviceName

/-- The search stops at the first candidate that is free, or when its fuel is spent. -/
theorem freeName_spec (taken : String → Bool) (digits : Nat → Fin 10) (used : Nat) (name : String)
    (fuel : Nat) :
    ∃ count, count ≤ fuel ∧
      freeName taken digits used name fuel =
        (withDigits name (fun i => digits (i + used)) count, used + count) ∧
      (∀ k < count, taken (withDigits name (fun i => digits (i + used)) k) = true) ∧
      (count < fuel → taken (withDigits name (fun i => digits (i + used)) count) = false) := by
  induction fuel generalizing used name with
  | zero => exact ⟨0, Nat.le_refl _, by simp [freeName], nofun, nofun⟩
  | succ fuel ih =>
    by_cases ht : taken name = true
    · obtain ⟨count, hle, he, hbefore, hfree⟩ :=
        ih (used + 1) (name.push (Char.ofNat (48 + digits used)))
      have hpush (k : Nat) : withDigits (name.push (Char.ofNat (48 + digits used)))
          (fun i => digits (i + (used + 1))) k =
            withDigits name (fun i => digits (i + used)) (k + 1) := by
        rw [← withDigits_push]
        simp only [Nat.zero_add, Nat.add_right_comm, Nat.add_assoc]
      simp only [hpush] at he hbefore hfree
      refine ⟨count + 1, Nat.succ_le_succ hle, ?_, ?_, fun h => hfree (Nat.lt_of_succ_lt_succ h)⟩
      · rw [freeName, if_pos ht, he, Nat.add_right_comm, Nat.add_assoc]
      · rintro (_ | k) hk
        · simpa using ht
        · exact hbefore k (Nat.lt_of_succ_lt_succ hk)
    · refine ⟨0, Nat.zero_le _, by simp [freeName, ht], nofun, fun _ => ?_⟩
      simpa using ht

namespace Document

def names (d : Document) : List String := d.devices.map (·.name)

theorem hasName_iff {d : Document} {name : String} : d.hasName name = true ↔ name ∈ d.names := by
  simp [hasName, byName?, names]

theorem nameFor_spec (d : Document) (requested : String) (digits : Nat → Fin 10) :
    ∃ count, count ≤ d.devices.length ∧
      d.nameFor requested digits = (withDigits (sanitize requested) digits count, count) ∧
      (∀ k < count, withDigits (sanitize requested) digits k ∈ d.names) ∧
      withDigits (sanitize requested) digits count ∉ d.names := by
  obtain ⟨count, hle, he, hbefore, hfree⟩ :=
    freeName_spec d.hasName digits 0 (sanitize requested) d.devices.length
  simp only [Nat.add_zero, Nat.zero_add] at he hbefore hfree
  have hbefore' : ∀ k < count, withDigits (sanitize requested) digits k ∈ d.names :=
    fun k hk => hasName_iff.mp (hbefore k hk)
  refine ⟨count, hle, he, hbefore', fun hmem => ?_⟩
  -- otherwise there were more candidates in use than devices
  have hfull : count = d.devices.length := by
    by_contra hne
    have := hfree (Nat.lt_of_le_of_ne hle hne)
    rw [hasName_iff.mpr hmem] at this
    cases this
  have hsub : (List.range (count + 1)).map (withDigits (sanitize requested) digits) ⊆ d.names := by
    intro name hname
    obtain ⟨k, hk, rfl⟩ := List.mem_map.mp hname
    rcases Nat.lt_succ_iff_lt_or_eq.mp (List.mem_range.mp hk) with hk | rfl
    · exact hbefore' k hk
    · exact hmem
  have hnodup : ((List.range (count + 1)).map (withDigits (sanitize requested) digits)).Nodup :=
    List.nodup_range.map (withDigits_injective _ _)
  have hlength := (hnodup.subperm hsub).length_le
  rw [List.length_map, List.length_range, names, List.length_map] at hlength
  omega

theorem nameFor_not_mem (d : Document) (requested : String) (digits : Nat → Fin 10) :
    (d.nameFor requested digits).1 ∉ d.names := by
  obtain ⟨count, -, he, -, hfree⟩ := d.nameFor_spec requested digits
  rwa [he]

theorem nameFor_of_not_mem {d : Document} {requested : String} {digits : Nat → Fin 10}
    (h : sanitize requested ∉ d.names) :
    d.nameFor requested digits = (sanitize requested, 0) := by
  obtain ⟨count, -, he, hbefore, -⟩ := d.nameFor_spec requested digits
  cases count with
  | zero => simpa using he
  | succ count => exact absurd (by simpa using hbefore 0 (Nat.succ_pos _)) h

/-- Names are pairwise distinct and well formed. -/
structure Named (d : Document) : Prop where
  distinct : d.names.Nodup
  wellFormed : ∀ name ∈ d.names, IsWellFormed name

theorem names_mapTimes (f : Instant → Instant) (d : Document) : (d.mapTimes f).names = d.names := by
  simp [names, mapTimes, Device.mapTimes, Function.comp_def]

theorem names_withSecret (d : Document) (secret renewed : String) :
    (d.withSecret secret renewed).names = d.names := by
  unfold withSecret names
  induction d.devices with
  | nil => rfl
  | cons x devices ih =>
    rw [modifyFirst]
    split
    · rfl
    · rw [List.map_cons, ih, List.map_cons]

end Document

open Document

section

variable {settings : Settings} {now : Instant} {r : Randomness} {d d' : Document} {c : Command}
  {answer : Answer}

theorem Command.DeviceEffect.names (h : c.DeviceEffect now r d d' answer) :
    (∃ requested device, c.requestedName? = some requested ∧ answer = .device device ∧
      device.name = (d.nameFor requested r.digits).1 ∧ d'.names = d.names ++ [device.name]) ∨
    (c.requestedName? = none ∧ List.Sublist d'.names d.names) := by
  cases h with
  | added hreq _ hname _ hd =>
    exact .inl ⟨_, _, hreq, rfl, hname, by simp [Document.names, hd]⟩
  | removed _ _ hd =>
    refine .inr ⟨rfl, ?_⟩
    unfold Document.names
    rw [hd]
    exact (List.eraseP_sublist ..).map _
  | @renewed secret fresh _ _ _ hd =>
    refine .inr ⟨rfl, ?_⟩
    have hsame : d'.names = d.names := by
      rw [← names_withSecret d secret fresh]
      exact congrArg (List.map (·.name)) hd
    rw [hsame]
  | kept hk hd =>
    refine .inr ⟨?_, ?_⟩
    · cases c <;> first | rfl | cases hk
    · unfold Document.names
      rw [hd]

theorem Command.Effect.nodup_names (h : c.Effect settings now r d answer d') (hd : d.names.Nodup) :
    d'.names.Nodup := by
  rcases h.devices.names with ⟨requested, device, -, -, hname, hd'⟩ | ⟨-, hsub⟩
  · rw [hd', hname, ← List.concat_eq_append, List.nodup_concat]
    exact ⟨d.nameFor_not_mem requested r.digits, hd⟩
  · exact hd.sublist hsub

theorem Document.Named.effect (hd : d.Named) (h : c.Effect settings now r d answer d') :
    d'.Named := by
  refine ⟨h.nodup_names hd.distinct, fun name hmem => ?_⟩
  rcases h.devices.names with ⟨requested, device, -, -, hname, hd'⟩ | ⟨-, hsub⟩
  · rw [hd', List.mem_append, List.mem_singleton] at hmem
    rcases hmem with hmem | rfl
    · exact hd.wellFormed name hmem
    · obtain ⟨count, -, he, -⟩ := d.nameFor_spec requested r.digits
      rw [hname, he]
      exact (isWellFormed_sanitize requested).withDigits _ _
  · exact hd.wellFormed name (hsub.subset hmem)

theorem Document.Named.mapTimes (hd : d.Named) (f : Instant → Instant) : (d.mapTimes f).Named := by
  constructor
  · rw [names_mapTimes]
    exact hd.distinct
  · rw [names_mapTimes]
    exact hd.wellFormed

end

theorem Document.Named.after {start store : DocumentStore} {log : List Exchange} {d e : Document}
    (h : Run start log store) (hr : start.read Document.format = .ok d) (hd : d.Named)
    (he : store.read Document.format = .ok e) : e.Named :=
  h.keeps Document.Named.effect (fun f hd => hd.mapTimes f) hr hd he

/-- Along every run names stay pairwise distinct and well formed. A device that is made has the name
it was asked to have, with digits after it unless that name is free. -/
theorem Document.named_of_run {start store : DocumentStore} {log : List Exchange} {d e : Document}
    (h : Run start log store) (hr : start.read Document.format = .ok d) (hd : d.Named)
    (he : store.read Document.format = .ok e) :
    e.Named ∧ ∀ (c : Call) (device : Device), c.answer store = .ok (.device device) →
      ∃ command requested digits, c.operation = .command command ∧
        command.requestedName? = some requested ∧ (∀ a ∈ digits, Char.isDigit a = true) ∧
        device.name = sanitize requested ++ String.ofList digits ∧
        (sanitize requested ∉ e.names → device.name = sanitize requested) ∧
        ∀ e', (c.after store).read Document.format = .ok e' → e'.names = e.names ++ [device.name] := by
  refine ⟨hd.after h hr he, fun c device hanswer => ?_⟩
  obtain ⟨command, hop⟩ : ∃ command, c.operation = .command command := by
    cases hop : c.operation with
    | command command => exact ⟨command, rfl⟩
    | query q =>
      rw [Call.answer_query hop he] at hanswer
      cases q <;> cases hanswer
  obtain ⟨d₁, d', hc⟩ := Call.commits_of_ok hop hanswer
  obtain rfl := Except.ok.inj (he.symm.trans hc.read)
  rcases hc.effect.devices.names with ⟨requested, _, hreq, hdevice, hname, hnames⟩ | ⟨hnone, -⟩
  · obtain rfl := Answer.device.inj hdevice
    obtain ⟨count, -, hfor, -⟩ := e.nameFor_spec requested c.randomness.digits
    refine ⟨command, requested, firstDigits c.randomness.digits count, hop, hreq,
      fun _ => isDigit_of_mem_firstDigits, ?_, fun hfree => ?_, fun e' he' => ?_⟩
    · rw [hname, hfor, withDigits]
    · rw [hname, nameFor_of_not_mem hfree]
    · rw [(hc.read_after he').1, names_mapTimes, hnames]
  · obtain ⟨requested, hreq⟩ := hc.effect.exists_requestedName
    cases hnone.symm.trans hreq

def television : Document := ⟨[⟨secret32 1, "tv", ⟨0, 0⟩⟩], none, none⟩

theorem named_television : television.Named := by
  refine ⟨by decide, fun name hname => ?_⟩
  obtain rfl : name = "tv" := by simpa [television, Document.names] using hname
  exact isWellFormed_of_all (by decide) (by decide)

/-- The name is taken, so the second television gets a digit. -/
def secondTelevision : Call := .plain 5 [bytes32 2] (.createDevice "tv")

theorem Document.named_of_run_secondTelevision :
    ∃ e device, (secondTelevision.after (.memory television)).read Document.format = .ok e ∧
      e.Named ∧ secondTelevision.answer (.memory television) = .ok (.device device) ∧
      device.name = "tv0" ∧ e.names = ["tv"] ++ [device.name] := by
  have hrun : Run (.memory television) _ _ := .snoc secondTelevision .nil
  obtain ⟨hnamed, -⟩ := named_of_run hrun rfl named_television rfl
  have hstart : Run (.memory television) [] (.memory television) := .nil
  obtain ⟨-, hmade⟩ := named_of_run hstart rfl named_television rfl
  obtain ⟨_, _, _, -, -, -, -, -, hnames⟩ := hmade secondTelevision _ rfl
  exact ⟨_, _, rfl, hnamed, rfl, by decide +kernel, hnames _ rfl⟩

end Credentials
