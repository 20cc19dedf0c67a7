import Credentials.Proofs.Register

/-! What each command leaves alone. Every write puts the whole document back, yet a command changes
its own part only: devices, recovery or pairing. Along a run devices come last, go one at a time and
are not moved, renamed or dated anew. -/

namespace Credentials

open Time (Instant)

def Document.Appends (d e : Document) : Prop := ∃ device, e.devices = d.devices ++ [device]

namespace Command

def mints (c : Command) : Bool := c.requestedName?.isSome

def deletes : Command → Bool
  | deleteDevice .. => true
  | _ => false

/-- What is the same after a command that was answered, and how the rest differs. -/
def Frame (d e : Document) : Command → Prop
  | createDevice _ => e.recovery = d.recovery ∧ e.pairing = d.pairing ∧ d.Appends e
  | deleteDevice name _ =>
    e.recovery = d.recovery ∧ e.pairing = d.pairing ∧
      ∃ before device after, device.name = name ∧ d.devices = before ++ device :: after ∧
        e.devices = before ++ after
  | rotateDevice secret =>
    e.recovery = d.recovery ∧ e.pairing = d.pairing ∧
      ∃ before device after renewed, device.secret = secret ∧
        d.devices = before ++ device :: after ∧
        e.devices = before ++ { device with secret := renewed } :: after
  | generateRecovery .. => e.devices = d.devices ∧ e.pairing = d.pairing
  | redeemRecovery .. =>
    e.pairing = d.pairing ∧ d.Appends e ∧
      ∃ usesLeft, e.recovery = d.recovery.map fun x => { x with usesLeft := usesLeft }
  | generatePairing => e.devices = d.devices ∧ e.recovery = d.recovery
  | invalidatePairing => e.devices = d.devices ∧ e.recovery = d.recovery
  | redeemPairing .. => e.recovery = d.recovery ∧ d.Appends e

end Command

theorem exists_of_modifyFirst {α : Type} {p : α → Bool} {f : α → α} {l : List α} {x : α}
    (h : l.find? p = some x) : ∃ before after, l = before ++ x :: after ∧
      Document.modifyFirst p f l = before ++ f x :: after := by
  induction l with
  | nil => cases h
  | cons y l ih =>
    rw [Document.modifyFirst]
    by_cases hy : p y = true
    · rw [List.find?_cons_of_pos hy] at h
      obtain rfl := Option.some.inj h
      exact ⟨[], l, rfl, by rw [if_pos hy, List.nil_append]⟩
    · rw [List.find?_cons_of_neg hy] at h
      obtain ⟨before, after, rfl, hf⟩ := ih h
      exact ⟨y :: before, after, rfl, by rw [if_neg hy, hf, List.cons_append]⟩

section

variable {settings : Settings} {now : Instant} {r : Randomness} {d e : Document} {c : Command}
  {answer : Answer}

theorem Command.Effect.frame (h : c.Effect settings now r d answer e) : c.Frame d e := by
  cases h with
  | createDevice => exact ⟨rfl, rfl, _, rfl⟩
  | @deleteDevice name _ device hn hs =>
    refine ⟨rfl, rfl, ?_⟩
    have hmem : device ∈ d.devices := List.mem_of_find?_eq_some hn
    have hname := List.find?_some (p := fun y : Device => y.name == name) hn
    obtain ⟨x, before, after, -, hx, hd, he⟩ :=
      List.exists_of_eraseP (p := fun y : Device => y.name == name) hmem hname
    exact ⟨before, x, after, by simpa using hx, hd, he⟩
  | @rotateDevice secret device fresh hs hf =>
    refine ⟨rfl, rfl, ?_⟩
    have hsecret := List.find?_some (p := fun y : Device => y.secret == secret) hs
    obtain ⟨before, after, hd, he⟩ := exists_of_modifyFirst (f := fun x : Device =>
      { x with secret := fresh.secret }) hs
    exact ⟨before, device, after, fresh.secret, by simpa using hsecret, hd, he⟩
  | generateRecovery => exact ⟨rfl, rfl⟩
  | redeemRecovery hw hr hv hf => exact ⟨rfl, ⟨_, rfl⟩, _, by rw [hr]; rfl⟩
  | generatePairing => exact ⟨rfl, rfl⟩
  | invalidatePairing => exact ⟨rfl, rfl⟩
  | redeemPairing => exact ⟨rfl, _, rfl⟩

end

/-- Some devices after others: of the old ones some are kept, in their order and with their names and
times of creation, and the new ones stand behind them. -/
structure Carries (minted deleted : Nat) (old new : List Device) : Prop where
  order : ∃ kept added, List.Sublist kept (old.map Device.holder) ∧
    new.map Device.holder = kept ++ added ∧ added.length ≤ minted
  count : new.length + deleted = old.length + minted

namespace Carries

variable {old new newer : List Device} {m m' n n' : Nat}

theorem of_eq (h : new.map Device.holder = old.map Device.holder) : Carries 0 0 old new := by
  constructor
  · exact ⟨old.map Device.holder, [], List.Sublist.refl _, by rw [h, List.append_nil], Nat.le_refl 0⟩
  · simpa using congrArg List.length h

theorem append (device : Device) : Carries 1 0 old (old ++ [device]) := by
  constructor
  · exact ⟨old.map Device.holder, [device.holder], List.Sublist.refl _, List.map_append,
      Nat.le_refl 1⟩
  · rw [List.length_append, List.length_singleton]

theorem erase (before after : List Device) (device : Device) :
    Carries 0 1 (before ++ device :: after) (before ++ after) := by
  constructor
  · refine ⟨(before ++ after).map Device.holder, [], ?_, by rw [List.append_nil], Nat.le_refl 0⟩
    exact ((List.sublist_cons_self device after).append_left before).map Device.holder
  · simp only [List.length_append, List.length_cons]
    omega

theorem trans (h : Carries m n old new) (h' : Carries m' n' new newer) :
    Carries (m + m') (n + n') old newer := by
  obtain ⟨kept, added, hsub, hnew, hle⟩ := h.order
  obtain ⟨kept', added', hsub', hnewer, hle'⟩ := h'.order
  rw [hnew] at hsub'
  obtain ⟨keptOld, keptNew, rfl, hold, hadded⟩ := List.sublist_append_iff.mp hsub'
  constructor
  · refine ⟨keptOld, keptNew ++ added', hold.trans hsub, by rw [hnewer, List.append_assoc], ?_⟩
    have hlength := hadded.length_le
    rw [List.length_append]
    omega
  · have hcount := h.count
    have hcount' := h'.count
    omega

end Carries

theorem Command.Frame.carries {d e : Document} {c : Command} (h : c.Frame d e) :
    Carries (if c.mints then 1 else 0) (if c.deletes then 1 else 0) d.devices e.devices := by
  cases c with
  | createDevice =>
    obtain ⟨-, -, device, he⟩ := h
    rw [he]
    exact .append device
  | redeemRecovery =>
    obtain ⟨-, ⟨device, he⟩, -⟩ := h
    rw [he]
    exact .append device
  | redeemPairing =>
    obtain ⟨-, device, he⟩ := h
    rw [he]
    exact .append device
  | deleteDevice =>
    obtain ⟨-, -, before, device, after, -, hd, he⟩ := h
    rw [hd, he]
    exact .erase before after device
  | rotateDevice =>
    obtain ⟨-, -, before, device, after, renewed, -, hd, he⟩ := h
    apply Carries.of_eq
    rw [hd, he, List.map_append, List.map_append]
    rfl
  | generateRecovery | generatePairing | invalidatePairing => exact .of_eq (by rw [h.1])

theorem Call.carries (c : Call) (d : Document) :
    ∃ e, c.after (.memory d) = .memory e ∧
      Carries (if (c.exchange (.memory d)).succeeds Command.mints then 1 else 0)
        (if (c.exchange (.memory d)).succeeds Command.deletes then 1 else 0) d.devices e.devices := by
  rcases c.commits_or_idle (.memory d) with ⟨command, answer, d₁, e, h⟩ | ⟨hs, hf⟩
  · obtain ⟨rfl, hafter⟩ := h.after_memory
    rw [h.succeeds, h.succeeds]
    exact ⟨e, hafter, h.effect.frame.carries⟩
  · rw [hf, hf]
    exact ⟨d, hs, .of_eq rfl⟩

theorem Run.carries {d : Document} {store : DocumentStore} {log : List Exchange}
    (h : Run (.memory d) log store) : ∃ e, store = .memory e ∧
      Carries (log.countP fun x => x.succeeds Command.mints)
        (log.countP fun x => x.succeeds Command.deletes) d.devices e.devices := by
  induction h with
  | nil => exact ⟨d, rfl, .of_eq rfl⟩
  | snoc c h ih =>
    obtain ⟨e, rfl, he⟩ := ih
    obtain ⟨e', hafter, hstep⟩ := c.carries e
    refine ⟨e', hafter, ?_⟩
    rw [List.countP_append, List.countP_append, List.countP_singleton, List.countP_singleton]
    exact he.trans hstep

/-- Along every run in memory the devices of the start that are still there stand in their order,
with their names and times of creation, before those made since; there are as many as at the start
and were made, less those deleted. A call that is answered changes its own part of the document only,
a query or a failure nothing. -/
theorem frame_of_run {d : Document} {store : DocumentStore} {log : List Exchange}
    (h : Run (.memory d) log store) :
    ∃ e, store = .memory e ∧
      Carries (log.countP fun x => x.succeeds Command.mints)
        (log.countP fun x => x.succeeds Command.deletes) d.devices e.devices ∧
      ∀ c : Call, ∃ e', c.after store = .memory e' ∧
        (∀ command answer, c.operation = .command command → c.answer store = .ok answer →
          command.Frame e e') ∧
        (∀ failure, c.answer store = .error failure → e' = e) ∧
        ∀ query, c.operation = .query query → e' = e := by
  obtain ⟨e, rfl, hcarries⟩ := h.carries
  refine ⟨e, rfl, hcarries, fun c => ?_⟩
  obtain ⟨e', hafter⟩ := c.exists_after_memory e
  have hsame (hs : c.after (.memory e) = .memory e) : e' = e :=
    Store.memory.inj (hafter.symm.trans hs)
  refine ⟨e', hafter, ?_, fun failure hf => hsame (Call.after_error hf),
    fun query hop => hsame (Call.after_query hop)⟩
  intro command answer hop ha
  obtain ⟨d₁, d', hc⟩ := Call.commits_of_ok hop ha
  obtain ⟨rfl, hafter'⟩ := hc.after_memory
  obtain rfl : e' = d' := Store.memory.inj (hafter.symm.trans hafter')
  exact hc.effect.frame

/-- A radio is made and the television deleted: one device as before, and the pairing secret is still
pending. -/
theorem frame_of_run_replaced :
    let create := Call.plain 5 [bytes32 3] (.createDevice "radio")
    let delete := Call.plain 6 [] (.deleteDevice "tv" (secret32 3))
    ∃ e, delete.after (create.after (.memory paired)) = .memory e ∧ e.devices.length = 1 ∧
      e.pairing = paired.pairing := by
  intro create delete
  have hcreate : Run (.memory paired) [create.exchange (.memory paired)] _ := .snoc create .nil
  have hdelete : Run (.memory paired) [create.exchange (.memory paired),
      delete.exchange (create.after (.memory paired))] _ := .snoc delete hcreate
  have hdeleted : delete.answer (create.after (.memory paired)) = .ok .done :=
    ok_of_toOption (by decide +kernel)
  obtain ⟨e, he, hcarries, -⟩ := frame_of_run hdelete
  obtain ⟨e₁, he₁, -, hstep⟩ := frame_of_run hcreate
  obtain ⟨e₂, he₂, hanswered, -⟩ := hstep delete
  obtain rfl : e = e₂ := Store.memory.inj (he.symm.trans he₂)
  have hpairing := (hanswered _ _ rfl hdeleted).2.1
  obtain rfl : _ = e₁ := Store.memory.inj he₁
  refine ⟨e, he, ?_, hpairing⟩
  have hcount := hcarries.count
  have hmints : ([create.exchange (.memory paired),
      delete.exchange (create.after (.memory paired))].countP fun x => x.succeeds Command.mints) =
        1 := by decide +kernel
  have hdeletes : ([create.exchange (.memory paired),
      delete.exchange (create.after (.memory paired))].countP fun x => x.succeeds Command.deletes) =
        1 := by decide +kernel
  rw [hmints, hdeletes] at hcount
  exact Nat.add_right_cancel hcount

end Credentials
