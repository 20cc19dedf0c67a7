import Credentials.Proofs.DeviceNames
import Credentials.Proofs.Failures
import Mathlib.Logic.Function.Basic

/-! The devices as a finite map from secrets to holders. Each command that is answered is one step of
that map, every query reads it, and nothing else changes it: no device is revoked, doubled or renamed
on the way. -/

namespace Credentials

open Time (Instant)

theorem filter_key_eq {α : Type} {key : α → String} {l : List α} (h : (l.map key).Nodup)
    (k : String) : (l.filter fun x => key x == k) = (l.find? fun x => key x == k).toList := by
  induction l with
  | nil => rfl
  | cons x l ih =>
    rw [List.map_cons, List.nodup_cons] at h
    by_cases hx : key x = k
    · have hnone : (l.filter fun y => key y == k) = [] := by
        rw [List.filter_eq_nil_iff]
        intro y hy hk
        rw [beq_iff_eq] at hk
        exact h.1 (hx.trans hk.symm ▸ List.mem_map_of_mem hy)
      simp [hx, hnone]
    · simp [hx, ih h.2]

theorem find_key_iff {α : Type} {key : α → String} {l : List α} (h : (l.map key).Nodup)
    {k : String} {x : α} : (l.find? fun y => key y == k) = some x ↔ x ∈ l ∧ key x = k := by
  rw [← Option.mem_toList, ← filter_key_eq h, List.mem_filter, beq_iff_eq]

/-- Whom a secret stands for: the name and time of creation of the device that has it. -/
structure Holder where
  name : String
  createdAt : Instant
  deriving DecidableEq, Repr

def Device.holder (x : Device) : Holder := ⟨x.name, x.createdAt⟩

@[simp] theorem Device.holder_name (x : Device) : x.holder.name = x.name := rfl

abbrev Register := String → Option Holder

/-- The entries of some devices, of two with the same secret that of the first. -/
def registerOf : List Device → Register
  | [] => fun _ => none
  | x :: devices => Function.update (registerOf devices) x.secret (some x.holder)

def Document.register (d : Document) : Register := registerOf d.devices

theorem registerOf_apply (devices : List Device) (secret : String) :
    registerOf devices secret = (devices.find? (·.secret == secret)).map Device.holder := by
  induction devices with
  | nil => rfl
  | cons x devices ih =>
    by_cases h : x.secret = secret
    · subst h
      simp [registerOf]
    · rw [registerOf, Function.update_of_ne (Ne.symm h), ih, List.find?_cons_of_neg (by simpa using h)]

theorem registerOf_eq_none_iff {devices : List Device} {secret : String} :
    registerOf devices secret = none ↔ secret ∉ devices.map (·.secret) := by
  simp [registerOf_apply]

theorem registerOf_eq_some_iff {devices : List Device} {secret : String} {holder : Holder}
    (h : (devices.map (·.secret)).Nodup) :
    registerOf devices secret = some holder ↔
      ∃ x ∈ devices, x.secret = secret ∧ x.holder = holder := by
  rw [registerOf_apply, Option.map_eq_some_iff]
  simp only [find_key_iff h, and_assoc]

theorem update_registerOf_none {devices : List Device} {secret : String}
    (h : secret ∉ devices.map (·.secret)) :
    Function.update (registerOf devices) secret none = registerOf devices :=
  Function.update_eq_self_iff.mpr (registerOf_eq_none_iff.mpr h).symm

theorem registerOf_append {devices : List Device} {x : Device}
    (h : x.secret ∉ devices.map (·.secret)) :
    registerOf (devices ++ [x]) =
      Function.update (registerOf devices) x.secret (some x.holder) := by
  induction devices with
  | nil => rfl
  | cons y devices ih =>
    rw [List.map_cons, List.mem_cons, not_or] at h
    rw [List.cons_append, registerOf, ih h.2, registerOf, Function.update_comm h.1]

/-- Taking a device away takes its entry away, and a first device of a name is taken away alone. -/
theorem registerOf_eraseP {devices : List Device} {name : String} {x : Device}
    (h : (devices.map (·.secret)).Nodup) (hx : devices.find? (·.name == name) = some x) :
    registerOf (devices.eraseP (·.name == name)) =
      Function.update (registerOf devices) x.secret none := by
  induction devices with
  | nil => cases hx
  | cons y devices ih =>
    rw [List.map_cons, List.nodup_cons] at h
    by_cases hy : y.name = name
    · obtain rfl : y = x := by simpa [hy] using hx
      rw [List.eraseP_cons_of_pos (by simpa using hy), registerOf, Function.update_idem,
        update_registerOf_none h.1]
    · rw [List.find?_cons_of_neg (by simpa using hy)] at hx
      have hne : y.secret ≠ x.secret := fun he =>
        h.1 (he ▸ List.mem_map_of_mem (List.mem_of_find?_eq_some hx))
      rw [List.eraseP_cons_of_neg (by simpa using hy), registerOf, ih h.2 hx, registerOf,
        Function.update_comm hne]

theorem registerOf_modifyFirst {devices : List Device} {secret fresh : String} {x : Device}
    (h : (devices.map (·.secret)).Nodup) (hfresh : fresh ∉ devices.map (·.secret))
    (hx : devices.find? (·.secret == secret) = some x) :
    registerOf (Document.modifyFirst (·.secret == secret) (fun y => { y with secret := fresh }) devices) =
      Function.update (Function.update (registerOf devices) secret none) fresh (some x.holder) := by
  induction devices with
  | nil => cases hx
  | cons y devices ih =>
    rw [List.map_cons, List.nodup_cons] at h
    rw [List.map_cons, List.mem_cons, not_or] at hfresh
    by_cases hy : y.secret = secret
    · subst hy
      obtain rfl : y = x := by simpa using hx
      rw [Document.modifyFirst, if_pos (by simp), registerOf, registerOf, Function.update_idem,
        update_registerOf_none h.1]
      rfl
    · rw [List.find?_cons_of_neg (by simpa using hy)] at hx
      rw [Document.modifyFirst, if_neg (by simpa using hy), registerOf, ih h.2 hfresh.2 hx, registerOf,
        Function.update_comm hfresh.1, Function.update_comm (Ne.symm hy)]

namespace Register

/-- What a command that is answered makes of a register: one entry comes, moves or goes, or all
stays. -/
inductive Step (now : Instant) (m : Register) : Command → Answer → Register → Prop
  | mint {c : Command} {requested : String} {device : Device} :
      c.requestedName? = some requested → device.createdAt = now → m device.secret = none →
      Step now m c (.device device) (Function.update m device.secret (some ⟨device.name, now⟩))
  | rotate {secret fresh : String} {holder : Holder} :
      m secret = some holder → m fresh = none →
      Step now m (.rotateDevice secret) (.secret fresh)
        (Function.update (Function.update m secret none) fresh (some holder))
  | delete {name caller secret : String} {holder : Holder} :
      m secret = some holder → holder.name = name → secret ≠ caller →
      Step now m (.deleteDevice name caller) .done (Function.update m secret none)
  | keep {c : Command} {answer : Answer} : c.keepsDevices = true → Step now m c answer m

def IsNamed (m : Register) : Prop :=
  ∀ secret secret' holder holder', m secret = some holder → m secret' = some holder' →
    holder.name = holder'.name → secret = secret'

/-- Every query about devices is answered from the register. -/
structure IsRead (m : Register) (store : DocumentStore) : Prop where
  isValid : ∀ (c : Call) (secret : String), c.operation = .query (.isValid secret) →
    c.answer store = .ok (.truth (m secret).isSome)
  nameOf : ∀ (c : Call) (secret : String), c.operation = .query (.nameOf secret) →
    c.answer store = .ok (.name ((m secret).map (·.name)))
  deviceByName : ∀ (c : Call) (name : String), c.operation = .query (.deviceByName name) →
    ∃ found, c.answer store = .ok (.info found) ∧ ∀ info, found = some info ↔
      ∃ secret holder, m secret = some holder ∧ holder.name = name ∧
        info = ⟨holder.name, holder.createdAt, false⟩
  devices : ∀ (c : Call) (caller : Option String), c.operation = .query (.devices caller) →
    ∃ infos, c.answer store = .ok (.infos infos) ∧ (infos.map (·.name)).Nodup ∧
      (∀ info, info ∈ infos ↔ ∃ secret holder, m secret = some holder ∧
        info = ⟨holder.name, holder.createdAt, decide (caller = some secret)⟩) ∧
      infos.filter (·.isCaller) =
        ((caller.bind m).map fun holder => ⟨holder.name, holder.createdAt, true⟩).toList

end Register

section

variable {d d' : Document} {now : Instant} {r : Randomness} {command : Command} {answer : Answer}

theorem Command.DeviceEffect.register (h : command.DeviceEffect now r d d' answer)
    (hd : d.secrets.Nodup) : d.register.Step now command answer d'.register := by
  unfold Document.register
  cases h with
  | added hreq hfresh hname hnow hd' =>
    rw [hd', registerOf_append hfresh, Device.holder, hnow]
    exact .mint hreq hnow (registerOf_eq_none_iff.mpr hfresh)
  | @removed name caller device hfind hcaller hd' =>
    have hentry : registerOf d.devices device.secret = some device.holder :=
      (registerOf_eq_some_iff hd).mpr ⟨device, List.mem_of_find?_eq_some hfind, rfl, rfl⟩
    rw [hd', Document.withoutName, registerOf_eraseP hd hfind]
    exact .delete hentry (by simpa using List.find?_some hfind) hcaller
  | @renewed secret fresh device hfind hfresh hd' =>
    have hentry : registerOf d.devices secret = some device.holder := by
      rw [registerOf_apply]
      exact congrArg (Option.map Device.holder) hfind
    rw [hd', Document.withSecret, registerOf_modifyFirst hd hfresh hfind]
    exact .rotate hentry (registerOf_eq_none_iff.mpr hfresh)
  | kept hk hd' =>
    rw [hd']
    exact .keep hk

theorem Document.register_isNamed (hd : d.secrets.Nodup) (hn : d.names.Nodup) :
    d.register.IsNamed := by
  intro secret secret' holder holder' h h' hname
  obtain ⟨x, hx, rfl, rfl⟩ := (registerOf_eq_some_iff hd).mp h
  obtain ⟨y, hy, rfl, rfl⟩ := (registerOf_eq_some_iff hd).mp h'
  have hfound := (find_key_iff hn).mpr ⟨hx, rfl⟩
  have hfound' := (find_key_iff hn).mpr ⟨hy, (hname.symm : y.name = x.name)⟩
  rw [Option.some.inj (hfound.symm.trans hfound')]

theorem Document.deviceInfo_iff (hd : d.secrets.Nodup) (hn : d.names.Nodup) {name : String}
    {info : DeviceInfo} : d.deviceInfo? name = some info ↔
      ∃ secret holder, d.register secret = some holder ∧ holder.name = name ∧
        info = ⟨holder.name, holder.createdAt, false⟩ := by
  unfold Document.deviceInfo? Document.byName? Document.register
  simp only [Option.map_eq_some_iff, find_key_iff hn, registerOf_eq_some_iff hd]
  constructor
  · rintro ⟨x, ⟨hx, rfl⟩, rfl⟩
    exact ⟨x.secret, x.holder, ⟨x, hx, rfl, rfl⟩, rfl, rfl⟩
  · rintro ⟨_, _, ⟨x, hx, rfl, rfl⟩, rfl, rfl⟩
    exact ⟨x, ⟨hx, rfl⟩, rfl⟩

theorem isCaller_eq {caller : Option String} {secret : String} :
    caller.any (secret == ·) = decide (caller = some secret) := by
  cases caller with
  | none => rfl
  | some s =>
    rw [Option.any_some, Bool.eq_iff_iff, beq_iff_eq, decide_eq_true_iff, Option.some.injEq]
    exact eq_comm

theorem Document.mem_deviceInfos_iff (hd : d.secrets.Nodup) {caller : Option String}
    {info : DeviceInfo} : info ∈ d.deviceInfos caller ↔
      ∃ secret holder, d.register secret = some holder ∧
        info = ⟨holder.name, holder.createdAt, decide (caller = some secret)⟩ := by
  unfold Document.deviceInfos Document.register
  simp only [List.mem_map, registerOf_eq_some_iff hd, isCaller_eq]
  constructor
  · rintro ⟨x, hx, rfl⟩
    exact ⟨x.secret, x.holder, ⟨x, hx, rfl, rfl⟩, rfl⟩
  · rintro ⟨_, _, ⟨x, hx, rfl, rfl⟩, rfl⟩
    exact ⟨x, hx, rfl⟩

theorem Document.flagged_deviceInfos (hd : d.secrets.Nodup) (caller : Option String) :
    (d.deviceInfos caller).filter (·.isCaller) =
      ((caller.bind d.register).map fun holder => ⟨holder.name, holder.createdAt, true⟩).toList := by
  unfold Document.deviceInfos Document.register
  rw [List.filter_map]
  cases caller with
  | none =>
    simp
  | some secret =>
    have hflagged : (d.devices.filter ((·.isCaller) ∘ fun x : Device =>
        (⟨x.name, x.createdAt, (some secret).any (x.secret == ·)⟩ : DeviceInfo))) =
          (d.devices.find? (·.secret == secret)).toList := filter_key_eq hd secret
    rw [hflagged, Option.bind_some, registerOf_apply]
    cases hfind : d.devices.find? (·.secret == secret) with
    | none => rfl
    | some x =>
      have hx : x.secret = secret := by simpa using List.find?_some hfind
      simp [hx, Device.holder]

theorem Document.isRead_register (hd : d.secrets.Nodup) (hn : d.names.Nodup) {store : DocumentStore}
    (hr : store.read Document.format = .ok d) : d.register.IsRead store := by
  refine ⟨fun c secret hop => ?_, fun c secret hop => ?_, fun c name hop => ?_, fun c caller hop => ?_⟩
  · rw [Call.answer_query hop hr, Query.answer, Document.register, registerOf_apply,
      Option.isSome_map]
    rfl
  · rw [Call.answer_query hop hr, Query.answer, Document.register, registerOf_apply, Option.map_map]
    rfl
  · exact ⟨_, Call.answer_query hop hr, fun info => Document.deviceInfo_iff hd hn⟩
  · refine ⟨_, Call.answer_query hop hr, ?_, fun info => Document.mem_deviceInfos_iff hd,
      Document.flagged_deviceInfos hd caller⟩
    rw [Document.deviceInfos, List.map_map]
    exact hn

theorem Store.takes_memory (d : Document) : (Store.memory d).Takes Document.format :=
  fun copy => ⟨.memory copy, rfl⟩

theorem Call.Commits.after_memory {c : Call} {e : Document}
    (h : c.Commits (.memory e) command answer d d') : e = d ∧ c.after (.memory e) = .memory d' :=
  ⟨Except.ok.inj h.read, (Except.ok.inj h.put).symm⟩

theorem Call.exists_after_memory (c : Call) (d : Document) :
    ∃ d', c.after (.memory d) = .memory d' := by
  rcases c.commits_or_idle (.memory d) with ⟨_, _, _, d', h⟩ | ⟨hs, -⟩
  · exact ⟨d', h.after_memory.2⟩
  · exact ⟨d, hs⟩

theorem Run.exists_memory {store : DocumentStore} {log : List Exchange}
    (h : Run (.memory d) log store) : ∃ e, store = .memory e := by
  induction h with
  | nil => exact ⟨d, rfl⟩
  | snoc c h ih =>
    obtain ⟨e, rfl⟩ := ih
    exact c.exists_after_memory e

theorem Call.register_step {c : Call} (hd : d.secrets.Nodup)
    (hop : c.operation = .command command) (ha : c.answer (.memory d) = .ok answer)
    (hd' : c.after (.memory d) = .memory d') :
    d.register.Step c.now command answer d'.register := by
  obtain ⟨e, e', hc⟩ := Call.commits_of_ok hop ha
  obtain ⟨rfl, hafter⟩ := hc.after_memory
  obtain rfl : d' = e' := Store.memory.inj (hd'.symm.trans hafter)
  exact hc.effect.devices.register hd

/-- A secret is renewed exactly where it has an entry, as long as a free one can be drawn. -/
theorem Call.rotateDevice_ok_iff {c : Call} {secret : String}
    (hop : c.operation = .command (.rotateDevice secret)) :
    ((∃ answer, c.answer (.memory d) = .ok answer) ↔
      d.register secret ≠ none ∧ ∃ draw ∈ c.randomness.draws, d.holds (secretOf draw) = false) ∧
    (d.register secret = none → c.answer (.memory d) = .error (.refused .notFound)) := by
  have hentry : d.register secret = none ↔ d.bySecret? secret = none := by
    rw [Document.register, registerOf_apply, Option.map_eq_none_iff]
    rfl
  constructor
  · rw [ne_eq, hentry, ← ne_eq, Option.ne_none_iff_exists', ← exists_freshSecret_iff]
    constructor
    · rintro ⟨answer, ha⟩
      obtain ⟨e, d', hc⟩ := Call.commits_of_ok hop ha
      obtain rfl := hc.after_memory.1
      have heffect := hc.effect
      cases heffect with
      | rotateDevice hs hf => exact ⟨⟨_, hs⟩, _, hf⟩
    · rintro ⟨⟨device, hs⟩, fresh, hf⟩
      exact ⟨_, (Call.commits_of_effect hop rfl (Store.takes_memory d)
        (.rotateDevice hs hf)).answered⟩
  · intro hnone
    refine (Call.refused hop rfl rfl ?_).1
    simp [Transaction.map, Document.rotateDevice, hentry.mp hnone, Except.map]

end

/-- A store in memory whose devices have distinct secrets and names is, along every run, a finite map
from secrets to holders. Queries read it; a command that is answered is one of its steps, and
everything else leaves it alone. A secret is renewed exactly where it has an entry; that needs a draw
that makes a free secret. -/
theorem register_of_run {d : Document} {store : DocumentStore} {log : List Exchange}
    (hd : d.Distinct) (hn : d.names.Nodup) (h : Run (.memory d) log store) :
    ∃ e, store = .memory e ∧ e.register.IsNamed ∧ e.register.IsRead store ∧
      ∀ c : Call, ∃ e', c.after store = .memory e' ∧
        (∀ command answer, c.operation = .command command → c.answer store = .ok answer →
          e.register.Step c.now command answer e'.register) ∧
        (∀ failure, c.answer store = .error failure → e'.register = e.register) ∧
        (∀ query, c.operation = .query query → e'.register = e.register) ∧
        ∀ secret, c.operation = .command (.rotateDevice secret) →
          ((∃ answer, c.answer store = .ok answer) ↔ e.register secret ≠ none ∧
            ∃ draw ∈ c.randomness.draws, e.holds (secretOf draw) = false) ∧
          (e.register secret = none → c.answer store = .error (.refused .notFound)) := by
  obtain ⟨e, rfl⟩ := h.exists_memory
  have hsecrets : e.secrets.Nodup := (hd.after h rfl rfl).devices
  have hnames : e.names.Nodup :=
    h.keeps (P := fun d => d.names.Nodup) (fun hd h => h.nodup_names hd)
      (fun f hd => by rwa [Document.names_mapTimes]) rfl hn rfl
  refine ⟨e, rfl, Document.register_isNamed hsecrets hnames,
    Document.isRead_register hsecrets hnames rfl, fun c => ?_⟩
  obtain ⟨e', he'⟩ := c.exists_after_memory e
  have hsame (hs : c.after (.memory e) = .memory e) : e'.register = e.register :=
    congrArg Document.register (Store.memory.inj (he'.symm.trans hs))
  exact ⟨e', he', fun command answer hop ha => Call.register_step hsecrets hop ha he',
    fun failure hf => hsame (Call.after_error hf), fun q hop => hsame (Call.after_query hop),
    fun secret hop => Call.rotateDevice_ok_iff hop⟩

def renewed : Call := .plain 5 [bytes32 2] (.rotateDevice (secret32 1))

theorem register_of_run_renewed :
    ∃ d, renewed.after (.memory television) = .memory d ∧
      d.register = Function.update (Function.update television.register (secret32 1) none)
        (secret32 2) (some ⟨"tv", ⟨0, 0⟩⟩) := by
  have hd : television.Distinct := ⟨by decide, nofun⟩
  obtain ⟨e, he, -, -, hstep⟩ := register_of_run hd named_television.distinct .nil
  obtain rfl := Store.memory.inj he
  obtain ⟨d, hafter, hanswered, -⟩ := hstep renewed
  have hok : renewed.answer (.memory television) = .ok (.secret (secret32 2)) :=
    ok_of_toOption (by decide +kernel)
  have htelevision : television.register (secret32 1) = some ⟨"tv", ⟨0, 0⟩⟩ := by
    rw [television, Document.register, registerOf, Function.update_self, Device.holder]
  refine ⟨d, hafter, ?_⟩
  have hmoved := hanswered _ _ rfl hok
  generalize d.register = after at hmoved ⊢
  cases hmoved with
  | @rotate _ _ holder hentry hfree =>
    obtain rfl := Option.some.inj (htelevision.symm.trans hentry)
    rfl
  | keep hk => cases hk

end Credentials
