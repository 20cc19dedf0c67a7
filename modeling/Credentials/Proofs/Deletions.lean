import Credentials.Proofs.Retention

/-! Deletions in the name of one caller. A caller never gets rid of itself, however often a name or
a secret occurs: only the first device of a name can go, and not while it has the secret of the
caller. -/

namespace Credentials

open Time (Instant)

namespace Document

variable {d e : Document} {name caller : String} {device : Device} {before after : List Device}

/-- The first device of a name, with the devices on either side of it. -/
structure FirstNamed (d : Document) (name : String) (before : List Device) (device : Device)
    (after : List Device) : Prop where
  devices : d.devices = before ++ device :: after
  named : device.name = name
  earlier : ∀ x ∈ before, x.name ≠ name

theorem byName?_eq_none_iff : d.byName? name = none ↔ ∀ x ∈ d.devices, x.name ≠ name := by
  simp only [byName?, List.find?_eq_none, beq_iff_eq, ne_eq]

theorem byName?_eq_some_iff :
    d.byName? name = some device ↔ ∃ before after, d.FirstNamed name before device after := by
  rw [byName?, List.find?_eq_some_iff_append]
  constructor
  · rintro ⟨hname, before, after, hd, hbefore⟩
    exact ⟨before, after, hd, by simpa using hname, by simpa using hbefore⟩
  · rintro ⟨before, after, hd, hname, hbefore⟩
    exact ⟨by simpa using hname, before, after, hd, by simpa using hbefore⟩

theorem FirstNamed.byName? (h : d.FirstNamed name before device after) :
    d.byName? name = some device := byName?_eq_some_iff.mpr ⟨before, after, h⟩

theorem FirstNamed.withoutName (h : d.FirstNamed name before device after) :
    d.withoutName name = { d with devices := before ++ after } := by
  have hbefore : ∀ x ∈ before, ¬ (x.name == name) = true := by simpa using h.earlier
  rw [Document.withoutName, h.devices, List.eraseP_append_right _ hbefore,
    List.eraseP_cons_of_pos (by simpa using h.named)]

theorem absent_or_firstNamed (d : Document) (name : String) :
    (∀ x ∈ d.devices, x.name ≠ name) ∨ ∃ before device after,
      d.FirstNamed name before device after := by
  cases h : d.byName? name with
  | none => exact .inl (byName?_eq_none_iff.mp h)
  | some device =>
    obtain ⟨before, after, hfirst⟩ := byName?_eq_some_iff.mp h
    exact .inr ⟨before, device, after, hfirst⟩

theorem FirstNamed.mem_of_secret (h : d.FirstNamed name before device after)
    (hne : device.secret ≠ caller) (hd : caller ∈ d.secrets) :
    caller ∈ (d.withoutName name).secrets := by
  obtain ⟨x, hx, rfl⟩ := List.mem_map.mp hd
  rw [h.devices, List.mem_append, List.mem_cons] at hx
  rw [h.withoutName]
  apply List.mem_map_of_mem
  rcases hx with hx | rfl | hx
  · exact List.mem_append_left _ hx
  · exact absurd rfl hne
  · exact List.mem_append_right _ hx

end Document

namespace Call

variable {c : Call} {store : DocumentStore} {d e : Document} {name caller : String}
  {device : Device} {before after : List Device}

section
variable (hop : c.operation = .command (.deleteDevice name caller))
  (hr : store.read Document.format = .ok d)
include hop hr

theorem deleteDevice_absent (hd : ∀ x ∈ d.devices, x.name ≠ name) :
    c.answer store = .error (.refused .notFound) ∧ c.after store = store := by
  refine refused hop hr rfl ?_
  simp [Transaction.map, Document.deleteDevice, Document.byName?_eq_none_iff.mpr hd, Except.map]

theorem deleteDevice_own (hd : d.FirstNamed name before device after)
    (hs : device.secret = caller) :
    c.answer store = .error (.refused .cannotDeleteCaller) ∧ c.after store = store := by
  refine refused hop hr rfl ?_
  simp [Transaction.map, Document.deleteDevice, hd.byName?, hs, Except.map]

theorem deleteDevice_other (ht : store.Takes Document.format)
    (hd : d.FirstNamed name before device after) (hs : device.secret ≠ caller) :
    c.Commits store (.deleteDevice name caller) .done d (d.withoutName name) :=
  commits_of_effect hop hr ht (.deleteDevice hd.byName? hs)

theorem deleteDevice_cases (ht : store.Takes Document.format) :
    c.after store = store ∨ ∃ before device after, d.FirstNamed name before device after ∧
      device.secret ≠ caller ∧
      c.Commits store (.deleteDevice name caller) .done d (d.withoutName name) := by
  rcases d.absent_or_firstNamed name with hd | ⟨before, device, after, hd⟩
  · exact .inl (deleteDevice_absent hop hr hd).2
  · by_cases hs : device.secret = caller
    · exact .inl (deleteDevice_own hop hr hd hs).2
    · exact .inr ⟨before, device, after, hd, hs, deleteDevice_other hop hr ht hd hs⟩

end

/-- What deleting a name for a caller comes to on a store that holds a document. -/
structure Deletes (c : Call) (store : DocumentStore) (d : Document) (name caller : String) :
    Prop where
  absent : c.answer store = .error (.refused .notFound) ↔ ∀ x ∈ d.devices, x.name ≠ name
  own : c.answer store = .error (.refused .cannotDeleteCaller) ↔
    ∃ before device after, d.FirstNamed name before device after ∧ device.secret = caller
  other : ∀ before device after, d.FirstNamed name before device after → device.secret ≠ caller →
    c.answer store = .ok .done ∧ ∀ e, (c.after store).read Document.format = .ok e ↔
      { d with devices := before ++ after }.EachTime store.Retains ∧
        e = { d with devices := before ++ after }.mapTimes store.keptTime
  refused : ∀ failure, c.answer store = .error failure → c.after store = store

theorem deletes (hop : c.operation = .command (.deleteDevice name caller))
    (hr : store.read Document.format = .ok d) (ht : store.Takes Document.format) :
    c.Deletes store d name caller where
  absent := by
    refine ⟨fun ha => ?_, fun hd => (deleteDevice_absent hop hr hd).1⟩
    rcases d.absent_or_firstNamed name with hd | ⟨before, device, after, hd⟩
    · exact hd
    · by_cases hs : device.secret = caller
      · rw [(deleteDevice_own hop hr hd hs).1] at ha
        cases ha
      · rw [(deleteDevice_other hop hr ht hd hs).answered] at ha
        cases ha
  own := by
    refine ⟨fun ha => ?_, fun ⟨_, _, _, hd, hs⟩ => (deleteDevice_own hop hr hd hs).1⟩
    rcases d.absent_or_firstNamed name with hd | ⟨before, device, after, hd⟩
    · rw [(deleteDevice_absent hop hr hd).1] at ha
      cases ha
    · refine ⟨before, device, after, hd, ?_⟩
      by_contra hs
      rw [(deleteDevice_other hop hr ht hd hs).answered] at ha
      cases ha
  other before device after hd hs := by
    have hc := deleteDevice_other hop hr ht hd hs
    rw [← hd.withoutName]
    exact ⟨hc.answered, fun e => hc.read_after_iff⟩
  refused _ := after_error

theorem deleteDevice_keeps (hop : c.operation = .command (.deleteDevice name caller))
    (hr : store.read Document.format = .ok d) (ht : store.Takes Document.format) :
    (c.after store).Takes Document.format ∧
      (d.EachTime store.Retains → ∃ e, (c.after store).read Document.format = .ok e ∧
        e.EachTime (c.after store).Retains) ∧
      ∀ e, (c.after store).read Document.format = .ok e → caller ∈ d.secrets →
        caller ∈ e.secrets := by
  rcases deleteDevice_cases hop hr ht with hsame | ⟨before, device, after, hd, hs, hc⟩
  · rw [hsame]
    refine ⟨ht, fun hd => ⟨d, hr, hd⟩, fun e he => ?_⟩
    obtain rfl := Except.ok.inj (hr.symm.trans he)
    exact id
  · refine ⟨hc.takes_after, fun htimes => ?_, fun e he hmem => ?_⟩
    · have hleft := htimes.withoutName name
      refine ⟨_, hc.read_after_iff.mpr ⟨hleft, rfl⟩, ?_⟩
      rw [hc.retains_after, Document.eachTime_mapTimes_iff]
      exact hleft.imp fun _ => Store.retains_keptTime
    · obtain ⟨-, rfl⟩ := hc.read_after_iff.mp he
      rw [Document.secrets_mapTimes]
      exact hd.mem_of_secret hs hmem

end Call

section

variable {start store : DocumentStore} {log : List Exchange} {d e : Document} {caller : String}

def Exchange.IsDeletion (caller : String) (x : Exchange) : Prop :=
  ∃ name, x.call.operation = .command (.deleteDevice name caller)

theorem Run.keeps_caller (h : Run start log store) (hr : start.read Document.format = .ok d)
    (ht : start.Takes Document.format) (hlog : ∀ x ∈ log, x.IsDeletion caller)
    (he : store.read Document.format = .ok e) :
    store.Takes Document.format ∧ (caller ∈ d.secrets → caller ∈ e.secrets) := by
  refine h.induct_read (P := fun log store e => (∀ x ∈ log, x.IsDeletion caller) →
    store.Takes Document.format ∧ (caller ∈ d.secrets → caller ∈ e.secrets)) he ?_ ?_ hlog
  · intro d' hr' _
    obtain rfl := Except.ok.inj (hr.symm.trans hr')
    exact ⟨ht, id⟩
  · intro log store c d' e ih hr' he hlog
    obtain ⟨hbefore, hlast⟩ := List.forall_mem_append.mp hlog
    obtain ⟨name, hop⟩ := List.forall_mem_singleton.mp hlast
    obtain ⟨htakes, hmem⟩ := ih hbefore
    obtain ⟨htakes', -, hkeeps⟩ := Call.deleteDevice_keeps hop hr' htakes
    exact ⟨htakes', fun hd => hkeeps e he (hmem hd)⟩

theorem Run.readable (h : Run start log store) (hr : start.read Document.format = .ok d)
    (ht : start.Takes Document.format) (hlog : ∀ x ∈ log, x.IsDeletion caller)
    (hd : d.EachTime start.Retains) :
    ∃ e, store.read Document.format = .ok e ∧ e.EachTime store.Retains := by
  induction h with
  | nil => exact ⟨d, hr, hd⟩
  | @snoc log store c h ih =>
    obtain ⟨hbefore, hlast⟩ := List.forall_mem_append.mp hlog
    obtain ⟨name, hop⟩ := List.forall_mem_singleton.mp hlast
    obtain ⟨e, he, htimes⟩ := ih hbefore
    obtain ⟨htakes, -⟩ := h.keeps_caller hr ht hbefore he
    exact (Call.deleteDevice_keeps hop he htakes).2.1 htimes

/-- Deletions for one caller, as many as there may be and of whatever names, on a document that may
have names and secrets several times: each takes away the first device of its name, and that one
only, unless no device has the name or the first that has it holds the secret of the caller. So what
the caller holds stays held, and it never deletes the last device. Only a file can become unreadable
on the way, by a time that it does not read again. -/
theorem deletions_spare_caller (hrun : Run start log store) (hname : start.HasName)
    (hread : start.read Document.format = .ok d) (hlog : ∀ x ∈ log, x.IsDeletion caller) :
    (d.EachTime start.Retains → ∃ e, store.read Document.format = .ok e) ∧
      ∀ e, store.read Document.format = .ok e →
        (∀ (c : Call) (name : String), c.operation = .command (.deleteDevice name caller) →
          c.Deletes store e name caller) ∧
        (caller ∈ d.secrets → caller ∈ e.secrets ∧ e.devices ≠ []) := by
  have htakes := (Store.ready_of_read hname hread).takes
  constructor
  · intro hd
    obtain ⟨e, he, -⟩ := hrun.readable hread htakes hlog hd
    exact ⟨e, he⟩
  · intro e he
    obtain ⟨htakes', hkeeps⟩ := hrun.keeps_caller hread htakes hlog he
    refine ⟨fun c name hop => c.deletes hop he htakes', fun hd => ⟨hkeeps hd, ?_⟩⟩
    intro hnone
    have hmem := hkeeps hd
    rw [Document.secrets, hnone] at hmem
    cases hmem

end

/-- Two devices of one name, and two of one secret. -/
def doubled : Document where
  devices := [⟨"AQ", "tv", ⟨0, 0⟩⟩, ⟨"Ag", "tv", ⟨1, 0⟩⟩, ⟨"AQ", "radio", ⟨2, 0⟩⟩]

/-- Whoever holds the secret of the second television deletes the first, and then nothing more. -/
theorem deletions_spare_caller_doubled :
    let delete := Call.plain 5 [] (.deleteDevice "tv" "Ag")
    let left : Document := { devices := doubled.devices.tail }
    delete.after (.memory doubled) = .memory left ∧
      delete.answer (.memory left) = .error (.refused .cannotDeleteCaller) ∧
        "Ag" ∈ left.secrets := by
  intro delete left
  have hrun : Run (.memory doubled) [delete.exchange (.memory doubled)] _ := .snoc delete .nil
  have hlog : ∀ x ∈ [delete.exchange (.memory doubled)], x.IsDeletion "Ag" :=
    List.forall_mem_singleton.mpr ⟨"tv", rfl⟩
  have hspares := deletions_spare_caller hrun trivial rfl hlog
  have hafter : delete.after (.memory doubled) = .memory left := rfl
  rw [hafter] at hspares
  obtain ⟨e, he⟩ := hspares.1 (Store.retains_memory doubled doubled)
  obtain rfl : left = e := Except.ok.inj he
  obtain ⟨hdeletes, hheld⟩ := hspares.2 left he
  have hfirst : left.FirstNamed "tv" [] ⟨"Ag", "tv", ⟨1, 0⟩⟩ [⟨"AQ", "radio", ⟨2, 0⟩⟩] :=
    ⟨rfl, rfl, nofun⟩
  refine ⟨hafter, (hdeletes delete "tv" rfl).own.mpr ⟨_, _, _, hfirst, rfl⟩, ?_⟩
  exact (hheld (by decide)).1

end Credentials
