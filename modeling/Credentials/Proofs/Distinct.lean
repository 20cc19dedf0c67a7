import Credentials.Proofs.Runs

/-! No secret is handed out twice: device secrets are pairwise distinct and the pairing secret is
none of them, whatever is drawn. `Distinct.effect` is the step, every run follows from it. -/

namespace Credentials

open Time (Instant)

namespace Document

def secrets (d : Document) : List String := d.devices.map (·.secret)

structure Distinct (d : Document) : Prop where
  devices : d.secrets.Nodup
  pairing : ∀ pending, d.pairing = some pending → pending.secret ∉ d.secrets

@[simp] theorem hasDevice_iff {d : Document} {secret : String} :
    d.hasDevice secret = true ↔ secret ∈ d.secrets := by
  simp [hasDevice, bySecret?, secrets]

theorem hasDevice_eq_false_iff {d : Document} {secret : String} :
    d.hasDevice secret = false ↔ secret ∉ d.secrets := by
  rw [← hasDevice_iff, Bool.not_eq_true]

theorem holds_eq_false_iff {d : Document} {secret : String} :
    d.holds secret = false ↔
      secret ∉ d.secrets ∧ ∀ pending, d.pairing = some pending → pending.secret ≠ secret := by
  unfold holds
  rw [Bool.or_eq_false_iff, hasDevice_eq_false_iff]
  cases d.pairing <;> simp

@[simp] theorem withDevice_secrets (d : Document) (device : Device) :
    (d.withDevice device).secrets = d.secrets ++ [device.secret] := by
  simp [withDevice, secrets]

/-- A device whose secret was drawn freely keeps device secrets apart. -/
theorem nodup_withDevice {d : Document} {device : Device} (h : d.secrets.Nodup)
    (hd : device.secret ∉ d.secrets) : (d.withDevice device).secrets.Nodup := by
  rw [withDevice_secrets, List.nodup_append]
  refine ⟨h, by simp, fun a ha b hb he => ?_⟩
  exact hd (List.mem_singleton.mp hb ▸ he ▸ ha)

theorem mem_modifyFirst {s : String} {renewed : String} {x : Device} {l : List Device}
    (h : x ∈ modifyFirst (·.secret == s) (fun y => { y with secret := renewed }) l) :
    x ∈ l ∨ x.secret = renewed := by
  induction l with
  | nil => cases h
  | cons y l ih =>
    rw [modifyFirst] at h
    split at h
    · rcases List.mem_cons.mp h with rfl | h
      · exact Or.inr rfl
      · exact Or.inl (List.mem_cons_of_mem _ h)
    · rcases List.mem_cons.mp h with rfl | h
      · exact Or.inl (by simp)
      · exact (ih h).imp_left (List.mem_cons_of_mem _)

theorem nodup_modifyFirst {s renewed : String} {l : List Device}
    (h : (l.map (·.secret)).Nodup) (hr : renewed ∉ l.map (·.secret)) :
    ((modifyFirst (·.secret == s) (fun y => { y with secret := renewed }) l).map
      (·.secret)).Nodup := by
  induction l with
  | nil => exact List.nodup_nil
  | cons y l ih =>
    rw [List.map_cons, List.nodup_cons] at h
    rw [List.map_cons, List.mem_cons, not_or] at hr
    rw [modifyFirst]
    split
    · exact List.nodup_cons.mpr ⟨hr.2, h.2⟩
    · refine List.nodup_cons.mpr ⟨?_, ih h.2 hr.2⟩
      rintro hm
      obtain ⟨x, hx, he⟩ := List.mem_map.mp hm
      rcases mem_modifyFirst hx with hx | hx
      · exact h.1 (List.mem_map.mpr ⟨x, hx, he⟩)
      · exact hr.1 (hx.symm.trans he)

theorem mem_withSecret {d : Document} {s renewed t : String}
    (h : t ∈ (d.withSecret s renewed).secrets) : t ∈ d.secrets ∨ t = renewed := by
  obtain ⟨x, hx, rfl⟩ := List.mem_map.mp h
  exact (mem_modifyFirst hx).imp_left fun hx => List.mem_map.mpr ⟨x, hx, rfl⟩

theorem secrets_withoutName_sublist (d : Document) (name : String) :
    List.Sublist (d.withoutName name).secrets d.secrets :=
  (List.eraseP_sublist ..).map _

end Document

open Document

/-- Five commands draw secrets, and each checks what its result has to be kept apart from. -/
theorem Document.Distinct.effect {settings : Settings} {now : Instant} {r : Randomness}
    {d d' : Document} {c : Command} {answer : Answer} (hd : d.Distinct)
    (h : c.Effect settings now r d answer d') : d'.Distinct := by
  cases h with
  | createDevice hf =>
    obtain ⟨hs, hp⟩ := holds_eq_false_iff.mp (freshSecret_free hf)
    refine ⟨nodup_withDevice hd.devices hs, fun pending he => ?_⟩
    rw [withDevice_secrets, List.mem_append, List.mem_singleton, not_or]
    exact ⟨hd.pairing pending he, hp pending he⟩
  | @deleteDevice name _ _ hn hs =>
    have sub := secrets_withoutName_sublist d name
    exact ⟨hd.devices.sublist sub, fun pending he hm => hd.pairing pending he (sub.subset hm)⟩
  | rotateDevice hs hf =>
    obtain ⟨hn, hp⟩ := holds_eq_false_iff.mp (freshSecret_free hf)
    refine ⟨nodup_modifyFirst hd.devices hn, fun pending he hm => ?_⟩
    rcases mem_withSecret hm with hm | hm
    · exact hd.pairing pending he hm
    · exact hp pending he hm
  | generateRecovery => exact ⟨hd.devices, hd.pairing⟩
  | redeemRecovery hw hr hv hf =>
    obtain ⟨hs, hp⟩ := holds_eq_false_iff.mp (freshSecret_free hf)
    refine ⟨nodup_withDevice hd.devices hs, fun pending he hm => ?_⟩
    rcases List.mem_append.mp (withDevice_secrets d _ ▸ hm) with hm | hm
    · exact hd.pairing pending he hm
    · exact hp pending he (List.mem_singleton.mp hm)
  | generatePairing hf =>
    refine ⟨hd.devices, fun pending he => ?_⟩
    obtain rfl := Option.some.inj he
    exact hasDevice_eq_false_iff.mp (freshSecret_free hf)
  | invalidatePairing => exact ⟨hd.devices, nofun⟩
  | redeemPairing hr hl hf =>
    exact ⟨nodup_withDevice hd.devices (hasDevice_eq_false_iff.mp (freshSecret_free hf)), nofun⟩

theorem Document.secrets_mapTimes (f : Instant → Instant) (d : Document) :
    (d.mapTimes f).secrets = d.secrets := by
  simp [secrets, mapTimes, Device.mapTimes, Function.comp_def]

theorem Document.Distinct.mapTimes {d : Document} (hd : d.Distinct) (f : Instant → Instant) :
    (d.mapTimes f).Distinct := by
  refine ⟨by rw [secrets_mapTimes]; exact hd.devices, fun pending he => ?_⟩
  obtain ⟨kept, hk, rfl⟩ := Option.map_eq_some_iff.mp he
  rw [secrets_mapTimes]
  exact hd.pairing kept hk

theorem Document.Distinct.after {start store : DocumentStore} {log : List Exchange} {d e : Document}
    (h : Run start log store) (hr : start.read Document.format = .ok d) (hd : d.Distinct)
    (he : store.read Document.format = .ok e) : e.Distinct :=
  h.keeps Document.Distinct.effect (fun f hd => hd.mapTimes f) hr hd he

theorem Call.answer_isValid {c : Call} {store : DocumentStore} {d : Document} {secret : String}
    (hop : c.operation = .query (.isValid secret)) (hr : store.read Document.format = .ok d) :
    c.answer store = .ok (.truth (d.hasDevice secret)) := answer_query hop hr

/-- Each command keeps the secrets of a document apart, and so does every run of them: no secret
names two devices, and the one that is pending for pairing is not valid for any. -/
theorem Document.distinct_of_run {d : Document} (hd : d.Distinct) :
    (∀ (settings : Settings) (now : Instant) (r : Randomness) (command : Command) (answer : Answer)
      (d' : Document), (command.apply settings now r d).1 = .ok (answer, d') → d'.Distinct) ∧
    ∀ (start store : DocumentStore) (log : List Exchange) (e : Document),
      start.read Document.format = .ok d → Run start log store →
      store.read Document.format = .ok e →
        e.Distinct ∧
        (∀ (i j : Nat) (hi : i < e.devices.length) (hj : j < e.devices.length),
          e.devices[i].secret = e.devices[j].secret → i = j) ∧
        ∀ pending, e.pairing = some pending → ∀ c : Call,
          c.operation = .query (.isValid pending.secret) → c.answer store = .ok (.truth false) := by
  refine ⟨fun settings now r command answer d' h => hd.effect (Command.apply_ok_iff.mp h), ?_⟩
  intro start store log e hr h he
  have hdist := Document.Distinct.after h hr hd he
  refine ⟨hdist, fun i j hi hj hs => ?_, fun pending hp c hop => ?_⟩
  · have hn : (e.devices.map (·.secret)).Nodup := hdist.devices
    have hi' : i < (e.devices.map (·.secret)).length := by rwa [List.length_map]
    have hj' : j < (e.devices.map (·.secret)).length := by rwa [List.length_map]
    have hs' : (e.devices.map (·.secret))[i] = (e.devices.map (·.secret))[j] := by
      rw [List.getElem_map, List.getElem_map, hs]
    exact hn.getElem_inj_iff.mp hs'
  · rw [Call.answer_isValid hop he, hasDevice_eq_false_iff.mpr (hdist.pairing pending hp)]

def paired : Document := ⟨[⟨secret32 1, "tv", ⟨0, 0⟩⟩], none, some ⟨secret32 2, ⟨0, 0⟩, ⟨60, 0⟩⟩⟩

/-- The first draw makes the pending secret, the second that of the device. -/
def repeatedDraws : Call := .plain 0 [bytes32 2, bytes32 1, bytes32 3] (.createDevice "radio")

theorem Document.distinct_of_run_repeatedDraws :
    ∃ e, (repeatedDraws.after (.memory paired)).read Document.format = .ok e ∧
      e.secrets = [secret32 1, secret32 3] ∧ e.Distinct := by
  have hd : paired.Distinct := ⟨by decide, by rintro _ ⟨⟩; decide⟩
  have hrun : Run (.memory paired) _ _ := .snoc repeatedDraws .nil
  exact ⟨_, rfl, rfl, ((Document.distinct_of_run hd).2 _ _ _ _ rfl hrun rfl).1⟩

end Credentials
