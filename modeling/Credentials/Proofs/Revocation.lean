import Credentials.Proofs.HandedOut
import Credentials.Proofs.Register
import Credentials.Proofs.SecretText

/-! A secret that was taken back stays so. The document keeps no list of such secrets: what a run
accepts was accepted at its start or drawn on the way, so a revoked secret could come back only from
a draw, and different draws make different secrets. -/

namespace Credentials

open Time (Instant)

def Randomness.used (r left : Randomness) : Draws := r.draws.take (r.draws.length - left.draws.length)

namespace Call

def left (c : Call) (store : DocumentStore) : Randomness :=
  (c.operation.run c.settings c.now store c.randomness).2.2

/-- The draws of 32 bytes that a call uses up. What a recovery phrase is made of is shorter. -/
def secretDraws (c : Call) (store : DocumentStore) : Draws :=
  match c.operation with
  | .command (.generateRecovery ..) => []
  | _ => c.randomness.used (c.left store)

end Call

/-- The draws of 32 bytes that calls on a store, one after the other, use up. -/
def secretDraws (store : DocumentStore) : List Call → Draws
  | [] => []
  | c :: calls => c.secretDraws store ++ secretDraws (c.after store) calls

namespace Document

theorem holds_eq_true_iff {d : Document} {secret : String} :
    d.holds secret = true ↔
      secret ∈ d.secrets ∨ ∃ pending, d.pairing = some pending ∧ pending.secret = secret := by
  rw [holds, Bool.or_eq_true, hasDevice_iff, Option.any_eq_true]
  simp only [beq_iff_eq]

theorem holds_mapTimes (f : Instant → Instant) (d : Document) (secret : String) :
    (d.mapTimes f).holds secret = d.holds secret := by
  rw [Bool.eq_iff_iff, holds_eq_true_iff, holds_eq_true_iff, secrets_mapTimes]
  simp [mapTimes, Pairing.mapTimes]

/-- 32 bytes each, all different, and none that makes a secret of the document. -/
structure NewDraws (d : Document) (draws : Draws) : Prop where
  whole : ∀ draw ∈ draws, draw.length = 32
  distinct : draws.Nodup
  unheld : ∀ draw ∈ draws, d.holds (secretOf draw) = false

/-- What a document has or an earlier draw made no later draw makes again. -/
theorem NewDraws.not_mem_later {d : Document} {before later : Draws} {secret : String}
    (h : d.NewDraws (before ++ later))
    (hs : d.holds secret = true ∨ secret ∈ before.map secretOf) : secret ∉ later.map secretOf := by
  intro hmem
  obtain ⟨draw, hdraw, rfl⟩ := List.mem_map.mp hmem
  have hlater : draw ∈ before ++ later := List.mem_append_right _ hdraw
  rcases hs with hs | hs
  · rw [h.unheld draw hlater] at hs
    cases hs
  · obtain ⟨earlier, hearlier, he⟩ := List.mem_map.mp hs
    have hbefore : earlier ∈ before ++ later := List.mem_append_left _ hearlier
    have hsame := secretOf_inj (h.whole earlier hbefore) (h.whole draw hlater) he
    exact (List.nodup_append.mp h.distinct).2.2 earlier hearlier draw hdraw hsame

/-- The secrets that a command takes back when it is answered. -/
inductive Revokes (d : Document) : Command → String → Prop
  | rotated {secret : String} : Revokes d (.rotateDevice secret) secret
  | deleted {name caller : String} {device : Device} : d.byName? name = some device →
      Revokes d (.deleteDevice name caller) device.secret
  | redeemed {secret name : String} : Revokes d (.redeemPairing secret name) secret
  | invalidated {pending : Pairing} : d.pairing = some pending →
      Revokes d .invalidatePairing pending.secret
  | replaced {pending : Pairing} : d.pairing = some pending →
      Revokes d .generatePairing pending.secret

theorem not_mem_withSecret {d : Document} {secret renewed : String} {device : Device}
    (h : d.secrets.Nodup) (hfresh : renewed ∉ d.secrets) (hd : d.bySecret? secret = some device) :
    secret ∉ (d.withSecret secret renewed).secrets := by
  have hne : secret ≠ renewed := by
    rintro rfl
    have hhas : d.hasDevice secret = true := by rw [hasDevice, hd, Option.isSome_some]
    exact hfresh (hasDevice_iff.mp hhas)
  apply registerOf_eq_none_iff.mp
  rw [withSecret, registerOf_modifyFirst h hfresh hd, Function.update_of_ne hne,
    Function.update_self]

theorem not_mem_withoutName {d : Document} {name : String} {device : Device} (h : d.secrets.Nodup)
    (hd : d.byName? name = some device) : device.secret ∉ (d.withoutName name).secrets := by
  apply registerOf_eq_none_iff.mp
  rw [withoutName, registerOf_eraseP h hd, Function.update_self]

end Document

section

variable {settings : Settings} {now : Instant} {r r₁ r₂ : Randomness} {d d' : Document} {c : Command}
  {t : Transaction Answer} {answer : Answer} {secret : String}

theorem freshSecret_drawn {taken : String → Bool} {refused : List String} {draws : Draws}
    {fresh : FreshSecret} (h : freshSecret taken refused draws = some fresh) :
    fresh.secret ∈ (draws.take (draws.length - fresh.rest.length)).map secretOf := by
  obtain ⟨skipped, draw, rest, rfl, -, -, rfl⟩ := freshSecret_eq_some_iff.mp h
  have hused : (skipped ++ draw :: rest).take ((skipped ++ draw :: rest).length - rest.length) =
      skipped ++ [draw] := by
    rw [List.append_cons, List.length_append, Nat.add_sub_cancel, List.take_left]
  rw [hused]
  exact List.mem_map_of_mem (List.mem_append_right _ (List.mem_singleton_self draw))

theorem Command.secret_drawn (hp : c.prepare settings now r = (.ok t, r₁))
    (ht : t r₁ d = .ok (answer, d', r₂)) (hs : answer.secret? = some secret) :
    secret ∈ (r.used r₂).map secretOf := by
  cases c with
  | createDevice name =>
    cases hp
    obtain ⟨_, h, rfl⟩ := Transaction.map_ok_iff.mp ht
    obtain ⟨fresh, hf, rfl, -, rfl⟩ := Document.issueDevice_ok_iff.mp h
    obtain rfl := Option.some.inj hs
    exact freshSecret_drawn hf
  | deleteDevice name caller =>
    cases hp
    obtain ⟨_, -, rfl⟩ := Transaction.map_ok_iff.mp ht
    cases hs
  | rotateDevice secret =>
    cases hp
    obtain ⟨_, h, rfl⟩ := Transaction.map_ok_iff.mp ht
    obtain ⟨device, fresh, -, hf, rfl, -, rfl⟩ := Document.rotateDevice_ok_iff.mp h
    obtain rfl := Option.some.inj hs
    exact freshSecret_drawn hf
  | generateRecovery expiresAt uses =>
    have heffect := effect_of_prepare hp ht
    cases heffect
    cases hs
  | redeemRecovery phrase name =>
    simp only [prepare] at hp
    split at hp
    · cases hp
    · cases hp
      obtain ⟨_, h, rfl⟩ := Transaction.map_ok_iff.mp ht
      obtain ⟨credential, fresh, -, -, -, hf, rfl, -, rfl⟩ := Document.redeemRecovery_ok_iff.mp h
      obtain rfl := Option.some.inj hs
      exact freshSecret_drawn hf
  | generatePairing =>
    cases hp
    obtain ⟨_, h, rfl⟩ := Transaction.map_ok_iff.mp ht
    obtain ⟨fresh, hf, rfl, -, rfl⟩ := Document.generatePairing_ok_iff.mp h
    obtain rfl := Option.some.inj hs
    exact freshSecret_drawn hf
  | invalidatePairing =>
    cases hp
    obtain ⟨_, -, rfl⟩ := Transaction.map_ok_iff.mp ht
    cases hs
  | redeemPairing secret name =>
    cases hp
    obtain ⟨_, h, rfl⟩ := Transaction.map_ok_iff.mp ht
    obtain ⟨pending, fresh, -, -, -, hf, rfl, -, rfl⟩ := Document.redeemPairing_ok_iff.mp h
    obtain rfl := Option.some.inj hs
    exact freshSecret_drawn hf

theorem Command.Effect.holds (h : c.Effect settings now r d answer d')
    (hs : d'.holds secret = true) : d.holds secret = true ∨ answer.secret? = some secret := by
  rw [Document.holds_eq_true_iff] at hs ⊢
  cases h with
  | createDevice hf =>
    rw [Document.withDevice_secrets, List.mem_append, List.mem_singleton] at hs
    rcases hs with (hs | rfl) | hs
    · exact .inl (.inl hs)
    · exact .inr rfl
    · exact .inl (.inr hs)
  | @deleteDevice name _ _ hn hc =>
    have hsub := (Document.secrets_withoutName_sublist d name).subset
    exact .inl (hs.imp_left fun hs => hsub hs)
  | rotateDevice _ hf =>
    rcases hs with hs | hs
    · rcases Document.mem_withSecret hs with hs | rfl
      · exact .inl (.inl hs)
      · exact .inr rfl
    · exact .inl (.inr hs)
  | generateRecovery => exact .inl hs
  | redeemRecovery _ _ _ hf =>
    rcases hs with hs | hs
    · rcases List.mem_append.mp (Document.withDevice_secrets d _ ▸ hs) with hs | hs
      · exact .inl (.inl hs)
      · exact .inr (congrArg some (List.mem_singleton.mp hs).symm)
    · exact .inl (.inr hs)
  | generatePairing hf =>
    rcases hs with hs | ⟨pending, hp, rfl⟩
    · exact .inl (.inl hs)
    · obtain rfl := Option.some.inj hp
      exact .inr rfl
  | invalidatePairing =>
    rcases hs with hs | ⟨pending, hp, -⟩
    · exact .inl (.inl hs)
    · cases hp
  | redeemPairing _ _ hf =>
    rcases hs with hs | ⟨pending, hp, -⟩
    · rcases List.mem_append.mp (Document.withDevice_secrets d _ ▸ hs) with hs | hs
      · exact .inl (.inl hs)
      · exact .inr (congrArg some (List.mem_singleton.mp hs).symm)
    · cases hp

theorem Document.Revokes.holds (hrevokes : d.Revokes c secret)
    (h : c.Effect settings now r d answer d') : d.holds secret = true := by
  rw [holds_eq_true_iff]
  cases hrevokes with
  | rotated =>
    cases h with
    | rotateDevice hs hf => exact .inl (hasDevice_iff.mp (by rw [hasDevice, hs, Option.isSome_some]))
  | deleted hn => exact .inl (List.mem_map_of_mem (List.mem_of_find?_eq_some hn))
  | redeemed =>
    cases h with
    | redeemPairing hp hl hf => exact .inr ⟨_, hp, rfl⟩
  | invalidated hp | replaced hp => exact .inr ⟨_, hp, rfl⟩

/-- Where secrets are kept apart, one that a command revokes is left to nobody, unless the command
draws the same again. -/
theorem Document.Revokes.not_holds (hrevokes : d.Revokes c secret) (hd : d.Distinct)
    (h : c.Effect settings now r d answer d') (hnew : answer.secret? ≠ some secret) :
    d'.holds secret = false := by
  have hheld := hrevokes.holds h
  rw [holds_eq_true_iff] at hheld
  rw [holds_eq_false_iff]
  cases hrevokes with
  | rotated =>
    cases h with
    | rotateDevice hs hf =>
      have hfresh := (holds_eq_false_iff.mp (freshSecret_free hf)).1
      have hmem : secret ∈ d.secrets := hasDevice_iff.mp (by rw [hasDevice, hs, Option.isSome_some])
      refine ⟨not_mem_withSecret hd.devices hfresh hs, ?_⟩
      rintro pending hp rfl
      exact hd.pairing pending hp hmem
  | deleted hn =>
    cases h with
    | deleteDevice =>
      refine ⟨not_mem_withoutName hd.devices hn, ?_⟩
      intro pending hp he
      exact hd.pairing pending hp (he ▸ List.mem_map_of_mem (List.mem_of_find?_eq_some hn))
  | redeemed =>
    cases h with
    | redeemPairing hp hl hf =>
      constructor
      · intro hmem
        rcases List.mem_append.mp (withDevice_secrets d _ ▸ hmem) with hmem | hmem
        · exact hd.pairing _ hp hmem
        · exact hnew (congrArg some (List.mem_singleton.mp hmem).symm)
      · rintro _ ⟨⟩
  | invalidated hp =>
    cases h with
    | invalidatePairing =>
      refine ⟨hd.pairing _ hp, ?_⟩
      rintro _ ⟨⟩
  | replaced hp =>
    cases h with
    | generatePairing hf =>
      refine ⟨hd.pairing _ hp, ?_⟩
      rintro _ ⟨⟩ he
      exact hnew (congrArg some he)

end

section

variable {start middle store : DocumentStore} {before since log : List Exchange} {d e m : Document}
  {c : Call} {command : Command} {answer : Answer} {secret : String}

theorem Call.Commits.prepared (h : c.Commits store command answer d e) :
    ∃ t r, command.prepare c.settings c.now c.randomness = (.ok t, r) ∧
      t r d = .ok (answer, e, c.left store) := by
  obtain ⟨t, r, r', hp, ht⟩ := h.effect.prepared
  have hrun := run_prepared store hp
  simp only [h.read, ht, h.put] at hrun
  refine ⟨t, r, hp, ?_⟩
  rw [ht, left, h.operation, Operation.run, hrun]

theorem Call.Commits.secret_drawn (h : c.Commits store command answer d e)
    (hs : answer.secret? = some secret) : secret ∈ (c.secretDraws store).map secretOf := by
  obtain ⟨t, r, hp, ht⟩ := h.prepared
  have heffect := h.effect
  rw [secretDraws, h.operation]
  cases command with
  | generateRecovery =>
    cases heffect
    cases hs
  | _ => exact Command.secret_drawn hp ht hs

theorem Call.holds_after (hr : store.read Document.format = .ok d)
    (he : (c.after store).read Document.format = .ok e) (hs : e.holds secret = true) :
    d.holds secret = true ∨ secret ∈ (c.secretDraws store).map secretOf := by
  rcases read_step hr he with ⟨command, answer, d', hc, rfl⟩ | ⟨-, rfl, -⟩
  · rw [Document.holds_mapTimes] at hs
    exact (hc.effect.holds hs).imp_right hc.secret_drawn
  · exact .inl hs

theorem Run.secretDraws_append (h : Run start log store) (calls : List Call) :
    secretDraws start (log.map (·.call) ++ calls) =
      secretDraws start (log.map (·.call)) ++ secretDraws store calls := by
  induction h generalizing calls with
  | nil => rfl
  | @snoc log store c h ih =>
    rw [List.map_append, List.append_assoc, ih, ih, List.append_assoc]
    simp [secretDraws, Call.exchange]

theorem Run.exists_read (h : Run start log store) (he : store.read Document.format = .ok e) :
    ∃ d, start.read Document.format = .ok d :=
  h.induct_read (P := fun _ _ _ => ∃ d, start.read Document.format = .ok d) he
    (fun d hr => ⟨d, hr⟩) fun ih _ _ => ih

theorem Run.holds (h : Run start log store) (hr : start.read Document.format = .ok d)
    (he : store.read Document.format = .ok e) (hs : e.holds secret = true) :
    d.holds secret = true ∨ secret ∈ (secretDraws start (log.map (·.call))).map secretOf := by
  have hboth := h.induct_read (P := fun log store e => Run start log store ∧
    (e.holds secret = true → d.holds secret = true ∨
      secret ∈ (secretDraws start (log.map (·.call))).map secretOf)) he ?_ ?_
  · exact hboth.2 hs
  · intro d' hr'
    obtain rfl := Except.ok.inj (hr.symm.trans hr')
    exact ⟨.nil, .inl⟩
  · intro log store c d' e ih hr he
    refine ⟨ih.1.snoc c, fun hs => ?_⟩
    rw [List.map_append, ih.1.secretDraws_append, List.map_append, List.mem_append]
    rcases c.holds_after hr he hs with hs | hs
    · exact (ih.2 hs).imp_right .inl
    · refine .inr (.inr ?_)
      simpa [secretDraws, Call.exchange] using hs

/-- A secret that is accepted nowhere. -/
structure Store.Rejects (store : DocumentStore) (secret : String) : Prop where
  isValid : ∀ c : Call, c.operation = .query (.isValid secret) → c.answer store = .ok (.truth false)
  nameOf : ∀ c : Call, c.operation = .query (.nameOf secret) → c.answer store = .ok (.name none)
  rotate : ∀ c : Call, c.operation = .command (.rotateDevice secret) →
    c.answer store = .error (.refused .notFound)
  redeem : ∀ (c : Call) (name : String), c.operation = .command (.redeemPairing secret name) →
    c.answer store = .error (.refused .notFound)

theorem Store.rejects_of_not_holds (hr : store.read Document.format = .ok d)
    (hs : d.holds secret = false) : store.Rejects secret := by
  obtain ⟨hmem, hpairing⟩ := Document.holds_eq_false_iff.mp hs
  have hnone : d.bySecret? secret = none := by
    rw [← Option.not_isSome_iff_eq_none]
    exact fun hsome => hmem (Document.hasDevice_iff.mp hsome)
  refine ⟨fun c hop => ?_, fun c hop => ?_, fun c hop => ?_, fun c name hop => ?_⟩
  · rw [Call.answer_isValid hop hr, Document.hasDevice_eq_false_iff.mpr hmem]
  · rw [Call.answer_query hop hr, Query.answer, hnone, Option.map_none]
  · refine (Call.refused hop hr rfl ?_).1
    simp [Transaction.map, Document.rotateDevice, hnone, Except.map]
  · refine (Call.refused hop hr rfl ?_).1
    rw [Transaction.map, Document.redeemPairing_notFound fun pending hp _ => hpairing pending hp]
    rfl

/-- In a run whose draws are all different and make none of the secrets it starts with, what a call
takes back is accepted by no query and no command ever after: not while the store can be read, and
nothing at all is answered if it no longer can. -/
theorem revoked_for_good (hbefore : Run start before middle)
    (hsince : Run (c.after middle) since store) (hstart : start.read Document.format = .ok d)
    (hd : d.Distinct)
    (hdraws : d.NewDraws
      (secretDraws start (before.map (·.call) ++ c :: since.map (·.call))))
    (hmiddle : middle.read Document.format = .ok m) (hop : c.operation = .command command)
    (hok : c.answer middle = .ok answer) (hrevokes : m.Revokes command secret) :
    (∀ e, store.read Document.format = .ok e → store.Rejects secret) ∧
      ∀ cause, store.read Document.format = .error cause →
        ∀ later : Call, ∃ failure, later.answer store = .error failure := by
  refine ⟨fun e he => ?_, fun cause hcause later => Call.error_of_unreadable hcause⟩
  obtain ⟨m₁, m', hc⟩ := Call.commits_of_ok hop hok
  obtain rfl := Except.ok.inj (hmiddle.symm.trans hc.read)
  rw [hbefore.secretDraws_append, secretDraws] at hdraws
  -- what is revoked was held, so neither this call nor a later one draws it
  have hknown := hbefore.holds hstart hmiddle (hrevokes.holds hc.effect)
  have hlater := hdraws.not_mem_later hknown
  rw [List.map_append, List.mem_append, not_or] at hlater
  have hgone : m'.holds secret = false := by
    apply hrevokes.not_holds (hd.after hbefore hstart hmiddle) hc.effect
    exact fun hs => hlater.1 (hc.secret_drawn hs)
  apply Store.rejects_of_not_holds he
  obtain ⟨m'', hafter⟩ := hsince.exists_read he
  obtain ⟨rfl, -⟩ := hc.read_after hafter
  rw [← Bool.not_eq_true]
  intro hs
  rcases hsince.holds hafter he hs with hs | hs
  · rw [Document.holds_mapTimes, hgone] at hs
    cases hs
  · exact hlater.2 hs

end

/-- The television gets a new secret, and a radio is made after that. -/
theorem revoked_for_good_renewed :
    let renew := Call.plain 5 [bytes32 3] (.rotateDevice (secret32 1))
    let create := Call.plain 6 [bytes32 4] (.createDevice "radio")
    secretDraws (.memory paired) [renew, create] = [bytes32 3, bytes32 4] ∧
      (create.after (renew.after (.memory paired))).Rejects (secret32 1) := by
  intro renew create
  have hsince : Run (renew.after (.memory paired)) [create.exchange (renew.after (.memory paired))]
      (create.after (renew.after (.memory paired))) := .snoc create .nil
  have hd : paired.Distinct := ⟨by decide, by rintro _ ⟨⟩; decide⟩
  have hdraws : secretDraws (.memory paired) [renew, create] = [bytes32 3, bytes32 4] := by
    decide +kernel
  have hnew : paired.NewDraws (secretDraws (.memory paired) [renew, create]) := by
    rw [hdraws]
    exact ⟨by decide, by decide, by decide +kernel⟩
  exact ⟨hdraws, (revoked_for_good .nil hsince rfl hd hnew rfl rfl rfl .rotated).1 _ rfl⟩

end Credentials
