import Credentials.Proofs.Runs

/-! A pairing secret admits one device. The slot is filled by one command and emptied by the two
that invalidate and redeem, so redemptions and fillings alternate along every run. -/

namespace Credentials

open Time (Instant)

namespace Command

def generatesPairing : Command → Bool
  | generatePairing => true
  | _ => false

def redeemsPairing : Command → Bool
  | redeemPairing .. => true
  | _ => false

variable {settings : Settings} {now : Instant} {r : Randomness} {d d' : Document} {c : Command}
  {answer : Answer}

theorem Effect.pairing (h : c.Effect settings now r d answer d') :
    (c = .generatePairing ∧ ∃ fresh : FreshSecret, answer = .secret fresh.secret ∧
      d'.pairing = some ⟨fresh.secret, now, now.shiftWithin settings.pairingLife⟩) ∨
    (c = .invalidatePairing ∧ d'.pairing = none) ∨
    (∃ name pending, c = .redeemPairing pending.secret name ∧ d.pairing = some pending ∧
      pending.isLiveAt now = true ∧ d'.pairing = none) ∨
    (c.generatesPairing = false ∧ c.redeemsPairing = false ∧ c ≠ .invalidatePairing ∧
      d'.pairing = d.pairing) := by
  cases h with
  | generatePairing hf => exact Or.inl ⟨rfl, _, rfl, rfl⟩
  | invalidatePairing => exact Or.inr (Or.inl ⟨rfl, rfl⟩)
  | redeemPairing hp hl hf => exact Or.inr (Or.inr (Or.inl ⟨_, _, rfl, hp, hl, rfl⟩))
  | _ => exact Or.inr (Or.inr (Or.inr ⟨rfl, rfl, nofun, rfl⟩))

/-- A redemption takes a pending secret away, and only a new one puts any there. -/
theorem Effect.pendings (h : c.Effect settings now r d answer d') :
    (if c.redeemsPairing then 1 else 0) + d'.pairing.toList.length ≤
      (if c.generatesPairing then 1 else 0) + d.pairing.toList.length := by
  rcases h.pairing with ⟨rfl, _, -, hd'⟩ | ⟨rfl, hd'⟩ | ⟨_, _, rfl, hd, -, hd'⟩ | ⟨hg, hr, -, hd'⟩
  · simp [hd', redeemsPairing, generatesPairing]
  · simp [hd', redeemsPairing, generatesPairing]
  · simp [hd, hd', redeemsPairing, generatesPairing]
  · simp [hd', hg, hr]

end Command

section
variable {start store : DocumentStore} {log : List Exchange} {d e : Document} {pending : Pairing}

/-- How many pairing secrets can be read: one or none. -/
def Store.pendings (store : DocumentStore) : Nat :=
  match store.read Document.format with
  | .ok d => d.pairing.toList.length
  | .error _ => 0

theorem Store.pendings_eq (h : store.read Document.format = .ok d) :
    store.pendings = d.pairing.toList.length := by
  rw [pendings, h]

theorem Call.Commits.pendings_le {c : Call} {command : Command} {answer : Answer} {d' : Document}
    (h : c.Commits store command answer d d') :
    (c.after store).pendings ≤ d'.pairing.toList.length := by
  cases he : (c.after store).read Document.format with
  | error => simp [Store.pendings, he]
  | ok e =>
    obtain ⟨rfl, -⟩ := h.read_after he
    rw [Store.pendings_eq he, Document.mapTimes, Option.toList_map, List.length_map]

theorem Call.pendings_after (c : Call) (store : DocumentStore) :
    (if (c.exchange store).succeeds Command.redeemsPairing then 1 else 0) +
        (c.after store).pendings ≤
      (if (c.exchange store).succeeds Command.generatesPairing then 1 else 0) + store.pendings := by
  rcases c.commits_or_idle store with ⟨command, answer, d, d', h⟩ | ⟨hs, hf⟩
  · rw [h.succeeds, h.succeeds, Store.pendings_eq h.read]
    exact (Nat.add_le_add_left h.pendings_le _).trans h.effect.pendings
  · simp [hs, hf]

theorem Run.pendings (h : Run start log store) :
    (log.countP fun e => e.succeeds Command.redeemsPairing) + store.pendings ≤
      (log.countP fun e => e.succeeds Command.generatesPairing) + start.pendings := by
  induction h with
  | nil => exact Nat.le_refl _
  | @snoc log store c h ih =>
    have hstep := c.pendings_after store
    rw [List.countP_append, List.countP_append, List.countP_singleton, List.countP_singleton]
    omega

def Exchange.clearsPairing (e : Exchange) : Bool :=
  e.succeeds Command.redeemsPairing || e.call.operation == .command .invalidatePairing

/-- A store whose pairing slot is as it was filled, or empty once it was cleared. -/
structure Store.Pends (pending : Pairing) (cleared : Bool) (store : DocumentStore) (d : Document) :
    Prop where
  settled : store.Settled d
  slot : d.pairing = if cleared then none else some pending

theorem Call.pends_after {c : Call} {cleared : Bool} (h : store.Pends pending cleared d)
    (hr : store.read Document.format = .ok d) (he : (c.after store).read Document.format = .ok e)
    (hg : (c.exchange store).succeeds Command.generatesPairing = false) :
    (c.after store).Pends pending (cleared || (c.exchange store).clearsPairing) e := by
  refine ⟨c.settled_after h.settled hr he, ?_⟩
  have hslot := h.slot
  rcases c.read_step hr he with ⟨command, answer, d', hc, rfl⟩ | ⟨-, rfl, hf⟩
  · have hclears : (c.exchange store).clearsPairing =
        (command.redeemsPairing || Operation.command command == .command .invalidatePairing) := by
      rw [Exchange.clearsPairing, hc.succeeds]
      simp only [exchange, hc.operation]
    rw [hc.succeeds] at hg
    rw [hclears, Document.mapTimes]
    rcases hc.effect.pairing with ⟨rfl, -⟩ | ⟨rfl, hd'⟩ | ⟨name, pending', rfl, -, -, hd'⟩ |
      ⟨-, hredeems, hne, hd'⟩
    · cases hg
    · simp [hd']
    · simp [hd', Command.redeemsPairing]
    · simpa [hd', h.settled.pairing, hredeems, hne] using hslot
  · have hclears : (c.exchange store).clearsPairing = false := by
      rw [Exchange.clearsPairing, hf, Bool.false_or, beq_eq_false_iff_ne]
      intro hop
      have hc := commits_of_effect hop hr h.settled.takes .invalidatePairing
      exact absurd ((hf fun _ => true).symm.trans (hc.succeeds fun _ => true)) (by decide)
    rw [hclears, Bool.or_false]
    exact hslot

theorem Run.pends (h : Run start log store)
    (hstart : ∀ d, start.read Document.format = .ok d → start.Pends pending false d)
    (hlog : ∀ e ∈ log, e.succeeds Command.generatesPairing = false)
    (hd : store.read Document.format = .ok d) :
    store.Pends pending (log.any Exchange.clearsPairing) d := by
  refine h.induct_read (P := fun log store d =>
    (∀ e ∈ log, e.succeeds Command.generatesPairing = false) →
      store.Pends pending (log.any Exchange.clearsPairing) d)
    hd (fun d hd _ => hstart d hd) (fun {log store c d e} ih hr he hlog => ?_) hlog
  have hpends := ih fun e he => hlog e (List.mem_append_left _ he)
  have hafter := c.pends_after hpends hr he (hlog _ (by simp))
  rwa [List.any_append, List.any_cons, List.any_nil, Bool.or_false]

theorem Call.pends_start {c : Call} {secret : String}
    (hop : c.operation = .command .generatePairing) (hok : c.answer store = .ok (.secret secret)) :
    ∃ pending : Pairing, pending.secret = secret ∧
      pending.expiresAt = store.keptTime (c.now.shiftWithin c.settings.pairingLife) ∧
      ∀ d, (c.after store).read Document.format = .ok d → (c.after store).Pends pending false d := by
  obtain ⟨d, d', hc⟩ := commits_of_ok hop hok
  have heffect := hc.effect
  cases heffect with
  | @generatePairing fresh hf =>
    refine ⟨Pairing.mapTimes store.keptTime ⟨fresh.secret, c.now, _⟩, rfl, rfl, fun e he => ?_⟩
    obtain ⟨rfl, hs⟩ := hc.read_after he
    exact ⟨hs, rfl⟩

/-- A secret is accepted while it is pending and alive, if a device secret can be drawn. -/
theorem Call.redeemPairing_ok_iff {c : Call} {secret name : String} {cleared : Bool}
    (h : store.Pends pending cleared d) (hr : store.read Document.format = .ok d)
    (hop : c.operation = .command (.redeemPairing secret name)) :
    (∃ answer, c.answer store = .ok answer) ↔
      (secret = pending.secret ∧ c.now.before pending.expiresAt = true ∧ cleared = false) ∧
        ∃ draw ∈ c.randomness.draws, d.hasDevice (secretOf draw) = false := by
  have hslot := h.slot
  constructor
  · rintro ⟨answer, ha⟩
    obtain ⟨d₁, d', hc⟩ := commits_of_ok hop ha
    obtain rfl := Except.ok.inj (hr.symm.trans hc.read)
    have heffect := hc.effect
    cases heffect with
    | redeemPairing hp hl hf =>
      cases cleared with
      | true => simp [hp] at hslot
      | false =>
        obtain rfl := Option.some.inj (hp.symm.trans hslot)
        exact ⟨⟨rfl, hl, rfl⟩, exists_freshSecret_iff.mp ⟨_, hf⟩⟩
  · rintro ⟨⟨rfl, hl, rfl⟩, hdraw⟩
    obtain ⟨fresh, hf⟩ := exists_freshSecret_iff.mpr hdraw
    exact ⟨_, (commits_of_effect hop hr h.settled.takes (.redeemPairing hslot hl hf)).answered⟩

theorem Document.redeemPairing_notFound {secret name : String} {now : Instant} {r : Randomness}
    (h : ∀ pending, d.pairing = some pending → pending.isLiveAt now = true →
      pending.secret ≠ secret) : redeemPairing secret name now r d = .error .notFound := by
  unfold redeemPairing
  cases hp : d.pairing with
  | none => rfl
  | some pending =>
    have hne : ¬ (pending.isLiveAt now && pending.secret == secret) = true := by
      rw [Bool.and_eq_true, beq_iff_eq]
      exact fun hlive => h pending hp hlive.1 hlive.2
    simp only [if_neg hne]

theorem Call.redeemPairing_notFound {c : Call} {secret name : String} {cleared : Bool}
    (h : store.Pends pending cleared d) (hr : store.read Document.format = .ok d)
    (hop : c.operation = .command (.redeemPairing secret name))
    (hno : ¬ (secret = pending.secret ∧ c.now.before pending.expiresAt = true ∧ cleared = false)) :
    c.answer store = .error (.refused .notFound) ∧ c.after store = store := by
  refine refused hop hr rfl ?_
  have hslot := h.slot
  rw [Transaction.map, Document.redeemPairing_notFound]
  · rfl
  · rintro p hp hl rfl
    cases cleared with
    | true => simp [hp] at hslot
    | false =>
      obtain rfl := Option.some.inj (hp.symm.trans hslot)
      exact hno ⟨rfl, hl, rfl⟩

theorem Exchange.clearsPairing_eq_false_iff {exchange : Exchange} :
    exchange.clearsPairing = false ↔
      exchange.call.operation ≠ .command .invalidatePairing ∧
        exchange.succeeds Command.redeemsPairing = false := by
  rw [clearsPairing, Bool.or_eq_false_iff, beq_eq_false_iff_ne, and_comm]

theorem Exchange.not_generatesPairing {exchange : Exchange}
    (h : exchange.succeeds Command.redeemsPairing = true) :
    exchange.succeeds Command.generatesPairing = false := by
  unfold succeeds at h ⊢
  split at h
  · next command _ _ _ =>
    cases command with
    | redeemPairing => rfl
    | _ => cases h
  · cases h

theorem Store.pendings_le_one (store : DocumentStore) : store.pendings ≤ 1 := by
  unfold pendings
  split
  · next d _ => cases d.pairing <;> simp
  · exact Nat.zero_le _

/-- A redemption leaves nothing to redeem, so the next one needs a new secret. -/
theorem Run.generates_between {before between since : List Exchange} {first second : Exchange}
    (h : Run start (before ++ first :: (between ++ second :: since)) store)
    (hfirst : first.succeeds Command.redeemsPairing = true)
    (hsecond : second.succeeds Command.redeemsPairing = true) :
    ∃ exchange ∈ between, exchange.succeeds Command.generatesPairing = true := by
  obtain ⟨middle, -, hexchange, h⟩ := h.split_exchange rfl
  -- there was at most one secret to redeem, and the first redemption took it away
  have hempty : (first.call.after middle).pendings = 0 := by
    have hstep := first.call.pendings_after middle
    rw [← hexchange, hfirst, Exchange.not_generatesPairing hfirst] at hstep
    have hle := middle.pendings_le_one
    simp only [if_true, Bool.false_eq_true, if_false] at hstep
    omega
  -- so the count up to the second one, which is no new secret itself, has to come from in between
  obtain ⟨last, h, -⟩ := h.split (List.append_cons ..)
  have hcount := h.pendings
  rw [hempty, List.countP_append, List.countP_append, List.countP_singleton, List.countP_singleton,
    hsecond, Exchange.not_generatesPairing hsecond] at hcount
  simp only [if_true, Bool.false_eq_true, if_false] at hcount
  have hpos : 0 < between.countP fun e => e.succeeds Command.generatesPairing := by omega
  exact List.countP_pos_iff.mp hpos

/-- The secret that is presented is the one that was given out, in time, and since then it was
neither invalidated nor redeemed. -/
structure StillPending (secret presented : String) (expiresAt now : Instant) (since : List Exchange) :
    Prop where
  secret : presented = secret
  inTime : now.before expiresAt = true
  valid : ∀ e ∈ since, e.call.operation ≠ .command .invalidatePairing
  unused : ∀ e ∈ since, e.succeeds Command.redeemsPairing = false

theorem stillPending_iff {presented : String} {now : Instant} {since : List Exchange} :
    StillPending pending.secret presented pending.expiresAt now since ↔
      presented = pending.secret ∧ now.before pending.expiresAt = true ∧
        since.any Exchange.clearsPairing = false := by
  rw [List.any_eq_false]
  simp only [Bool.not_eq_true, Exchange.clearsPairing_eq_false_iff]
  constructor
  · exact fun h => ⟨h.secret, h.inTime, fun e he => ⟨h.valid e he, h.unused e he⟩⟩
  · exact fun ⟨hs, ht, h⟩ => ⟨hs, ht, fun e he => (h e he).1, fun e he => (h e he).2⟩

/-- From the call that gives out a pairing secret, over any calls of which none gives out another, a
redemption succeeds exactly where it presents the secret while it is still pending; every other one
is refused in the same words and changes nothing. So two redemptions are parted by a new secret, and
there are no more of them than secrets. A redemption also needs a draw that makes a secret no device
has. -/
theorem pairing_redeemed_once (hrun : Run start log store) :
    (∀ (before since : List Exchange) (generate : Exchange) (secret : String) (d : Document),
      log = before ++ generate :: since →
      generate.call.operation = .command .generatePairing →
      generate.answer = .ok (.secret secret) →
      (∀ e ∈ since, e.succeeds Command.generatesPairing = false) →
      store.read Document.format = .ok d →
      ∃ expiresAt : Instant, expiresAt = start.keptTime
          (generate.call.now.shiftWithin generate.call.settings.pairingLife) ∧
        ∀ (c : Call) (presented name : String),
          c.operation = .command (.redeemPairing presented name) →
          ((∃ answer, c.answer store = .ok answer) ↔
            StillPending secret presented expiresAt c.now since ∧
              ∃ draw ∈ c.randomness.draws, d.hasDevice (secretOf draw) = false) ∧
          (¬ StillPending secret presented expiresAt c.now since →
            c.answer store = .error (.refused .notFound) ∧ c.after store = store)) ∧
    (∀ (before between since : List Exchange) (first second : Exchange),
      log = before ++ first :: (between ++ second :: since) →
      first.succeeds Command.redeemsPairing = true →
      second.succeeds Command.redeemsPairing = true →
      ∃ e ∈ between, e.succeeds Command.generatesPairing = true) ∧
    ∀ d, start.read Document.format = .ok d →
      (log.countP fun e => e.succeeds Command.redeemsPairing) ≤
        (log.countP fun e => e.succeeds Command.generatesPairing) +
          if d.pairing.isSome then 1 else 0 := by
  refine ⟨?_, ?_, ?_⟩
  · rintro before since generate secret d rfl hop hok hsince hread
    obtain ⟨middle, hbefore, hexchange, hafter⟩ := hrun.split_exchange rfl
    rw [hexchange] at hok
    obtain ⟨pending, rfl, hexpires, hstart⟩ := Call.pends_start hop hok
    rw [hbefore.keptTime] at hexpires
    have hpends := hafter.pends hstart hsince hread
    refine ⟨pending.expiresAt, hexpires, fun c presented name hredeem => ⟨?_, fun hno => ?_⟩⟩
    · rw [stillPending_iff]
      exact c.redeemPairing_ok_iff hpends hread hredeem
    · rw [stillPending_iff] at hno
      exact c.redeemPairing_notFound hpends hread hredeem hno
  · rintro before between since first second rfl hfirst hsecond
    exact hrun.generates_between hfirst hsecond
  · intro d hd
    have hcount := hrun.pendings
    have hstart : start.pendings = if d.pairing.isSome then 1 else 0 := by
      rw [Store.pendings_eq hd]
      cases d.pairing <;> rfl
    omega

end

def asked : Call := .plain 0 [bytes32 1] .generatePairing

def admitted : Call := .plain 5 [bytes32 1, bytes32 2] (.redeemPairing (secret32 1) "tv")

theorem pairing_redeemed_once_admitted :
    (∃ answer, admitted.answer (asked.after (.memory .empty)) = .ok answer) ∧
      admitted.answer (admitted.after (asked.after (.memory .empty))) =
        .error (.refused .notFound) := by
  have hasked : Run (.memory .empty) ([] ++ asked.exchange (.memory .empty) :: []) _ :=
    .snoc asked .nil
  have hadmitted : Run (.memory .empty) ([] ++ asked.exchange (.memory .empty) ::
      [admitted.exchange (asked.after (.memory .empty))]) _ := .snoc admitted hasked
  have hread : (asked.after (.memory .empty)).read Document.format =
      .ok ⟨[], none, some ⟨secret32 1, ⟨0, 0⟩, ⟨600, 0⟩⟩⟩ := ok_of_toOption (by decide +kernel)
  have hread' : (admitted.after (asked.after (.memory .empty))).read Document.format =
      .ok ⟨[⟨secret32 1, "tv", ⟨5, 0⟩⟩], none, none⟩ := ok_of_toOption (by decide +kernel)
  have hredeems : (admitted.exchange (asked.after (.memory .empty))).succeeds
      Command.redeemsPairing = true := by decide +kernel
  have hok : (asked.exchange (.memory .empty)).answer = .ok (.secret (secret32 1)) :=
    ok_of_toOption (by decide +kernel)
  have hnone := Exchange.not_generatesPairing hredeems
  have hsince : ∀ e ∈ [admitted.exchange (asked.after (.memory .empty))],
      e.succeeds Command.generatesPairing = false := by
    rintro e he
    rw [List.mem_singleton.mp he, hnone]
  constructor
  · obtain ⟨expiresAt, hexpires, h⟩ := (pairing_redeemed_once hasked).1 [] []
      (asked.exchange (.memory .empty)) (secret32 1) _ rfl rfl hok (List.forall_mem_nil _) hread
    have hlive : admitted.now.before expiresAt = true := by
      rw [hexpires]
      decide +kernel
    have hpending : StillPending (secret32 1) (secret32 1) expiresAt admitted.now [] :=
      ⟨rfl, hlive, List.forall_mem_nil _, List.forall_mem_nil _⟩
    exact (h admitted (secret32 1) "tv" rfl).1.mpr
      ⟨hpending, bytes32 1, by decide +kernel, by decide +kernel⟩
  · obtain ⟨expiresAt, -, h⟩ := (pairing_redeemed_once hadmitted).1 []
      [admitted.exchange (asked.after (.memory .empty))] (asked.exchange (.memory .empty))
      (secret32 1) _ rfl rfl hok hsince hread'
    refine ((h admitted (secret32 1) "tv" rfl).2 fun hpending => ?_).1
    have := hpending.unused _ (List.mem_singleton_self _)
    rw [hredeems] at this
    cases this

end Credentials
