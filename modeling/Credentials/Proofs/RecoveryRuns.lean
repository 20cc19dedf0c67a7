import Credentials.Proofs.Runs

/-! The accounts of a recovery phrase. From the call that made it to the next that makes another,
the credential stays in its slot, each redemption costs one use, and nothing else costs any. -/

namespace Credentials

open Time (Instant)

namespace Command

def generatesRecovery : Command → Bool
  | generateRecovery .. => true
  | _ => false

def redeemsRecovery : Command → Bool
  | redeemRecovery .. => true
  | _ => false

variable {settings : Settings} {now : Instant} {r : Randomness} {d d' : Document} {c : Command}
  {answer : Answer}

theorem Effect.recovery (h : c.Effect settings now r d answer d') (hg : c.generatesRecovery = false) :
    (c.redeemsRecovery = true ∧ ∃ slot, d.recovery = some slot ∧ slot.isValidAt now = true ∧
      d'.recovery = some slot.spend) ∨
    (c.redeemsRecovery = false ∧ d'.recovery = d.recovery) := by
  cases h with
  | generateRecovery => cases hg
  | redeemRecovery hw hr hv hf => exact Or.inl ⟨rfl, _, hr, hv, rfl⟩
  | _ => exact Or.inr ⟨rfl, rfl⟩

end Command

namespace Recovery

/-- A credential that has had so many of its uses, of as many as were asked for. -/
structure Accounts (secret : List UInt8) (expiresAt : Option Instant) (uses : Option Int)
    (spent : Nat) (slot : Recovery) : Prop where
  secret : slot.secret = secret
  expiresAt : slot.expiresAt = expiresAt
  left : slot.usesLeft.map (fun n => (n.toNat : Int)) = uses.map (· - (spent : Int))

variable {secret : List UInt8} {expiresAt : Option Instant} {uses : Option Int} {spent : Nat}
  {slot : Recovery} {now : Instant}

theorem toNat_limit {usesLeft : Option UInt64} (h : limit? uses = .ok usesLeft) :
    usesLeft.map (fun n => (n.toNat : Int)) = uses := by
  cases uses with
  | none => cases h; rfl
  | some n =>
    rw [limit?] at h
    split at h
    · next hn =>
      obtain rfl := Except.ok.inj h
      rw [Option.map_some, UInt64.toNat_ofNat', Nat.mod_eq_of_lt hn.2, Int.toNat_of_nonneg hn.1.le]
    · cases h

theorem accounts_start {usesLeft : Option UInt64} (h : checkTerms now expiresAt uses = .ok usesLeft) :
    Accounts secret expiresAt uses 0 ⟨secret, now, expiresAt, usesLeft⟩ := by
  unfold checkTerms at h
  split at h
  · cases h
  · refine ⟨rfl, rfl, ?_⟩
    simp [toNat_limit h]

theorem Accounts.mapTimes (h : slot.Accounts secret expiresAt uses spent) (f : Instant → Instant) :
    (slot.mapTimes f).Accounts secret (expiresAt.map f) uses spent :=
  ⟨h.secret, congrArg (Option.map f) h.expiresAt, h.left⟩

theorem Accounts.left_cases (h : slot.Accounts secret expiresAt uses spent) :
    (uses = none ∧ slot.usesLeft = none) ∨
      ∃ n m, uses = some n ∧ slot.usesLeft = some m ∧ (m.toNat : Int) = n - spent := by
  have hl := h.left
  cases hs : slot.usesLeft with
  | none =>
    rw [hs, Option.map_none] at hl
    exact Or.inl ⟨Option.map_eq_none_iff.mp hl.symm, rfl⟩
  | some m =>
    rw [hs, Option.map_some] at hl
    obtain ⟨n, rfl, hn⟩ := Option.map_eq_some_iff.mp hl.symm
    exact Or.inr ⟨n, m, rfl, rfl, hn.symm⟩

theorem Accounts.spent_le (h : slot.Accounts secret expiresAt uses spent) :
    ∀ n ∈ uses, (spent : Int) ≤ n := by
  rcases h.left_cases with ⟨rfl, -⟩ | ⟨n, m, rfl, -, hm⟩
  · exact nofun
  · rintro _ ⟨⟩
    omega

theorem Accounts.isValidAt_iff (h : slot.Accounts secret expiresAt uses spent) :
    slot.isValidAt now = true ↔
      (∀ t ∈ slot.expiresAt, now.before t = true) ∧ ∀ n ∈ uses, (spent : Int) < n := by
  rw [isValidAt, Bool.and_eq_true, Option.all_eq_true]
  refine and_congr Iff.rfl ?_
  rcases h.left_cases with ⟨rfl, hs⟩ | ⟨n, m, rfl, hs, hm⟩
  · simp [hs]
  · simp only [hs, Option.all_some, decide_eq_true_eq, Option.mem_def, Option.some.injEq,
      forall_eq', UInt64.lt_iff_toNat_lt, UInt64.toNat_zero]
    omega

/-- A valid credential has a use to take off, so the subtraction is never cut off at zero. -/
theorem Accounts.spend (h : slot.Accounts secret expiresAt uses spent)
    (hv : slot.isValidAt now = true) : slot.spend.Accounts secret expiresAt uses (spent + 1) := by
  refine ⟨h.secret, h.expiresAt, ?_⟩
  have hpos := (h.isValidAt_iff.mp hv).2
  rcases h.left_cases with ⟨rfl, hs⟩ | ⟨n, m, rfl, hs, hm⟩
  · simp [Recovery.spend, hs]
  · have hn := hpos n rfl
    have h1 : 1 ≤ m.toNat := by omega
    have hne : m ≠ 0 := by
      rintro rfl
      exact absurd h1 (by decide)
    have hle : (1 : UInt64) ≤ m := UInt64.le_iff_toNat_le.mpr h1
    have hsub : (m - 1).toNat = m.toNat - 1 := UInt64.toNat_sub_of_le m 1 hle
    simp only [Recovery.spend, hs, Option.map_some, if_neg hne, hsub, Option.some.injEq]
    omega

end Recovery

section
variable {start store : DocumentStore} {log since before : List Exchange} {d : Document}
  {secret : List UInt8} {expiresAt : Option Instant} {uses : Option Int}

structure Store.Accounts (secret : List UInt8) (expiresAt : Option Instant) (uses : Option Int)
    (spent : Nat) (store : DocumentStore) (d : Document) : Prop where
  settled : store.Settled d
  slot : ∃ slot, d.recovery = some slot ∧ slot.Accounts secret expiresAt uses spent

theorem Call.accounts_after {c : Call} {e : Document} {spent : Nat}
    (h : store.Accounts secret expiresAt uses spent d) (hr : store.read Document.format = .ok d)
    (he : (c.after store).read Document.format = .ok e)
    (hg : (c.exchange store).succeeds Command.generatesRecovery = false) :
    (c.after store).Accounts secret expiresAt uses
      (spent + if (c.exchange store).succeeds Command.redeemsRecovery then 1 else 0) e := by
  refine ⟨c.settled_after h.settled hr he, ?_⟩
  obtain ⟨slot, hslot, hacc⟩ := h.slot
  -- the slot was read back before, so writing it once more changes none of its times
  have hkept : slot.mapTimes store.keptTime = slot := by
    have ht := h.settled.recovery
    rw [hslot] at ht
    exact Option.some.inj ht
  rcases c.read_step hr he with ⟨command, answer, d', hc, rfl⟩ | ⟨-, rfl, hf⟩
  · rw [hc.succeeds] at hg ⊢
    rcases hc.effect.recovery hg with ⟨hp, _, hslot', hv, hd'⟩ | ⟨hp, hd'⟩
    · obtain rfl := Option.some.inj (hslot.symm.trans hslot')
      refine ⟨slot.spend, ?_, by rw [hp]; exact hacc.spend hv⟩
      have hmap : slot.spend.mapTimes store.keptTime = (slot.mapTimes store.keptTime).spend := rfl
      rw [Document.mapTimes, hd', Option.map_some, hmap, hkept]
    · refine ⟨slot, ?_, by rw [hp]; exact hacc⟩
      rw [Document.mapTimes, hd', hslot, Option.map_some, hkept]
  · exact ⟨slot, hslot, by rw [hf]; exact hacc⟩

theorem Run.accounts (h : Run start log store)
    (hstart : ∀ d, start.read Document.format = .ok d → start.Accounts secret expiresAt uses 0 d)
    (hlog : ∀ e ∈ log, e.succeeds Command.generatesRecovery = false)
    (hd : store.read Document.format = .ok d) :
    store.Accounts secret expiresAt uses
      (log.countP fun e => e.succeeds Command.redeemsRecovery) d := by
  refine h.induct_read (P := fun log store d =>
    (∀ e ∈ log, e.succeeds Command.generatesRecovery = false) →
      store.Accounts secret expiresAt uses
        (log.countP fun e => e.succeeds Command.redeemsRecovery) d)
    hd (fun d hd _ => hstart d hd) (fun {log store c d e} ih hr he hlog => ?_) hlog
  have hacc := ih fun e he => hlog e (List.mem_append_left _ he)
  have := c.accounts_after hacc hr he (hlog _ (by simp))
  rwa [List.countP_append, List.countP_singleton]

theorem Call.accounts_start {c : Call} {phrase : String}
    (hop : c.operation = .command (.generateRecovery expiresAt uses))
    (hok : c.answer store = .ok (.phrase phrase)) :
    ∃ draw rest, c.randomness.draws = draw :: rest ∧
      c.settings.scheme.encode c.settings.language (draw.take Recovery.secretLength) = .ok phrase ∧
      ∀ d, (c.after store).read Document.format = .ok d →
        (c.after store).Accounts (draw.take Recovery.secretLength) (expiresAt.map store.keptTime)
          uses 0 d := by
  obtain ⟨d, d', hc⟩ := commits_of_ok hop hok
  have heffect := hc.effect
  cases heffect with
  | generateRecovery ht hdraws henc =>
    refine ⟨_, _, hdraws, henc, fun e he => ?_⟩
    obtain ⟨rfl, hs⟩ := hc.read_after he
    exact ⟨hs, _, rfl, (Recovery.accounts_start ht).mapTimes _⟩

/-- Whether a phrase is accepted is a matter of its bytes, the expiry and the uses that are left. -/
theorem Call.redeemRecovery_ok_iff {c : Call} {text name : String} {spent : Nat} {slot : Recovery}
    (h : store.Accounts secret expiresAt uses spent d) (hr : store.read Document.format = .ok d)
    (hslot : d.recovery = some slot)
    (hop : c.operation = .command (.redeemRecovery text name)) :
    (∃ answer, c.answer store = .ok answer) ↔
      c.settings.scheme.decodeExact c.settings.language text Recovery.secretLength = .ok secret ∧
        (∀ t ∈ slot.expiresAt, c.now.before t = true) ∧ (∀ n ∈ uses, (spent : Int) < n) ∧
        ∃ draw ∈ c.randomness.draws, d.holds (secretOf draw) = false := by
  obtain ⟨slot', hslot', hacc⟩ := h.slot
  obtain rfl := Option.some.inj (hslot.symm.trans hslot')
  constructor
  · rintro ⟨answer, ha⟩
    obtain ⟨d₁, d', hc⟩ := commits_of_ok hop ha
    obtain rfl := Except.ok.inj (hr.symm.trans hc.read)
    have heffect := hc.effect
    cases heffect with
    | redeemRecovery hw hrec hv hf =>
      obtain rfl := Option.some.inj (hslot.symm.trans hrec)
      obtain ⟨ht, hn⟩ := hacc.isValidAt_iff.mp hv
      exact ⟨hacc.secret ▸ hw, ht, hn, exists_freshSecret_iff.mp ⟨_, hf⟩⟩
  · rintro ⟨hw, ht, hn, hdraw⟩
    obtain ⟨fresh, hf⟩ := exists_freshSecret_iff.mpr hdraw
    have hv := hacc.isValidAt_iff.mpr ⟨ht, hn⟩
    exact ⟨_, (commits_of_effect hop hr h.settled.takes
      (.redeemRecovery (hacc.secret.symm ▸ hw) hslot hv hf)).answered⟩

/-- Only the two commands that are about it change the recovery slot. -/
theorem Call.recovery_after {c : Call} {e : Document} (h : store.Settled d)
    (hr : store.read Document.format = .ok d) (he : (c.after store).read Document.format = .ok e)
    (hg : (c.exchange store).succeeds Command.generatesRecovery = false)
    (hs : (c.exchange store).succeeds Command.redeemsRecovery = false) : e.recovery = d.recovery := by
  rcases c.read_step hr he with ⟨command, answer, d', hc, rfl⟩ | ⟨-, rfl, -⟩
  · rw [hc.succeeds] at hg hs
    rcases hc.effect.recovery hg with ⟨hp, -⟩ | ⟨-, hd'⟩
    · rw [hp] at hs
      cases hs
    · rw [Document.mapTimes, hd', h.recovery]
  · rfl

/-- From the call that gives out a phrase, over any calls of which none gives out another: the slot
holds the bytes behind the phrase and what is left of the uses, a redemption succeeds exactly where
its phrase stands for these bytes, in time and with a use left, and no other call touches the slot.
A redemption also needs a draw that makes a secret nobody has. -/
theorem recovery_accounting {before since : List Exchange} {generate : Exchange} {phrase : String}
    (hrun : Run start (before ++ generate :: since) store)
    (hop : generate.call.operation = .command (.generateRecovery expiresAt uses))
    (hok : generate.answer = .ok (.phrase phrase))
    (hsince : ∀ e ∈ since, e.succeeds Command.generatesRecovery = false)
    (hread : store.read Document.format = .ok d) :
    ∃ secret slot draw rest,
      generate.call.randomness.draws = draw :: rest ∧
      secret = draw.take Recovery.secretLength ∧
      generate.call.settings.scheme.encode generate.call.settings.language secret = .ok phrase ∧
      d.recovery = some slot ∧
      slot.Accounts secret (expiresAt.map start.keptTime) uses
        (since.countP fun e => e.succeeds Command.redeemsRecovery) ∧
      (∀ n ∈ uses, ((since.countP fun e => e.succeeds Command.redeemsRecovery : Nat) : Int) ≤ n) ∧
      (∀ (c : Call) (text name : String), c.operation = .command (.redeemRecovery text name) →
        ((∃ answer, c.answer store = .ok answer) ↔
          c.settings.scheme.decodeExact c.settings.language text Recovery.secretLength =
            .ok secret ∧
          (∀ t ∈ slot.expiresAt, c.now.before t = true) ∧
          (∀ n ∈ uses,
            ((since.countP fun e => e.succeeds Command.redeemsRecovery : Nat) : Int) < n) ∧
          ∃ draw ∈ c.randomness.draws, d.holds (secretOf draw) = false)) ∧
      ∀ (c : Call) (e : Document), (c.after store).read Document.format = .ok e →
        (c.exchange store).succeeds Command.generatesRecovery = false →
        (c.exchange store).succeeds Command.redeemsRecovery = false → e.recovery = d.recovery := by
  obtain ⟨middle, hbefore, hexchange, hafter⟩ := hrun.split_exchange rfl
  rw [hexchange] at hok
  obtain ⟨draw, rest, hdraws, henc, hstart⟩ := Call.accounts_start hop hok
  rw [hbefore.keptTime] at hstart
  have hacc := hafter.accounts hstart hsince hread
  obtain ⟨slot, hslot, hslotacc⟩ := hacc.slot
  refine ⟨_, slot, draw, rest, hdraws, rfl, henc, hslot, hslotacc, hslotacc.spent_le, ?_, ?_⟩
  · exact fun c text name hredeem => c.redeemRecovery_ok_iff hacc hread hslot hredeem
  · exact fun c e he hg hs => c.recovery_after hacc.settled hread he hg hs

end

/-- One word, which stands for zeros. -/
def oneWord : Mnemonic.Scheme := ⟨fun _ => [['a']], fun _ => [0]⟩

def givenOut : Call :=
  { Call.plain 0 [List.replicate 24 0] (.generateRecovery none (some 2)) with
    settings := { scheme := oneWord } }

def takenUp : Call :=
  { Call.plain 5 [bytes32 1] (.redeemRecovery "a a a a a a a a a a a a a a a a a a" "tv") with
    settings := { scheme := oneWord } }

theorem recovery_accounting_takenUp :
    ∃ d slot, (takenUp.after (givenOut.after (.memory .empty))).read Document.format = .ok d ∧
      d.recovery = some slot ∧ slot.Accounts (List.replicate 24 0) none (some 2) 1 := by
  have hrun : Run (.memory .empty) ([] ++ givenOut.exchange (.memory .empty) ::
      [takenUp.exchange (givenOut.after (.memory .empty))]) _ := .snoc takenUp (.snoc givenOut .nil)
  have hgenerates : (takenUp.exchange (givenOut.after (.memory .empty))).succeeds
      Command.generatesRecovery = false := by decide +kernel
  have hredeems : (takenUp.exchange (givenOut.after (.memory .empty))).succeeds
      Command.redeemsRecovery = true := by decide +kernel
  have hread : (takenUp.after (givenOut.after (.memory .empty))).read Document.format =
      .ok ⟨[⟨secret32 1, "tv", ⟨5, 0⟩⟩], some ⟨List.replicate 24 0, ⟨0, 0⟩, none, some 1⟩, none⟩ :=
    ok_of_toOption (by decide +kernel)
  have hok : (givenOut.exchange (.memory .empty)).answer =
      .ok (.phrase "a a a a a a a a a a a a a a a a a a") := rfl
  obtain ⟨secret, slot, draw, rest, hdraws, rfl, -, hslot, hacc, -⟩ :=
    recovery_accounting hrun rfl hok (by simpa using hgenerates) hread
  cases hdraws
  rw [List.countP_singleton, hredeems] at hacc
  exact ⟨_, slot, hread, hslot, hacc⟩

end Credentials
