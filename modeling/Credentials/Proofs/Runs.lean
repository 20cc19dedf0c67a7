import Credentials.Proofs.DocumentText
import Credentials.Proofs.Effects

/-! Calls of operations on one store, one after the other. Each call comes with its own settings,
clock reading and draws, so nothing is said of how these follow from one another. A call either
leaves the store alone or puts back what its command made of the document. -/

namespace Credentials

open Time (Instant)

theorem ok_of_toOption {ε α : Type} {x : Except ε α} {a : α} (h : x.toOption = some a) :
    x = .ok a := by
  cases x with
  | error => cases h
  | ok b => exact congrArg Except.ok (Option.some.inj h)

structure Call where
  settings : Settings
  now : Instant
  randomness : Randomness
  operation : Operation

/-- A draw of one byte over and over, as long as a secret needs it. -/
def bytes32 (b : UInt8) : List UInt8 := List.replicate 32 b

def secret32 (b : UInt8) : String := secretOf (bytes32 b)

/-- A call with the usual settings, at so many seconds, that draws no digit but zero. -/
def Call.plain (seconds : Int) (draws : Draws) (command : Command) : Call where
  settings := {}
  now := ⟨seconds, 0⟩
  randomness := ⟨draws, fun _ => 0⟩
  operation := .command command

structure Exchange where
  call : Call
  answer : Except Failure Answer

/-- A command that succeeded, of those that `p` holds of. -/
def Exchange.succeeds (p : Command → Bool) (e : Exchange) : Bool :=
  match e.call.operation, e.answer with
  | .command command, .ok _ => p command
  | _, _ => false

namespace Store

/-- What a time turns into by being kept. -/
def keptTime : DocumentStore → Instant → Instant
  | file .. => Instant.reread
  | _ => id

/-- A store that took a document: it takes any other, and what it holds is read as it stands. -/
structure Settled (store : DocumentStore) (d : Document) : Prop where
  takes : store.Takes Document.format
  times : d.mapTimes store.keptTime = d

theorem Settled.recovery {store : DocumentStore} {d : Document} (h : store.Settled d) :
    d.recovery.map (·.mapTimes store.keptTime) = d.recovery := congrArg Document.recovery h.times

theorem Settled.pairing {store : DocumentStore} {d : Document} (h : store.Settled d) :
    d.pairing.map (·.mapTimes store.keptTime) = d.pairing := congrArg Document.pairing h.times

theorem keptTime_put {store store' : DocumentStore} {d : Document}
    (h : store.put Document.format d = .ok store') : store'.keptTime = store.keptTime := by
  cases store with
  | memory => cases h; rfl
  | poisoned => cases h
  | file path files =>
    obtain ⟨_, -, rfl⟩ := put_file_ok_iff.mp h
    rfl

end Store

namespace Document

@[simp] theorem mapTimes_id (d : Document) : d.mapTimes id = d := by
  obtain ⟨devices, recovery, pairing⟩ := d
  have hd : Device.mapTimes id = id := rfl
  have hr : Recovery.mapTimes id = id := funext fun x => by simp [Recovery.mapTimes]
  have hp : Pairing.mapTimes id = id := rfl
  simp [mapTimes, hd, hr, hp]

theorem keeps_format {store : DocumentStore} {copy back : Document}
    (h : store.Keeps format copy back) :
    back = copy.mapTimes store.keptTime ∧ back.mapTimes store.keptTime = back := by
  cases store with
  | memory =>
    cases h
    exact ⟨(mapTimes_id _).symm, mapTimes_id _⟩
  | poisoned => cases h
  | file path files =>
    simp only [Store.Keeps, format, ofJson_text_iff] at h
    obtain ⟨hread, rfl⟩ := h
    exact ⟨rfl, (mapTimes_mapTimes _ _ _).trans <| hread.mapTimes_congr fun _ => Instant.reread_reread⟩

end Document

namespace Call

def answer (c : Call) (store : DocumentStore) : Except Failure Answer :=
  (c.operation.run c.settings c.now store c.randomness).1

def after (c : Call) (store : DocumentStore) : DocumentStore :=
  (c.operation.run c.settings c.now store c.randomness).2.1

def exchange (c : Call) (store : DocumentStore) : Exchange := ⟨c, c.answer store⟩

/-- The command of a call took effect, and the store took the outcome. -/
structure Commits (c : Call) (store : DocumentStore) (command : Command) (answer : Answer)
    (d d' : Document) : Prop where
  operation : c.operation = .command command
  read : store.read Document.format = .ok d
  effect : command.Effect c.settings c.now c.randomness d answer d'
  put : store.put Document.format d' = .ok (c.after store)
  answered : c.answer store = .ok answer

variable {c : Call} {store : DocumentStore} {command : Command} {answer : Answer}
  {d d' e : Document}

theorem run_prepared (store : DocumentStore) {settings : Settings} {now : Instant} {r r₁ : Randomness}
    {t : Transaction Answer} (hp : command.prepare settings now r = (.ok t, r₁)) :
    command.run settings now store r =
      match store.read Document.format with
      | .error cause => (.error (.store cause), store, r₁)
      | .ok d =>
        match t r₁ d with
        | .error refusal => (.error (.refused refusal), store, r₁)
        | .ok (answer, d', r₂) =>
          match store.put Document.format d' with
          | .error cause => (.error (.store cause), store, r₂)
          | .ok store' => (.ok answer, store', r₂) := by
  simp only [Command.run, hp, Store.update_eq, Transaction.writer]
  cases store.read Document.format with
  | error => rfl
  | ok d =>
    simp only
    rcases t r₁ d with refusal | ⟨answer, d', r₂⟩
    · rfl
    · simp only
      cases store.put Document.format d' <;> rfl

theorem commits_or_stays (store : DocumentStore) (hop : c.operation = .command command) :
    (∃ answer d d', c.Commits store command answer d d') ∨
      (c.after store = store ∧ ∃ failure, c.answer store = .error failure) := by
  obtain ⟨settings, now, r, operation⟩ := c
  cases hop
  simp only [after, Call.answer, Operation.run]
  rcases hp : command.prepare settings now r with ⟨refusal | t, r₁⟩
  · simp [Command.run, hp]
  · have hrun := run_prepared store hp
    cases hr : store.read Document.format with
    | error cause => simp [hrun, hr]
    | ok d =>
      rcases ht : t r₁ d with refusal | ⟨answer, d', r₂⟩
      · simp [hrun, hr, ht]
      · cases hput : store.put Document.format d' with
        | error cause => simp [hrun, hr, ht, hput]
        | ok store' =>
          simp only [hr, ht, hput] at hrun
          refine Or.inl ⟨answer, d, d', rfl, hr, Command.effect_of_prepare hp ht, ?_, ?_⟩
          · rw [hput, after, Operation.run, hrun]
          · rw [Call.answer, Operation.run, hrun]

theorem commits_of_effect (hop : c.operation = .command command)
    (hr : store.read Document.format = .ok d) (ht : store.Takes Document.format)
    (he : command.Effect c.settings c.now c.randomness d answer d') :
    c.Commits store command answer d d' := by
  obtain ⟨settings, now, r, operation⟩ := c
  cases hop
  obtain ⟨t, r₁, r₂, hp, hd⟩ := he.prepared
  obtain ⟨store', hput⟩ := ht d'
  have hrun := run_prepared store hp
  simp only [hr, hd, hput] at hrun
  exact ⟨rfl, hr, he, by rw [hput, after, Operation.run, hrun],
    by rw [Call.answer, Operation.run, hrun]⟩

theorem refused {t : Transaction Answer} {r : Randomness} {refusal : Refusal}
    (hop : c.operation = .command command) (hr : store.read Document.format = .ok d)
    (hp : command.prepare c.settings c.now c.randomness = (.ok t, r))
    (ht : t r d = .error refusal) :
    c.answer store = .error (.refused refusal) ∧ c.after store = store := by
  have hrun := run_prepared store hp
  simp only [hr, ht] at hrun
  obtain ⟨settings, now, randomness, operation⟩ := c
  cases hop
  exact ⟨by rw [Call.answer, Operation.run, hrun], by rw [after, Operation.run, hrun]⟩

theorem Commits.answer_eq (h : c.Commits store command answer d d') {a : Answer}
    (ha : c.answer store = .ok a) : answer = a := Except.ok.inj (h.answered.symm.trans ha)

theorem Commits.succeeds (h : c.Commits store command answer d d') (p : Command → Bool) :
    (c.exchange store).succeeds p = p command := by
  simp only [Exchange.succeeds, exchange, h.operation, h.answered]

theorem commits_of_ok (hop : c.operation = .command command) (ha : c.answer store = .ok answer) :
    ∃ d d', c.Commits store command answer d d' := by
  rcases commits_or_stays store hop with ⟨a, d, d', h⟩ | ⟨-, failure, hf⟩
  · obtain rfl := h.answer_eq ha
    exact ⟨d, d', h⟩
  · rw [hf] at ha
    cases ha

theorem after_query {q : Query} (hop : c.operation = .query q) : c.after store = store := by
  obtain ⟨settings, now, r, operation⟩ := c
  cases hop
  rfl

theorem answer_query {q : Query} (hop : c.operation = .query q)
    (hr : store.read Document.format = .ok d) : c.answer store = .ok (q.answer c.now d) := by
  obtain ⟨settings, now, r, operation⟩ := c
  cases hop
  simp only [Call.answer, Operation.run, Query.run, hr]

theorem Commits.keptTime (h : c.Commits store command answer d d') :
    (c.after store).keptTime = store.keptTime := Store.keptTime_put h.put

/-- What a command made of the document is read afterwards, with the times as the store keeps
them. -/
theorem Commits.read_after (h : c.Commits store command answer d d')
    (he : (c.after store).read Document.format = .ok e) :
    e = d'.mapTimes store.keptTime ∧ (c.after store).Settled e := by
  have hk := (Store.read_put Document.writesText_format h.read h.put).mp he
  obtain ⟨hd, hs⟩ := Document.keeps_format hk
  exact ⟨h.keptTime ▸ hd, Store.takes_of_put h.put, hs⟩

theorem commits_or_idle (c : Call) (store : DocumentStore) :
    (∃ command answer d d', c.Commits store command answer d d') ∨
      (c.after store = store ∧ ∀ p, (c.exchange store).succeeds p = false) := by
  cases hop : c.operation with
  | query q =>
    exact Or.inr ⟨after_query hop, fun p => by simp only [Exchange.succeeds, exchange, hop]⟩
  | command command =>
    rcases commits_or_stays store hop with ⟨answer, d, d', h⟩ | ⟨hs, failure, hf⟩
    · exact Or.inl ⟨command, answer, d, d', h⟩
    · exact Or.inr ⟨hs, fun p => by simp only [Exchange.succeeds, exchange, hop, hf]⟩

theorem read_of_after (he : (c.after store).read Document.format = .ok e) :
    (∃ command answer d d', c.Commits store command answer d d' ∧ e = d'.mapTimes store.keptTime) ∨
      (c.after store = store ∧ store.read Document.format = .ok e ∧
        ∀ p, (c.exchange store).succeeds p = false) := by
  rcases c.commits_or_idle store with ⟨command, answer, d, d', h⟩ | ⟨hs, hf⟩
  · exact Or.inl ⟨command, answer, d, d', h, (h.read_after he).1⟩
  · exact Or.inr ⟨hs, hs ▸ he, hf⟩

theorem read_step (hr : store.read Document.format = .ok d)
    (he : (c.after store).read Document.format = .ok e) :
    (∃ command answer d', c.Commits store command answer d d' ∧ e = d'.mapTimes store.keptTime) ∨
      (c.after store = store ∧ e = d ∧ ∀ p, (c.exchange store).succeeds p = false) := by
  rcases read_of_after he with ⟨command, answer, d₁, d', h, rfl⟩ | ⟨hs, hr', hf⟩
  · obtain rfl := Except.ok.inj (hr.symm.trans h.read)
    exact Or.inl ⟨command, answer, d', h, rfl⟩
  · exact Or.inr ⟨hs, Except.ok.inj (hr'.symm.trans hr), hf⟩

theorem settled_after (hs : store.Settled d) (hr : store.read Document.format = .ok d)
    (he : (c.after store).read Document.format = .ok e) : (c.after store).Settled e := by
  rcases read_step hr he with ⟨_, _, _, h, -⟩ | ⟨hsame, rfl, -⟩
  · exact (h.read_after he).2
  · rw [hsame]
    exact hs

theorem keptTime_after (c : Call) (store : DocumentStore) :
    (c.after store).keptTime = store.keptTime := by
  rcases c.commits_or_idle store with ⟨_, _, _, _, h⟩ | ⟨hs, -⟩
  · exact h.keptTime
  · rw [hs]

end Call

/-- Calls on a store one after the other, with what each was answered. -/
inductive Run (start : DocumentStore) : List Exchange → DocumentStore → Prop
  | nil : Run start [] start
  | snoc {log : List Exchange} {store : DocumentStore} (c : Call) : Run start log store →
      Run start (log ++ [c.exchange store]) (c.after store)

namespace Run

variable {start store : DocumentStore} {log before since : List Exchange} {exchange : Exchange}

theorem eq_of_nil (h : Run start [] store) : store = start := by
  generalize hl : ([] : List Exchange) = log at h
  cases h with
  | nil => rfl
  | snoc c h => simp at hl

theorem split (h : Run start log store) (hl : log = before ++ since) :
    ∃ middle, Run start before middle ∧ Run middle since store := by
  induction h generalizing since with
  | nil =>
    obtain ⟨rfl, rfl⟩ := List.append_eq_nil_iff.mp hl.symm
    exact ⟨start, .nil, .nil⟩
  | @snoc log store c h ih =>
    rcases List.eq_nil_or_concat' since with rfl | ⟨since, exchange, rfl⟩
    · rw [List.append_nil] at hl
      exact ⟨_, hl ▸ .snoc c h, .nil⟩
    · rw [← List.append_assoc] at hl
      obtain ⟨rfl, he⟩ := List.append_inj' hl rfl
      obtain ⟨middle, hb, hs⟩ := ih rfl
      exact ⟨middle, hb, he ▸ .snoc c hs⟩

theorem split_exchange (h : Run start log store) (hl : log = before ++ exchange :: since) :
    ∃ middle, Run start before middle ∧ exchange = exchange.call.exchange middle ∧
      Run (exchange.call.after middle) since store := by
  rw [List.append_cons] at hl
  obtain ⟨after, hb, hs⟩ := h.split hl
  generalize hm : before ++ [exchange] = log' at hb
  cases hb with
  | nil => simp at hm
  | snoc c hb =>
    obtain ⟨rfl, he⟩ := List.append_inj' hm rfl
    obtain rfl := List.singleton_inj.mp he
    exact ⟨_, hb, rfl, hs⟩

theorem keptTime (h : Run start log store) : store.keptTime = start.keptTime := by
  induction h with
  | nil => rfl
  | snoc c h ih => rw [c.keptTime_after, ih]

/-- Induction along a run over the documents that are read: where one can be read at the end, one
could be read all along. -/
theorem induct_read {P : List Exchange → DocumentStore → Document → Prop} {e : Document}
    (h : Run start log store) (he : store.read Document.format = .ok e)
    (hstart : ∀ d, start.read Document.format = .ok d → P [] start d)
    (hstep : ∀ {log : List Exchange} {store : DocumentStore} {c : Call} {d e : Document},
      P log store d → store.read Document.format = .ok d →
        (c.after store).read Document.format = .ok e →
          P (log ++ [c.exchange store]) (c.after store) e) :
    P log store e := by
  induction h generalizing e with
  | nil => exact hstart e he
  | snoc c h ih =>
    -- the document of the step before is not given: it is the one this call found
    rcases Call.read_of_after he with ⟨_, _, d, _, hc, -⟩ | ⟨-, hr, -⟩
    · exact hstep (ih hc.read) hc.read he
    · exact hstep (ih hr) hr he

/-- What each command keeps, and what is not lost on times, holds of every document of a run. -/
theorem keeps {P : Document → Prop} {d e : Document}
    (heffect : ∀ {settings : Settings} {now : Instant} {r : Randomness} {d d' : Document}
      {command : Command} {answer : Answer},
      P d → command.Effect settings now r d answer d' → P d')
    (htimes : ∀ {d : Document} (f : Instant → Instant), P d → P (d.mapTimes f))
    (h : Run start log store) (hr : start.read Document.format = .ok d) (hd : P d)
    (he : store.read Document.format = .ok e) : P e := by
  refine h.induct_read (P := fun _ _ e => P e) he (fun d' hr' => ?_) fun hd hr he => ?_
  · obtain rfl := Except.ok.inj (hr.symm.trans hr')
    exact hd
  · rcases Call.read_step hr he with ⟨_, _, _, hc, rfl⟩ | ⟨-, rfl, -⟩
    · exact htimes _ (heffect hd hc.effect)
    · exact hd

end Run

end Credentials
