import Credentials.Proofs.Opening
import Credentials.Proofs.Register
import Credentials.Proofs.Reloading
import Credentials.Proofs.Stamps

/-! A document in memory and the same document in a file cannot be told apart, as long as all times
are whole microseconds of years with four digits: such a time is read from its text as it was. -/

namespace Credentials

open Time (Instant)

/-- A whole number of microseconds, in a year that is written with four digits and no sign. -/
structure Time.Instant.IsWhole (t : Instant) : Prop where
  fourDigit : t.IsFourDigit
  micros : t.toMicros = t

instance (t : Instant) : Decidable t.IsWhole :=
  decidable_of_iff (t.IsFourDigit ∧ t.toMicros = t) ⟨fun h => ⟨h.1, h.2⟩, fun h => ⟨h.1, h.2⟩⟩

theorem Time.Instant.IsWhole.reread {t : Instant} (h : t.IsWhole) : t.reread = t := by
  rw [Instant.reread_eq_toMicros h.fourDigit.1, h.micros]

theorem Document.keeps_whole {store store' : DocumentStore} {d : Document}
    (h : d.EachTime Instant.IsWhole) (hput : store.put format d = .ok store') :
    store'.Keeps format d d := by
  cases store with
  | memory => cases hput; rfl
  | poisoned => cases hput
  | file path files =>
    obtain ⟨files', -, rfl⟩ := Store.put_file_ok_iff.mp hput
    have hsame : d.mapTimes Instant.reread = d :=
      (h.mapTimes_congr fun t ht => ht.reread).trans d.mapTimes_id
    simp only [Store.Keeps, format, ofJson_text_iff]
    exact ⟨h.imp fun t ht => ht.fourDigit.isReadable, hsame.symm⟩

structure Store.Ready (store : DocumentStore) (d : Document) : Prop where
  read : store.read Document.format = .ok d
  takes : store.Takes Document.format

namespace Call

variable {c : Call} {store store' : DocumentStore} {command : Command} {answer : Answer}
  {d d' : Document}

/-- The times that a call puts into the document if it succeeds. -/
def stamps (c : Call) : List Instant :=
  match c.operation with
  | .query _ => []
  | .command command => command.stamps c.settings c.now

theorem unprepared {refusal : Refusal} {r : Randomness} (store : DocumentStore)
    (hop : c.operation = .command command)
    (hp : command.prepare c.settings c.now c.randomness = (.error refusal, r)) :
    c.answer store = .error (.refused refusal) ∧ c.after store = store := by
  obtain ⟨settings, now, randomness, operation⟩ := c
  cases hop
  constructor
  · simp only [Call.answer, Operation.run, Command.run, hp]
  · simp only [after, Operation.run, Command.run, hp]

/-- What a call does depends on the document that is held and not on where it is held. -/
theorem commits_or_refused (c : Call) (h : store.Ready d) (h' : store'.Ready d) :
    (∃ command answer d', c.Commits store command answer d d' ∧
      c.Commits store' command answer d d') ∨
    (c.answer store = c.answer store' ∧ c.after store = store ∧ c.after store' = store') := by
  cases hop : c.operation with
  | query q =>
    refine .inr ⟨?_, after_query hop, after_query hop⟩
    rw [answer_query hop h.read, answer_query hop h'.read]
  | command command =>
    rcases hp : command.prepare c.settings c.now c.randomness with ⟨refusal | t, r⟩
    · obtain ⟨ha, hs⟩ := unprepared store hop hp
      obtain ⟨ha', hs'⟩ := unprepared store' hop hp
      exact .inr ⟨ha.trans ha'.symm, hs, hs'⟩
    · rcases hd : t r d with refusal | ⟨answer, d', r'⟩
      · obtain ⟨ha, hs⟩ := refused hop h.read hp hd
        obtain ⟨ha', hs'⟩ := refused hop h'.read hp hd
        exact .inr ⟨ha.trans ha'.symm, hs, hs'⟩
      · have heffect := Command.effect_of_prepare hp hd
        exact .inl ⟨command, answer, d', commits_of_effect hop h.read h.takes heffect,
          commits_of_effect hop h'.read h'.takes heffect⟩

theorem Commits.ready_after (h : c.Commits store command answer d d')
    (hd : d'.EachTime Instant.IsWhole) : (c.after store).Ready d' where
  read := (Store.read_put Document.writesText_format h.read h.put).mpr (Document.keeps_whole hd h.put)
  takes := Store.takes_of_put h.put

/-- One call on two stores that hold one document: the answers are the same, and so is what the
stores hold afterwards. -/
theorem alike_after (c : Call) (h : store.Ready d) (h' : store'.Ready d) (hd : d.EachTime Instant.IsWhole)
    (hc : ∀ t ∈ c.stamps, t.IsWhole) :
    c.answer store = c.answer store' ∧
      ∃ e, (c.after store).Ready e ∧ (c.after store').Ready e ∧ e.EachTime Instant.IsWhole := by
  rcases c.commits_or_refused h h' with
    ⟨command, answer, d', hcommits, hcommits'⟩ | ⟨ha, hs, hs'⟩
  · have hwhole : d'.EachTime Instant.IsWhole := by
      rw [hcommits.effect.eachTime_iff hd]
      simpa only [stamps, hcommits.operation] using hc
    refine ⟨hcommits.answered.trans hcommits'.answered.symm, d', ?_⟩
    exact ⟨hcommits.ready_after hwhole, hcommits'.ready_after hwhole, hwhole⟩
  · rw [hs, hs']
    exact ⟨ha, d, h, h', hd⟩

end Call

theorem Run.alike {start start' store store' : DocumentStore} {log log' : List Exchange} {d : Document}
    (hrun : Run start log store) (hrun' : Run start' log' store') (h : start.Ready d)
    (h' : start'.Ready d) (hd : d.EachTime Instant.IsWhole)
    (hcalls : log.map (·.call) = log'.map (·.call))
    (hwhole : ∀ x ∈ log, ∀ t ∈ x.call.stamps, t.IsWhole) :
    log = log' ∧ ∃ e, store.Ready e ∧ store'.Ready e ∧ e.EachTime Instant.IsWhole := by
  induction hrun generalizing log' store' with
  | nil =>
    cases hrun' with
    | nil => exact ⟨rfl, d, h, h', hd⟩
    | snoc c hrun' => simp at hcalls
  | @snoc log store c hrun ih =>
    cases hrun' with
    | nil => simp at hcalls
    | @snoc log' store' c' hrun' =>
      rw [List.map_append, List.map_append] at hcalls
      obtain ⟨hbefore, hlast⟩ := List.append_inj' hcalls rfl
      obtain rfl : c = c' := List.singleton_inj.mp hlast
      obtain ⟨hlog, hc⟩ := List.forall_mem_append.mp hwhole
      obtain ⟨rfl, e, he, he', hewhole⟩ := ih hrun' hbefore hlog
      obtain ⟨hanswer, hafter⟩ := c.alike_after he he' hewhole (hc _ (List.mem_singleton_self _))
      refine ⟨?_, hafter⟩
      rw [Call.exchange, Call.exchange, hanswer]

/-- The same calls on a document in memory and on a file that holds the same are answered the same,
and leave the same document, after every call of a run. -/
theorem interchangeable {path : Files.Path} {files : Files.FileSystem} {store store' : DocumentStore}
    {log log' : List Exchange} {d : Document} (hpath : path.namesFile = true)
    (hread : Store.read Document.format (.file path files) = .ok d)
    (hd : d.EachTime Instant.IsWhole)
    (hmemory : Run (.memory d) log store) (hfile : Run (.file path files) log' store')
    (hcalls : log.map (·.call) = log'.map (·.call))
    (hwhole : ∀ x ∈ log, ∀ t ∈ x.call.stamps, t.IsWhole) :
    log = log' ∧ ∃ e, store = .memory e ∧ store'.read Document.format = .ok e := by
  have hready : (Store.memory d).Ready d := ⟨rfl, Store.takes_memory d⟩
  have hready' : (Store.file path files).Ready d := ⟨hread, Store.takes_of_read hpath hread⟩
  obtain ⟨hlog, e, he, he', -⟩ := hmemory.alike hfile hready hready' hd hcalls hwhole
  obtain ⟨e', rfl⟩ := hmemory.exists_memory
  obtain rfl : e' = e := Except.ok.inj he.read
  exact ⟨hlog, e', rfl, he'.read⟩

/-- A pairing secret that lives for a second and a half is redeemed after a second and a quarter. -/
theorem interchangeable_admitted :
    let generate : Call := { Call.plain 5 [bytes32 1] .generatePairing with
      settings := { pairingLife := ⟨1500000000⟩ }, now := ⟨5, 500000000⟩ }
    let redeem : Call := { Call.plain 6 [bytes32 2] (.redeemPairing (secret32 1) "tv") with
      now := ⟨6, 750000000⟩ }
    let inMemory := generate.after (.memory .empty)
    let onFile := generate.after newFile
    redeem.answer inMemory = redeem.answer onFile ∧
      ∃ e, redeem.after inMemory = .memory e ∧ (redeem.after onFile).read Document.format = .ok e ∧
        e.devices = [⟨secret32 2, "tv", ⟨6, 750000000⟩⟩] := by
  intro generate redeem inMemory onFile
  have hmemory : Run (.memory .empty) [generate.exchange _, redeem.exchange inMemory] _ :=
    .snoc redeem (.snoc generate .nil)
  have hfile : Run newFile [generate.exchange _, redeem.exchange onFile] _ :=
    .snoc redeem (.snoc generate .nil)
  have hd : Document.empty.EachTime Instant.IsWhole := ⟨by simp [Document.empty], nofun, nofun⟩
  have hcalls : [generate.exchange (.memory .empty), redeem.exchange inMemory].map (·.call) =
      [generate.exchange newFile, redeem.exchange onFile].map (·.call) := by
    simp only [List.map, Call.exchange]
  have hwhole : ∀ x ∈ [generate.exchange (.memory .empty), redeem.exchange inMemory],
      ∀ t ∈ x.call.stamps, t.IsWhole := by
    rw [List.forall_mem_cons, List.forall_mem_singleton]
    exact ⟨by decide +kernel, by decide +kernel⟩
  obtain ⟨hlog, e, he, hread⟩ :=
    interchangeable (by decide) newFile_read hd hmemory hfile hcalls hwhole
  have hlast : redeem.exchange inMemory = redeem.exchange onFile :=
    (List.cons.inj (List.cons.inj hlog).2).1
  have hdevices : (redeem.after inMemory).read Document.format =
      .ok { devices := [⟨secret32 2, "tv", ⟨6, 750000000⟩⟩] } := ok_of_toOption (by decide +kernel)
  rw [he] at hdevices
  refine ⟨(Exchange.mk.inj hlast).2, e, he, hread, ?_⟩
  rw [Except.ok.inj hdevices]

end Credentials
