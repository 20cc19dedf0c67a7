import Credentials.Proofs.Runs

/-! An operation that answers an error has changed nothing: not the document in memory, not the bytes
of the file, not whether there is one. A file from which no document can be read stays as it is
whatever is asked of it. -/

namespace Credentials

open Files (Content FileSystem Path)

namespace Store

variable {δ σ ε α : Type} {format : Format δ} {writer : Writer σ ε α δ} {s : σ} {store : Store δ}

/-- A write without an answer leaves the store as it was, whatever the writer did to its copy, unless
the writer crashed. -/
theorem after_update_error {failure : Failure ε}
    (h : (update format writer s store).1 = .error failure) :
    (update format writer s store).2.1 = store ∨
      failure = .crashed ∧ ∃ value copy s', store.read format = .ok value ∧
        writer s value = (.crash, copy, s') := by
  rw [update_eq] at h ⊢
  cases hr : store.read format with
  | error cause => exact .inl rfl
  | ok value =>
    simp only [hr] at h ⊢
    rcases hw : writer s value with ⟨verdict, copy, s'⟩
    cases verdict with
    | refuse cause => exact .inl rfl
    | crash =>
      simp only [hw, Except.error.injEq] at h
      exact .inr ⟨h.symm, value, copy, s', rfl, hw⟩
    | commit a =>
      simp only [hw] at h ⊢
      cases hp : store.put format copy with
      | error cause => exact .inl rfl
      | ok store' =>
        simp only [hp] at h
        cases h

/-- Whether a document can be read from what a file holds; a blank text stands for an empty one. -/
def HoldsDocument : Content → Prop
  | .text s => s.toList.all Text.isBlank = true ∨ ∃ d, Document.ofJson s = .ok d
  | .binary _ => False

theorem holdsDocument_of_read {path : Path} {files : FileSystem} {content : Content} {d : Document}
    (hf : files.read path = .ok content) (hr : (file path files).read Document.format = .ok d) :
    HoldsDocument content := by
  obtain ⟨-, -, hload⟩ := bind_ok_iff.mp hr
  unfold load at hload
  cases content with
  | binary bytes => simp [FileSystem.readText, hf, bind, Except.bind] at hload
  | text s =>
    rw [FileSystem.readText_ok_iff.mpr hf] at hload
    by_cases hb : s.toList.all Text.isBlank = true
    · exact .inl hb
    · simp only [hb, Bool.false_eq_true, if_false] at hload
      cases hof : Document.ofJson s with
      | ok d => exact .inr ⟨d, hof⟩
      | error mismatch => simp [Document.format, hof] at hload

end Store

theorem Transaction.writer_ne_crash {α : Type} {t : Transaction α} {r r' : Randomness}
    {d copy : Document} : t.writer r d ≠ (.crash, copy, r') := by
  unfold Transaction.writer
  rcases t r d with refusal | ⟨a, d', r₁⟩ <;> nofun

namespace Call

variable {c : Call} {store : DocumentStore} {failure : Failure}

theorem after_error (h : c.answer store = .error failure) : c.after store = store := by
  obtain ⟨settings, now, r, operation⟩ := c
  cases operation with
  | query q => rfl
  | command command =>
    simp only [answer, after, Operation.run, Command.run] at h ⊢
    rcases hp : command.prepare settings now r with ⟨refusal | t, r₁⟩
    · rfl
    · simp only [hp] at h ⊢
      rcases Store.after_update_error h with hsame | ⟨-, _, _, _, -, hcrash⟩
      · exact hsame
      · exact absurd hcrash Transaction.writer_ne_crash

theorem error_of_unreadable {cause : Store.Error} (h : store.read Document.format = .error cause) :
    ∃ failure, c.answer store = .error failure := by
  cases ha : c.answer store with
  | error failure => exact ⟨failure, rfl⟩
  | ok answer =>
    exfalso
    cases hop : c.operation with
    | command command =>
      obtain ⟨d, d', hc⟩ := commits_of_ok hop ha
      cases h.symm.trans hc.read
    | query q =>
      obtain ⟨settings, now, r, operation⟩ := c
      cases hop
      simp only [Call.answer, Operation.run, Query.run, h] at ha
      cases ha

end Call

theorem Run.eq_of_errors {start store : DocumentStore} {log : List Exchange}
    (h : Run start log store) (hlog : ∀ x ∈ log, ∃ failure, x.answer = .error failure) :
    store = start := by
  induction h with
  | nil => rfl
  | @snoc log store c h ih =>
    obtain ⟨failure, hf⟩ := hlog (c.exchange store) (by simp)
    rw [c.after_error hf]
    exact ih fun x hx => hlog x (List.mem_append_left _ hx)

theorem Run.errors_of_unreadable {start store : DocumentStore} {log : List Exchange}
    {cause : Store.Error} (h : Run start log store)
    (hstart : start.read Document.format = .error cause) :
    ∀ x ∈ log, ∃ failure, x.answer = .error failure := by
  induction h with
  | nil => exact List.forall_mem_nil _
  | @snoc log store c h ih =>
    intro x hx
    rcases List.mem_append.mp hx with hx | hx
    · exact ih x hx
    · obtain rfl := List.mem_singleton.mp hx
      rw [← h.eq_of_errors ih] at hstart
      exact c.error_of_unreadable hstart

/-- Whatever a store is and holds, an operation that answers an error leaves it as it was, and so does
every run of such operations. A file that holds neither blank text nor a document is never written:
all operations on it fail. -/
theorem failure_changes_nothing :
    (∀ (c : Call) (store : DocumentStore) (failure : Failure),
      c.answer store = .error failure → c.after store = store) ∧
    (∀ (start store : DocumentStore) (log : List Exchange), Run start log store →
      (∀ x ∈ log, ∃ failure, x.answer = .error failure) → store = start) ∧
    ∀ (path : Path) (files : FileSystem) (content : Content) (store : DocumentStore)
      (log : List Exchange), files.read path = .ok content → ¬ Store.HoldsDocument content →
      Run (.file path files) log store →
        store = .file path files ∧ ∀ x ∈ log, ∃ failure, x.answer = .error failure := by
  refine ⟨fun c store failure => c.after_error, fun start store log h => h.eq_of_errors, ?_⟩
  intro path files content store log hf hcontent h
  cases hr : Store.read Document.format (.file path files) with
  | ok d => exact absurd (Store.holdsDocument_of_read hf hr) hcontent
  | error cause =>
    have hlog := h.errors_of_unreadable hr
    exact ⟨h.eq_of_errors hlog, hlog⟩

/-- A directory in which the document's file holds half of one. -/
def halfWritten : FileSystem :=
  ((Store.prepare "d".toList (.bare [])).1).setEntry ["d".toList] (.file (.text "\x7b"))

theorem failure_changes_nothing_halfWritten :
    let create := Call.plain 0 [bytes32 1] (.createDevice "tv")
    let delete := Call.plain 0 [] (.deleteDevice "tv" "AQ")
    delete.after (.memory .empty) = .memory .empty ∧
      delete.after (delete.after (.memory .empty)) = .memory .empty ∧
      create.after (.file "d".toList halfWritten) = .file "d".toList halfWritten ∧
      ∃ failure, create.answer (.file "d".toList halfWritten) = .error failure := by
  intro create delete
  have htwice : Run (.memory .empty) _ _ := .snoc delete (.snoc delete .nil)
  have hcreate : Run (.file "d".toList halfWritten) _ _ := .snoc create .nil
  have hcontent : ¬ Store.HoldsDocument (.text "\x7b") := by
    rintro (hblank | ⟨d, hd⟩)
    · exact absurd hblank (by decide)
    · have hnone : (Document.ofJson "\x7b").toOption = none := by decide +kernel
      rw [hd] at hnone
      cases hnone
  obtain ⟨hsame, hlog⟩ := failure_changes_nothing.2.2 _ _ (.text "\x7b") _ _ (by decide +kernel)
    hcontent hcreate
  have hfails := hlog (create.exchange (.file "d".toList halfWritten)) (by simp)
  refine ⟨failure_changes_nothing.1 delete _ (.refused .notFound) rfl, ?_, hsame, hfails⟩
  refine failure_changes_nothing.2.1 _ _ _ htwice fun x hx => ⟨.refused .notFound, ?_⟩
  rcases List.mem_append.mp hx with hx | hx <;> obtain rfl := List.mem_singleton.mp hx <;> rfl

end Credentials
