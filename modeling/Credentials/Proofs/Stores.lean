import Credentials.Proofs.Replacement
import Credentials.Store.Basic

/-! A write to a store as reading, working on the copy and putting it back; and what is read once a
copy has been put back. In memory it is the copy, in a file it is what the text of the copy says. -/

namespace Credentials

theorem bind_ok_iff {ε α β : Type} {x : Except ε α} {f : α → Except ε β} {b : β} :
    (x >>= f) = .ok b ↔ ∃ a, x = .ok a ∧ f a = .ok b := by
  cases x <;> simp [bind, Except.bind]

theorem map_ok_iff {ε α β : Type} {x : Except ε α} {f : α → β} {b : β} :
    x.map f = .ok b ↔ ∃ a, x = .ok a ∧ b = f a := by
  cases x <;> simp [Except.map, eq_comm]

theorem mapError_ok_iff {ε ε' α : Type} {x : Except ε α} {f : ε → ε'} {a : α} :
    x.mapError f = .ok a ↔ x = .ok a := by
  constructor
  · intro h
    cases x with
    | ok b =>
      cases h
      rfl
    | error e => cases h
  · rintro rfl
    rfl

namespace Store

open Files (FileSystem)

variable {δ σ ε α : Type} {format : Format δ} {store store' : Store δ} {copy : δ}

def put (format : Format δ) (copy : δ) : Store δ → Except Error (Store δ)
  | memory _ => .ok (memory copy)
  | poisoned => .error .poisoned
  | file path files =>
    match files.replace path (format.toText copy) with
    | .ok files => .ok (file path files)
    | .error fault => .error (.io path fault)

theorem put_file_ok_iff {path : Files.Path} {files : FileSystem} :
    (file path files).put format copy = .ok store ↔
      ∃ files', files.replace path (format.toText copy) = .ok files' ∧ store = file path files' := by
  rw [put]
  cases files.replace path (format.toText copy) <;> simp [eq_comm]

def crash : Store δ → Store δ
  | memory _ => poisoned
  | poisoned => poisoned
  | file path files => file path files

theorem update_eq (writer : Writer σ ε α δ) (s : σ) (store : Store δ) :
    update format writer s store =
      match store.read format with
      | .error cause => (.error (.store cause), store, s)
      | .ok value =>
        match writer s value with
        | (.refuse cause, _, s) => (.error (.refused cause), store, s)
        | (.crash, _, s) => (.error .crashed, store.crash, s)
        | (.commit a, copy, s) =>
          match store.put format copy with
          | .error cause => (.error (.store cause), store, s)
          | .ok store => (.ok a, store, s) := by
  cases store with
  | memory value =>
    simp only [update, read, put, crash]
    rcases writer s value with ⟨v, copy, s⟩
    cases v <;> rfl
  | poisoned => rfl
  | file path files =>
    simp only [update, put, crash]
    cases read format (file path files) with
    | error => rfl
    | ok value =>
      rcases hw : writer s value with ⟨v, copy, s'⟩
      cases v with
      | refuse | crash => simp [hw]
      | commit a =>
        simp only [hw]
        cases files.replace path (format.toText copy) <;> rfl

/-- What a copy turns into by being put away and read back. -/
def Keeps (format : Format δ) (store : Store δ) (copy back : δ) : Prop :=
  match store with
  | memory _ => back = copy
  | poisoned => False
  | file .. => format.ofText (format.toText copy) = .ok back

/-- No copy is written as blank text, which would read as an empty document. -/
def Format.WritesText (format : Format δ) : Prop :=
  ∀ copy, (format.toText copy).toList.all Text.isBlank = false

/-- A file into which a copy was put says what the text of the copy says. -/
theorem read_replace {value : δ} {path : Files.Path} {files files' : FileSystem}
    (hf : Format.WritesText format) (hr : (file path files).read format = .ok value)
    (hw : files.replace path (format.toText copy) = .ok files') :
    (file path files').read format =
      (format.ofText (format.toText copy)).mapError (Error.parse path) := by
  have lock : acquire path files' = .ok () := by
    unfold acquire
    cases hl : files.read (lockPath path) with
    | error => simp [read, acquire, hl, bind, Except.bind] at hr
    | ok content =>
      obtain ⟨content', hl'⟩ := FileSystem.read_ok_replace hw hl
      rw [hl']
  simp only [read, lock, load, FileSystem.readText_replace hw, hf copy, bind, Except.bind,
    Bool.false_eq_true, if_false]
  cases format.ofText (format.toText copy) <;> rfl

theorem read_put {value back : δ} (hf : Format.WritesText format)
    (hr : store.read format = .ok value) (hp : store.put format copy = .ok store') :
    store'.read format = .ok back ↔ Keeps format store' copy back := by
  cases store with
  | memory => cases hp; simp [read, Keeps, eq_comm]
  | poisoned => cases hp
  | file path files =>
    obtain ⟨files', hw, rfl⟩ := put_file_ok_iff.mp hp
    rw [read_replace hf hr hw, Keeps, mapError_ok_iff]

/-- A store that took one copy takes any other. -/
def Takes (format : Format δ) (store : Store δ) : Prop :=
  ∀ copy, ∃ store', store.put format copy = .ok store'

theorem takes_of_put (hp : store.put format copy = .ok store') : Takes format store' := by
  intro again
  cases store with
  | memory => cases hp; exact ⟨_, rfl⟩
  | poisoned => cases hp
  | file path files =>
    obtain ⟨files', hw, rfl⟩ := put_file_ok_iff.mp hp
    obtain ⟨files'', h⟩ := FileSystem.replace_replace hw (format.toText again)
    exact ⟨file path files'', put_file_ok_iff.mpr ⟨files'', h, rfl⟩⟩

end Store

end Credentials
