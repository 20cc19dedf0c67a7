import Credentials.Proofs.JsonText
import Credentials.Proofs.Opening
import Credentials.Store.TextList

/-! A store is a register: whatever its documents are, it gives back what the writers that committed
have made of its first value, one after the other. One that refused or crashed may have spoilt its
copy; but only a store in memory suffers from a crash. -/

namespace Credentials

open Files (FileSystem Path)

/-- Something done with a store: reading, running a writer, or opening it once more. -/
inductive Use (δ : Type) : Type 1 where
  | read
  | write {σ ε α : Type} (writer : Store.Writer σ ε α δ) (s : σ)
  | reopen

/-- A format in which every document is read from its text. No text is blank, as none of JSON is. -/
structure Format.RoundTrips {δ : Type} (format : Format δ) : Prop where
  written : Store.Format.WritesText format
  reads : ∀ value, format.ofText (format.toText value) = .ok value

def Store.Verdict.answer {ε α : Type} : Store.Verdict ε α → Except (Store.Failure ε) α
  | commit a => .ok a
  | refuse cause => .error (.refused cause)
  | crash => .error .crashed

variable {δ : Type}

namespace Use

/-- What a use leaves of a value: the copy of a writer that commits, and the value otherwise. -/
def leaves (value : δ) : Use δ → δ
  | write writer s =>
    match writer s value with
    | (.commit _, copy, _) => copy
    | _ => value
  | _ => value

def crashes (value : δ) : Use δ → Bool
  | write writer s =>
    match writer s value with
    | (.crash, _, _) => true
    | _ => false
  | _ => false

def leaveAll (value : δ) (uses : List (Use δ)) : δ := uses.foldl leaves value

def crashAny : δ → List (Use δ) → Bool
  | _, [] => false
  | value, a :: uses => a.crashes value || crashAny (a.leaves value) uses

end Use

namespace Store

/-- A store opened once more; one in memory stays the one it is. -/
def reopened : Store δ → Store δ
  | file path files => file path (prepare path files).1
  | store => store

def afterUse (format : Format δ) (store : Store δ) : Use δ → Store δ
  | .read => store
  | .write writer s => (update format writer s store).2.1
  | .reopen => store.reopened

def afterUses (format : Format δ) (store : Store δ) (uses : List (Use δ)) : Store δ :=
  uses.foldl (afterUse format) store

/-- Readers are given a value, and writers work on it. -/
structure Serves (format : Format δ) (store : Store δ) (value : δ) : Prop where
  read : store.read format = .ok value
  write : ∀ {σ ε α : Type} (writer : Writer σ ε α δ) (s : σ),
    (update format writer s store).1 = (writer s value).1.answer ∧
      (update format writer s store).2.2 = (writer s value).2.2

/-- Nobody is given anything any more. -/
structure Refuses (format : Format δ) (store : Store δ) : Prop where
  read : store.read format = .error .poisoned
  write : ∀ {σ ε α : Type} (writer : Writer σ ε α δ) (s : σ),
    update format writer s store = (.error (.store .poisoned), store, s)

variable {format : Format δ} {store : Store δ} {value : δ} {path : Path} {files : FileSystem}
  {uses : List (Use δ)}

theorem serves_of_takes (hr : store.read format = .ok value) (ht : Takes format store) :
    Serves format store value := by
  refine ⟨hr, fun writer s => ?_⟩
  rw [update_eq, hr]
  rcases hw : writer s value with ⟨verdict, copy, s'⟩
  cases verdict with
  | refuse cause => simp only [hw, Verdict.answer, and_self]
  | crash => simp only [hw, Verdict.answer, and_self]
  | commit a =>
    obtain ⟨store', hput⟩ := ht copy
    simp only [hw, hput, Verdict.answer, and_self]

theorem refuses_poisoned : Refuses format poisoned := ⟨rfl, fun _ _ => rfl⟩

theorem afterUse_memory (a : Use δ) :
    afterUse format (.memory value) a =
      if a.crashes value then .poisoned else .memory (a.leaves value) := by
  cases a with
  | read => rfl
  | reopen => rfl
  | write writer s =>
    rcases hw : writer s value with ⟨verdict, copy, s'⟩
    cases verdict <;> simp [afterUse, update, Use.crashes, Use.leaves, hw]

theorem afterUses_poisoned : afterUses format .poisoned uses = .poisoned := by
  induction uses with
  | nil => rfl
  | cons a uses ih =>
    have hstep : afterUse format .poisoned a = .poisoned := by cases a <;> rfl
    rw [afterUses, List.foldl_cons, hstep]
    exact ih

theorem afterUses_memory : afterUses format (.memory value) uses =
    if Use.crashAny value uses then .poisoned
    else .memory (Use.leaveAll value uses) := by
  induction uses generalizing value with
  | nil => rfl
  | cons a uses ih =>
    rw [afterUses, List.foldl_cons, afterUse_memory, Use.crashAny]
    by_cases hc : a.crashes value = true
    · rw [if_pos hc, hc, Bool.true_or, if_pos rfl]
      exact afterUses_poisoned
    · rw [if_neg hc, Bool.eq_false_iff.mpr hc, Bool.false_or]
      exact ih

/-- A document's file that stands for a value, with its directory and its lock file. -/
structure Stands (format : Format δ) (path : Path) (files : FileSystem) (value : δ) : Prop where
  prepared : IsPrepared path files
  holds : Holds format path files value

theorem Stands.read (h : Stands format path files value) :
    (file path files).read format = .ok value :=
  read_file_ok_iff.mpr ⟨h.prepared.acquire, h.holds⟩

theorem Stands.serves (h : Stands format path files value) (hp : path.namesFile = true) :
    Serves format (file path files) value :=
  serves_of_takes h.read (takes_of_read hp h.read)

theorem Stands.afterUse (h : Stands format path files value) (hf : format.RoundTrips)
    (hp : path.namesFile = true) (a : Use δ) :
    ∃ files', Store.afterUse format (file path files) a = file path files' ∧
      Stands format path files' (a.leaves value) := by
  cases a with
  | read => exact ⟨files, rfl, h⟩
  | reopen =>
    refine ⟨files, ?_, h⟩
    simp only [Store.afterUse, reopened, prepare_of_isPrepared h.prepared]
  | write writer s =>
    simp only [Store.afterUse, update_eq, h.read, Use.leaves]
    rcases writer s value with ⟨verdict, copy, s'⟩
    cases verdict with
    | refuse cause => exact ⟨files, rfl, h⟩
    | crash => exact ⟨files, rfl, h⟩
    | commit a =>
      obtain ⟨store', hput⟩ := takes_of_read hp h.read copy
      simp only [hput]
      obtain ⟨files', hreplace, rfl⟩ := put_file_ok_iff.mp hput
      refine ⟨files', rfl, h.prepared.replace hreplace, ?_⟩
      exact .written (FileSystem.readText_replace hreplace) (hf.written copy) (hf.reads copy)

theorem Stands.afterUses (h : Stands format path files value) (hf : format.RoundTrips)
    (hp : path.namesFile = true) (uses : List (Use δ)) :
    ∃ files', Store.afterUses format (file path files) uses = file path files' ∧
      Stands format path files' (Use.leaveAll value uses) := by
  induction uses generalizing files value with
  | nil => exact ⟨files, rfl, h⟩
  | cons a uses ih =>
    obtain ⟨files₁, hafter, h₁⟩ := h.afterUse hf hp a
    rw [Store.afterUses, List.foldl_cons, hafter]
    exact ih h₁

end Store

theorem Store.decode_textListValue (texts : List String) :
    Decoding.sequence Decoding.text (textListValue texts).node = .ok texts := by
  have hitems : (texts.map fun text => (Json.Value.text text).node).mapM Decoding.text =
      .ok texts := by
    induction texts with
    | nil => rfl
    | cons text texts ih =>
      rw [List.map_cons, List.mapM_cons, ih]
      rfl
  rw [textListValue, Json.Value.node, Json.Value.nodes_eq_map, List.map_map, Decoding.sequence]
  exact bind_ok_iff.mpr ⟨texts, hitems, rfl⟩

theorem Store.textList_roundTrips : textList.RoundTrips where
  written texts := (textListValue texts).prettyText_not_blank
  reads texts := (Json.decodeText_spelled ((textListValue texts).spelled_pretty 0)).mpr
    (decode_textListValue texts)

/-- Whatever was done with a store, it gives to readers and to writers what the writers that committed
have made of its first value, and nothing of what the others did to their copies. In memory that ends
with the first crash, and nothing is given after that. A file, where a missing or blank one counts as
the empty document, goes on, and there is nothing left to make when it is opened again. -/
theorem store_register {format : Format δ} (hf : format.RoundTrips) (uses : List (Use δ)) :
    (∀ value : δ, if Use.crashAny value uses
      then Store.Refuses format (Store.afterUses format (.memory value) uses)
      else Store.Serves format (Store.afterUses format (.memory value) uses)
        (Use.leaveAll value uses)) ∧
    ∀ (path : Path) (bare files : FileSystem) (value : δ), path.namesFile = true →
      Store.prepare path bare = (files, none) → Store.Holds format path files value →
        Store.Serves format (Store.afterUses format (.file path files) uses)
          (Use.leaveAll value uses) ∧
        ∃ files', Store.afterUses format (.file path files) uses = .file path files' ∧
          Store.prepare path files' = (files', none) := by
  constructor
  · intro value
    rw [Store.afterUses_memory]
    split
    · exact Store.refuses_poisoned
    · exact Store.serves_of_takes rfl fun copy => ⟨.memory copy, rfl⟩
  · intro path bare files value hp hopen hholds
    have hstands : Store.Stands format path files value :=
      ⟨Store.isPrepared_of_prepare hopen, hholds⟩
    obtain ⟨files', hafter, hstands'⟩ := hstands.afterUses hf hp uses
    rw [hafter]
    exact ⟨hstands'.serves hp, files', rfl, Store.prepare_of_isPrepared hstands'.prepared⟩

def Store.putsLast (text : String) (verdict : Verdict String Nat) :
    Writer Unit String Nat (List String) := fun s texts => (verdict, texts ++ [text], s)

/-- Four writers, of which one refuses and one crashes after it has spoilt its copy. -/
theorem store_register_spoilt :
    let spoilt : List (Use (List String)) :=
      [.write (Store.putsLast "a" (.commit 1)) (), .write (Store.putsLast "b" (.refuse "no")) (),
        .reopen, .write (Store.putsLast "c" .crash) (), .write (Store.putsLast "d" (.commit 2)) ()]
    let files := (Store.prepare "d".toList (.bare [])).1
    Store.Serves Store.textList (Store.afterUses Store.textList (.file "d".toList files) spoilt)
        ["a", "d"] ∧
      Store.Refuses Store.textList (Store.afterUses Store.textList (.memory []) spoilt) ∧
      Store.Serves Store.textList (Store.afterUses Store.textList (.memory []) (spoilt.take 3))
        ["a"] := by
  intro spoilt files
  have hopen : Store.prepare "d".toList (.bare []) = (files, none) := by decide +kernel
  have hholds : Store.Holds Store.textList "d".toList files [] := .missing (by decide +kernel)
  have hwhole := store_register Store.textList_roundTrips spoilt
  have hbegun := store_register Store.textList_roundTrips (spoilt.take 3)
  exact ⟨(hwhole.2 _ _ files [] (by decide) hopen hholds).1, hwhole.1 [], hbegun.1 []⟩

end Credentials
