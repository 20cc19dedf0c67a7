import Credentials.Proofs.Interchange

/-! What a store gives back of a document that it took. In memory that is the document. In a file it
is the document with its times cut, and nothing at all where the text of one of them is not read
again. -/

namespace Credentials

open Time (Instant)

namespace Store

/-- Whether a time that a store took is given back: a file has to read it from its text. -/
def Retains : DocumentStore → Instant → Prop
  | file .. => Instant.IsReadable
  | _ => fun _ => True

/-- In memory, or at the end of a path that names a file. -/
def HasName : DocumentStore → Prop
  | file path _ => path.namesFile = true
  | _ => True

variable {store store' : DocumentStore} {d copy back : Document}

theorem ready_of_read (hn : store.HasName) (hr : store.read Document.format = .ok d) :
    store.Ready d := by
  cases store with
  | memory value => exact ⟨hr, takes_memory value⟩
  | poisoned => cases hr
  | file path files => exact ⟨hr, takes_of_read hn hr⟩

theorem retains_memory (v d : Document) : d.EachTime (Store.memory v).Retains :=
  ⟨fun _ _ => trivial, fun _ _ => ⟨trivial, fun _ _ => trivial⟩, fun _ _ => ⟨trivial, trivial⟩⟩

theorem retains_put (h : store.put Document.format copy = .ok store') :
    store'.Retains = store.Retains := by
  cases store with
  | memory => cases h; rfl
  | poisoned => cases h
  | file path files =>
    obtain ⟨_, -, rfl⟩ := put_file_ok_iff.mp h
    rfl

theorem keeps_put_iff (h : store.put Document.format copy = .ok store') :
    store'.Keeps Document.format copy back ↔
      copy.EachTime store.Retains ∧ back = copy.mapTimes store.keptTime := by
  cases store with
  | memory value =>
    cases h
    have hid : copy.mapTimes (memory value).keptTime = copy := Document.mapTimes_id copy
    rw [hid]
    exact (and_iff_right (retains_memory value copy)).symm
  | poisoned => cases h
  | file path files =>
    obtain ⟨_, -, rfl⟩ := put_file_ok_iff.mp h
    rw [Keeps, Document.format_ofText, Document.format_toText]
    exact Document.ofJson_text_iff

/-- What is given back once is given back again. -/
theorem retains_keptTime {t : Instant} (h : store.Retains t) :
    store.Retains (store.keptTime t) := by
  cases store with
  | memory | poisoned => trivial
  | file path files => exact Instant.IsReadable.reread h

end Store

namespace Call

variable {c : Call} {store : DocumentStore} {command : Command} {answer : Answer}
  {d d' e : Document}

theorem Commits.read_after_iff (h : c.Commits store command answer d d') :
    (c.after store).read Document.format = .ok e ↔
      d'.EachTime store.Retains ∧ e = d'.mapTimes store.keptTime :=
  (Store.read_put Document.writesText_format h.read h.put).trans (Store.keeps_put_iff h.put)

theorem Commits.retains_after (h : c.Commits store command answer d d') :
    (c.after store).Retains = store.Retains := Store.retains_put h.put

theorem Commits.takes_after (h : c.Commits store command answer d d') :
    (c.after store).Takes Document.format := Store.takes_of_put h.put

end Call

end Credentials
