import Credentials.Store.Basic
import Mathlib.Data.List.DropRight

/-! The steps a path takes, and those that the path of its lock file takes: the same ones but for the
last, where single dots do not count. -/

namespace Credentials

theorem Text.fields_eq_splitOn (sep : Char) (s : List Char) : fields sep s = s.splitOn sep := by
  induction s with
  | nil => rfl
  | cons c s ih =>
    rw [fields, ih, List.splitOn_cons_eq_if_modifyHead]
    cases h : s.splitOn sep with
    | nil => exact absurd h (List.splitOn_ne_nil sep s)
    | cons f fs => simp

theorem not_mem_of_mem_splitOn {sep : Char} {s field : List Char} (h : field ∈ s.splitOn sep) :
    sep ∉ field := by
  induction s generalizing field with
  | nil =>
    obtain rfl : field = [] := by simpa using h
    exact List.not_mem_nil
  | cons c s ih =>
    rw [List.splitOn_cons_eq_if_modifyHead] at h
    cases hs : s.splitOn sep with
    | nil => exact absurd hs (List.splitOn_ne_nil sep s)
    | cons f fs =>
      rw [hs] at h ih
      by_cases hc : c = sep
      · rcases (by simpa [hc] using h : field = [] ∨ field ∈ f :: fs) with rfl | hf
        · exact List.not_mem_nil
        · exact ih hf
      · rcases (by simpa [hc] using h : field = c :: f ∨ field ∈ fs) with rfl | hf
        · rw [List.mem_cons, not_or]
          exact ⟨Ne.symm hc, ih List.mem_cons_self⟩
        · exact ih (List.mem_cons_of_mem _ hf)

theorem intercalate_append {α : Type} {sep : List α} {fs gs : List (List α)} (hf : fs ≠ [])
    (hg : gs ≠ []) : sep.intercalate (fs ++ gs) = sep.intercalate fs ++ sep ++ sep.intercalate gs := by
  induction fs with
  | nil => exact absurd rfl hf
  | cons f fs ih =>
    cases fs with
    | nil =>
      obtain ⟨g, gs, rfl⟩ := List.exists_cons_of_ne_nil hg
      simp [List.intercalate_cons_cons]
    | cons f' fs =>
      have hrest := ih (List.cons_ne_nil _ _)
      simp only [List.cons_append, List.intercalate_cons_cons] at hrest ⊢
      rw [hrest]
      simp only [List.append_assoc]

theorem exists_rdropWhile {α : Type} (p : α → Bool) (l : List α) :
    ∃ tail, l = l.rdropWhile p ++ tail ∧ ∀ x ∈ tail, p x = true := by
  refine ⟨l.rtakeWhile p, ?_, fun x hx => List.mem_rtakeWhile_imp hx⟩
  have h : l.reverse.takeWhile p ++ l.reverse.dropWhile p = l.reverse := List.takeWhile_append_dropWhile
  rw [List.rdropWhile, List.rtakeWhile, ← List.reverse_append, h, List.reverse_reverse]

namespace Files.Path

variable {path : Path} {front : List (List Char)} {name : List Char}

/-- The pieces of a path that lead somewhere or, as a single dot, ask for a directory. -/
def steps (path : Path) : List (List Char) := (Text.fields '/' path).filter (!·.isEmpty)

def namesFile (path : Path) : Bool :=
  (Text.fields '/' path).getLast?.any fun name => isStep name && name != ['.', '.']

theorem namesFile_iff : path.namesFile = true ↔
    ∃ front name, path.splitOn '/' = front ++ [name] ∧ isStep name = true ∧ name ≠ ['.', '.'] := by
  rw [namesFile, Text.fields_eq_splitOn, Option.any_eq_true]
  simp only [List.getLast?_eq_some_iff, Bool.and_eq_true, bne_iff_ne]
  constructor
  · rintro ⟨name, ⟨front, hp⟩, hn⟩
    exact ⟨front, name, hp, hn⟩
  · rintro ⟨front, name, hp, hn⟩
    exact ⟨name, ⟨front, hp⟩, hn⟩

theorem ne_of_isStep (h : isStep name = true) : name ≠ [] ∧ name ≠ ['.'] := by
  simpa [isStep] using h

theorem ne_nil_of_namesFile (h : path.namesFile = true) : path ≠ [] := by
  rintro rfl
  exact absurd h (by decide)

theorem endsInSlash_of_namesFile (h : path.namesFile = true) :
    FileSystem.endsInSlash path = false := by
  obtain ⟨front, name, hp, hn, -⟩ := namesFile_iff.mp h
  by_contra hslash
  have hlast : path.getLast? = some '/' := by simpa [FileSystem.endsInSlash] using hslash
  -- after a slash at the end there is one more piece, and it is empty
  obtain ⟨init, rfl⟩ := List.getLast?_eq_some_iff.mp hlast
  rw [List.splitOn_append_cons_self] at hp
  obtain rfl := List.singleton_inj.mp (List.append_inj_right' hp rfl)
  exact absurd hn (by decide)

theorem steps_nil : steps [] = [] := rfl

theorem steps_of_name (hn : '/' ∉ name) (hne : name ≠ []) : steps name = [name] := by
  rw [steps, Text.fields_eq_splitOn, List.splitOn_eq_singleton hn]
  simp [hne]

theorem steps_append_slash (a b : Path) : steps (a ++ '/' :: b) = steps a ++ steps b := by
  simp only [steps, Text.fields_eq_splitOn, List.splitOn_append_cons_self, List.filter_append]

theorem steps_join (hn : '/' ∉ name) (hne : name ≠ []) :
    steps (path.join name) = steps path ++ [name] := by
  unfold join
  split
  · next h =>
    obtain rfl := List.isEmpty_iff.mp h
    exact steps_of_name hn hne
  · split
    · next h =>
      -- the slash that is there already ends in an empty piece, which is no step
      obtain ⟨init, rfl⟩ := List.getLast?_eq_some_iff.mp h
      rw [List.append_assoc, List.singleton_append, steps_append_slash, steps_append_slash,
        steps_of_name hn hne, steps_nil, List.append_nil]
    · rw [steps_append_slash, steps_of_name hn hne]

theorem head?_join (h : path ≠ []) : (path.join name).head? = path.head? := by
  obtain ⟨c, rest, rfl⟩ := List.exists_cons_of_ne_nil h
  unfold join
  split
  · contradiction
  · split <;> rfl

theorem piecesBack_eq (hp : path.splitOn '/' = front ++ [name]) (hn : isStep name = true) :
    piecesBack path = name :: front.reverse := by
  have hdot : name ≠ ['.'] := (ne_of_isStep hn).2
  rw [piecesBack, Text.fields_eq_splitOn, hp]
  cases front with
  | nil => simp [hdot, hn]
  | cons piece front =>
    by_cases h : piece = ['.']
    · simp [h, hn]
    · simp [h, hn]

/-- The parent of a path that ends in a name: of the pieces before the name, it is all but those at
their end that stand for nothing. -/
theorem parent?_eq (hp : path.splitOn '/' = front ++ [name]) (hn : isStep name = true) :
    ∃ kept tail, front = kept ++ tail ∧ (∀ piece ∈ tail, isStep piece = false) ∧ kept ≠ [[]] ∧
      path.parent? = some (if kept.isEmpty then (path.takeWhile (· == '/')).take 1
        else ['/'].intercalate kept) := by
  have hback := piecesBack_eq hp hn
  by_cases h : front.head? = some ['.']
  · obtain ⟨rest, rfl⟩ := List.head?_eq_some_iff.mp h
    obtain ⟨tail, hrest, htail⟩ := exists_rdropWhile (!isStep ·) rest
    refine ⟨['.'] :: rest.rdropWhile (!isStep ·), tail, ?_, by simpa using htail, by simp, ?_⟩
    · rw [List.cons_append, ← hrest]
    · simp only [parent?, hback]
      simp [List.rdropWhile]
  · obtain ⟨tail, hfront, htail⟩ := exists_rdropWhile (!isStep ·) front
    refine ⟨front.rdropWhile (!isStep ·), tail, hfront, by simpa using htail, ?_, ?_⟩
    · intro hkept
      have hlast := List.rdropWhile_last_not (!isStep ·) front (by simp [hkept])
      simp only [hkept] at hlast
      exact hlast rfl
    · have hrest : front.reverse.getLast? ≠ some ['.'] := by rwa [List.getLast?_reverse]
      simp only [parent?, hback, hrest, if_false, List.rdropWhile, List.isEmpty_reverse]
      split <;> rfl

theorem dot_of_not_isStep {pieces : List (List Char)} (h : ∀ piece ∈ pieces, isStep piece = false) :
    ∀ piece ∈ pieces.filter (!·.isEmpty), piece = ['.'] := by
  intro piece hmem
  obtain ⟨hpiece, hne⟩ := List.mem_filter.mp hmem
  have hstep := h piece hpiece
  rw [Bool.not_eq_true'] at hne
  simpa [isStep, hne] using hstep

theorem steps_of_splitOn {pieces : List (List Char)} (hp : path.splitOn '/' = pieces) :
    steps path = pieces.filter (!·.isEmpty) := by
  rw [steps, Text.fields_eq_splitOn, hp]

theorem leading_spec (path : Path) :
    steps ((path.takeWhile (· == '/')).take 1) = [] ∧
      ((path.takeWhile (· == '/')).take 1 = [] → path.head? ≠ some '/') ∧
      ((path.takeWhile (· == '/')).take 1 ≠ [] →
        ((path.takeWhile (· == '/')).take 1).head? = path.head?) := by
  cases path with
  | nil => exact ⟨rfl, by simp, fun h => absurd rfl h⟩
  | cons c path =>
    by_cases hc : c = '/'
    · subst hc
      exact ⟨rfl, by simp, fun _ => rfl⟩
    · exact ⟨by simp [hc, steps_nil], by simp [hc], by simp [hc]⟩

theorem intercalate_spec {kept rest : List (List Char)} (hp : path.splitOn '/' = kept ++ rest)
    (hne : kept ≠ []) (hkept : kept ≠ [[]]) (hrest : rest ≠ []) :
    steps (['/'].intercalate kept) = kept.filter (!·.isEmpty) ∧ ['/'].intercalate kept ≠ [] ∧
      (['/'].intercalate kept).head? = path.head? := by
  have hmem : ∀ f ∈ kept, '/' ∉ f := by
    intro f hf
    refine not_mem_of_mem_splitOn (s := path) ?_
    rw [hp]
    exact List.mem_append_left _ hf
  have hpieces : (['/'].intercalate kept).splitOn '/' = kept := List.splitOn_intercalate '/' hmem hne
  have hpath : path = ['/'].intercalate kept ++ '/' :: ['/'].intercalate rest := by
    have hwhole : path = ['/'].intercalate (kept ++ rest) := by rw [← hp, List.intercalate_splitOn]
    rw [hwhole, intercalate_append hne hrest, List.append_assoc, List.singleton_append]
  have hsome : ['/'].intercalate kept ≠ [] := by
    intro hnil
    rw [hnil] at hpieces
    exact hkept hpieces.symm
  refine ⟨steps_of_splitOn hpieces, hsome, ?_⟩
  obtain ⟨c, t, ht⟩ := List.exists_cons_of_ne_nil hsome
  rw [hpath, ht]
  rfl

/-- A path that ends in a name takes the steps of its parent, then perhaps single dots, and the name;
and both start from the same place. -/
theorem steps_parent (hp : path.splitOn '/' = front ++ [name]) (hn : isStep name = true) :
    ∃ parent dots, path.parent? = some parent ∧ steps path = steps parent ++ dots ++ [name] ∧
      (∀ dot ∈ dots, dot = ['.']) ∧ (parent = [] → path.head? ≠ some '/') ∧
      (parent ≠ [] → parent.head? = path.head?) := by
  obtain ⟨kept, tail, rfl, htail, hkept, hparent⟩ := parent?_eq hp hn
  have hsteps : steps path = kept.filter (!·.isEmpty) ++ tail.filter (!·.isEmpty) ++ [name] := by
    simp [steps_of_splitOn hp, (ne_of_isStep hn).1]
  refine ⟨_, tail.filter (!·.isEmpty), hparent, ?_⟩
  by_cases hne : kept = []
  · subst hne
    obtain ⟨hnone, hstart⟩ := leading_spec path
    rw [List.isEmpty_nil, if_pos rfl, hnone]
    exact ⟨hsteps, dot_of_not_isStep htail, hstart⟩
  · rw [List.append_assoc] at hp
    obtain ⟨hsame, hsome, hhead⟩ := intercalate_spec hp hne hkept (by simp)
    rw [if_neg (by simpa using hne), hsame]
    exact ⟨hsteps, dot_of_not_isStep htail, fun h => absurd h hsome, fun _ => hhead⟩

end Files.Path

namespace Store

open Files (Path)

/-- The lock file is in the directory of the document: the path of the document takes the same steps
up to its name, perhaps with single dots between. -/
theorem steps_lockPath {path : Path} (h : path.namesFile = true) :
    ∃ front dots name, path.steps = front ++ dots ++ [name] ∧ (∀ dot ∈ dots, dot = ['.']) ∧
      Path.isStep name = true ∧ name ≠ ['.', '.'] ∧
      (lockPath path).steps = front ++ [name ++ ".lk".toList] ∧
      ((lockPath path).head? = some '/' ↔ path.head? = some '/') := by
  obtain ⟨front, name, hp, hn, hdots⟩ := Path.namesFile_iff.mp h
  obtain ⟨parent, dots, hparent, hsteps, hdot, hempty, hhead⟩ := Path.steps_parent hp hn
  have hslash : '/' ∉ name ++ ".lk".toList := by
    have hfield : '/' ∉ name := not_mem_of_mem_splitOn (s := path) (by simp [hp])
    simpa using hfield
  have hname : Path.fileName? path = some name := by
    have hdot : name ≠ ['.'] := (Path.ne_of_isStep hn).2
    simp [Path.fileName?, Path.piecesBack_eq hp hn, hdot, hdots]
  have hlock : lockPath path = parent.join (name ++ ".lk".toList) := by
    simp only [lockPath, Path.withFileName, hname, hparent, Option.getD_some]
  refine ⟨parent.steps, dots, name, hsteps, hdot, hn, hdots, ?_, ?_⟩
  · rw [hlock, Path.steps_join hslash (by simp)]
  · rw [hlock]
    by_cases hp : parent = []
    · rw [hp]
      exact iff_of_false (fun h => hslash (List.mem_of_head? h)) (hempty hp)
    · rw [Path.head?_join hp, hhead hp]

end Store

end Credentials
