import Credentials.Proofs.CharacterTables
import Credentials.Proofs.Defaults
import Credentials.Proofs.LoadedSources
import Credentials.Proofs.NotedLines
import Credentials.Proofs.Stores

/-! A configuration that is shown as TOML is read again. The heading and the notes on the sources
are comments, except in a string of several lines: there the notes are part of the string, and the
string is another one. -/

namespace Credentials.Config

open Files (FileSystem Path)
open Toml (Holds IsBareKey Items Reads Starts)

def titleLine (name : String) : List Char := '[' :: (name.toList ++ [']', '\n'])

def sections (c : Config) : List Char :=
  titleLine "store" ++ (fieldLine "path" (Toml.stringText c.store.path) ++
    (fieldLine "lock_timeout_ms" (Nat.toDigits 10 c.store.lockTimeoutMillis.toNat) ++
      ('\n' :: (titleLine "auth" ++
        (fieldLine "pairing_ttl_secs" (Nat.toDigits 10 c.auth.pairingLifeSeconds.toNat) ++
          (fieldLine "mnemonic_language" (Toml.stringText c.auth.language) ++
            ('\n' :: (titleLine "logging" ++
              (fieldLine "level" (Toml.stringText c.logging.level) ++
                (fieldLine "format" (Toml.stringText c.logging.format) ++
                  fieldLine "directives" (Toml.stringsText c.logging.directives)))))))))))

/-- A number that is positive and has 64 signed bits at most. -/
def Shows (n : UInt64) : Prop := 0 < n.toNat ∧ Text.fits64 n.toNat = true

theorem body_eq {c : Config} (hlock : Shows c.store.lockTimeoutMillis)
    (hlife : Shows c.auth.pairingLifeSeconds) : body c = .ok (sections c) := by
  have hstore : "[store]\n".toList = titleLine "store" := by decide
  have hauth : "\n[auth]\n".toList = '\n' :: titleLine "auth" := by decide
  have hlogging : "\n[logging]\n".toList = '\n' :: titleLine "logging" := by decide
  simp only [body, integerText, hlock.2, hlife.2, if_true, bind, Except.bind, pure, Except.pure,
    sections, hstore, hauth, hlogging, List.append_assoc, List.cons_append]

/-- What a configuration is read from, and as. -/
structure ReadAs (c c' : Config) : Prop where
  path : ShownAs c.store.path c'.store.path
  lockTimeout : c'.store.lockTimeoutMillis = c.store.lockTimeoutMillis
  pairingLife : c'.auth.pairingLifeSeconds = c.auth.pairingLifeSeconds
  language : ShownAs c.auth.language c'.auth.language
  level : ShownAs c.logging.level c'.logging.level
  format : ShownAs c.logging.format c'.logging.format
  directives : List.Forall₂ ShownAs c.logging.directives c'.logging.directives

def items (c : Config) : Items :=
  [("store", .table .header
      [("path", textItem c.store.path),
       ("lock_timeout_ms", .scalar (.integer c.store.lockTimeoutMillis.toNat))]),
   ("auth", .table .header
      [("pairing_ttl_secs", .scalar (.integer c.auth.pairingLifeSeconds.toNat)),
       ("mnemonic_language", textItem c.auth.language)]),
   ("logging", .table .header
      [("level", textItem c.logging.level), ("format", textItem c.logging.format),
       ("directives", .array (c.logging.directives.map textItem))])]

section
variable {name : String} {value rest s t x : List Char}

theorem exists_of_noted_title (hname : '\n' ∉ name.toList)
    (h : Noted (titleLine name ++ rest) t) :
    ∃ note u, t = '[' :: (name.toList ++ ']' :: (noteText note ++ '\n' :: u)) ∧ Noted rest u := by
  have hline : Noted ('[' :: (name.toList ++ [']']) ++ '\n' :: rest) t := by
    simpa [titleLine] using h
  obtain ⟨note, u, rfl, hu⟩ := exists_of_noted_line hline (by simpa using hname)
  exact ⟨note, u, by simp, hu⟩

theorem exists_of_noted_blank (h : Noted ('\n' :: rest) t) :
    ∃ note u, t = noteText note ++ '\n' :: u ∧ Noted rest u := by
  cases h with
  | char hc => exact absurd rfl hc
  | line note hu => exact ⟨note, _, rfl, hu⟩

theorem exists_of_noted_field (hname : '\n' ∉ name.toList)
    (h : Noted (fieldLine name value ++ rest) t) :
    ∃ x note u, t = name.toList ++ " = ".toList ++ x ++ noteText note ++ '\n' :: u ∧
      Noted value x ∧ Noted rest u := by
  have hline : Noted ((name.toList ++ " = ".toList) ++ (value ++ ([] ++ '\n' :: rest))) t := by
    simpa [fieldLine] using h
  obtain ⟨front, t, rfl, hfront, ht⟩ := exists_of_noted_append hline
  obtain ⟨x, t, rfl, hx, ht⟩ := exists_of_noted_append ht
  obtain ⟨note, u, rfl, hu⟩ := exists_of_noted_line ht List.not_mem_nil
  obtain rfl := eq_of_noted hfront (by simpa using hname)
  exact ⟨x, note, u, by simp, hx, hu⟩

theorem feed_not_mem_noteText {note : Option Layer} : '\n' ∉ noteText note :=
  fun hm => absurd (plain_noteText _ hm).1 (by decide)

theorem append_feed_inj {a b : List Char} (ha : '\n' ∉ a) (hb : '\n' ∉ b)
    (h : a ++ '\n' :: s = b ++ '\n' :: t) : a = b ∧ s = t := by
  rcases List.append_eq_append_iff.mp h with ⟨u, rfl, hu⟩ | ⟨u, rfl, hu⟩
  · cases u with
    | nil => simpa using hu
    | cons c u =>
      obtain ⟨rfl, -⟩ := List.cons.inj hu
      simp at hb
  · cases u with
    | nil => simpa [eq_comm] using hu
    | cons c u =>
      obtain ⟨rfl, -⟩ := List.cons.inj hu
      simp at ha

theorem isPlain_of_isDigit {c : Char} (h : c.isDigit = true) : Toml.isPlain c = true := by
  rw [Char.isDigit_iff_toNat] at h
  change 48 ≤ c.toNat ∧ c.toNat ≤ 57 at h
  simp only [Toml.isPlain, Bool.or_eq_true, Bool.and_eq_true, bne_iff_ne, decide_eq_true_eq]
  omega

theorem digits_of_noted {n : UInt64} (hn : Shows n) (h : Noted (Nat.toDigits 10 n.toNat) x) :
    Holds 0 x (.scalar (.integer n.toNat)) ∧ Starts x := by
  have hdigits : ∀ c ∈ Nat.toDigits 10 n.toNat, c.isDigit = true :=
    fun c hc => Nat.isDigit_of_mem_toDigits (by decide) (by decide) hc
  obtain rfl := eq_of_noted h fun hm => absurd (hdigits _ hm) (by decide)
  refine ⟨Toml.holds_natural hn.1 hn.2, ?_⟩
  obtain ⟨c, ds, hds⟩ := List.exists_cons_of_ne_nil (@Nat.toDigits_ne_nil n.toNat 10)
  have hc : c.isDigit = true := hdigits c (hds ▸ .head ds)
  refine ⟨c, ds, hds, isPlain_of_isDigit hc, ?_, ?_, ?_⟩
  · by_contra hb
    simp only [Bool.not_eq_false, Toml.isBlank, Bool.or_eq_true, beq_iff_eq] at hb
    rcases hb with rfl | rfl <;> cases hc
  all_goals
    rintro rfl
    cases hc

theorem isBareKeys : IsBareKey "store" ∧ IsBareKey "path" ∧ IsBareKey "lock_timeout_ms" ∧
    IsBareKey "auth" ∧ IsBareKey "pairing_ttl_secs" ∧ IsBareKey "mnemonic_language" ∧
    IsBareKey "logging" ∧ IsBareKey "level" ∧ IsBareKey "format" ∧ IsBareKey "directives" := by
  unfold IsBareKey
  decide

theorem reads_of_noted {c : Config} (hlock : Shows c.store.lockTimeoutMillis)
    (hlife : Shows c.auth.pairingLifeSeconds) (h : Noted (sections c) t) :
    ∃ c', ReadAs c c' ∧ Reads [] [] t (items c') ∧
      ∀ note q layer rest, '\n' ∈ c.store.path.toList →
        t = '[' :: ("store".toList ++ ']' :: (noteText note ++ '\n' :: ("path".toList ++
          (" = ".toList ++ q :: q :: q :: (noteText (some layer) ++ '\n' :: rest))))) →
        c'.store.path ≠ c.store.path := by
  rw [sections] at h
  obtain ⟨n₁, t₁, rfl, h₁⟩ := exists_of_noted_title (by decide) h
  obtain ⟨x₂, n₂, t₂, rfl, hpath, h₂⟩ := exists_of_noted_field (by decide) h₁
  obtain ⟨x₃, n₃, t₃, rfl, hlock', h₃⟩ := exists_of_noted_field (by decide) h₂
  obtain ⟨n₄, t₄, rfl, h₄⟩ := exists_of_noted_blank h₃
  obtain ⟨n₅, t₅, rfl, h₅⟩ := exists_of_noted_title (by decide) h₄
  obtain ⟨x₆, n₆, t₆, rfl, hlife', h₆⟩ := exists_of_noted_field (by decide) h₅
  obtain ⟨x₇, n₇, t₇, rfl, hlanguage, h₇⟩ := exists_of_noted_field (by decide) h₆
  obtain ⟨n₈, t₈, rfl, h₈⟩ := exists_of_noted_blank h₇
  obtain ⟨n₉, t₉, rfl, h₉⟩ := exists_of_noted_title (by decide) h₈
  obtain ⟨y₁, m₁, u₁, rfl, hlevel, hu₁⟩ := exists_of_noted_field (by decide) h₉
  obtain ⟨y₂, m₂, u₂, rfl, hformat, hu₂⟩ := exists_of_noted_field (by decide) hu₁
  rw [← List.append_nil (fieldLine "directives" _)] at hu₂
  obtain ⟨y₃, m₃, u₃, rfl, hdirectives, hu₃⟩ := exists_of_noted_field (by decide) hu₂
  cases hu₃
  obtain ⟨path, hpath, hp, hp', hchanged⟩ := @exists_of_noted_string _ _ 0 hpath
  obtain ⟨language, hlanguage, hl, hl', -⟩ := @exists_of_noted_string _ _ 0 hlanguage
  obtain ⟨level, hlevel, hv, hv', -⟩ := @exists_of_noted_string _ _ 0 hlevel
  obtain ⟨format, hformat, hf, hf', -⟩ := @exists_of_noted_string _ _ 0 hformat
  obtain ⟨directives, hdirectives, hd, hd'⟩ := exists_of_noted_strings hdirectives
  obtain ⟨hn, hn'⟩ := digits_of_noted hlock hlock'
  obtain ⟨hm, hm'⟩ := digits_of_noted hlife hlife'
  obtain ⟨hstore, hpathKey, hlockKey, hauth, hlifeKey, hlanguageKey, hlogging, hlevelKey,
    hformatKey, hdirectivesKey⟩ := isBareKeys
  refine ⟨⟨⟨path, c.store.lockTimeoutMillis⟩, ⟨c.auth.pairingLifeSeconds, language⟩,
    ⟨level, format, directives⟩⟩, ⟨hpath, rfl, rfl, hlanguage, hlevel, hformat, hdirectives⟩, ?_,
    fun note q layer rest hline he => ?_⟩
  swap
  · -- the two ways to take the text apart agree on the line of the path
    have hstore := (List.cons.inj (List.append_cancel_left (List.cons.inj he).2)).2
    obtain ⟨-, hline'⟩ := append_feed_inj feed_not_mem_noteText feed_not_mem_noteText hstore
    simp only [List.append_assoc] at hline'
    exact hchanged q layer _ rest hline
      (List.append_cancel_left (List.append_cancel_left hline'))
  have remark {note : Option Layer} : Toml.Remark (noteText note) := remark_noteText
  refine Toml.reads_header hstore remark (by rfl) ?_
  refine Toml.reads_field hpathKey hp hp' remark (by rfl) ?_
  refine Toml.reads_field hlockKey hn hn' remark (by rfl) ?_
  refine Toml.reads_remark remark ?_
  refine Toml.reads_header hauth remark (by rfl) ?_
  refine Toml.reads_field hlifeKey hm hm' remark (by rfl) ?_
  refine Toml.reads_field hlanguageKey hl hl' remark (by rfl) ?_
  refine Toml.reads_remark remark ?_
  refine Toml.reads_header hlogging remark (by rfl) ?_
  refine Toml.reads_field hlevelKey hv hv' remark (by rfl) ?_
  refine Toml.reads_field hformatKey hf hf' remark (by rfl) ?_
  refine Toml.reads_field hdirectivesKey hd hd' remark (by rfl) ?_
  exact Toml.reads_end

theorem reads_fileLines {files : List String} {i : Nat} {out : Items}
    (hfiles : ∀ name ∈ files, ∀ c ∈ name.toList, Toml.isPlain c = true)
    (h : Reads [] [] rest out) : Reads [] [] (fileLines i files ++ rest) out := by
  induction files generalizing i with
  | nil => exact h
  | cons name files ih =>
    obtain ⟨hname, hfiles⟩ := List.forall_mem_cons.mp hfiles
    have hmark : "#   ".toList = '#' :: "   ".toList := by decide
    have hline : fileLines i (name :: files) = "#   ".toList ++ Nat.toDigits 10 i ++
        ". ".toList ++ name.toList ++ '\n' :: fileLines (i + 1) files := rfl
    have hlines : fileLines i (name :: files) ++ rest =
        '#' :: ("   ".toList ++ Nat.toDigits 10 i ++ ". ".toList ++ name.toList ++
          '\n' :: (fileLines (i + 1) files ++ rest)) := by
      simp only [hline, hmark, List.append_assoc, List.cons_append]
    rw [hlines]
    refine Toml.reads_comment ?_ (ih hfiles)
    have hdigits : ∀ c ∈ Nat.toDigits 10 i, Toml.isPlain c = true := fun c hc =>
      isPlain_of_isDigit (Nat.isDigit_of_mem_toDigits (by decide) (by decide) hc)
    have hblanks : "   ".toList.all Toml.isPlain = true := by decide
    have hpoint : ". ".toList.all Toml.isPlain = true := by decide
    rw [List.all_eq_true] at hblanks hpoint
    have hnumber := List.forall_mem_append.mpr ⟨hblanks, hdigits⟩
    exact List.forall_mem_append.mpr ⟨List.forall_mem_append.mpr ⟨hnumber, hpoint⟩, hname⟩

theorem reads_remarkLine {comment : String} {out : Items}
    (hplain : comment.toList.all Toml.isPlain = true) (h : Reads [] [] rest out) :
    Reads [] [] ('#' :: (comment.toList ++ '\n' :: rest)) out :=
  Toml.reads_comment (List.all_eq_true.mp hplain) h

theorem firstLine_eq : "# Resolved Hearth configuration\n".toList =
    '#' :: (" Resolved Hearth configuration".toList ++ ['\n']) := by decide +kernel

theorem head?_heading (r : Resolved) : (r.heading ++ t).head? = some '#' := by
  unfold Resolved.heading
  simp only [firstLine_eq, List.cons_append, List.head?_cons]

theorem reads_heading {r : Resolved} {out : Items}
    (hfiles : ∀ name ∈ r.files, ∀ c ∈ name.toList, Toml.isPlain c = true)
    (h : Reads [] [] rest out) : Reads [] [] (r.heading ++ rest) out := by
  have hblank : Reads [] [] ('\n' :: rest) out := Toml.reads_remark (.inl rfl) h
  have hnames : Reads [] [] (fileLines 1 r.files ++ '\n' :: rest) out :=
    reads_fileLines hfiles hblank
  have hlisted := @reads_remarkLine _ " Loaded files (lowest precedence first):" _
    (by decide +kernel) hnames
  have hempty := @reads_remarkLine _ "" _ rfl hlisted
  have htitle {s : List Char} (hs : Reads [] [] s out) :=
    @reads_remarkLine s " Resolved Hearth configuration" _ (by decide +kernel) hs
  have hsecond : "#\n# Loaded files (lowest precedence first):\n".toList =
      '#' :: ("".toList ++ '\n' :: '#' ::
        (" Loaded files (lowest precedence first):".toList ++ ['\n'])) := by decide +kernel
  unfold Resolved.heading
  split
  · simp only [firstLine_eq, List.append_assoc, List.cons_append, List.nil_append]
    exact htitle hblank
  · simp only [firstLine_eq, hsecond, List.append_assoc, List.cons_append, List.nil_append]
    exact htitle hempty

/-- Texts that lines can be cut from: nothing in them is a control character but line feeds. -/
def IsClean (s : List Char) : Prop := ∀ c ∈ s, Toml.isPlain c = true ∨ c = '\n'

theorem isClean_of_plain (h : ∀ c ∈ s, Toml.isPlain c = true) : IsClean s :=
  fun c hc => .inl (h c hc)

theorem isClean_of_all (h : s.all Toml.isPlain = true) : IsClean s :=
  isClean_of_plain (List.all_eq_true.mp h)

theorem isClean_append (hs : IsClean s) (ht : IsClean t) : IsClean (s ++ t) :=
  List.forall_mem_append.mpr ⟨hs, ht⟩

theorem isClean_cons {c : Char} (hc : Toml.isPlain c = true ∨ c = '\n') (hs : IsClean s) :
    IsClean (c :: s) :=
  List.forall_mem_cons.mpr ⟨hc, hs⟩

theorem isClean_stringText (text : String) : IsClean (Toml.stringText text) :=
  fun c hc => (Toml.plain_stringText text c hc).imp_right And.left

theorem isClean_stringsText (texts : List String) : IsClean (Toml.stringsText texts) := by
  have hend : IsClean [',', '\n'] :=
    isClean_cons (.inl (by decide)) (isClean_cons (.inr rfl) (List.forall_mem_nil _))
  have hclose : IsClean [']'] := isClean_of_all (by decide)
  have hindent : IsClean "    ".toList := isClean_of_all (by decide)
  rcases texts with _ | ⟨text, _ | ⟨text', texts⟩⟩
  · exact isClean_of_all (by decide)
  · exact isClean_cons (.inl (by decide)) (isClean_append (isClean_stringText text) hclose)
  · refine isClean_cons (.inl (by decide)) (isClean_cons (.inr rfl) (isClean_append ?_ hclose))
    intro c hc
    obtain ⟨t, -, hc⟩ := List.mem_flatMap.mp hc
    exact isClean_append (isClean_append hindent (isClean_stringText t)) hend c hc

theorem isClean_fieldLine (hname : name.toList.all Toml.isPlain = true)
    (hvalue : IsClean value) : IsClean (fieldLine name value) :=
  isClean_append (isClean_append (isClean_append (isClean_of_all hname)
    (isClean_of_all (by decide))) hvalue) (isClean_cons (.inr rfl) (List.forall_mem_nil _))

theorem isClean_titleLine (hname : name.toList.all Toml.isPlain = true) :
    IsClean (titleLine name) :=
  isClean_cons (.inl (by decide)) (isClean_append (isClean_of_all hname)
    (isClean_cons (.inl (by decide)) (isClean_cons (.inr rfl) (List.forall_mem_nil _))))

theorem isClean_sections (c : Config) : IsClean (sections c) := by
  have hdigits (n : Nat) : IsClean (Nat.toDigits 10 n) := isClean_of_plain fun c hc =>
    isPlain_of_isDigit (Nat.isDigit_of_mem_toDigits (by decide) (by decide) hc)
  refine isClean_append (isClean_titleLine (by decide)) ?_
  refine isClean_append (isClean_fieldLine (by decide) (isClean_stringText _)) ?_
  refine isClean_append (isClean_fieldLine (by decide) (hdigits _)) ?_
  refine isClean_cons (.inr rfl) (isClean_append (isClean_titleLine (by decide)) ?_)
  refine isClean_append (isClean_fieldLine (by decide) (hdigits _)) ?_
  refine isClean_append (isClean_fieldLine (by decide) (isClean_stringText _)) ?_
  refine isClean_cons (.inr rfl) (isClean_append (isClean_titleLine (by decide)) ?_)
  refine isClean_append (isClean_fieldLine (by decide) (isClean_stringText _)) ?_
  refine isClean_append (isClean_fieldLine (by decide) (isClean_stringText _)) ?_
  exact isClean_fieldLine (by decide) (isClean_stringsText _)

theorem exists_sections (c : Config) : ∃ u, sections c = u ++ ['\n'] := by
  simp only [sections, fieldLine, ← List.append_assoc, ← List.cons_append]
  exact ⟨_, rfl⟩

theorem annotate_path {c : Config} {sources : Sources} {layer : Layer}
    (hline : '\n' ∈ c.store.path.toList) (hsource : sources.find? "store.path" = some layer) :
    ∃ note q rest, annotate sources [] (linesOf (sections c)) =
      '[' :: ("store".toList ++ ']' :: (noteText note ++ '\n' :: ("path".toList ++
        (" = ".toList ++ q :: q :: q :: (noteText (some layer) ++ '\n' :: rest))))) := by
  rcases Toml.stringText_spelled c.store.path with ⟨-, -, -, -, hnone, -⟩ | ⟨q, w, hq, -, htext⟩
  · exact absurd hline hnone
  · have hlines (rest : List Char) :
        titleLine "store" ++ (fieldLine "path" (Toml.stringText c.store.path) ++ rest) =
          '[' :: ("store".toList ++ [']']) ++ '\n' ::
            ("path".toList ++ (" = ".toList ++ [q, q, q]) ++
              '\n' :: (w ++ q :: q :: q :: '\n' :: rest)) := by
      rw [titleLine, fieldLine, htext, if_pos hline]
      simp only [List.append_assoc, List.cons_append, List.nil_append]
    have htitle : (sectionName? (Text.trim ('[' :: ("store".toList ++ [']'])))).getD [] =
        "store".toList := by decide
    have hpath : '\n' ∉ "path".toList ++ (" = ".toList ++ [q, q, q]) ∧
        ("path".toList ++ (" = ".toList ++ [q, q, q])).getLast? ≠ some '\r' := by
      rcases hq with rfl | rfl <;> decide
    have hnote : noteOf sources "store".toList ("path".toList ++ (" = ".toList ++ [q, q, q])) =
        some layer := by
      rw [← hsource]
      rcases hq with rfl | rfl <;> rfl
    rw [sections, hlines, linesOf_cons (by decide) (by decide), linesOf_cons hpath.1 hpath.2,
      annotate_cons, htitle, annotate_cons, hnote]
    simp only [List.append_assoc, List.cons_append, List.nil_append]
    exact ⟨_, q, _, rfl⟩

theorem toNodes_texts (ts : List String) :
    Toml.Tree.toNodes (Toml.toTrees (ts.map textItem)) = ts.map Decoding.Node.text := by
  induction ts with
  | nil => rfl
  | cons t ts ih => exact congrArg (Decoding.Node.text t :: ·) ih

theorem decode_items (c : Config) :
    decode (Toml.Tree.table (Toml.toMembers (items c))).toNode = .ok c := by
  refine (complete.decode_table_iff (Toml.ordered_toMembers _)).mpr ?_
  simp only [entries, List.forall_mem_cons]
  refine ⟨?_, ?_, ?_, List.forall_mem_nil _⟩
  · refine (StoreSection.complete.decode_table_iff (Toml.ordered_toMembers _)).mpr ?_
    simp only [StoreSection.entries, List.forall_mem_cons]
    exact ⟨rfl, rfl, List.forall_mem_nil _⟩
  · refine (AuthSection.complete.decode_table_iff (Toml.ordered_toMembers _)).mpr ?_
    simp only [AuthSection.entries, List.forall_mem_cons]
    exact ⟨rfl, rfl, List.forall_mem_nil _⟩
  · refine (LoggingSection.complete.decode_table_iff (Toml.ordered_toMembers _)).mpr ?_
    simp only [LoggingSection.entries, List.forall_mem_cons]
    refine ⟨rfl, rfl, ?_, List.forall_mem_nil _⟩
    exact congrArg (Decoding.Node.sequence · true) (toNodes_texts _)

theorem shows_of_inRange {field : String} {most n : UInt64} (hmost : Text.fits64 most.toNat = true)
    (h : inRange field most n = .ok ()) : Shows n := by
  rw [inRange] at h
  split at h
  · next hn =>
    obtain ⟨hlow, hhigh⟩ := hn
    rw [UInt64.le_iff_toNat_le] at hlow hhigh
    refine ⟨hlow, ?_⟩
    simp only [Text.fits64, Bool.and_eq_true, decide_eq_true_eq] at hmost ⊢
    omega
  · cases h

/-- Of the strings only the path and the directives can have several lines. -/
structure Checked (c : Config) : Prop where
  lockTimeout : Shows c.store.lockTimeoutMillis
  pairingLife : Shows c.auth.pairingLifeSeconds
  language : '\n' ∉ c.auth.language.toList
  level : '\n' ∉ c.logging.level.toList
  format : '\n' ∉ c.logging.format.toList

/-- A level may be written in other letters, but not in more lines. -/
theorem feed_not_mem_of_level {level : String}
    (h : levels.contains (String.ofList (Text.lowerCase level.toList)) = true) :
    '\n' ∉ level.toList := by
  intro hm
  obtain ⟨a, b, hlevel⟩ := List.append_of_mem hm
  have hbreak : Text.IsBreak '\n' := (Text.isBreak_of_isBlank (by decide +kernel)).1
  rw [hlevel, Text.lowerCase_append hbreak] at h
  have hall : ∀ l ∈ levels, '\n' ∉ l.toList := by decide
  refine hall _ (List.contains_iff_mem.mp h) ?_
  rw [String.toList_ofList]
  exact List.mem_append_right _ List.mem_cons_self

theorem checked_of_check {c : Config} (h : c.check = .ok ()) : Checked c := by
  have hlanguages : ∀ l ∈ languages, '\n' ∉ l.toList := by decide
  have hformats : ∀ l ∈ formats, '\n' ∉ l.toList := by decide
  obtain ⟨⟨⟩, hstore, h⟩ := bind_ok_iff.mp h
  obtain ⟨⟨⟩, hauth, hlogging⟩ := bind_ok_iff.mp h
  obtain ⟨⟨⟩, hlife, hlanguage⟩ := bind_ok_iff.mp hauth
  simp only [StoreSection.check, ite_eq_iff, reduceCtorEq, and_false, false_or] at hstore
  simp only [LoggingSection.check, ite_eq_iff, reduceCtorEq, and_false, false_or, Bool.not_eq_true',
    Bool.not_eq_false] at hlogging
  obtain ⟨-, -, hlock⟩ := hstore
  obtain ⟨hlevel, hformat, -⟩ := hlogging
  refine ⟨shows_of_inRange (by decide) hlock, shows_of_inRange (by decide) hlife, ?_,
    feed_not_mem_of_level hlevel, hformats _ (List.contains_iff_mem.mp hformat)⟩
  split at hlanguage
  · next hl => exact hlanguages _ (List.contains_iff_mem.mp hl)
  · cases hlanguage

theorem noted_sections (c : Config) (sources : Sources) :
    Noted (sections c) (annotate sources [] (linesOf (sections c))) := by
  obtain ⟨u, hu⟩ := exists_sections c
  have hreturn : '\r' ∉ u := fun hm =>
    absurd (isClean_sections c '\r' (hu ▸ List.mem_append_left _ hm)) (by decide)
  rw [hu]
  exact noted_annotate_linesOf hreturn

theorem read?_heading (r : Resolved) : Toml.read? (String.ofList (r.heading ++ t)) =
    (Toml.lines ((r.heading ++ t).length + 1) [] [] (r.heading ++ t)).map
      fun out => .table (Toml.toMembers out) := by
  have hmark : ¬ (r.heading ++ t).head? = some (Char.ofNat 0xfeff) := by
    rw [head?_heading]
    decide
  simp only [Toml.read?, String.toList_ofList, if_neg hmark]

theorem read?_of_reads {r : Resolved} {out : Items}
    (hfiles : ∀ name ∈ r.files, ∀ c ∈ name.toList, Toml.isPlain c = true)
    (h : Reads [] [] t out) :
    Toml.read? (String.ofList (r.heading ++ t)) = some (.table (Toml.toMembers out)) := by
  rw [read?_heading, reads_heading hfiles h _ (Nat.lt_succ_self _), Option.map_some]

theorem forall₂_shownAs_eq {texts ts : List String} (h : List.Forall₂ ShownAs texts ts)
    (hlines : ∀ text ∈ texts, '\n' ∉ text.toList) : ts = texts := by
  induction h with
  | nil => rfl
  | cons hshown _ ih =>
    obtain ⟨hline, hlines⟩ := List.forall_mem_cons.mp hlines
    rw [hshown.eq hline, ih hlines]

/-- What a checked configuration is read as, but for its path and its directives, is what it is. -/
theorem ReadAs.eq_of_checked {c c' : Config} (h : ReadAs c c') (hc : Checked c) :
    c' = { c with
      store := { c.store with path := c'.store.path }
      logging := { c.logging with directives := c'.logging.directives } } := by
  obtain ⟨⟨path, lock⟩, ⟨life, language⟩, ⟨level, format, directives⟩⟩ := c'
  obtain ⟨-, rfl, rfl, hlanguage, hlevel, hformat, -⟩ := h
  obtain rfl := hlanguage.eq hc.language
  obtain rfl := hlevel.eq hc.level
  obtain rfl := hformat.eq hc.format
  rfl

end

section
variable {files : FileSystem} {places : Locations} {explicit : Option Path} {env : Environment}
  {resolved : Resolved}

theorem checked_of_load (hload : load files places explicit env = .ok resolved) :
    Checked resolved.config := checked_of_check (check_of_load hload)

/-- What is shown of a configuration that was loaded is TOML that a configuration is read from, if
the names of the files can stand in comments. It is the same but for strings of several lines: the
notes on sources are put into these, and always into a path. -/
theorem shown_of_load (hload : load files places explicit env = .ok resolved)
    (hfiles : ∀ name ∈ resolved.files, ∀ c ∈ name.toList, Toml.isPlain c = true) :
    ∃ shown tree path directives, resolved.toToml = .ok shown ∧ Toml.read? shown = some tree ∧
      decode tree.toNode = .ok { resolved.config with
        store := { resolved.config.store with path := path }
        logging := { resolved.config.logging with directives := directives } } ∧
      ShownAs resolved.config.store.path path ∧
      List.Forall₂ ShownAs resolved.config.logging.directives directives ∧
      (path = resolved.config.store.path ↔ '\n' ∉ resolved.config.store.path.toList) ∧
      ((∀ d ∈ resolved.config.logging.directives, '\n' ∉ d.toList) →
        directives = resolved.config.logging.directives) := by
  have hc := checked_of_load hload
  obtain ⟨c', hshown, hreads, hpath⟩ := reads_of_noted hc.lockTimeout hc.pairingLife
    (noted_sections resolved.config resolved.sources)
  refine ⟨_, _, c'.store.path, c'.logging.directives, ?_, read?_of_reads hfiles hreads, ?_,
    hshown.path, hshown.directives, ⟨fun he hline => ?_, hshown.path.eq⟩,
    forall₂_shownAs_eq hshown.directives⟩
  · rw [Resolved.toToml, body_eq hc.lockTimeout hc.pairingLife]
    rfl
  · rw [← hshown.eq_of_checked hc]
    exact decode_items c'
  · -- the line that opens the path has a note, as every field has a record
    obtain ⟨layer, hsource⟩ := exists_find?_of_load hload .storePath
    obtain ⟨note, q, rest, hannotated⟩ := annotate_path hline hsource
    exact hpath note q layer rest hline hannotated he

end

def twoLines : FileSystem :=
  (FileSystem.bare []).setEntry ["user".toList]
    (.file (.text "[store]\npath = \"/srv/a\\nb\"\n"))

/-- What three files come to has no string of several lines, and is read again as it was. -/
theorem shown_of_load_layered : ∃ resolved shown tree,
    load layered threePlaces (some "explicit".toList) [] = .ok resolved ∧
      resolved.toToml = .ok shown ∧ Toml.read? shown = some tree ∧
      decode tree.toNode = .ok resolved.config := by
  obtain ⟨resolved, hload, hresolved⟩ : ∃ resolved,
      (load layered threePlaces (some "explicit".toList) []).toOption = some resolved ∧
        (resolved.files, resolved.config.store.path, resolved.config.logging.directives) =
          (["system", "user", "explicit"], "/srv/tokens.json", []) :=
    Option.map_eq_some_iff.mp (by decide +kernel)
  have hload := ok_of_toOption hload
  simp only [Prod.mk.injEq] at hresolved
  obtain ⟨hfiles, hpath, hdirectives⟩ := hresolved
  have hplain : resolved.files.all (·.toList.all Toml.isPlain) = true := by
    rw [hfiles]
    decide
  simp only [List.all_eq_true] at hplain
  obtain ⟨shown, tree, path, directives, hshown, htree, hdecode, -, -, hsame, hsame'⟩ :=
    shown_of_load hload hplain
  refine ⟨resolved, shown, tree, hload, hshown, htree, ?_⟩
  rw [hdecode, hsame.mpr (by rw [hpath]; decide), hsame' (by rw [hdirectives]; decide)]

/-- A path of two lines is read as one of three: the note on its source is a line of it. -/
theorem shown_twoLines : ∃ resolved shown tree c,
    load twoLines threePlaces none [] = .ok resolved ∧ resolved.toToml = .ok shown ∧
      Toml.read? shown = some tree ∧ decode tree.toNode = .ok c ∧
      resolved.config.store.path = "/srv/a\nb" ∧ c.store.path = "  # [user]\n/srv/a\nb" := by
  -- what is shown is run as characters, since as a text it is encoded and decoded
  have hrun : ((load twoLines threePlaces none []).toOption.bind fun resolved =>
      (body resolved.config).toOption.bind fun text =>
        let shown := resolved.heading ++ annotate resolved.sources [] (linesOf text)
        (Toml.lines (shown.length + 1) [] [] shown).bind fun out =>
          (decode (Toml.Tree.table (Toml.toMembers out)).toNode).toOption.map fun c =>
            (resolved.config.store.path, c.store.path)) =
      some ("/srv/a\nb", "  # [user]\n/srv/a\nb") := by decide +kernel
  simp only [Option.bind_eq_some_iff, Option.map_eq_some_iff, Prod.mk.injEq] at hrun
  obtain ⟨resolved, hload, text, htext, out, hout, c, hc, hpath, hpath'⟩ := hrun
  have htree : Toml.read? (String.ofList (resolved.heading ++
      annotate resolved.sources [] (linesOf text))) = some (.table (Toml.toMembers out)) := by
    rw [read?_heading, hout, Option.map_some]
  refine ⟨resolved, _, _, c, ok_of_toOption hload, ?_, htree, ok_of_toOption hc, hpath, hpath'⟩
  rw [Resolved.toToml, ok_of_toOption htext]
  rfl

end Credentials.Config
