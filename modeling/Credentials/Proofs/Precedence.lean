import Credentials.Proofs.Runs
import Credentials.Proofs.Variables

/-! Where the fields of a configuration come from: the files, the environment, the defaults. The
environment is asked for a field only if no file was recorded for it. -/

namespace Credentials.Config

open Files (FileSystem Path)
open Toml (Tree)

/-- What the files and the environment make of a field. The highest file that has it in a section
that no file above takes away gives its value. Where there is none the field has its default, or the
value of its variable if no file has anything for it. A variable that is there counts for less than
a file that is recorded, and is left open here where a file has a value but is not recorded. -/
structure Field.Follows (f : Field) (laid : List File) (env : Environment) (c : Config) : Prop where
  file : ∀ v, f.Gives laid v → f.Recorded laid ∨ f.Unset env → f.node c = v.toNode
  default : (∀ v, ¬ f.Gives laid v) → f.Recorded laid ∨ f.Unset env → f.node c = f.node defaults
  environment : (∀ file ∈ laid, file.tree.at? f.keys = none ∧ f.Spared file) →
    ∀ b ∈ f.fallback?, ∀ raw, env.lookup b.name = some raw → f.node c = (b.value raw).toNode

section
variable {files : FileSystem} {places : Locations} {explicit : Option Path} {env : Environment}
  {laid : List File}

theorem load_of_not_found {cause : Error} (h : found files places explicit = .error cause) :
    load files places explicit env = .error cause := by
  rw [load, stack_eq, h]
  rfl

theorem load_of_found (h : found files places explicit = .ok laid) :
    load files places explicit env =
      (match decode (fill env (Stack.of laid).tree (Stack.of laid).sources).tree.toNode with
      | .error cause => .error (.mismatch cause)
      | .ok config =>
        match config.check with
        | .error cause => .error (.invalid cause)
        | .ok () => .ok ⟨config, (fill env (Stack.of laid).tree (Stack.of laid).sources).sources,
          (Stack.of laid).files.map String.ofList⟩) := by
  rw [load, stack_eq, h]
  rfl

theorem decode_of_load {resolved : Resolved} (h : found files places explicit = .ok laid)
    (hload : load files places explicit env = .ok resolved) :
    decode (fill env (Stack.of laid).tree (Stack.of laid).sources).tree.toNode =
      .ok resolved.config := by
  rw [load_of_found h] at hload
  split at hload
  · cases hload
  · next config hconfig =>
    split at hload
    · cases hload
    · obtain rfl := Except.ok.inj hload
      exact hconfig

theorem Field.node_ne_table (f : Field) (c : Config) {v : Tree} (h : v.isTable = true) :
    f.node c ≠ v.toNode := by
  obtain ⟨members, rfl⟩ := Tree.exists_of_isTable h
  cases f <;> nofun

section
variable {c : Config} (hsound : ∀ file ∈ laid, file.Sound)
  (hsections : ∀ file ∈ laid, ∀ (f : Field) items, file.tree.below? f.title ≠ some (.array items))
  (hd : decode (fill env (Stack.of laid).tree (Stack.of laid).sources).tree.toNode = .ok c)
include hsound hsections hd

theorem node_of_laid (f : Field) : (f.node c = (((fill env (Stack.of laid).tree
      (Stack.of laid).sources).tree.at? f.keys).map Tree.toNode).getD (f.node {})) ∧
    ¬ (Stack.of laid).tree.Blocks f.keys := by
  have hroot : (Stack.of laid).tree.isTable = true := isTable_of hsound
  have harray (items : List Tree) : (fill env (Stack.of laid).tree
      (Stack.of laid).sources).tree.below? f.title ≠ some (.array items) := by
    -- variables make no arrays, so that one of the files would have it
    intro he
    obtain ⟨below, file, above, rfl, hfile, -⟩ :=
      exists_file_of_leaf hsound ((below?_fill_leaf rfl).mp he) rfl
    exact hsections file (by simp) f items hfile
  obtain ⟨members, hfilled⟩ : ∃ members,
      (fill env (Stack.of laid).tree (Stack.of laid).sources).tree = .table members :=
    Tree.exists_of_isTable (isTable_fill.trans hroot)
  rw [hfilled] at hd harray ⊢
  refine ⟨f.node_of_decode hd harray, fun hblocks => ?_⟩
  obtain ⟨w, hw, hleaf⟩ := (f.blocks_iff hroot).mp hblocks
  have hread : (Tree.table members).below? f.title = some w := by
    rw [← hfilled]
    exact (below?_fill_leaf hleaf).mpr hw
  rw [f.isTable_of_decode hd harray hread] at hleaf
  cases hleaf

theorem Field.follows_of_laid (f : Field) : f.Follows laid env c := by
  obtain ⟨hnode, hopen⟩ := node_of_laid hsound hsections hd f
  have hunused (h : f.Recorded laid ∨ f.Unset env) :=
    @at?_fill_of_unused env f (Stack.of laid).tree (Stack.of laid).sources
      (h.imp_left (isSet_of_recorded hsound))
  constructor
  · intro v hv h
    obtain ⟨w, hw, htable, hvalue⟩ := at?_of_gives hsound hv
    rw [hunused h, hw] at hnode
    cases ht : v.isTable with
    | false => rw [hnode, hvalue ht, Option.map_some, Option.getD_some]
    | true => exact absurd hnode (f.node_ne_table c (htable.trans ht))
  · intro hnone h
    rw [hnode, hunused h]
    exact at?_of_not_gives hsound hnone
  · intro hmissing b hb raw hraw
    have hset := isSet_of_missing hsound hmissing
    rw [hnode, at?_fill_of_used hset (isTable_of hsound) hopen hb hraw, Option.map_some,
      Option.getD_some]

end

/-- The files and the environment decide on every field of a configuration that is loaded, as long
as no section is an array. A variable makes no difference at all if its field is recorded for a
file. -/
theorem load_precedence (h : found files places explicit = .ok laid)
    (hsections : ∀ file ∈ laid, ∀ (f : Field) items,
      file.tree.below? f.title ≠ some (.array items)) :
    (∀ resolved, load files places explicit env = .ok resolved →
      ∀ f : Field, f.Follows laid env resolved.config) ∧
    ∀ (f : Field) (env' : Environment), f.Recorded laid →
      (∀ name, (∀ b ∈ f.fallback?, name ≠ b.name) → env.lookup name = env'.lookup name) →
        load files places explicit env = load files places explicit env' := by
  have hsound := sound_of_found h
  constructor
  · intro resolved hload f
    exact f.follows_of_laid hsound hsections (decode_of_load h hload)
  · intro f env' hrecorded hothers
    rw [load_of_found h, load_of_found h, fill_congr (isSet_of_recorded hsound hrecorded) hothers]

end

/-- A directory with a file of the system, one of the user and one to ask for. -/
def threeFiles (system user explicit : String) : FileSystem :=
  (((FileSystem.bare []).setEntry ["system".toList] (.file (.text system))).setEntry
    ["user".toList] (.file (.text user))).setEntry ["explicit".toList] (.file (.text explicit))

def threePlaces : Locations := ⟨"system".toList, "user".toList⟩

theorem found_three {files : FileSystem} {path : Path} {system user explicit : Tree}
    (hsystem : readFile files threePlaces.system = .ok (some system))
    (huser : readFile files threePlaces.user = .ok (some user))
    (hexplicit : readFile files path = .ok (some explicit)) :
    found files threePlaces (some path) = .ok [⟨.system, threePlaces.system, system⟩,
      ⟨.user, threePlaces.user, user⟩, ⟨.explicit, path, explicit⟩] := by
  simp [found, findFile, hsystem, huser, hexplicit, Except.map, bind, Except.bind, pure,
    Except.pure]

def layered : FileSystem :=
  threeFiles "[store]\npath = \"/srv/tokens.json\"\n[logging]\nlevel = \"warn\"\n"
    "[logging]\nlevel = \"debug\"\n" "[store]\nlock_timeout_ms = 2000\n"

def layeredFiles : List File :=
  [⟨.system, threePlaces.system, .table [("logging", .table [("level", .text "warn")]),
    ("store", .table [("path", .text "/srv/tokens.json")])]⟩,
    ⟨.user, threePlaces.user, .table [("logging", .table [("level", .text "debug")])]⟩,
    ⟨.explicit, "explicit".toList,
      .table [("store", .table [("lock_timeout_ms", .integer 2000)])]⟩]

theorem found_layered : found layered threePlaces (some "explicit".toList) = .ok layeredFiles :=
  found_three (readFile_of_same (by decide +kernel)) (readFile_of_same (by decide +kernel))
    (readFile_of_same (by decide +kernel))

theorem isTable_layered {f : Field} {w : Tree} : ∀ file ∈ layeredFiles,
    file.tree.below? f.title = some w → w.isTable = true := by
  intro file hfile hw
  have hall : (file.tree.below? f.title).all Tree.isTable = true := by
    fin_cases hfile <;> cases f <;> rfl
  rwa [hw] at hall

/-- A file counts for more than the one below it and than a variable, a variable for more than the
default. -/
theorem load_precedence_layered :
    let env := [("HEARTH_LOG_LEVEL", "error"), ("HEARTH_PAIRING_TTL_SECS", " 60 ")]
    ∃ resolved, load layered threePlaces (some "explicit".toList) env = .ok resolved ∧
      Field.level.node resolved.config = .text "debug" ∧
      Field.pairingLife.node resolved.config = .integer 60 ∧
      Field.language.node resolved.config = Field.language.node defaults ∧
      load layered threePlaces (some "explicit".toList) env.tail = .ok resolved := by
  intro env
  obtain ⟨resolved, hresolved⟩ : ∃ resolved,
      (load layered threePlaces (some "explicit".toList) env).toOption = some resolved :=
    Option.isSome_iff_exists.mp (by decide +kernel)
  have hload := ok_of_toOption hresolved
  have hopen : ∀ file ∈ layeredFiles, ∀ f : Field, ¬ file.tree.Blocks f.keys := by
    intro file hfile f hblocks
    rw [f.blocks_iff (sound_of_found found_layered file hfile).isTable] at hblocks
    obtain ⟨w, hw, hleaf⟩ := hblocks
    exact absurd (isTable_layered file hfile hw) (by simp [hleaf])
  obtain ⟨hfollows, hsame⟩ := @load_precedence _ _ _ env _ found_layered
    fun file hfile f items hitems => absurd (isTable_layered file hfile hitems) nofun
  have hrecorded : Field.level.Recorded layeredFiles :=
    Field.recorded_of_mem (fun file hfile => hopen file hfile .level) (.tail _ (.head _)) rfl rfl
  refine ⟨resolved, hload, ?_, ?_, ?_, ?_⟩
  · refine (hfollows resolved hload .level).file (.text "debug") ?_ (.inl hrecorded)
    refine ⟨[_], _, [_], rfl, rfl, List.forall_mem_singleton.mpr ⟨rfl, ?_⟩⟩
    exact hopen _ (.tail _ (.tail _ (.head _))) .level
  · refine (hfollows resolved hload .pairingLife).environment ?_ _ rfl _ rfl
    intro file hfile
    fin_cases hfile <;> exact ⟨rfl, rfl, rfl⟩
  · refine (hfollows resolved hload .language).default (fun v => Field.not_gives ?_) (.inr nofun)
    intro file hfile
    fin_cases hfile <;> rfl
  · rw [← hload]
    refine (hsame .level env.tail hrecorded fun name hname => ?_).symm
    exact (Toml.lookup_cons_eq ..).trans (if_neg (hname _ rfl))

/-- Three files, of which the second has a number in the place of a section. -/
def replaced : FileSystem :=
  threeFiles "[store]\npath = \"/srv/tokens.json\"\n" "store = 5\n"
    "[store]\nlock_timeout_ms = 2000\n"

def replacedFiles : List File :=
  [⟨.system, threePlaces.system, .table [("store", .table [("path", .text "/srv/tokens.json")])]⟩,
    ⟨.user, threePlaces.user, .table [("store", .integer 5)]⟩,
    ⟨.explicit, "explicit".toList,
      .table [("store", .table [("lock_timeout_ms", .integer 2000)])]⟩]

theorem found_replaced : found replaced threePlaces (some "explicit".toList) = .ok replacedFiles :=
  found_three (readFile_of_same (by decide +kernel)) (readFile_of_same (by decide +kernel))
    (readFile_of_same (by decide +kernel))

/-- The number takes away the whole section below it. So the highest file that has a field need not
give its value, although the configuration is loaded. -/
theorem load_replaced : ∃ resolved file above,
    load replaced threePlaces (some "explicit".toList) [] = .ok resolved ∧
      found replaced threePlaces (some "explicit".toList) = .ok (file :: above) ∧
      (∀ g ∈ file :: above, ∀ (f : Field) items, g.tree.below? f.title ≠ some (.array items)) ∧
      file.tree.at? Field.storePath.keys = some (.text "/srv/tokens.json") ∧
      (∀ g ∈ above, g.tree.at? Field.storePath.keys = none) ∧
      Field.storePath.node resolved.config ≠ .text "/srv/tokens.json" := by
  obtain ⟨resolved, hload, hconfig⟩ : ∃ resolved,
      (load replaced threePlaces (some "explicit".toList) []).toOption = some resolved ∧
        resolved.config = { store := { lockTimeoutMillis := 2000 } } :=
    Option.map_eq_some_iff.mp (by decide +kernel)
  refine ⟨resolved, _, _, ok_of_toOption hload, found_replaced, ?_, rfl, ?_, ?_⟩
  · intro g hg f items
    fin_cases hg <;> cases f <;> nofun
  · intro g hg
    fin_cases hg <;> rfl
  · rw [hconfig]
    simp [Field.node]

end Credentials.Config
