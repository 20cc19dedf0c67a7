import Credentials.Toml.Tree

/-!
Layers of configuration. A layer is laid over what is there already: tables are merged key by key,
anything else takes the place of what was there. Beside the tree, a record is kept of the layer that
last set each field.
-/

namespace Credentials.Config

open Toml (Members Tree)

inductive Layer where
  | defaults
  | system
  | user
  | explicit
  | environment
  deriving DecidableEq, Repr

def Layer.all : List Layer := [.defaults, .system, .user, .explicit, .environment]

def Layer.name : Layer → String
  | defaults => "defaults"
  | system => "system"
  | user => "user"
  | explicit => "--config"
  | environment => "env"

/-- The layer that last set each field, by its dotted path. -/
abbrev Sources := List (String × Layer)

namespace Sources

def find? (sources : Sources) (path : String) : Option Layer := sources.lookup path

def set (path : String) (layer : Layer) : Sources → Sources
  | [] => [(path, layer)]
  | (p, l) :: rest => if p = path then (p, layer) :: rest else (p, l) :: set path layer rest

end Sources

def joinPath (path key : String) : String := if path.isEmpty then key else path ++ "." ++ key

mutual

def record (layer : Layer) (path : String) (sources : Sources) : Tree → Sources
  | .table members => recordMembers layer path sources members
  | _ => sources.set path layer

def recordMembers (layer : Layer) (path : String) (sources : Sources) :
    List (String × Tree) → Sources
  | [] => sources
  | (key, v) :: rest =>
    recordMembers layer path (record layer (joinPath path key) sources v) rest

end

mutual

/-- Lays a tree over another and records the layer for every field it sets. -/
def overlay (layer : Layer) (path : String) (base : Tree) (sources : Sources) :
    Tree → Tree × Sources
  | .table members =>
    match base with
    | .table below =>
      let (below, sources) := overlayMembers layer path below sources members
      (.table below, sources)
    | _ => (.table members, sources.set path layer)
  | leaf => (leaf, sources.set path layer)

def overlayMembers (layer : Layer) (path : String) (base : Members) (sources : Sources) :
    List (String × Tree) → Members × Sources
  | [] => (base, sources)
  | (key, v) :: rest =>
    let there := joinPath path key
    match base.lookup key with
    | none =>
      overlayMembers layer path (base.insert key v) (record layer there sources v) rest
    | some old =>
      if v.isTable then
        let (new, sources) := overlay layer there old sources v
        overlayMembers layer path (base.insert key new) sources rest
      else overlayMembers layer path (base.insert key v) (sources.set there layer) rest

end

end Credentials.Config
