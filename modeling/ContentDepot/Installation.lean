import ContentDepot.Repository.Basic

/-!
# Installations

An installation is what a process works with: a content store, a metadata index
and a depot. The depot is usually the one over these two parts; it may be another.

* `Installation.remote`: everything behind the backends that settings name.
* `Installation.failing`: a depot of which every part fails.
-/

namespace ContentDepot

/-- A content store, a metadata index and a depot. -/
structure Installation where
  contents : ContentStore
  index : MetadataIndex
  depot : Depot

namespace Installation

/-- The installation behind the remote backends that settings name. -/
def remote (s : Settings) : Installation := ⟨.remote s, .remote s, .remote s⟩

/-- An installation whose depot fails in one way, except that storing may give a fixed hash. -/
def failing (s : Settings) (f : Failure) (hash : Option Json) : Installation :=
  ⟨.remote s, .remote s, ⟨.failing f hash, .failing f⟩⟩

end Installation

end ContentDepot
