import Mathlib.Data.List.Basic
import ScriptDeps.FileSystem.Access
import ScriptDeps.Proofs.Running
import ScriptDeps.Proofs.Text.Cutting

/-!
# Where paths lead

The first file of some paths, and what a path is resolved to. The links on the way are spelled by
texts, so that names without slashes lead to names without slashes.
-/

namespace ScriptDeps

def Slashless (names : List String) : Prop :=
  ∀ name ∈ names, '/' ∉ name.toList

theorem slashless_nil : Slashless [] :=
  fun _ member => absurd member List.not_mem_nil

theorem Slashless.append {first second : List String} (before : Slashless first)
    (after : Slashless second) : Slashless (first ++ second) :=
  fun name member => (List.mem_append.mp member).elim (before name) (after name)

theorem Path.slashless_ofText (text : String) : Slashless (Path.ofText text).names := by
  intro name member
  obtain ⟨piece, kept, rfl⟩ := List.mem_map.mp member
  rw [String.toList_ofList]
  exact Text.notMem_of_mem_split (List.mem_filter.mp kept).1

/-- The text of a path that starts from the top is read as a path from the top. -/
theorem Path.isAbsolute_ofText {path : Path} (absolute : path.isAbsolute = true) :
    (Path.ofText path.text).isAbsolute = true := by
  obtain ⟨root, names⟩ := path
  have starts : ∃ rest, (Path.mk root names).text.toList = '/' :: rest := by
    cases root with
    | relative => cases absolute
    | top => exact ⟨_, by simp [Path.text, PathRoot.text]; rfl⟩
    | doubleTop => exact ⟨_, by simp [Path.text, PathRoot.text]; rfl⟩
  obtain ⟨rest, starts⟩ := starts
  unfold Path.ofText Path.isAbsolute
  rw [starts]
  unfold Path.rootOf
  split <;> simp_all

namespace FileSystem

variable (fs : FileSystem)

theorem firstFile?_ok {places : List Path} {found : Option Path}
    (returned : fs.firstFile? places = .ok found) :
    found = places.find? fun place => fs.isFile place.text = .ok true := by
  induction places with
  | nil => exact pure_ok returned
  | cons place rest ih =>
    obtain ⟨regular, asked, returned⟩ := bind_ok returned
    cases regular with
    | true => rw [pure_ok returned, List.find?_cons_of_pos (by simpa using asked)]
    | false =>
      rw [List.find?_cons_of_neg (by simp [asked])]
      exact ih returned

/-! ### Resolving links -/

theorem slashless_targetNames (target : String) : Slashless (targetNames target) := by
  intro name member
  obtain ⟨piece, cut, rfl⟩ := List.mem_map.mp member
  rw [String.toList_ofList]
  exact Text.notMem_of_mem_split cut

theorem slashless_lexical {place : Place} {names : List String} (from_ : Slashless place)
    (through : Slashless names) : Slashless (lexical place names) := by
  have walked : ∀ start : Place, Slashless start → Slashless (names.foldl (fun at_ name =>
      if isIdle name then at_ else if name == ".." then at_.tail else name :: at_) start) := by
    induction names with
    | nil => exact fun start plain => plain
    | cons name rest ih =>
      intro start plain
      refine ih (fun other member => through other (List.mem_cons_of_mem name member)) _ ?_
      dsimp only
      split
      · exact plain
      · split
        · exact fun other member => plain other (List.mem_of_mem_tail member)
        · intro other member
          rcases List.mem_cons.mp member with rfl | member
          · exact through _ List.mem_cons_self
          · exact plain other member
  unfold lexical
  split
  · exact walked [] slashless_nil
  · exact walked place from_

/-- No place that links have been resolved to has a slash in its names. -/
def KnownSlashless (known : Resolved) : Prop :=
  ∀ link place, (link, some place) ∈ known → Slashless place

def Resolution.IsSlashless (r : Resolution) : Prop :=
  Slashless r.place ∧ KnownSlashless r.known

theorem resolveNames_slashless {enter : Place → List String → Resolved → Resolution}
    (inside : ∀ place names known, Slashless place → Slashless names → KnownSlashless known →
      (enter place names known).IsSlashless)
    {place : Place} {names : List String} {known : Resolved} (from_ : Slashless place)
    (through : Slashless names) (before : KnownSlashless known) :
    (fs.resolveNames enter place names known).IsSlashless := by
  induction names generalizing place known with
  | nil => exact ⟨from_, before⟩
  | cons name rest ih =>
    have onward : Slashless rest := fun other member =>
      through other (List.mem_cons_of_mem name member)
    have below : Slashless (name :: place) := by
      intro other member
      rcases List.mem_cons.mp member with rfl | member
      · exact through _ List.mem_cons_self
      · exact from_ other member
    unfold resolveNames
    split
    · exact ih from_ onward before
    split
    · exact ih (fun other member => from_ other (List.mem_of_mem_tail member)) onward before
    split
    · rename_i target _
      -- a link is known already, is being followed, or is met for the first time
      split
      · rename_i resolved seen
        have entry := List.mem_of_find?_eq_some seen
        exact ih (before _ resolved entry) onward before
      · exact ⟨slashless_lexical below onward, before⟩
      · have marked : KnownSlashless ((name :: place, none) :: known) := by
          intro link end_ member
          rcases List.mem_cons.mp member with same | member
          · cases same
          · exact before link end_ member
        have start : Slashless (if (Path.ofText target).isAbsolute then [] else place) := by
          split
          · exact slashless_nil
          · exact from_
        generalize (if (Path.ofText target).isAbsolute then [] else place) = origin at start ⊢
        obtain ⟨there, after⟩ := inside _ _ _ start (slashless_targetNames target) marked
        dsimp only
        split
        · exact ⟨slashless_lexical there onward, after⟩
        · refine ih there onward fun link end_ member => ?_
          rcases List.mem_cons.mp member with same | member
          · cases same
            exact there
          · exact after link end_ member
    · exact ih below onward before

theorem resolveLinks_slashless {depth : Nat} {place : Place} {names : List String}
    {known : Resolved} (from_ : Slashless place) (through : Slashless names)
    (before : KnownSlashless known) :
    (fs.resolveLinks depth place names known).IsSlashless := by
  induction depth generalizing place names known with
  | zero =>
    exact fs.resolveNames_slashless
      (fun _ _ _ from_ through before => ⟨slashless_lexical from_ through, before⟩) from_ through before
  | succ depth ih =>
    exact fs.resolveNames_slashless (fun _ _ _ from_ through before => ih from_ through before)
      from_ through before

theorem resolvePath_ok {path resolved : Path} (returned : fs.resolvePath path = .ok resolved) :
    resolved = pathOf (fs.realPlace path) := by
  obtain ⟨_, _, returned⟩ := bind_ok returned
  dsimp only at returned
  split at returned
  · cases returned
  · exact pure_ok returned

theorem resolvePath_isAbsolute {path resolved : Path}
    (returned : fs.resolvePath path = .ok resolved) : resolved.isAbsolute = true := by
  rw [fs.resolvePath_ok returned]
  rfl

/-- The path starts from the top, or at a working directory that is named without slashes. -/
def Rooted (path : Path) : Prop :=
  path.isAbsolute = true ∨ Slashless fs.workingDirectory

theorem resolvePath_slashless {path resolved : Path} (rooted : fs.Rooted path)
    (plain : Slashless path.names) (returned : fs.resolvePath path = .ok resolved) :
    Slashless resolved.names := by
  have start : Slashless (if path.isAbsolute then [] else fs.workingDirectory) := by
    split
    · exact slashless_nil
    · rename_i relative
      exact rooted.resolve_left relative
  have nothing : KnownSlashless [] := fun _ _ member => absurd member List.not_mem_nil
  have place : Slashless (fs.realPlace path) :=
    (fs.resolveLinks_slashless start plain nothing).1
  rw [fs.resolvePath_ok returned]
  exact fun name member => place name (List.mem_reverse.mp member)

end FileSystem

end ScriptDeps
