import Mathlib.Logic.Relation
import ScriptDeps.Proofs.Script.DeclaredNames
import ScriptDeps.Proofs.Script.Traversal

/-!
# Traces of imports

Which import was located where, and when, is told by a derivation: `Followed` has one rule for
imports that lead to a file visited before, and one for imports that lead to a new file. Every
traversal that succeeds has one, and it fixes the edges of the import graph.
-/

namespace ScriptDeps.Script

open Relation

/-- An import: the visit that declares it, and the visit that it is located at. -/
abbrev Edge := VisitKey × VisitKey

/-- The imports of a file followed from one traversal to another, with the edges located on the
way. -/
inductive Followed (fs : FileSystem) (extraDirs : List String) :
    ScriptFile → List Import → Traversal → Traversal → List Edge → Prop where
  | done (file : ScriptFile) (t : Traversal) : Followed fs extraDirs file [] t t []
  | again {file : ScriptFile} {imported : Import} {rest : List Import} {t t' : Traversal}
      {path : Path} {content : String} {edges : List Edge}
      (located : locate fs (t.dirsFor file extraDirs) file.path imported.name = .ok path)
      (read : readScript fs path = .ok content)
      (seen : (path.text, imported.renamings) ∈ t.visited)
      (others : Followed fs extraDirs file rest t t' edges) :
      Followed fs extraDirs file (imported :: rest) t t'
        ((file.key, path.text, imported.renamings) :: edges)
  | first {file child : ScriptFile} {imported : Import} {rest : List Import}
      {t t₁ t' : Traversal} {path : Path} {content : String} {inner edges : List Edge}
      (located : locate fs (t.dirsFor file extraDirs) file.path imported.name = .ok path)
      (read : readScript fs path = .ok content)
      (new : (path.text, imported.renamings) ∉ t.visited)
      (parsed : scriptFile fs path content imported.renamings = .ok child)
      (below : Followed fs extraDirs child child.directives.imports (t.enter child) t₁ inner)
      (others : Followed fs extraDirs file rest (t₁.finish child) t' edges) :
      Followed fs extraDirs file (imported :: rest) t t'
        ((file.key, path.text, imported.renamings) :: (inner ++ edges))

/-- The edges located while an import graph was made. -/
def Traced (fs : FileSystem) (extraDirs : List String) (graph : ImportGraph)
    (edges : List Edge) : Prop :=
  ∃ t, Followed fs extraDirs graph.root graph.root.directives.imports
    (({} : Traversal).enter graph.root) t edges ∧ graph.imports = t.finished

variable {fs : FileSystem} {extraDirs : List String}

/-! ### Every traversal has a trace -/

/-- A visit that succeeds leaves what was visited before alone, or follows the imports of a new
file. -/
theorem visit_ok {depth : Nat} {path : Path} {renamings : List Renaming} {t t' : Traversal}
    (h : visit fs extraDirs (depth + 1) path renamings t = (.ok (), t')) :
    ∃ content, readScript fs path = .ok content ∧
      ((path.text, renamings) ∈ t.visited ∧ t' = t ∨
        (path.text, renamings) ∉ t.visited ∧ ∃ file t₁,
          scriptFile fs path content renamings = .ok file ∧
          followImports fs extraDirs (visit fs extraDirs depth) file file.directives.imports
            (t.enter file) = (.ok (), t₁) ∧ t' = t₁.finish file) := by
  rw [visit_succ] at h
  cases read : readScript fs path with
  | error failure => rw [read] at h; cases h
  | ok content =>
    refine ⟨content, rfl, ?_⟩
    rw [read] at h
    dsimp only at h
    split at h
    · rename_i seen
      cases h
      exact Or.inl ⟨seen, rfl⟩
    · rename_i new
      cases parsed : scriptFile fs path content renamings with
      | error failure => rw [parsed] at h; cases h
      | ok file =>
        rw [parsed] at h
        dsimp only at h
        split at h
        · cases h
        · rename_i t₁ ran
          cases h
          exact Or.inr ⟨new, file, t₁, rfl, ran, rfl⟩

theorem followImports_ok {visit : Path → List Renaming → Following Unit} {file : ScriptFile}
    {imported : Import} {rest : List Import} {t t' : Traversal}
    (h : followImports fs extraDirs visit file (imported :: rest) t = (.ok (), t')) :
    ∃ path t₁, locate fs (t.dirsFor file extraDirs) file.path imported.name = .ok path ∧
      visit path imported.renamings t = (.ok (), t₁) ∧
      followImports fs extraDirs visit file rest t₁ = (.ok (), t') := by
  rw [followImports_cons] at h
  cases located : locate fs (t.dirsFor file extraDirs) file.path imported.name with
  | error failure => rw [located] at h; cases h
  | ok path =>
    rw [located] at h
    dsimp only at h
    split at h
    · cases h
    · rename_i t₁ ran
      exact ⟨path, t₁, rfl, ran, h⟩

theorem followed_of_run {depth : Nat} {file : ScriptFile} {imports : List Import}
    {t t' : Traversal}
    (h : followImports fs extraDirs (visit fs extraDirs depth) file imports t = (.ok (), t')) :
    ∃ edges, Followed fs extraDirs file imports t t' edges := by
  -- the depth bounds the files inside one another, the list the imports of one of them
  induction depth generalizing file imports t t' with
  | zero =>
    cases imports with
    | nil =>
      have same : t = t' := congrArg Prod.snd h
      exact ⟨[], same ▸ .done file t⟩
    | cons imported rest =>
      obtain ⟨path, t₁, _, ran, _⟩ := followImports_ok h
      rw [visit_zero] at ran
      cases ran
  | succ depth ihDepth =>
    induction imports generalizing t with
    | nil =>
      have same : t = t' := congrArg Prod.snd h
      exact ⟨[], same ▸ .done file t⟩
    | cons imported rest ihRest =>
      obtain ⟨path, t₁, located, ran, onward⟩ := followImports_ok h
      obtain ⟨content, read, ⟨seen, same⟩ | ⟨new, child, t₂, parsed, below, same⟩⟩ := visit_ok ran
      · subst same
        obtain ⟨edges, others⟩ := ihRest onward
        exact ⟨_, .again located read seen others⟩
      · subst same
        obtain ⟨inner, below⟩ := ihDepth below
        obtain ⟨edges, others⟩ := ihRest onward
        exact ⟨_, .first located read new parsed below others⟩

theorem within_ok {depth : Nat} {path : Path} {graph : ImportGraph}
    (h : ImportGraph.within depth fs extraDirs path = .ok graph) :
    ∃ content t, readScript fs path = .ok content ∧
      scriptFile fs path content [] = .ok graph.root ∧
      followFrom fs extraDirs depth graph.root = (.ok (), t) ∧ graph.imports = t.finished := by
  obtain ⟨content, read, h⟩ := bind_ok h
  obtain ⟨root, parsed, h⟩ := bind_ok h
  rcases ran : followFrom fs extraDirs depth root with ⟨followed, t⟩
  rw [ran] at h
  obtain ⟨_, done, h⟩ := bind_ok h
  rw [pure_ok h]
  exact ⟨content, t, read, parsed, by rw [ran, done], rfl⟩

theorem traced_of_within {depth : Nat} {path : Path} {graph : ImportGraph}
    (h : ImportGraph.within depth fs extraDirs path = .ok graph) :
    ∃ edges, Traced fs extraDirs graph edges := by
  obtain ⟨content, t, _, _, ran, same⟩ := within_ok h
  obtain ⟨edges, followed⟩ := followed_of_run ran
  exact ⟨edges, t, followed, same⟩

/-! ### What a trace visits -/

/-- The files that are finished on the way are exactly those that are newly visited. -/
theorem Followed.visits {file : ScriptFile} {imports : List Import} {t t' : Traversal}
    {edges : List Edge} (h : Followed fs extraDirs file imports t t' edges) :
    ∃ added : List ScriptFile, t'.finished = t.finished ++ added ∧
      t'.visited.Perm (added.map ScriptFile.key ++ t.visited) := by
  induction h with
  | done file t => exact ⟨[], by simp, .refl _⟩
  | again located read seen others ih => exact ih
  | @first file child imported rest t t₁ t' path content inner edges
      located read new parsed below others ihBelow ihOthers =>
    obtain ⟨inside, insideEq, insidePerm⟩ := ihBelow
    obtain ⟨after, afterEq, afterPerm⟩ := ihOthers
    refine ⟨inside ++ child :: after, by simp [afterEq, insideEq], ?_⟩
    rw [List.perm_iff_count] at insidePerm afterPerm ⊢
    intro key
    simp only [visited_enter, visited_finish] at insidePerm afterPerm
    rw [afterPerm key, List.count_append, insidePerm key]
    simp only [List.map_append, List.map_cons, List.count_append, List.count_cons]
    omega

theorem Followed.nodup {file : ScriptFile} {imports : List Import} {t t' : Traversal}
    {edges : List Edge} (h : Followed fs extraDirs file imports t t' edges)
    (unique : t.visited.Nodup) : t'.visited.Nodup := by
  induction h with
  | done file t => exact unique
  | again located read seen others ih => exact ih unique
  | first located read new parsed below others ihBelow ihOthers =>
    rw [← scriptFile_key parsed] at new
    exact ihOthers (ihBelow (List.nodup_cons.mpr ⟨new, unique⟩))

theorem Followed.visited_subset {file : ScriptFile} {imports : List Import} {t t' : Traversal}
    {edges : List Edge} (h : Followed fs extraDirs file imports t t' edges) :
    t.visited ⊆ t'.visited := by
  obtain ⟨added, _, perm⟩ := h.visits
  exact fun key visited => perm.mem_iff.mpr (List.mem_append.mpr (Or.inr visited))

theorem Followed.finished_prefix {file : ScriptFile} {imports : List Import} {t t' : Traversal}
    {edges : List Edge} (h : Followed fs extraDirs file imports t t' edges) :
    t.finished <+: t'.finished := by
  obtain ⟨added, same, _⟩ := h.visits
  exact ⟨added, same.symm⟩

theorem Followed.target_visited {file : ScriptFile} {imports : List Import} {t t' : Traversal}
    {edges : List Edge} (h : Followed fs extraDirs file imports t t' edges) :
    ∀ edge ∈ edges, edge.2 ∈ t'.visited := by
  induction h with
  | done file t => simp
  | again located read seen others ih =>
    intro edge member
    rcases List.mem_cons.mp member with rfl | member
    · exact others.visited_subset seen
    · exact ih edge member
  | @first file child imported rest t t₁ t' path content inner edges
      located read new parsed below others ihBelow ihOthers =>
    have entered : child.key ∈ t₁.visited := below.visited_subset List.mem_cons_self
    intro edge member
    rcases List.mem_cons.mp member with rfl | member
    · exact others.visited_subset (scriptFile_key parsed ▸ entered)
    · rcases List.mem_append.mp member with inside | after
      · exact others.visited_subset (ihBelow edge inside)
      · exact ihOthers edge after

/-- Every import of a file that was followed is an edge. -/
theorem Followed.edge_of_import {file : ScriptFile} {imports : List Import} {t t' : Traversal}
    {edges : List Edge} (h : Followed fs extraDirs file imports t t' edges) :
    (∀ imported ∈ imports, ∃ path, (file.key, path, imported.renamings) ∈ edges) ∧
      ∀ other ∈ t'.finished, other ∈ t.finished ∨
        ∀ imported ∈ other.directives.imports,
          ∃ path, (other.key, path, imported.renamings) ∈ edges := by
  induction h with
  | done file t => exact ⟨by simp, fun other finished => Or.inl finished⟩
  | again located read seen others ih =>
    refine ⟨?_, fun other finished => (ih.2 other finished).imp_right fun edgeOf i member => ?_⟩
    · intro other member
      rcases List.mem_cons.mp member with rfl | member
      · exact ⟨_, List.mem_cons_self⟩
      · exact (ih.1 other member).imp fun _ => List.mem_cons_of_mem _
    · exact (edgeOf i member).imp fun _ => List.mem_cons_of_mem _
  | @first file child imported rest t t₁ t' path content inner edges
      located read new parsed below others ihBelow ihOthers =>
    have after : ∀ {edge}, edge ∈ edges →
        edge ∈ (file.key, path.text, imported.renamings) :: (inner ++ edges) := fun member =>
      List.mem_cons_of_mem _ (List.mem_append.mpr (Or.inr member))
    have inside : ∀ {edge}, edge ∈ inner →
        edge ∈ (file.key, path.text, imported.renamings) :: (inner ++ edges) := fun member =>
      List.mem_cons_of_mem _ (List.mem_append.mpr (Or.inl member))
    constructor
    · intro other member
      rcases List.mem_cons.mp member with rfl | member
      · exact ⟨_, List.mem_cons_self⟩
      · exact (ihOthers.1 other member).imp fun _ => after
    · intro other finished
      rcases ihOthers.2 other finished with before | edgeOf
      · rcases List.mem_append.mp before with before | same
        · refine (ihBelow.2 other before).imp_right fun edgeOf i member => ?_
          exact (edgeOf i member).imp fun _ => inside
        · rw [List.mem_singleton.mp same]
          exact Or.inr fun i member => (ihBelow.1 i member).imp fun _ => inside
      · exact Or.inr fun i member => (edgeOf i member).imp fun _ => after

/-- What is newly visited is imported by the file, directly or not. -/
theorem Followed.reached {file : ScriptFile} {imports : List Import} {t t' : Traversal}
    {edges : List Edge} (h : Followed fs extraDirs file imports t t' edges)
    {leads : VisitKey → VisitKey → Prop} (known : ∀ edge ∈ edges, leads edge.1 edge.2) :
    ∀ key ∈ t'.visited, key ∈ t.visited ∨ ReflTransGen leads file.key key := by
  induction h with
  | done file t => exact fun key visited => Or.inl visited
  | again located read seen others ih =>
    exact ih fun edge member => known edge (List.mem_cons_of_mem _ member)
  | @first file child _ rest t t₁ t' path content inner edges
      located read new parsed below others ihBelow ihOthers =>
    have toChild : leads file.key child.key :=
      scriptFile_key parsed ▸ known _ List.mem_cons_self
    have inside := ihBelow fun edge member =>
      known edge (List.mem_cons_of_mem _ (List.mem_append.mpr (Or.inl member)))
    have after := ihOthers fun edge member =>
      known edge (List.mem_cons_of_mem _ (List.mem_append.mpr (Or.inr member)))
    intro key visited
    rcases after key visited with before | reached
    · rcases inside key before with entered | reached
      · rcases List.mem_cons.mp entered with rfl | old
        · exact Or.inr (.single toChild)
        · exact Or.inl old
      · exact Or.inr (.head toChild reached)
    · exact Or.inr reached

/-! ### What a trace reads -/

/-- The file was read at its path, under renamings that some script declares. -/
def ReadFrom (fs : FileSystem) (file : ScriptFile) : Prop :=
  Dotted file.renamings ∧ ∃ content, readScript fs file.path = .ok content ∧
    generate content file.renamings = .ok file.generated

theorem scriptFile_imports_dotted {path : Path} {content : String} {renamings : List Renaming}
    {file : ScriptFile} (parsed : scriptFile fs path content renamings = .ok file) :
    ∀ imported ∈ file.directives.imports, Dotted imported.renamings := by
  obtain ⟨_, _, _, declared⟩ := scriptFile_ok parsed
  rw [declared]
  exact imports_dotted _ _

/-- What holds of every file as it is read, under renamings that some script declares, holds of all
files that are finished on the way. -/
theorem Followed.finished_all {file : ScriptFile} {imports : List Import} {t t' : Traversal}
    {edges : List Edge} (h : Followed fs extraDirs file imports t t' edges)
    {good : ScriptFile → Prop}
    (asRead : ∀ {path content renamings other}, Dotted renamings →
      readScript fs path = .ok content → scriptFile fs path content renamings = .ok other → good other)
    (declared : ∀ imported ∈ imports, Dotted imported.renamings) :
    ∀ other ∈ t'.finished, other ∈ t.finished ∨ good other := by
  induction h with
  | done file t => exact fun other finished => Or.inl finished
  | again located read seen others ih =>
    exact ih fun other member => declared other (List.mem_cons_of_mem _ member)
  | @first file child imported rest t t₁ t' path content inner edges
      located read new parsed below others ihBelow ihOthers =>
    intro other finished
    rcases ihOthers (fun other member => declared other (List.mem_cons_of_mem _ member)) other
      finished with before | made
    · rcases List.mem_append.mp before with before | same
      · exact ihBelow (scriptFile_imports_dotted parsed) other before
      · rw [List.mem_singleton.mp same]
        exact Or.inr (asRead (declared imported List.mem_cons_self) read parsed)
    · exact Or.inr made

theorem readFrom_of_scriptFile {path : Path} {content : String} {renamings : List Renaming}
    {file : ScriptFile} (dotted : Dotted renamings) (read : readScript fs path = .ok content)
    (parsed : scriptFile fs path content renamings = .ok file) : ReadFrom fs file := by
  obtain ⟨samePath, sameNames, generated, _⟩ := scriptFile_ok parsed
  rw [ReadFrom, sameNames, samePath]
  exact ⟨dotted, content, read, generated⟩

/-- Every import of a script that could be read was read at its path. -/
theorem within_readFrom {depth : Nat} {path : Path} {graph : ImportGraph}
    (h : ImportGraph.within depth fs extraDirs path = .ok graph) :
    ∀ file ∈ graph.imports, ReadFrom fs file := by
  obtain ⟨content, t, _, parsed, ran, same⟩ := within_ok h
  obtain ⟨edges, followed⟩ := followed_of_run ran
  intro file member
  rw [same] at member
  exact (followed.finished_all readFrom_of_scriptFile (scriptFile_imports_dotted parsed) file
    member).resolve_left nofun

end ScriptDeps.Script
