import ScriptDeps.Proofs.Distinct
import ScriptDeps.Proofs.Script.ImportOrder

/-!
# What an import graph declares

The lists that an import graph answers with hold what its files declare, nothing lost and nothing
twice. Its files are those that the imports of the script reach, as they were read; each list is in
the order of first occurrence, the script's own declarations first.
-/

namespace ScriptDeps

namespace Script

/-- A directory that a file declares, resolved against the directory of the file. -/
def resolveDir (fs : FileSystem) (declaring : Path) (dir : String) : Except Failure String := do
  return (← fs.resolvePath (declaring.parent.child dir)).text

/-- The file tells what the text at its path declares under its renamings. -/
structure AsRead (fs : FileSystem) (file : ScriptFile) (content : String) : Prop where
  read : readScript fs file.path = .ok content
  renamed : generate content file.renamings = .ok file.generated
  declares : file.directives = Directives.ofText (file.generated.getD content) file.path.text
  resolved : file.directives.searchDirs.mapM (resolveDir fs file.path) = .ok file.searchDirs

variable {fs : FileSystem} {extraDirs : List String}

theorem asRead_of_scriptFile {path : Path} {content : String} {renamings : List Renaming}
    {file : ScriptFile} (read : readScript fs path = .ok content)
    (parsed : scriptFile fs path content renamings = .ok file) : AsRead fs file content := by
  obtain ⟨generated, renamed, parsed⟩ := bind_ok parsed
  obtain ⟨searchDirs, resolved, parsed⟩ := bind_ok parsed
  rw [pure_ok parsed]
  exact ⟨read, renamed, rfl, resolved⟩

end Script

open Script Relation

namespace ImportGraph

variable {fs : FileSystem} {extraDirs : List String} {graph : ImportGraph} {edges : List Edge}

theorem asRead_of_within {depth : Nat} {path : Path}
    (made : within depth fs extraDirs path = .ok graph) :
    ∀ file ∈ graph.files, ∃ content, AsRead fs file content := by
  obtain ⟨content, t, read, parsed, ran, same⟩ := within_ok made
  obtain ⟨_, followed⟩ := followed_of_run ran
  refine List.forall_mem_cons.mpr ⟨⟨content, asRead_of_scriptFile read parsed⟩, fun file member => ?_⟩
  have all : ∀ file ∈ t.finished, file ∈ [] ∨ ∃ content, AsRead fs file content :=
    followed.finished_all (fun _ read parsed => ⟨_, asRead_of_scriptFile read parsed⟩)
      (scriptFile_imports_dotted parsed)
  exact (all file (same ▸ member)).resolve_left nofun

/-- The files of a graph are those that the script's imports lead to, each once, as they were read.
The script stands first, and the others are in the order of dependencies. -/
structure Complete (graph : ImportGraph) (fs : FileSystem) (edges : List Edge) : Prop where
  followed : ∀ file ∈ graph.files, ∀ imported ∈ file.directives.imports,
    ∃ path, Imports edges file.key (path, imported.renamings)
  reached : ∀ key, ReflTransGen (Imports edges) graph.root.key key ↔
    ∃ file ∈ graph.files, file.key = key
  once : (keysOf graph.files).Nodup
  import_first : ∀ file other, Imports edges file other →
    graph.postOrder.idxOf other < graph.postOrder.idxOf file ∨
      ReflTransGen (Imports edges) other file
  read : ∀ file ∈ graph.files, ∃ content, AsRead fs file content

/-- What the files of a graph declare of one kind, file by file. -/
def declaredIn {α : Type} (graph : ImportGraph) (part : ScriptFile → List α) : List α :=
  graph.files.flatMap part

/-- The lists of a graph hold what its files declare, each once in the order of first occurrence. -/
structure Gathers (graph : ImportGraph) : Prop where
  namespaces : FirstsOf (graph.declaredIn (·.directives.namespaces)) graph.namespaces
  references : FirstsOf (graph.declaredIn (·.directives.references)) graph.references
  ignored : FirstsOf (LibraryIndex.defaultIgnored ++
    graph.declaredIn (·.directives.ignoredNamespaces)) graph.ignored
  usual_first : LibraryIndex.defaultIgnored <+: graph.ignored
  searchDirs : FirstsOf (graph.root.path.parent.text :: graph.declaredIn (·.searchDirs))
    graph.searchDirs
  own_first : graph.searchDirs.head? = some graph.root.path.parent.text
  packages : FirstsBy (Text.lower ·.name) (graph.declaredIn (·.directives.packages)) graph.packages

theorem ignored_eq (graph : ImportGraph) :
    graph.ignored = distinct (LibraryIndex.defaultIgnored ++
      graph.declaredIn (·.directives.ignoredNamespaces)) :=
  distinct_append_distinct _ _

theorem gathers (graph : ImportGraph) : graph.Gathers where
  namespaces := firstsOf_distinct _
  references := firstsOf_distinct _
  ignored := by
    rw [ignored_eq]
    exact firstsOf_distinct _
  usual_first := by
    have usual : distinct LibraryIndex.defaultIgnored = LibraryIndex.defaultIgnored := by decide
    rw [ignored, distinct, keepFirst_append, ← distinct, usual]
    exact List.prefix_append _ _
  searchDirs := firstsOf_distinct _
  own_first := rfl
  packages := firstsBy_distinctBy _ _

theorem complete_of_traced (traced : Traced fs extraDirs graph edges)
    (read : ∀ file ∈ graph.files, ∃ content, AsRead fs file content) : graph.Complete fs edges where
  followed _ member _ own := imports_declared traced member own
  reached key := by
    rw [← (files_unique traced).2 key, List.mem_map]
  once := (files_unique traced).1
  import_first _ _ edge := imports_inOrder traced edge
  read := read

end ImportGraph

/-- A script that can be read has a trace, and for every trace of it the lists of its graph hold what
the files declare that the trace reaches. -/
theorem declarations_gathered {packages : Option PackageStore} {extraDirs : List String}
    {script : String} {host : Host} {store : PackageStore} {graph : ImportGraph}
    (opened : openScript packages extraDirs script host = .ok (store, graph)) :
    host.files.resolvePath (.ofText script) = .ok graph.root.path ∧ graph.root.renamings = [] ∧
      (∃ edges, Traced host.files extraDirs graph edges) ∧
      (∀ edges, Traced host.files extraDirs graph edges → graph.Complete host.files edges) ∧
      graph.Gathers := by
  obtain ⟨path, resolved, made⟩ := openScript_ok opened
  obtain ⟨rfl, plain⟩ := ImportGraph.root_of_ofPath made
  exact ⟨resolved, plain, traced_of_within made,
    fun edges traced => ImportGraph.complete_of_traced traced (ImportGraph.asRead_of_within made),
    graph.gathers⟩

/-- A script that imports another one twice, once under a renaming, and is imported by it. -/
def twiceImportingHost : Host where
  files := {
    nodes := [
      (["w"], .directory false),
      (["a.cs", "w"],
        .file "using A;\n//css_inc b.cs,rename_namespace(B,C)\n//css_inc b.cs".toUTF8 0 false),
      (["b.cs", "w"], .file "using B;\n//css_inc a.cs".toUTF8 0 false)]
    workingDirectory := [] }
  environment := [("HOME", "/")]
  modules := []
  worker := .missing

theorem declarations_gathered_twice : ∃ store graph,
    openScript none [] "/w/a.cs" twiceImportingHost = .ok (store, graph) ∧
      graph.namespaces = ["A", "C", "B"] ∧
      twiceImportingHost.files.resolvePath (.ofText "/w/a.cs") = .ok graph.root.path ∧
      graph.root.renamings = [] ∧
      (∃ edges, Traced twiceImportingHost.files [] graph edges) ∧
      (∀ edges, Traced twiceImportingHost.files [] graph edges →
        graph.Complete twiceImportingHost.files edges) ∧
      graph.Gathers := by
  obtain ⟨⟨store, graph⟩, opened, namespaces⟩ := ok_of_any (by decide +kernel :
    (openScript none [] "/w/a.cs" twiceImportingHost).toOption.any
      (fun read => read.2.namespaces = ["A", "C", "B"]) = true)
  exact ⟨store, graph, opened, of_decide_eq_true namespaces, declarations_gathered opened⟩

end ScriptDeps
