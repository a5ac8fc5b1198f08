import Mathlib.Data.List.Nodup
import ScriptDeps.Closure
import ScriptDeps.Proofs.Script.ImportTrace

/-!
# The order of imports

Imports are finished in post-order: while a file is open, whatever was visited before is finished or
leads to it. So an import comes before the file that declares it, unless it leads back there.
-/

namespace ScriptDeps

namespace Script

open Relation

variable {fs : FileSystem} {extraDirs : List String}

/-- Of each of a list's files, what its visit is told by. -/
abbrev keysOf (files : List ScriptFile) : List VisitKey :=
  files.map ScriptFile.key

/-- What was visited is finished, or it leads to the file that is open. -/
def DoneOrLeading (leads : VisitKey → VisitKey → Prop) (file : ScriptFile) (t : Traversal) :
    Prop :=
  ∀ key ∈ t.visited, key ∈ keysOf t.finished ∨ ReflTransGen leads key file.key

/-- An import comes before the file that declares it, or leads back to it. -/
def InOrder (leads : VisitKey → VisitKey → Prop) (order : List VisitKey) (edge : Edge) : Prop :=
  [edge.2, edge.1].Sublist order ∨ ReflTransGen leads edge.2 edge.1

theorem InOrder.mono {leads : VisitKey → VisitKey → Prop} {order longer : List VisitKey}
    {edge : Edge} (h : InOrder leads order edge) (sub : order.Sublist longer) :
    InOrder leads longer edge :=
  h.imp_left (·.trans sub)

theorem pair_sublist_append {α : Type} {a b : α} {before after : List α} (first : a ∈ before)
    (second : b ∈ after) : [a, b].Sublist (before ++ after) :=
  List.Sublist.append (List.singleton_sublist.mpr first) (List.singleton_sublist.mpr second)

theorem DoneOrLeading.enter {leads : VisitKey → VisitKey → Prop} {file child : ScriptFile}
    {t : Traversal} (h : DoneOrLeading leads file t) (edge : leads file.key child.key) :
    DoneOrLeading leads child (t.enter child) := by
  intro key visited
  rcases List.mem_cons.mp visited with rfl | visited
  · exact Or.inr .refl
  · exact (h key visited).imp_right (·.tail edge)

/-- A file that was followed to its end leaves nothing open but what leads to its importer. -/
theorem DoneOrLeading.finish {leads : VisitKey → VisitKey → Prop} {file child : ScriptFile}
    {t t₁ : Traversal} {edges : List Edge} (h : DoneOrLeading leads file t)
    (below : Followed fs extraDirs child child.directives.imports (t.enter child) t₁ edges) :
    DoneOrLeading leads file (t₁.finish child) := by
  obtain ⟨added, finished, visits⟩ := below.visits
  intro key visited
  simp only [keysOf, finished_finish, finished, finished_enter, List.map_append, List.mem_append,
    List.map_singleton, List.mem_singleton]
  rcases List.mem_append.mp (visits.mem_iff.mp visited) with inside | before
  · exact Or.inl (Or.inl (Or.inr inside))
  · rcases List.mem_cons.mp before with same | before
    · exact Or.inl (Or.inr same)
    · rcases h key before with done | leading
      · exact Or.inl (Or.inl (Or.inl done))
      · exact Or.inr leading

/-- Along a trace, the open file's own imports are finished or lead back to it, and every other
edge is in order. -/
theorem Followed.inOrder {file : ScriptFile} {imports : List Import} {t t' : Traversal}
    {edges : List Edge} (h : Followed fs extraDirs file imports t t' edges)
    {leads : VisitKey → VisitKey → Prop} (known : ∀ edge ∈ edges, leads edge.1 edge.2)
    (opened : DoneOrLeading leads file t) :
    ∀ edge ∈ edges, (edge.1 = file.key ∧ edge.2 ∈ keysOf t'.finished) ∨
      InOrder leads (keysOf t'.finished) edge := by
  induction h with
  | done file t => simp
  | again located read seen others ih =>
    intro edge member
    rcases List.mem_cons.mp member with rfl | member
    · have kept := (others.finished_prefix.map ScriptFile.key).subset
      exact (opened _ seen).imp (fun done => ⟨rfl, kept done⟩) Or.inr
    · exact ih (fun edge member => known edge (List.mem_cons_of_mem _ member)) opened edge member
  | @first file child imported rest t t₁ t' path content inner edges
      located read new parsed below others ihBelow ihOthers =>
    have toChild := known _ List.mem_cons_self
    rw [← scriptFile_key parsed] at toChild ⊢
    have kept : keysOf t₁.finished ++ [child.key] <+: keysOf t'.finished := by
      simpa using others.finished_prefix.map ScriptFile.key
    intro edge member
    rcases List.mem_cons.mp member with rfl | member
    · exact Or.inl ⟨rfl, kept.subset (by simp)⟩
    · rcases List.mem_append.mp member with inside | after
      · have knownInside : ∀ edge ∈ inner, _ := fun edge member =>
          known edge (List.mem_cons_of_mem _ (List.mem_append.mpr (Or.inl member)))
        refine Or.inr ?_
        rcases ihBelow knownInside (opened.enter toChild) edge inside with ⟨same, done⟩ | settled
        · have pair := pair_sublist_append done (List.mem_singleton.mpr same)
          exact Or.inl (pair.trans kept.sublist)
        · exact settled.mono ((List.sublist_append_left _ _).trans kept.sublist)
      · have knownAfter : ∀ edge ∈ edges, _ := fun edge member =>
          known edge (List.mem_cons_of_mem _ (List.mem_append.mpr (Or.inr member)))
        exact ihOthers knownAfter (opened.finish below) edge after

theorem idxOf_lt_of_sublist {α : Type} [BEq α] [LawfulBEq α] {a b : α} {order : List α}
    (unique : order.Nodup) (h : [a, b].Sublist order) : order.idxOf a < order.idxOf b := by
  obtain ⟨before, after, rfl, first, second⟩ := List.cons_sublist_iff.mp h
  have apart : b ∉ before := fun member =>
    List.disjoint_of_nodup_append unique member (List.singleton_sublist.mp second)
  rw [List.idxOf_append, if_pos first, List.idxOf_append, if_neg apart]
  exact Nat.lt_add_left _ (List.idxOf_lt_length_of_mem first)

end Script

open Script Relation

namespace ImportGraph

/-- The visits in the order in which they were finished. The script's own is the last. -/
def postOrder (graph : ImportGraph) : List VisitKey :=
  keysOf (graph.imports ++ [graph.root])

/-- Whether a visit declares an import that was located at another one. -/
def Imports (edges : List Edge) (file other : VisitKey) : Prop :=
  (file, other) ∈ edges

/-- The files of a graph are those that its edges reach, in post-order. -/
structure Ordered (graph : ImportGraph) (edges : List Edge) : Prop where
  declared : ∀ file ∈ graph.files, ∀ imported ∈ file.directives.imports,
    ∃ path, Imports edges file.key (path, imported.renamings)
  once : ∀ key, ReflTransGen (Imports edges) graph.root.key key →
    (keysOf graph.files).count key = 1
  reached : ∀ file ∈ graph.files, ReflTransGen (Imports edges) graph.root.key file.key
  import_first : ∀ file other, Imports edges file other →
    graph.postOrder.idxOf other < graph.postOrder.idxOf file ∨
      ReflTransGen (Imports edges) other file
  acyclic_first : (∀ file, ¬ TransGen (Imports edges) file file) →
    ∀ file other, TransGen (Imports edges) file other →
      graph.postOrder.idxOf other < graph.postOrder.idxOf file

variable {fs : FileSystem} {extraDirs : List String} {graph : ImportGraph} {edges : List Edge}

theorem root_of_ofPath {path : Path} (made : ofPath fs extraDirs path = .ok graph) :
    graph.root.path = path ∧ graph.root.renamings = [] := by
  obtain ⟨_, _, _, parsed, _⟩ := within_ok made
  obtain ⟨samePath, sameNames, _⟩ := scriptFile_ok parsed
  exact ⟨samePath, sameNames⟩

theorem files_unique (traced : Traced fs extraDirs graph edges) :
    (keysOf graph.files).Nodup ∧
      ∀ key, key ∈ keysOf graph.files ↔ ReflTransGen (Imports edges) graph.root.key key := by
  obtain ⟨t, followed, same⟩ := traced
  have unique := followed.nodup (List.pairwise_singleton _ _)
  obtain ⟨added, finished, visits⟩ := followed.visits
  have imports : graph.imports = added := same.trans finished
  have all : t.visited.Perm (keysOf graph.files) := by
    simpa [files, imports] using visits.trans List.perm_append_comm
  refine ⟨all.nodup unique, fun key => ⟨fun member => ?_, fun path => ?_⟩⟩
  · have known : ∀ edge ∈ edges, Imports edges edge.1 edge.2 := fun edge member => member
    rcases followed.reached known key (all.mem_iff.mpr member) with start | path
    · exact List.mem_singleton.mp start ▸ .refl
    · exact path
  · cases path with
    | refl => exact List.mem_cons_self
    | tail _ edge => exact all.mem_iff.mp (followed.target_visited _ edge)

theorem imports_declared (traced : Traced fs extraDirs graph edges) {file : ScriptFile}
    (member : file ∈ graph.files) {imported : Import} (own : imported ∈ file.directives.imports) :
    ∃ path, Imports edges file.key (path, imported.renamings) := by
  obtain ⟨t, followed, same⟩ := traced
  obtain ⟨ofRoot, ofOthers⟩ := followed.edge_of_import
  rcases List.mem_cons.mp member with rfl | member
  · exact ofRoot imported own
  · rcases ofOthers file (same ▸ member) with before | edgeOf
    · cases before
    · exact edgeOf imported own

theorem postOrder_perm (graph : ImportGraph) : graph.postOrder.Perm (keysOf graph.files) :=
  (List.perm_append_comm : (graph.imports ++ [graph.root]).Perm _).map _

theorem imports_inOrder (traced : Traced fs extraDirs graph edges) {file other : VisitKey}
    (edge : Imports edges file other) :
    graph.postOrder.idxOf other < graph.postOrder.idxOf file ∨
      ReflTransGen (Imports edges) other file := by
  have unique := (postOrder_perm graph).nodup_iff.mpr (files_unique traced).1
  obtain ⟨t, followed, same⟩ := traced
  have entered : DoneOrLeading (Imports edges) graph.root (({} : Traversal).enter graph.root) :=
    fun key visited => Or.inr (List.mem_singleton.mp visited ▸ .refl)
  have ordered : InOrder (Imports edges) graph.postOrder (file, other) := by
    rw [postOrder, same, keysOf, List.map_append]
    rcases followed.inOrder (fun edge member => member) entered _ edge with ⟨own, done⟩ | settled
    · exact Or.inl (pair_sublist_append done (List.mem_singleton.mpr own))
    · exact settled.mono (List.sublist_append_left _ _)
  exact ordered.imp_left (idxOf_lt_of_sublist unique)

theorem imports_before (traced : Traced fs extraDirs graph edges)
    (acyclic : ∀ file, ¬ TransGen (Imports edges) file file) {file other : VisitKey}
    (path : TransGen (Imports edges) file other) :
    graph.postOrder.idxOf other < graph.postOrder.idxOf file := by
  have one : ∀ {file other}, Imports edges file other →
      graph.postOrder.idxOf other < graph.postOrder.idxOf file := fun edge =>
    (imports_inOrder traced edge).resolve_right fun back => acyclic _ (.head' edge back)
  induction path with
  | single edge => exact one edge
  | tail _ edge ih => exact Nat.lt_trans (one edge) ih

theorem ordered_of_traced (traced : Traced fs extraDirs graph edges) : graph.Ordered edges where
  declared _ member _ own := imports_declared traced member own
  once _ path := List.count_eq_one_of_mem (files_unique traced).1
    (((files_unique traced).2 _).mpr path)
  reached _ member := ((files_unique traced).2 _).mp (List.mem_map_of_mem member)
  import_first _ _ edge := imports_inOrder traced edge
  acyclic_first acyclic _ _ path := imports_before traced acyclic path

end ImportGraph

theorem openScript_ok {packages : Option PackageStore} {extraDirs : List String} {script : String}
    {host : Host} {store : PackageStore} {graph : ImportGraph}
    (h : openScript packages extraDirs script host = .ok (store, graph)) :
    ∃ path, host.files.resolvePath (.ofText script) = .ok path ∧
      ImportGraph.ofPath host.files extraDirs path = .ok graph := by
  obtain ⟨path, resolved, h⟩ := bind_ok h
  have opened : ∀ {given : PackageStore}, ((do
      return (given, ← ImportGraph.ofPath host.files extraDirs path)) :
        Except Failure (PackageStore × ImportGraph)) = .ok (store, graph) →
      ImportGraph.ofPath host.files extraDirs path = .ok graph := fun h => by
    obtain ⟨_, made, h⟩ := bind_ok h
    obtain ⟨_, rfl⟩ := Prod.mk.inj (pure_ok h)
    exact made
  refine ⟨path, resolved, ?_⟩
  cases packages with
  | some given => exact opened h
  | none =>
    obtain ⟨_, _, h⟩ := bind_ok h
    exact opened h

/-- A script that can be read has a trace, and every trace of it puts imports before the files that
declare them. -/
theorem imports_ordered {packages : Option PackageStore} {extraDirs : List String}
    {script : String} {host : Host} {store : PackageStore} {graph : ImportGraph}
    (opened : openScript packages extraDirs script host = .ok (store, graph)) :
    (∃ edges, Traced host.files extraDirs graph edges) ∧
      ∀ edges, Traced host.files extraDirs graph edges → graph.Ordered edges := by
  obtain ⟨path, _, made⟩ := openScript_ok opened
  exact ⟨traced_of_within made, fun edges traced => ImportGraph.ordered_of_traced traced⟩

/-- A script whose imports share one of theirs, which leads back to it. -/
def sharingHost : Host where
  files := {
    nodes := [
      (["w"], .directory false),
      (["a.cs", "w"], .file "//css_inc b.cs\n//css_inc c.cs".toUTF8 0 false),
      (["b.cs", "w"], .file "//css_inc d.cs".toUTF8 0 false),
      (["c.cs", "w"], .file "//css_inc d.cs".toUTF8 0 false),
      (["d.cs", "w"], .file "//css_inc a.cs".toUTF8 0 false)]
    workingDirectory := [] }
  environment := [("HOME", "/")]
  modules := []
  worker := .missing

theorem imports_ordered_sharing : ∃ store graph,
    openScript none [] "/w/a.cs" sharingHost = .ok (store, graph) ∧
      (∃ edges, Traced sharingHost.files [] graph edges) ∧
      ∀ edges, Traced sharingHost.files [] graph edges → graph.Ordered edges := by
  obtain ⟨⟨store, graph⟩, opened⟩ := ok_of_isSome
    (by decide +kernel : (openScript none [] "/w/a.cs" sharingHost).toOption.isSome = true)
  exact ⟨store, graph, opened, imports_ordered opened⟩

end ScriptDeps
