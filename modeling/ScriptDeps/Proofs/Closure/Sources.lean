import ScriptDeps.Proofs.Closure.Libraries
import ScriptDeps.ClosureService
import ScriptDeps.Proofs.Library.Representatives
import ScriptDeps.Proofs.Script.CopyNames
import ScriptDeps.Proofs.Script.Copies

/-!
# The source files of a closure

The source files are the imports in the order in which they were finished, each once, and then the
script. They are all different: a plain import at the script's own path would be the script, and
copies lie in the cache directory, where the script does not.
-/

namespace ScriptDeps

/-- The path is spelled as that of something in the directory itself. -/
def LiesIn (directory : Path) (path : String) : Prop :=
  ∃ name, Path.IsName name ∧ path = (directory.child name).text

namespace Script

/-- The path that an import is compiled from: its own if nothing in it is renamed, else that of its
copy. -/
def sourceOf (cache : Path) (file : ScriptFile) : String :=
  if file.renamings = [] then file.path.text else (copyPath cache file).text

variable {fs : FileSystem} {cache : Path} {file : ScriptFile}

/-! ### Copies and files in place -/

theorem generated_eq_none_iff (read : ReadFrom fs file) :
    file.generated = none ↔ file.renamings = [] := by
  obtain ⟨_, content, _, made⟩ := read
  rw [generate] at made
  split at made
  · rename_i plain
    exact ⟨fun _ => List.isEmpty_iff.mp plain, fun _ => (Except.ok.inj made).symm⟩
  · rename_i renamed
    obtain ⟨text, _, made⟩ := bind_ok made
    rw [pure_ok made]
    exact iff_of_false (Option.some_ne_none text) (mt List.isEmpty_iff.mpr renamed)

theorem sourceOf_eq (read : ReadFrom fs file) : sourceOf cache file = compiledFrom cache file := by
  rw [sourceOf, compiledFrom]
  cases made : file.generated with
  | none => rw [if_pos ((generated_eq_none_iff read).mp made)]
  | some text =>
    rw [if_neg]
    intro plain
    rw [(generated_eq_none_iff read).mpr plain] at made
    cases made

theorem materialize_saved {saved : String} {host after : Host}
    (ran : materialize cache file host = (.ok saved, after)) : saved = compiledFrom cache file := by
  rw [compiledFrom]
  cases made : file.generated with
  | none =>
    rw [materialize, made] at ran
    exact (Except.ok.inj (Prod.mk.inj ran).1).symm
  | some text => exact (materialize_cases made ran).1

/-- Wherever the copies are made, their paths are those that were expected. -/
theorem materializeAll_saved {graph : ImportGraph} {saved : List String} {host after : Host}
    (ran : materializeAll cache graph host = (.ok saved, after)) :
    saved = distinct (graph.imports.map (compiledFrom cache)) := by
  rw [materializeAll_eq] at ran
  split at ran
  · rename_i each _ ranEach
    rw [← Except.ok.inj (Prod.mk.inj ran).1,
      run_mapM_eq_map (fun _ _ _ _ one => materialize_saved one) ranEach]
  · cases ran

end Script

open Script

/-! ### The parts of a closure -/

/-- What preparing a script puts together. -/
theorem ClosureBuilder.prepare_ok {b : ClosureBuilder} {script : String} {host after : Host}
    {p : ClosureBuilder.Prepared} (ran : b.prepare script host = (.ok p, after)) :
    openScript b.packages [] script host = .ok (p.packages, p.graph) ∧
      p.sources = distinct (p.graph.imports.map (compiledFrom b.locations.importsCache)) ++
        [p.graph.root.path.text] := by
  obtain ⟨⟨packages, graph⟩, _, opened, ran⟩ := run_ok ran
  obtain ⟨searchDirs, _, _, ran⟩ := run_ok ran
  obtain ⟨saved, _, copied, ran⟩ := run_ok ran
  obtain rfl := Except.ok.inj (Prod.mk.inj ran).1
  rw [← materializeAll_saved copied]
  exact ⟨(Prod.mk.inj opened).1, rfl⟩

theorem ClosureService.resolve_prepared {script : String} {closure : Closure}
    {state next : Host × ClosureService} (returned : resolve script state = (.ok closure, next)) :
    ∃ p after, state.2.builder.prepare script state.1 = (.ok p, after) ∧
      closure.script = p.graph.root.path.text ∧ closure.sources = p.sources := by
  obtain ⟨_, _, ⟨⟩, returned⟩ := run_ok returned
  obtain ⟨p, _, prepared, returned⟩ := run_ok returned
  obtain ⟨_, _, _, returned⟩ := run_ok returned
  obtain ⟨_, _, _, returned⟩ := run_ok returned
  obtain ⟨_, _, _, returned⟩ := run_ok returned
  obtain ⟨_, _, ⟨⟩, returned⟩ := run_ok returned
  obtain rfl := Except.ok.inj (Prod.mk.inj returned).1
  exact ⟨p, _, Prod.ext (Prod.mk.inj prepared).1 rfl, rfl, rfl⟩

/-! ### All different -/

/-- No import is compiled from the script's own file. -/
theorem sourceOf_ne_root {packages : Option PackageStore} {script : String} {host : Host}
    {store : PackageStore} {graph : ImportGraph} {cache : Path}
    (opened : openScript packages [] script host = .ok (store, graph))
    (outside : ¬LiesIn cache graph.root.path.text) {file : ScriptFile}
    (member : file ∈ graph.imports) : sourceOf cache file ≠ graph.root.path.text := by
  intro same
  rw [sourceOf] at same
  split at same
  · rename_i plain
    obtain ⟨path, _, made⟩ := openScript_ok opened
    obtain ⟨edges, traced⟩ := traced_of_within made
    -- it would have the script's key, and the script is among the files once
    have new := (List.nodup_cons.mp (ImportGraph.files_unique traced).1).1
    have key : file.key = graph.root.key := by
      rw [ScriptFile.key, same, plain, ScriptFile.key, (ImportGraph.root_of_ofPath made).2]
    exact new (key ▸ List.mem_map_of_mem member)
  · have plain := imports_slashless opened (allRooted_nil _) file member
    obtain ⟨name, named, copy⟩ := copyPath_spec plain cache
    exact outside ⟨name, named, by rw [← same, copy, Path.child_eq named]⟩

/-- The source files of a closure are all different: the imports in dependency order, each compiled
from its own file or, if something in it is renamed, from its copy in the cache directory, and last
the script, which does not lie there. -/
theorem ClosureService.resolve_sources {script : String} {closure : Closure}
    {state next : Host × ClosureService} (returned : resolve script state = (.ok closure, next))
    (outside : ¬LiesIn state.2.builder.locations.importsCache closure.script) :
    ∃ path store graph edges,
      state.1.files.resolvePath (.ofText script) = .ok path ∧ closure.script = path.text ∧
      openScript state.2.builder.packages [] script state.1 = .ok (store, graph) ∧
      Traced state.1.files [] graph edges ∧ graph.Ordered edges ∧
      closure.sources =
        distinct (graph.imports.map (sourceOf state.2.builder.locations.importsCache)) ++
          [path.text] ∧
      closure.sources.Nodup ∧
      ∀ file ∈ graph.imports, file.renamings ≠ [] →
        LiesIn state.2.builder.locations.importsCache
          (sourceOf state.2.builder.locations.importsCache file) := by
  obtain ⟨p, after, prepared, own, sources⟩ := resolve_prepared returned
  obtain ⟨opened, listed⟩ := ClosureBuilder.prepare_ok prepared
  obtain ⟨path, resolved, made⟩ := openScript_ok opened
  obtain ⟨edges, traced⟩ := traced_of_within made
  have script : closure.script = path.text := by
    rw [own, (ImportGraph.root_of_ofPath made).1]
  have imports : closure.sources =
      distinct (p.graph.imports.map (sourceOf state.2.builder.locations.importsCache)) ++
        [path.text] := by
    rw [sources, listed, ← own, script, List.map_congr_left fun file member =>
      (sourceOf_eq (within_readFrom made file member)).symm]
  refine ⟨path, p.packages, p.graph, edges, resolved, script, opened, traced,
    ImportGraph.ordered_of_traced traced, imports, ?_, fun file member renamed => ?_⟩
  · rw [imports]
    refine List.nodup_append.mpr ⟨nodup_distinct _, List.pairwise_singleton _ _, ?_⟩
    rintro source listed last single rfl
    obtain ⟨file, member, same⟩ := List.mem_map.mp (mem_distinct.mp listed)
    rw [List.mem_singleton.mp single] at same
    exact sourceOf_ne_root opened (own ▸ outside) member (same.trans (script.symm.trans own))
  · have plain := imports_slashless opened (allRooted_nil _) file member
    obtain ⟨name, named, copy⟩ := copyPath_spec plain state.2.builder.locations.importsCache
    exact ⟨name, named, by rw [sourceOf, if_neg renamed, copy, Path.child_eq named]⟩

open ClosureBuilder (usualBuilder)

/-- A script whose import is used as it is and renamed, and imports the script. -/
def circularHost : Host where
  files := {
    nodes := [
      (["w"], .directory false),
      (["a.cs", "w"], .file "//css_inc b.cs\n//css_inc b.cs,rename_namespace(B,C)".toUTF8 0 false),
      (["b.cs", "w"], .file "//css_inc a.cs\nnamespace B;".toUTF8 0 false)]
    workingDirectory := ["w"] }
  environment := [("HOME", "/h")]
  modules := []
  worker := .answers

def circularSources : List String :=
  ["/w/b.cs", "/tmp/scriptlens/imports/b.7712551e296f.cs", "/w/a.cs"]

theorem circular_outside : ¬LiesIn usualBuilder.locations.importsCache "/w/a.cs" := by
  have cache : usualBuilder.locations.importsCache = ⟨.top, ["tmp", "scriptlens", "imports"]⟩ := by
    decide +kernel
  rintro ⟨name, named, same⟩
  rw [Path.child_eq named, cache] at same
  have letters := congrArg String.toList same
  simp [Path.text, PathRoot.text] at letters

theorem ClosureService.resolve_sources_circular : ∃ closure next graph edges,
    resolve "a.cs" (circularHost, { builder := usualBuilder }) = (.ok closure, next) ∧
      ¬LiesIn usualBuilder.locations.importsCache closure.script ∧
      closure.sources = circularSources ∧ closure.sources.Nodup ∧
      Traced circularHost.files [] graph edges ∧ graph.Ordered edges ∧
      closure.sources =
        distinct (graph.imports.map (sourceOf usualBuilder.locations.importsCache)) ++
          [closure.script] := by
  have evaluated : (resolve "a.cs" (circularHost, { builder := usualBuilder })).1.toOption.any
      (fun closure => closure.script = "/w/a.cs" ∧ closure.sources = circularSources) = true := by
    decide +kernel
  rcases ran : resolve "a.cs" (circularHost, { builder := usualBuilder }) with ⟨result, next⟩
  rw [ran] at evaluated
  obtain ⟨closure, rfl, made⟩ := ok_of_any evaluated
  obtain ⟨script, sources⟩ := of_decide_eq_true made
  have outside : ¬LiesIn usualBuilder.locations.importsCache closure.script := by
    rw [script]
    exact circular_outside
  obtain ⟨path, _, graph, edges, _, own, _, traced, ordered, listed, unique, _⟩ :=
    resolve_sources ran outside
  exact ⟨closure, next, graph, edges, rfl, outside, sources, unique, traced, ordered, own ▸ listed⟩

end ScriptDeps
