import ScriptDeps.Proofs.Closure.Histories
import ScriptDeps.Proofs.Closure.Libraries
import ScriptDeps.Proofs.Library.PlainPass

/-!
# The libraries of a closure in one pass

The libraries of a closure are what one plain pass over its namespaces, its references and its
packages finds, one path for each library. That candidates are gathered with a memory of what has
been listed, and each path once, makes no difference.
-/

namespace ScriptDeps

open Library

namespace ClosureBuilder

variable {b : ClosureBuilder} {companion : Companion} {script : String} {host later : Host}
  {closure : Closure}

/-- What a plain pass finds for a script that has been read. -/
def plainPaths (p : Prepared) (index : LibraryIndex) (host : Host) : Except Failure (List String) :=
  plainPass (fun suppress => p.packages.resolve suppress p.graph.packages) index host
    { namespaces := p.graph.namespaces
      ignored := p.graph.ignored
      references := p.graph.references
      searchDirs := p.searchDirs }

theorem freshIndex_ok {index : LibraryIndex} (made : b.freshIndex = .ok index) :
    ∃ extensions ignored, index = .fresh extensions ignored := by
  obtain ⟨extensions, _, made⟩ := bind_ok made
  split at made
  · exact ⟨_, _, pure_ok made⟩
  · cases made

/-- Gathering candidates changes nothing but the index, and finds what the plain pass does. -/
theorem candidates_ok {p : Prepared} {index : LibraryIndex}
    (start : index.Remembers host.files index) {found : List Candidate}
    {next : Host × LibraryIndex} (ran : candidates p (host, index) = (.ok found, next)) :
    next.1 = host ∧ ∃ paths, plainPaths p index host = .ok paths ∧
      found.map (·.path) = distinct paths := by
  let packages : Bool → Action (List String) := fun suppress =>
    p.packages.resolve suppress p.graph.packages
  -- nothing is fetched, so asking for packages leaves the host as it is
  have quiet : (packages suppressDownloads host).2 = host :=
    (p.packages.resolve_moves (R := Eq) p.graph.packages host).symm
  let wanted : Wanted :=
    { namespaces := p.graph.namespaces
      ignored := p.graph.ignored
      references := p.graph.references
      searchDirs := p.searchDirs }
  obtain ⟨after, gathered, unchanged, _⟩ :=
    @gather_yields index host wanted packages quiet start Source.all (host, index) ⟨rfl, start, rfl⟩
  obtain ⟨alone, rfl⟩ := Prod.mk.inj (ran.symm.trans gathered)
  have paths := sourcesAlone_paths packages index host wanted
  obtain ⟨lists, each, alone⟩ := bind_ok alone.symm
  rw [each, ok_bind] at paths
  obtain ⟨plain, passed, same⟩ := bind_ok paths.symm
  refine ⟨unchanged, plain, passed, ?_⟩
  rw [pure_ok alone]
  exact pure_ok same

/-- The parts of a closure's making. -/
theorem resolve_ok (returned : b.resolve companion script host = (.ok closure, later)) :
    ∃ p index paths deduped,
      b.prepare script host = (.ok p, later) ∧ b.freshIndex = .ok index ∧
      plainPaths p index later = .ok paths ∧
      b.deduplicator.dedupe (Deduplicator.itemsOf (distinct paths)) later = .ok deduped ∧
      closure.libraries = deduped.paths ++ (companion.path later.modules).toList ∧
      closure.strategy = deduped.used := by
  obtain ⟨p, host₁, prepared, returned⟩ := run_ok returned
  obtain ⟨index, host₂, made, returned⟩ := run_ok returned
  obtain ⟨found, host₃, gathered, returned⟩ := run_ok returned
  obtain ⟨deduped, host₄, kept, returned⟩ := run_ok returned
  obtain ⟨fresh, rfl⟩ := Prod.mk.inj made
  obtain ⟨extensions, ignored, rfl⟩ := freshIndex_ok fresh
  rcases ran : candidates p (host₁, LibraryIndex.fresh extensions ignored) with ⟨result, next⟩
  rw [Gathering.startingFrom, ran] at gathered
  obtain ⟨rfl, rfl⟩ := Prod.mk.inj gathered
  obtain ⟨rfl, paths, plain, same⟩ :=
    candidates_ok (LibraryIndex.remembers_fresh extensions ignored) ran
  obtain ⟨done, rfl⟩ := Prod.mk.inj kept
  obtain ⟨result, rfl⟩ := Prod.mk.inj returned
  obtain rfl := Except.ok.inj result
  refine ⟨p, _, paths, deduped, prepared, fresh, plain, ?_, rfl, rfl⟩
  rw [← same, Deduplicator.itemsOf, List.map_map]
  exact done

end ClosureBuilder

/-! ### The first path for each library -/

/-- What is kept stands before everything else that has its key. -/
theorem earliest_of_firstOfEach {α κ : Type} [DecidableEq κ] {key : α → Option κ}
    {items : List α} {item : α} (kept : item ∈ firstOfEach key items) :
    ∃ before after, items = before ++ item :: after ∧ ∀ other ∈ before, key other ≠ key item :=
  (mem_firstOfEach.mp kept).2

/-- The libraries of a closure before the companion are what the deduplicator keeps of the plain
pass. If the worker does its own work, they are the first paths for each identity under the strategy
that is reported: before each of them stands no other path with its identity. -/
theorem ClosureService.answer_onePass {service : ClosureService} (own : service.index = none)
    {script : String} {host later : Host} {closure : Closure}
    (returned : service.answer script host = (.ok closure, later)) :
    ∃ p index paths deduped,
      service.builder.prepare script host = (.ok p, later) ∧
      service.builder.freshIndex = .ok index ∧
      ClosureBuilder.plainPaths p index later = .ok paths ∧
      closure.libraries = deduped.paths ++ (service.companion.path host.modules).toList ∧
      closure.strategy = deduped.used ∧
      (Deduplicator.TellsItself later →
        service.builder.deduplicator.dedupe (Deduplicator.itemsOf paths) later = .ok deduped) ∧
      ((∀ output, host.worker ≠ .writes output) →
        deduped.paths = firstOfEach (closure.strategy.identity later.files) paths ∧
          ∀ path ∈ deduped.paths, ∃ before after, paths = before ++ path :: after ∧
            ∀ other ∈ before, closure.strategy.identity later.files other ≠
              closure.strategy.identity later.files path) := by
  rw [answer_eq own] at returned
  obtain ⟨⟨modules, worker⟩, _⟩ := ClosureBuilder.resolve_libraries returned
  obtain ⟨p, index, paths, deduped, prepared, made, plain, done, libraries, strategy⟩ :=
    ClosureBuilder.resolve_ok returned
  rw [modules] at libraries
  refine ⟨p, index, paths, deduped, prepared, made, plain, libraries, strategy,
    fun told => Deduplicator.dedupe_distinct told done, fun own => ?_⟩
  have own : ∀ output, later.worker ≠ .writes output := fun output => worker ▸ own output
  have kept : deduped.paths = firstOfEach (closure.strategy.identity later.files) paths := by
    have whole := Deduplicator.dedupe_distinct (Deduplicator.tellsItself_of_own own) done
    rw [strategy]
    exact Deduplicator.dedupe_kept own service.builder.deduplicator whole
  exact ⟨kept, fun path member => earliest_of_firstOfEach (kept ▸ member)⟩

/-- A script that refers to a library, to another one of its name, and to it again. -/
def repeatingHost : Host where
  files := {
    nodes := [
      (["w"], .directory false),
      (["a.cs", "w"], .file
        "//css_ref B.dll\n//css_ref \"l/B.dll\"\n//css_ref ./B.dll".toUTF8 0 false),
      (["B.dll", "w"], .file .empty 0 false),
      (["l", "w"], .directory false),
      (["B.dll", "l", "w"], .file .empty 0 false)]
    workingDirectory := ["w"] }
  environment := [("HOME", "/h")]
  modules := []
  worker := .missing

/-- A builder that would ask a worker, for a host that has no companion. -/
def lonelyService : ClosureService where
  builder := { ClosureBuilder.usualBuilder with deduplicator := .byDeclaredName (.integer 30) }
  companion := { located := some none }

theorem ClosureService.answer_onePass_repeating : ∃ closure later p index paths,
    lonelyService.answer "a.cs" repeatingHost = (.ok closure, later) ∧
      closure.libraries = ["/w/B.dll"] ∧ closure.strategy = .filename ∧
      lonelyService.builder.prepare "a.cs" repeatingHost = (.ok p, later) ∧
      lonelyService.builder.freshIndex = .ok index ∧
      ClosureBuilder.plainPaths p index later = .ok paths ∧
      closure.libraries = firstOfEach fileIdentity paths := by
  have evaluated : (lonelyService.answer "a.cs" repeatingHost).1.toOption.any
      (fun closure => closure.libraries = ["/w/B.dll"] ∧ closure.strategy = .filename) = true := by
    decide +kernel
  rcases ran : lonelyService.answer "a.cs" repeatingHost with ⟨result, later⟩
  rw [ran] at evaluated
  obtain ⟨closure, rfl, made⟩ := ok_of_any evaluated
  obtain ⟨libraries, strategy⟩ := of_decide_eq_true made
  obtain ⟨p, index, paths, deduped, prepared, fresh, plain, whole, -, -, first⟩ :=
    @answer_onePass lonelyService rfl _ _ _ _ ran
  obtain ⟨kept, -⟩ := first nofun
  refine ⟨closure, later, p, index, paths, rfl, libraries, strategy, prepared, fresh, plain, ?_⟩
  rw [whole, kept, strategy]
  exact List.append_nil _

end ScriptDeps
