import ScriptDeps.Proofs.Closure.OnePass
import ScriptDeps.Proofs.Library.Kinds

/-!
# What kinds of files the libraries of a closure are

Every library before the companion is a regular file. Its extension is one that the builder was
given, or it is a library of a package, or a name that ends idly leads to it: such a name counts as
one without an extension, whatever the file is called.
-/

namespace ScriptDeps

open Library

/-- What the path leads to, through links, is a regular file. -/
def FileSystem.HoldsFile (fs : FileSystem) (path : String) : Prop :=
  ∃ node, fs.stat path = .ok node ∧ node.isFile = true

theorem FileSystem.holdsFile_of_isFile {fs : FileSystem} {path : String}
    (regular : fs.isFile path = .ok true) : fs.HoldsFile path := by
  obtain ⟨found, asked, file⟩ := bind_ok regular
  have file := pure_ok file
  unfold FileSystem.node?At at asked
  split at asked
  · rw [← Except.ok.inj asked] at file
    cases file
  split at asked
  · rename_i node lies
    rw [← Except.ok.inj asked] at file
    exact ⟨node, lies, file.symm⟩
  · split at asked
    · rw [← Except.ok.inj asked] at file
      cases file
    · cases asked

/-! ### Libraries of packages -/

/-- The last name of the path has the suffix of a library of a package. -/
def HasPackageSuffix (path : String) : Prop :=
  ∃ file : Path, file.text = path ∧ Text.lower file.suffix = ".dll"

theorem Path.suffix_ends (file : Path) : file.suffix.toList <:+ file.text.toList := by
  have cut : file.suffix.toList <:+ file.name.toList := by
    rw [suffix, String.toList_ofList, cutName]
    split
    · rename_i stem suffix found
      split
      · exact List.nil_suffix
      · exact ⟨stem, Text.cutLast?_some found⟩
    · exact List.nil_suffix
  refine cut.trans ?_
  rw [Path.name]
  cases last : file.names.getLast? with
  | none => exact List.nil_suffix
  | some name =>
    obtain ⟨front, -, spelled⟩ := Path.text_ends last
    exact ⟨front, spelled.symm⟩

namespace PackageStore

variable {fs : FileSystem} {host later : Host} {path : String} {found : List String}

/-- The path is one of a regular file that counts as a library of a package. -/
def Offers (fs : FileSystem) (path : String) : Prop :=
  fs.isFile path = .ok true ∧ HasPackageSuffix path

theorem librariesIn_offers {directory : Path} (listed : librariesIn fs directory = .ok found)
    (member : path ∈ found) : Offers fs path := by
  obtain ⟨names, _, listed⟩ := bind_ok listed
  obtain ⟨kept, filtered, listed⟩ := bind_ok listed
  obtain ⟨name, among, rfl⟩ := List.mem_map.mp (pure_ok listed ▸ member)
  obtain ⟨regular, asked, passes⟩ := bind_ok (of_mem_filterM filtered among)
  obtain ⟨file, dll⟩ := Bool.and_eq_true_iff.mp (pure_ok passes).symm
  exact ⟨file ▸ asked, inside directory name, rfl, beq_iff_eq.mp dll⟩

theorem libraries_offers {package : Path} (listed : libraries fs package = .ok found)
    (member : path ∈ found) : Offers fs path := by
  obtain ⟨there, _, listed⟩ := bind_ok listed
  split at listed
  · rw [pure_ok listed] at member
    cases member
  obtain ⟨names, _, listed⟩ := bind_ok listed
  obtain ⟨folders, _, listed⟩ := bind_ok listed
  obtain ⟨frameworks, _, listed⟩ := bind_ok listed
  obtain ⟨lists, each, listed⟩ := bind_ok listed
  obtain ⟨paths, among, here⟩ := List.mem_flatten.mp (pure_ok listed ▸ member)
  obtain ⟨directory, _, inside⟩ := of_mem_mapM each among
  exact librariesIn_offers inside here

theorem librariesOf_offers {store : PackageStore} {package : PackageReference}
    (ran : (store.librariesOf true package host).1 = .ok found) (member : path ∈ found) :
    Offers host.files path := by
  unfold librariesOf at ran
  split at ran
  · rw [← Except.ok.inj ran] at member
    cases member
  have quiet := store.obtain_moves (R := Eq) package host
  rw [run_bind] at ran
  split at ran
  · rename_i directory host₁ obtained
    obtain rfl : host = host₁ := by rw [quiet, obtained]
    cases directory with
    | none =>
      rw [← Except.ok.inj ran] at member
      cases member
    | some directory => exact libraries_offers ran member
  · cases ran

theorem resolve_offers {store : PackageStore} {packages : List PackageReference}
    (ran : (store.resolve true packages host).1 = .ok found) (member : path ∈ found) :
    Offers host.files path := by
  -- every package is looked for on the same host
  obtain ⟨_, each, rfl⟩ := yields_mapM
    (fun package => (store.librariesOf_moves (R := Eq) package).yields host) packages host rfl
  unfold resolve at ran
  rw [run_bind, each] at ran
  cases asked : packages.mapM fun package => (store.librariesOf true package _).1 with
  | error failure =>
    rw [asked] at ran
    cases ran
  | ok lists =>
    rw [asked] at ran
    rw [← Except.ok.inj ran, mem_distinct] at member
    obtain ⟨paths, among, here⟩ := List.mem_flatten.mp member
    obtain ⟨package, _, one⟩ := of_mem_mapM asked among
    exact librariesOf_offers one here

end PackageStore

/-! ### Closures -/

namespace ClosureBuilder

/-- The builder was given the extension in some letter case. -/
def Recognizes (b : ClosureBuilder) (extension : String) : Prop :=
  ∃ given : String, .text (.ofString given) ∈ b.extensions ∧ Text.lower given = extension

theorem freshIndex_recognizes {b : ClosureBuilder} {index : LibraryIndex}
    (made : b.freshIndex = .ok index) {extension : String} (member : extension ∈ index.extensions) :
    b.Recognizes extension := by
  obtain ⟨texts, each, made⟩ := bind_ok made
  split at made
  · rw [pure_ok made] at member
    obtain ⟨given, kept, lowered⟩ := List.mem_map.mp member
    obtain ⟨text, among, rfl⟩ := List.mem_filterMap.mp kept
    obtain ⟨value, here, read⟩ := of_mem_mapM each among
    refine ⟨given, ?_, lowered⟩
    split at read
    · rwa [← LooseText.toString?_eq_some.mp (Except.ok.inj read)]
    · cases read
  · cases made

/-- The path is one of the libraries of the script's packages. -/
def Prepared.FromPackages (p : Prepared) (host : Host) (path : String) : Prop :=
  ∃ packaged, (p.packages.resolve suppressDownloads p.graph.packages host).1 = .ok packaged ∧
    path ∈ packaged

/-- A namespace or a reference of the script ends idly and leads to the path. -/
def Prepared.LeadsIdly (p : Prepared) (path : String) : Prop :=
  ∃ name ∈ p.graph.namespaces ++ p.graph.references.map LibraryIndex.stripQuotes,
    LibraryIndex.LeadsIdly (LibraryIndex.stripQuotes name) p.searchDirs path

theorem plainPaths_known {b : ClosureBuilder} {p : Prepared} {index : LibraryIndex} {host : Host}
    {paths : List String} (made : b.freshIndex = .ok index)
    (passed : plainPaths p index host = .ok paths) {path : String} (member : path ∈ paths) :
    host.files.HoldsFile path ∧
      (b.Recognizes (LibraryIndex.extensionOf path) ∨
        p.FromPackages host path ∧ HasPackageSuffix path ∨
        b.Recognizes "" ∧ p.LeadsIdly path) := by
  obtain ⟨extensions, ignored, rfl⟩ := freshIndex_ok made
  obtain ⟨packaged, ran, here⟩ | ⟨regular, name, looked, known⟩ :=
    plainPass_known (LibraryIndex.remembers_fresh extensions ignored) passed member
  · obtain ⟨regular, dll⟩ := PackageStore.resolve_offers ran here
    exact ⟨FileSystem.holdsFile_of_isFile regular, .inr (.inl ⟨⟨packaged, ran, here⟩, dll⟩)⟩
  · refine ⟨FileSystem.holdsFile_of_isFile regular, ?_⟩
    obtain library | ⟨bare, idle⟩ := known
    · exact .inl (freshIndex_recognizes made (by simpa [LibraryIndex.isLibrary] using library))
    · refine .inr (.inr ⟨freshIndex_recognizes made bare, name, ?_, idle⟩)
      exact List.mem_append.mpr ((List.mem_append.mp looked).imp_left (List.mem_filter.mp · |>.1))

end ClosureBuilder

/-- Every library of a closure before the companion is a regular file with an extension that the
builder was given, or a library of a package, unless the builder was given the empty extension and a
name that ends idly leads to the file. -/
theorem ClosureService.answer_regular {service : ClosureService} (own : service.index = none)
    {script : String} {host later : Host} {closure : Closure}
    (returned : service.answer script host = (.ok closure, later)) :
    ∃ p kept, service.builder.prepare script host = (.ok p, later) ∧
      closure.libraries = kept ++ (service.companion.path host.modules).toList ∧
      ∀ path ∈ kept, later.files.HoldsFile path ∧
        (service.builder.Recognizes (LibraryIndex.extensionOf path) ∨
          p.FromPackages later path ∧ HasPackageSuffix path ∨
          service.builder.Recognizes "" ∧ p.LeadsIdly path) := by
  rw [answer_eq own] at returned
  obtain ⟨⟨modules, -⟩, -⟩ := ClosureBuilder.resolve_libraries returned
  obtain ⟨p, index, paths, deduped, prepared, made, plain, done, libraries, -⟩ :=
    ClosureBuilder.resolve_ok returned
  rw [modules] at libraries
  refine ⟨p, deduped.paths, prepared, libraries, fun path member => ?_⟩
  obtain ⟨reports, -, kept⟩ := Deduplicator.dedupe_ok done
  have among : path ∈ distinct paths := (keepFirst_sublist _ _ _ _).subset (kept ▸ member)
  exact ClosureBuilder.plainPaths_known made plain (mem_distinct.mp among)

/-- A builder with the given extensions. -/
def serviceFor (extensions : List String) : ClosureService where
  builder := { ClosureBuilder.usualBuilder with
    extensions := extensions.map fun extension => .text (.ofString extension) }

theorem recognizes_serviceFor {extensions : List String} {extension : String} :
    (serviceFor extensions).builder.Recognizes extension ↔
      extension ∈ extensions.map Text.lower := by
  rw [List.mem_map]
  constructor
  · rintro ⟨given, member, lowered⟩
    obtain ⟨other, among, same⟩ := List.mem_map.mp member
    rw [← LooseText.ofString_injective (Json.text.inj same)] at lowered
    exact ⟨other, among, lowered⟩
  · rintro ⟨given, among, lowered⟩
    exact ⟨given, List.mem_map_of_mem among, lowered⟩

/-- A script that refers to a program and to a package. -/
def packagingHost : Host where
  files := {
    nodes := [
      (["w"], .directory false),
      (["a.cs", "w"], .file "//css_ref b.EXE\n//css_nuget Json".toUTF8 0 false),
      (["b.EXE", "w"], .file .empty 0 false),
      (["p"], .directory false),
      (["json.1.0", "p"], .directory false),
      (["lib", "json.1.0", "p"], .directory false),
      (["J.Dll", "lib", "json.1.0", "p"], .file .empty 0 false)]
    workingDirectory := ["w"] }
  environment := [("HOME", "/h"), ("NUGET_PACKAGES", "/p")]
  modules := []
  worker := .missing

theorem ClosureService.answer_regular_packaging : ∃ closure later p,
    (serviceFor [".exe"]).answer "a.cs" packagingHost = (.ok closure, later) ∧
      (serviceFor [".exe"]).builder.prepare "a.cs" packagingHost = (.ok p, later) ∧
      closure.libraries = ["/w/b.EXE", "/p/json.1.0/lib/J.Dll"] ∧
      ∀ path ∈ closure.libraries, later.files.HoldsFile path ∧
        ((serviceFor [".exe"]).builder.Recognizes (LibraryIndex.extensionOf path) ∨
          p.FromPackages later path ∧ HasPackageSuffix path) := by
  have evaluated : ((serviceFor [".exe"]).answer "a.cs" packagingHost).1.toOption.any
      (fun closure => closure.libraries = ["/w/b.EXE", "/p/json.1.0/lib/J.Dll"]) = true := by
    decide +kernel
  rcases ran : (serviceFor [".exe"]).answer "a.cs" packagingHost with ⟨result, later⟩
  rw [ran] at evaluated
  obtain ⟨closure, rfl, found⟩ := ok_of_any evaluated
  obtain ⟨p, kept, prepared, libraries, regular⟩ :=
    @answer_regular (serviceFor [".exe"]) rfl _ _ _ _ ran
  have alone : (serviceFor [".exe"]).companion.path packagingHost.modules = none := by
    decide +kernel
  have barred : ¬(serviceFor [".exe"]).builder.Recognizes "" :=
    mt recognizes_serviceFor.mp (by decide +kernel)
  rw [alone, Option.toList_none, List.append_nil] at libraries
  refine ⟨closure, later, p, rfl, prepared, of_decide_eq_true found, fun path member => ?_⟩
  obtain ⟨file, kind⟩ := regular path (libraries ▸ member)
  exact ⟨file, kind.imp_right fun other => other.resolve_right fun both => barred both.1⟩

/-- A script that refers to a text file with a slash after its name. -/
def slashingHost : Host where
  files := {
    nodes := [
      (["w"], .directory false),
      (["a.cs", "w"], .file "//css_ref foo.txt/".toUTF8 0 false),
      (["foo.txt", "w"], .file .empty 0 false)]
    workingDirectory := ["w"] }
  environment := [("HOME", "/h")]
  modules := []
  worker := .missing

/-- A reference with a slash at its end makes a library of a text file, if files without an extension
are libraries. -/
theorem ClosureService.answer_foreign : ∃ closure later,
    (serviceFor [".dll", ""]).answer "a.cs" slashingHost = (.ok closure, later) ∧
      closure.libraries = ["/w/foo.txt"] ∧
      ¬∃ kept, closure.libraries =
          kept ++ ((serviceFor [".dll", ""]).companion.path slashingHost.modules).toList ∧
        ∀ path ∈ kept, later.files.HoldsFile path ∧
          ((serviceFor [".dll", ""]).builder.Recognizes (LibraryIndex.extensionOf path) ∨
            HasPackageSuffix path) := by
  have evaluated : ((serviceFor [".dll", ""]).answer "a.cs" slashingHost).1.toOption.any
      (fun closure => closure.libraries = ["/w/foo.txt"]) = true := by
    decide +kernel
  rcases ran : (serviceFor [".dll", ""]).answer "a.cs" slashingHost with ⟨result, later⟩
  rw [ran] at evaluated
  obtain ⟨closure, rfl, found⟩ := ok_of_any evaluated
  have found := of_decide_eq_true found
  refine ⟨closure, later, rfl, found, ?_⟩
  rintro ⟨kept, libraries, kinds⟩
  have alone : (serviceFor [".dll", ""]).companion.path slashingHost.modules = none := by
    decide +kernel
  rw [alone, Option.toList_none, List.append_nil, found] at libraries
  obtain ⟨-, known | ⟨file, spelled, dll⟩⟩ := kinds "/w/foo.txt" (libraries ▸ List.mem_singleton_self _)
  · exact absurd (recognizes_serviceFor.mp known) (by decide +kernel)
  · -- none of the ends of the path is the suffix
    have others : ∀ rest ∈ "/w/foo.txt".toList.tails, Text.lower (String.ofList rest) ≠ ".dll" := by
      decide +kernel
    refine others file.suffix.toList ((List.mem_tails _ _).mpr (spelled ▸ file.suffix_ends)) ?_
    rw [String.ofList_toList, dll]

end ScriptDeps
