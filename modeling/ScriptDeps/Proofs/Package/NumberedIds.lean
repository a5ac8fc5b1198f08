import ScriptDeps.Proofs.Package.Obstacles

/-!
# Ids with numbers

A directory that is named with an id, a dot and a version is cut at the first dot after which a version
can stand. So it is found for its id unless the id itself goes on with numbers after a dot, as in
`Foo.2`. Then it is found for a shorter id, and as another version.
-/

namespace ScriptDeps.PackageStore

/-! ### Names of directories -/

def directoryName (id version : String) : String :=
  id ++ "." ++ version

/-- A version can begin after a dot in the id already. -/
def Hidden (id version : String) : Prop :=
  ∃ shorter between, shorter ≠ [] ∧ id.toList = shorter ++ '.' :: between ∧
    VersionText (between ++ '.' :: version.toList)

/-- Letters, digits, dots and dashes. -/
def Plain (text : List Char) : Prop :=
  ∀ c ∈ text, c.isAlphanum = true ∨ c = '.' ∨ c = '-'

instance (text : List Char) : Decidable (Plain text) :=
  decidable_of_iff (text.all fun c => c.isAlphanum || c == '.' || c == '-') (by simp [Plain, or_assoc])

/-- Numbers, perhaps with a dash and more after them. -/
def BeginsVersion (text : List Char) : Prop :=
  ∃ numbers, DottedNumbers numbers ∧
    (text = numbers ∨ ∃ more, Plain more ∧ text = numbers ++ '-' :: more)

/-- The id ends, after a dot, in what a version can begin with. -/
def Numbered (id : String) : Prop :=
  ∃ shorter between, shorter ≠ [] ∧ id.toList = shorter ++ '.' :: between ∧ BeginsVersion between

@[simp]
theorem toList_directoryName (id version : String) :
    (directoryName id version).toList = id.toList ++ '.' :: version.toList := by
  simp [directoryName]

theorem dottedNumbers_append {first second : List Char} :
    DottedNumbers (first ++ '.' :: second) ↔ DottedNumbers first ∧ DottedNumbers second := by
  simp only [← isDotted_iff, Package.isDotted, Text.split_append_cons, List.all_append,
    Bool.and_eq_true]

theorem VersionText.begins {front version : List Char}
    (whole : VersionText (front ++ '.' :: version)) : BeginsVersion front := by
  obtain ⟨numbers, dotted, same | ⟨prerelease, -, allowed, same⟩⟩ := whole
  · exact ⟨front, (dottedNumbers_append.mp (same ▸ dotted)).1, .inl rfl⟩
  -- the first dash is after the dot or before it
  · obtain ⟨between, rfl, rest⟩ | ⟨between, rfl, rest⟩ := List.append_eq_append_iff.mp same
    · obtain ⟨-, none⟩ | ⟨between, rfl, -⟩ := List.cons_eq_append_iff.mp rest
      · cases none
      · exact ⟨front, (dottedNumbers_append.mp dotted).1, .inl rfl⟩
    · obtain ⟨-, none⟩ | ⟨more, rfl, rfl⟩ := List.cons_eq_append_iff.mp rest
      · cases none
      · exact ⟨numbers, dotted, .inr ⟨more, (List.forall_mem_append.mp allowed).1, rfl⟩⟩

theorem BeginsVersion.versionText {front version : List Char} (begins : BeginsVersion front)
    (spelled : VersionText version) (plain : Plain version) : VersionText (front ++ '.' :: version) := by
  obtain ⟨numbers, dotted, rfl | ⟨more, allowed, rfl⟩⟩ := begins
  · obtain ⟨own, ownDotted, rfl | ⟨prerelease, some, others, rfl⟩⟩ := spelled
    · exact ⟨_, dottedNumbers_append.mpr ⟨dotted, ownDotted⟩, .inl rfl⟩
    · exact ⟨_, dottedNumbers_append.mpr ⟨dotted, ownDotted⟩, .inr ⟨prerelease, some, others, by simp⟩⟩
  · refine ⟨numbers, dotted, .inr ⟨more ++ '.' :: version, ?_, ?_, by simp⟩⟩
    · exact List.append_ne_nil_of_right_ne_nil _ (List.cons_ne_nil _ _)
    · exact List.forall_mem_append.mpr ⟨allowed, List.forall_mem_cons.mpr ⟨.inr (.inl rfl), plain⟩⟩

/-- An id hides its versions by how it ends, whatever the version is. -/
theorem hidden_iff_numbered {id version : String} (spelled : VersionText version.toList)
    (plain : Plain version.toList) : Hidden id version ↔ Numbered id := by
  refine exists₂_congr fun shorter between => and_congr_right fun _ => and_congr_right fun _ => ?_
  exact ⟨VersionText.begins, fun begins => begins.versionText spelled plain⟩

/-! ### How a name is cut -/

/-- Where a dot in a name stands that is not after the one between its id and its version. -/
theorem cut_of_length_le {id version other rest : List Char}
    (same : id ++ '.' :: version = other ++ '.' :: rest) (short : other.length ≤ id.length) :
    other = id ∧ rest = version ∨
      ∃ between, id = other ++ '.' :: between ∧ rest = between ++ '.' :: version := by
  obtain ⟨between, rfl, after⟩ | ⟨between, rfl, after⟩ := List.append_eq_append_iff.mp same
  · have none : between = [] := by
      rw [List.length_append] at short
      exact List.eq_nil_of_length_eq_zero (by omega)
    subst none
    exact .inl ⟨List.append_nil _, (List.cons.inj after).2.symm⟩
  · obtain ⟨rfl, after⟩ | ⟨between, rfl, rfl⟩ := List.cons_eq_append_iff.mp after
    · exact .inl ⟨(List.append_nil _).symm, (List.cons.inj after).2⟩
    · exact .inr ⟨between, rfl, rfl⟩

theorem Joins.exists_spells {name : String} {id version : List Char}
    (joins : Joins name.toList id version) :
    ∃ shortest itsVersion, Spells name shortest itsVersion ∧
      shortest.toList.length ≤ id.length := by
  have some : ∃ length other otherVersion, Joins name.toList other otherVersion ∧
      other.length = length := ⟨_, id, version, joins, rfl⟩
  classical
  obtain ⟨shortest, itsVersion, first, least⟩ := Nat.find_spec some
  have minimal : ∀ other otherVersion, Joins name.toList other otherVersion →
      shortest.length ≤ other.length := by
    intro other otherVersion joins
    rw [least]
    exact Nat.find_min' some ⟨other, otherVersion, joins, rfl⟩
  refine ⟨String.ofList shortest, String.ofList itsVersion, ?_, ?_⟩
  · simpa [Spells] using ⟨first, minimal⟩
  · simpa using minimal id version joins

section

variable {id version : String}

theorem joins_directoryName (filled : id ≠ "") (oneLine : '\n' ∉ id.toList)
    (spelled : VersionText version.toList) :
    Joins (directoryName id version).toList id.toList version.toList where
  some := by simpa using filled
  oneLine := oneLine
  joined := ⟨version.toList, toList_directoryName id version, spelled, .inl rfl⟩

theorem Hidden.joins (hidden : Hidden id version) (oneLine : '\n' ∉ id.toList) :
    ∃ shorter itsVersion, Joins (directoryName id version).toList shorter itsVersion ∧
      shorter.length < id.toList.length := by
  obtain ⟨shorter, between, some, same, whole⟩ := hidden
  refine ⟨shorter, _, ⟨some, ?_, between ++ '.' :: version.toList, ?_, whole, .inl rfl⟩, ?_⟩
  · exact fun lineFeed => oneLine (same ▸ List.mem_append_left _ lineFeed)
  · rw [toList_directoryName, same, List.append_assoc, List.cons_append]
  · rw [same, List.length_append, List.length_cons]
    omega

/-- A directory's name spells its own id, or one that the id hides its versions behind. -/
theorem spells_directoryName {shortest itsVersion : String} (filled : id ≠ "")
    (oneLine : '\n' ∉ id.toList) (spelled : VersionText version.toList)
    (spells : Spells (directoryName id version) shortest itsVersion) :
    (shortest = id ∧ itsVersion = version ∧ ¬Hidden id version) ∨
      (Text.lower id ≠ Text.lower shortest ∧ Hidden id version) := by
  obtain ⟨⟨some, -, rest, same, ends⟩, least⟩ := spells
  rw [toList_directoryName] at same
  obtain ⟨own, rfl⟩ | ⟨between, own, rfl⟩ :=
    cut_of_length_le same (least _ _ (joins_directoryName filled oneLine spelled))
  -- no line feed ends this name, so what is after the dot is the version itself
  · have noBreak : version.toList ≠ itsVersion.toList ++ ['\n'] := fun broken =>
      spelled.mem (broken ▸ List.mem_append_right _ List.mem_cons_self)
    have itself := ends.2.resolve_right noBreak
    refine .inl ⟨String.toList_inj.mp own, (String.toList_inj.mp itself).symm, fun hidden => ?_⟩
    obtain ⟨other, otherVersion, joins, shorter⟩ := hidden.joins oneLine
    have long := least other otherVersion joins
    rw [own] at long
    omega
  · have noBreak : between ++ '.' :: version.toList ≠ itsVersion.toList ++ ['\n'] := by
      intro broken
      have lineFeed : '\n' ∈ between ++ '.' :: version.toList :=
        broken ▸ List.mem_append_right _ List.mem_cons_self
      rcases List.mem_append.mp lineFeed with before | after
      · exact oneLine (own ▸ List.mem_append_right _ (List.mem_cons_of_mem _ before))
      · exact spelled.mem ((List.mem_cons.mp after).resolve_left (by decide))
    have itself := ends.2.resolve_right noBreak
    exact .inr ⟨Text.lower_ne_of_longer own, shortest.toList, between, some, own, itself ▸ ends.1⟩

end

/-! ### What is found -/

section

variable {fs : FileSystem} {root : Path}

theorem inside_injective {entry other : String} (same : inside root entry = inside root other) :
    entry = other := by
  have names : root.names ++ [entry] = root.names ++ [other] := congrArg Path.names same
  exact List.singleton_inj.mp (List.append_cancel_left names)

theorem inside_ne_inside_inside (entry folder version : String) :
    inside root entry ≠ inside (inside root folder) version := by
  intro same
  have lengths := congrArg (fun path => path.names.length) same
  simp [inside] at lengths

/-- A directory in the root itself is seen for the names that are its id but for the letter case. -/
theorem mem_seen_byName {name entry version : String} :
    (version, inside root entry) ∈ seen (offersIn fs root name) ↔ entry ∈ listed fs root ∧
      fs.isDirectory (inside root entry).text = .ok true ∧
      ∃ id, Spells entry id version ∧ Text.lower id = Text.lower name := by
  constructor
  · intro among
    obtain ⟨offer, kept, same⟩ := List.mem_map.mp among
    obtain ⟨other, member, offered⟩ := List.mem_flatMap.mp (List.mem_filter.mp kept).1
    obtain ⟨there, ⟨-, -, nested, -⟩ | ⟨id, spelled, named, path⟩⟩ :=
      mem_map_offersOf.mp (List.mem_map.mpr ⟨offer, offered, same⟩)
    · exact absurd nested (inside_ne_inside_inside _ _ _)
    · obtain rfl := inside_injective path
      exact ⟨member, there, id, spelled, named⟩
  · rintro ⟨member, there, id, spelled, named⟩
    have own : ((version, inside root entry), false) ∈ offersOf fs root name entry := by
      have other : Text.lower entry ≠ Text.lower name := named ▸ spelled.lower_ne
      simp [offersOf, isFolder_iff.mpr there, other, splitVersion?_eq_some_iff.mpr spelled, named]
    exact List.mem_map.mpr
      ⟨_, List.mem_filter.mpr ⟨List.mem_flatMap.mpr ⟨entry, member, own⟩, rfl⟩, rfl⟩

theorem mem_versionsIn_iff {name : String} {entry : Installed} :
    (∃ installed, versionsIn fs root name = .ok installed ∧ entry ∈ installed) ↔
      Searchable fs root ∧ entry ∈ seen (offersIn fs root name) := by
  rw [← @versionsIn_returns_iff fs root name]
  constructor
  · rintro ⟨installed, ran, among⟩
    exact ⟨⟨installed, ran⟩, versionsIn_ok ran ▸ among⟩
  · rintro ⟨⟨installed, ran⟩, among⟩
    exact ⟨installed, ran, versionsIn_ok ran ▸ among⟩

theorem mem_of_findIn_single {package : PackageReference} {directory : Path}
    (found : findIn fs package [root] = .ok (some directory)) :
    ∃ version, (version, directory) ∈ seen (offersIn fs root package.name) := by
  obtain ⟨before, other, after, same, -, highest⟩ := findIn_isAnswer found
  obtain ⟨version, -, member, -⟩ := highest.key_le
  have alone : other = root := by
    have among : other ∈ [root] := same ▸ List.mem_append_right before List.mem_cons_self
    exact List.mem_singleton.mp among
  obtain ⟨offer, kept, entry⟩ := List.mem_map.mp (alone ▸ member)
  obtain ⟨within, flag⟩ := List.mem_filter.mp kept
  exact ⟨version, List.mem_map.mpr
    ⟨offer, List.mem_filter.mpr ⟨(List.mem_filter.mp within).1, flag⟩, entry⟩⟩

end

/-- A directory that is named with an id and a version is offered for that id as that version, and for
no other id, unless the id hides its versions; then it is offered for another id and not for its own. -/
theorem directoryName_offered_iff (fs : FileSystem) (root : Path) (id version : String)
    (filled : id ≠ "") (oneLine : '\n' ∉ id.toList) (spelled : VersionText version.toList)
    (entry : directoryName id version ∈ listed fs root)
    (there : fs.isDirectory (inside root (directoryName id version)).text = .ok true) :
    (∀ name, Text.lower name = Text.lower id →
      ((∃ installed, versionsIn fs root name = .ok installed ∧
          (version, inside root (directoryName id version)) ∈ installed) ↔
        Searchable fs root ∧ ¬Hidden id version)) ∧
    ((∃ name installed other, Text.lower name ≠ Text.lower id ∧
        versionsIn fs root name = .ok installed ∧
        (other, inside root (directoryName id version)) ∈ installed) ↔
      Searchable fs root ∧ Hidden id version) ∧
    (∀ package, findIn fs package [root] = .ok (some (inside root (directoryName id version))) →
      (Text.lower package.name = Text.lower id ↔ ¬Hidden id version)) ∧
    (Plain version.toList → (Hidden id version ↔ Numbered id)) := by
  have seen_iff : ∀ {name other : String},
      (other, inside root (directoryName id version)) ∈ seen (offersIn fs root name) ↔
        ∃ shortest, Spells (directoryName id version) shortest other ∧
          Text.lower shortest = Text.lower name := by
    intro name other
    rw [mem_seen_byName]
    exact ⟨fun member => member.2.2, fun spells => ⟨entry, there, spells⟩⟩
  obtain ⟨shortest, itsVersion, spells, -⟩ :=
    (joins_directoryName filled oneLine spelled).exists_spells
  have cut := spells_directoryName filled oneLine spelled spells
  -- the name is cut in one way only, so each id that is found is the one that it spells
  refine ⟨?own, ?others, ?answered, hidden_iff_numbered spelled⟩
  case own =>
    intro name named
    rw [mem_versionsIn_iff, seen_iff]
    refine and_congr_right fun _ => ⟨?_, fun plain => ?_⟩
    · rintro ⟨other, otherSpells, same⟩
      obtain ⟨-, -, plain⟩ | ⟨apart, -⟩ := spells_directoryName filled oneLine spelled otherSpells
      · exact plain
      · exact absurd (named.symm.trans same.symm) apart
    · obtain ⟨rfl, rfl, -⟩ := cut.resolve_right fun hidden => plain hidden.2
      exact ⟨shortest, spells, named.symm⟩
  case others =>
    constructor
    · rintro ⟨name, installed, other, apart, ran, member⟩
      obtain ⟨searchable, among⟩ := mem_versionsIn_iff.mp ⟨installed, ran, member⟩
      obtain ⟨otherId, otherSpells, same⟩ := seen_iff.mp among
      refine ⟨searchable, ?_⟩
      obtain ⟨rfl, -⟩ | ⟨-, hidden⟩ := spells_directoryName filled oneLine spelled otherSpells
      · exact absurd same.symm apart
      · exact hidden
    · rintro ⟨searchable, hidden⟩
      have apart := (cut.resolve_left fun own => own.2.2 hidden).1
      obtain ⟨installed, ran, member⟩ :=
        mem_versionsIn_iff.mpr ⟨searchable, seen_iff.mpr ⟨shortest, spells, rfl⟩⟩
      exact ⟨shortest, installed, itsVersion, apart.symm, ran, member⟩
  case answered =>
    intro package found
    obtain ⟨other, member⟩ := mem_of_findIn_single found
    obtain ⟨otherId, otherSpells, same⟩ := seen_iff.mp member
    rw [← same]
    obtain ⟨rfl, -, plain⟩ | ⟨apart, hidden⟩ :=
      spells_directoryName filled oneLine spelled otherSpells
    · exact iff_of_true rfl plain
    · exact iff_of_false apart.symm (not_not.mpr hidden)

section

open FileSystem

/-- A host with one directory in its only root. -/
def lone (directory : String) : FileSystem where
  nodes := [(["r"], .directory false), ([directory, "r"], .directory false)]
  workingDirectory := []

/-- A directory that is named plainly is found for its id, in whatever letter case, and for no other. -/
theorem directoryName_offered_nlog :
    (∃ installed, versionsIn (lone "NLog.5.1.0") (shelfRoot 0) "nlog" = .ok installed ∧
      ("5.1.0", inside (shelfRoot 0) (directoryName "NLog" "5.1.0")) ∈ installed) ∧
    ¬∃ name installed other, Text.lower name ≠ Text.lower "NLog" ∧
      versionsIn (lone "NLog.5.1.0") (shelfRoot 0) name = .ok installed ∧
      (other, inside (shelfRoot 0) (directoryName "NLog" "5.1.0")) ∈ installed := by
  have top : (lone "NLog.5.1.0").list (shelfRoot 0).text = .ok [directoryName "NLog" "5.1.0"] := by
    decide +kernel
  have there : (lone "NLog.5.1.0").isDirectory
      (inside (shelfRoot 0) (directoryName "NLog" "5.1.0")).text = .ok true := by
    decide +kernel
  have only : listed (lone "NLog.5.1.0") (shelfRoot 0) = [directoryName "NLog" "5.1.0"] :=
    listed_of_list top
  have searchable : Searchable (lone "NLog.5.1.0") (shelfRoot 0) := by
    refine ⟨by decide +kernel, ?_⟩
    rw [only, List.forall_mem_singleton]
    exact isDirectory_returns_iff.mp ⟨true, there⟩
  have spelled : VersionText "5.1.0".toList := isVersion_iff.mp (by decide +kernel)
  have plain : ¬Numbered "NLog" := by
    rintro ⟨shorter, between, -, same, -⟩
    have dot : '.' ∈ "NLog".toList := same ▸ List.mem_append_right _ List.mem_cons_self
    exact absurd dot (by decide)
  obtain ⟨own, others, -, hidden⟩ := directoryName_offered_iff (lone "NLog.5.1.0") (shelfRoot 0)
    "NLog" "5.1.0" (by decide) (by decide) spelled (only ▸ List.mem_cons_self) there
  have allowed : Plain "5.1.0".toList := by decide
  have visible : ¬Hidden "NLog" "5.1.0" := fun hides => plain ((hidden allowed).mp hides)
  exact ⟨(own "nlog" (by decide +kernel)).mpr ⟨searchable, visible⟩,
    fun found => visible (others.mp found).2⟩

/-- A directory whose id ends in a number is not found for its id, but for a shorter one. -/
theorem find_numberedId :
    VersionText "1.0".toList ∧
    listed (lone "Foo.2.1.0") (shelfRoot 0) = [directoryName "Foo.2" "1.0"] ∧
    (lone "Foo.2.1.0").isDirectory (inside (shelfRoot 0) (directoryName "Foo.2" "1.0")).text =
      .ok true ∧
    PackageStore.find ⟨[shelfRoot 0], none⟩ (lone "Foo.2.1.0") ⟨"Foo.2", none, false⟩ = .ok none ∧
    PackageStore.find ⟨[shelfRoot 0], none⟩ (lone "Foo.2.1.0") ⟨"Foo", none, false⟩ =
      .ok (some (inside (shelfRoot 0) (directoryName "Foo.2" "1.0"))) ∧
    Text.lower "Foo" ≠ Text.lower "Foo.2" := by
  have top : (lone "Foo.2.1.0").list (shelfRoot 0).text = .ok ["Foo.2.1.0"] := by decide +kernel
  have there : (lone "Foo.2.1.0").isDirectory (inside (shelfRoot 0) "Foo.2.1.0").text = .ok true := by
    decide +kernel
  have cut : splitVersion? "Foo.2.1.0" = some ("Foo", "2.1.0") := by decide +kernel
  have whole : (Text.lower "Foo.2.1.0" == Text.lower "Foo.2") = false ∧
      (Text.lower "Foo.2.1.0" == Text.lower "Foo") = false := by decide +kernel
  have apart : (Text.lower "Foo" == Text.lower "Foo.2") = false := by decide +kernel
  have key : Package.VersionKey.ofText "2.1.0" = .ok ⟨[2, 1, 0], true, ""⟩ := by decide +kernel
  refine ⟨isVersion_iff.mp (by decide +kernel), listed_of_list top, there, ?_, ?_, by simpa using apart⟩
  · simp [PackageStore.find, findIn, versionsIn, listOrNone, offered, top, there, cut, whole.1, apart]
  · simp [PackageStore.find, findIn_cons, versionsIn, listOrNone, offered, top, there, cut, whole.2,
      fitting, highest?, key, Package.sortDown, directoryName]

end

end ScriptDeps.PackageStore
