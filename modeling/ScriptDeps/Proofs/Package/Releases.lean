import ScriptDeps.Proofs.Package.Highest
import ScriptDeps.Proofs.Text.Numerals

/-!
# Releases and prereleases

Versions are ordered by the numbers of their releases, those that are missing counting as zero. Of two
with the same numbers the one that is written with fewer of them comes first, and only then a
prerelease before its release: that a release comes after its prereleases holds of those that are
written with no more numbers than it.
-/

namespace ScriptDeps

namespace Package

/-! ### Numbers with places -/

/-- At the first place where the numbers differ the first ones are lower; missing ones count as zero. -/
def Below (a b : List Nat) : Prop :=
  ∃ place, (∀ i < place, a.getD i 0 = b.getD i 0) ∧ a.getD place 0 < b.getD place 0

/-- The numbers are the same, missing ones counting as zero. -/
def SameNumbers (a b : List Nat) : Prop :=
  ∀ i, a.getD i 0 = b.getD i 0

theorem below_or_same (a b : List Nat) : Below a b ∨ SameNumbers a b ∨ Below b a := by
  by_cases same : SameNumbers a b
  · exact .inr (.inl same)
  have differ : ∃ i, a.getD i 0 ≠ b.getD i 0 := not_forall.mp same
  have before : ∀ i < Nat.find differ, a.getD i 0 = b.getD i 0 := fun i less =>
    not_not.mp (Nat.find_min differ less)
  obtain lower | higher := Nat.lt_or_gt_of_ne (Nat.find_spec differ)
  · exact .inl ⟨_, before, lower⟩
  · exact .inr (.inr ⟨_, fun i less => (before i less).symm, higher⟩)

theorem below_cons {a b : List Nat} {x y : Nat} :
    Below (x :: a) (y :: b) ↔ x < y ∨ x = y ∧ Below a b := by
  constructor
  · rintro ⟨place, same, less⟩
    cases place with
    | zero => exact .inl less
    | succ place =>
      exact .inr ⟨same 0 (Nat.succ_pos place), place,
        fun i before => same (i + 1) (Nat.succ_lt_succ before), less⟩
  · rintro (less | ⟨rfl, place, same, less⟩)
    · exact ⟨0, nofun, less⟩
    · refine ⟨place + 1, fun i before => ?_, less⟩
      cases i with
      | zero => rfl
      | succ i => exact same i (Nat.lt_of_succ_lt_succ before)

theorem sameNumbers_cons {a b : List Nat} {x y : Nat} :
    SameNumbers (x :: a) (y :: b) ↔ x = y ∧ SameNumbers a b := by
  constructor
  · exact fun same => ⟨same 0, fun i => same (i + 1)⟩
  · rintro ⟨rfl, same⟩ i
    cases i with
    | zero => rfl
    | succ i => exact same i

theorem compareParts_cons (x y : Nat) (a b : List Nat) :
    compareParts ((x :: a).map Int.ofNat) ((y :: b).map Int.ofNat) =
      (compare x y).then (compareParts (a.map Int.ofNat) (b.map Int.ofNat)) := by
  have number : compare (Int.ofNat x) (Int.ofNat y) = compare x y := by
    simp [compare, compareOfLessAndEq]
  rw [List.map_cons, List.map_cons, compareParts, number]

theorem compareParts_of_below {a b : List Nat} (below : Below a b) :
    compareParts (a.map Int.ofNat) (b.map Int.ofNat) = .lt := by
  induction a generalizing b with
  | nil =>
    cases b with
    | nil =>
      obtain ⟨place, -, less⟩ := below
      exact absurd less (Nat.lt_irrefl _)
    | cons y b => rfl
  | cons x a ih =>
    cases b with
    | nil =>
      obtain ⟨place, -, less⟩ := below
      exact absurd less (Nat.not_lt_zero _)
    | cons y b =>
      rw [compareParts_cons]
      obtain less | ⟨rfl, rest⟩ := below_cons.mp below
      · rw [Nat.compare_eq_lt.mpr less]
        rfl
      · rw [Nat.compare_eq_eq.mpr rfl]
        exact ih rest

/-- Of lists with the same numbers the shorter one comes first, though what it lacks counts as zero. -/
theorem compareParts_of_same {a b : List Nat} (same : SameNumbers a b) :
    compareParts (a.map Int.ofNat) (b.map Int.ofNat) = compare a.length b.length := by
  induction a generalizing b with
  | nil =>
    cases b with
    | nil => rfl
    | cons y b => exact (Nat.compare_eq_lt.mpr (Nat.succ_pos b.length)).symm
  | cons x a ih =>
    cases b with
    | nil => exact (Nat.compare_eq_gt.mpr (Nat.succ_pos a.length)).symm
    | cons y b =>
      obtain ⟨rfl, rest⟩ := sameNumbers_cons.mp same
      rw [compareParts_cons, Nat.compare_eq_eq.mpr rfl, Ordering.eq_then, ih rest]
      simp [compare, compareOfLessAndEq]

/-! ### Versions -/

/-- The release that a version names. -/
def releaseText (version : String) : List Char :=
  (Text.cutAt '-' version.toList).1

/-- What stands after the release and a dash; nothing if the version is a release itself. -/
def prerelease (version : String) : List Char :=
  (Text.cutAt '-' version.toList).2

/-- The release is decimal numbers with dots between them. -/
def IsNumbered (version : String) : Prop :=
  PackageStore.DottedNumbers (releaseText version)

def releaseNumbers (version : String) : List Nat :=
  (Text.split '.' (releaseText version)).map Text.numeral

/-- The first version is of a lower release. -/
def LowerRelease (version other : String) : Prop :=
  Below (releaseNumbers version) (releaseNumbers other)

def SameRelease (version other : String) : Prop :=
  SameNumbers (releaseNumbers version) (releaseNumbers other)

/-- With how many numbers the release is written. -/
def places (version : String) : Nat :=
  (releaseNumbers version).length

def IsPrerelease (version : String) : Prop :=
  prerelease version ≠ []

instance (version : String) : Decidable (IsPrerelease version) :=
  inferInstanceAs (Decidable (prerelease version ≠ []))

variable {version other : String} {key otherKey : VersionKey}

theorem isDigit_of_isDecimal {c : Char} (decimal : Text.isDecimal c = true) :
    Text.isDigit c = true := by
  rw [Text.isDigit, decimal, Bool.true_or]

theorem partNumber_decimal {part : List Char} (filled : part ≠ [])
    (decimal : ∀ c ∈ part, Text.isDecimal c = true) : VersionKey.partNumber part =
      if Text.maxDigits < part.length then .error .notANumber else .ok (Int.ofNat (Text.numeral part)) := by
  have digits : (!part.isEmpty && part.all Text.isDigit) = true := by
    simpa [filled] using fun c member => isDigit_of_isDecimal (decimal c member)
  rw [VersionKey.partNumber, if_pos digits, number?_decimal filled decimal]
  by_cases long : Text.maxDigits < part.length
  · rw [if_pos long, if_pos long]
  · rw [if_neg long, if_neg long]
    rfl

theorem IsNumbered.partNumber (numbered : IsNumbered version) {part : List Char}
    (member : part ∈ Text.split '.' (releaseText version)) : VersionKey.partNumber part =
      if Text.maxDigits < part.length then .error .notANumber else .ok (Int.ofNat (Text.numeral part)) := by
  have dotted := List.all_eq_true.mp (PackageStore.isDotted_iff.mpr numbered) part member
  rw [Bool.and_eq_true] at dotted
  exact partNumber_decimal (by simpa using dotted.1) (by simpa using dotted.2)

theorem ofText_eq (version : String) : VersionKey.ofText version = (do
    let numbers ← (Text.split '.' (releaseText version)).mapM VersionKey.partNumber
    return ⟨numbers, (prerelease version).isEmpty, String.ofList (prerelease version)⟩) := rfl

/-- A numbered version has a key unless one of its numbers has too many digits. -/
theorem IsNumbered.returns_iff (numbered : IsNumbered version) :
    (∃ key, VersionKey.ofText version = .ok key) ↔
      ∀ part ∈ Text.split '.' (releaseText version), part.length ≤ Text.maxDigits := by
  have each : (∃ numbers, (Text.split '.' (releaseText version)).mapM VersionKey.partNumber =
      .ok numbers) ↔ ∀ part ∈ Text.split '.' (releaseText version), part.length ≤ Text.maxDigits := by
    rw [mapM_returns_iff]
    refine forall₂_congr fun part member => ?_
    rw [numbered.partNumber member]
    split <;> simp_all
  rw [← each, ofText_eq]
  constructor
  · rintro ⟨key, made⟩
    obtain ⟨numbers, ran, -⟩ := bind_ok made
    exact ⟨numbers, ran⟩
  · rintro ⟨numbers, ran⟩
    rw [ran]
    exact ⟨_, rfl⟩

theorem IsNumbered.key_eq (numbered : IsNumbered version) (made : VersionKey.ofText version = .ok key) :
    key = ⟨(releaseNumbers version).map Int.ofNat, (prerelease version).isEmpty,
      String.ofList (prerelease version)⟩ := by
  rw [ofText_eq, mapM_congr fun part => numbered.partNumber] at made
  obtain ⟨numbers, ran, made⟩ := bind_ok made
  rw [pure_ok made, mapM_eq_map (g := fun part => Int.ofNat (Text.numeral part)) ?_ ran,
    releaseNumbers, List.map_map]
  · rfl
  · intro part number made
    split at made
    · cases made
    · exact (Except.ok.inj made).symm

theorem compare_of_lower (first : IsNumbered version) (second : IsNumbered other)
    (made : VersionKey.ofText version = .ok key) (otherMade : VersionKey.ofText other = .ok otherKey)
    (lower : LowerRelease version other) : key.compare otherKey = .lt := by
  rw [first.key_eq made, second.key_eq otherMade, VersionKey.compare, compareParts_of_below lower]
  rfl

theorem compare_of_same (first : IsNumbered version) (second : IsNumbered other)
    (made : VersionKey.ofText version = .ok key) (otherMade : VersionKey.ofText other = .ok otherKey)
    (same : SameRelease version other) : key.compare otherKey =
      (compare (places version) (places other)).then
        ((compare (prerelease version).isEmpty (prerelease other).isEmpty).then
          (compare (String.ofList (prerelease version)) (String.ofList (prerelease other)))) := by
  rw [first.key_eq made, second.key_eq otherMade, VersionKey.compare, compareParts_of_same same]
  rfl

/-- A prerelease comes before its release exactly if it is not written with more numbers. -/
theorem compare_prerelease_iff (first : IsNumbered version) (second : IsNumbered other)
    (made : VersionKey.ofText version = .ok key) (otherMade : VersionKey.ofText other = .ok otherKey)
    (same : SameRelease version other) (before : IsPrerelease version) (release : ¬IsPrerelease other) :
    key.compare otherKey = .lt ↔ places version ≤ places other := by
  have flags : compare (prerelease version).isEmpty (prerelease other).isEmpty = .lt := by
    rw [List.isEmpty_eq_false_iff.mpr before, List.isEmpty_iff.mpr (not_not.mp release)]
    rfl
  rw [compare_of_same first second made otherMade same, flags, ← Nat.compare_ne_gt]
  cases compare (places version) (places other) <;> simp [Ordering.then]

end Package

/-! ### The highest version -/

namespace PackageStore

open Package

theorem FirstHighest.key_le {installed : List Installed} {directory : Path}
    (highest : FirstHighest installed directory) : ∃ version key, (version, directory) ∈ installed ∧
      VersionKey.ofText version = .ok key ∧ ∀ other ∈ installed, ∃ otherKey,
        VersionKey.ofText other.1 = .ok otherKey ∧ key.compare otherKey ≠ .lt := by
  obtain ⟨earlier, version, later, key, rfl, made, less, notGreater⟩ := highest
  refine ⟨version, key, List.mem_append_right earlier List.mem_cons_self, made, fun other member => ?_⟩
  obtain before | here := List.mem_append.mp member
  · obtain ⟨lower, otherMade, less⟩ := less other before
    exact ⟨lower, otherMade, Std.OrientedCmp.not_lt_of_lt less⟩
  obtain rfl | after := List.mem_cons.mp here
  · exact ⟨key, made, fun less => nomatch Std.ReflCmp.compare_self.symm.trans less⟩
  · obtain ⟨atMost, otherMade, notGreater⟩ := notGreater other after
    exact ⟨atMost, otherMade, fun less => notGreater (Std.OrientedCmp.gt_of_lt less)⟩

end PackageStore

namespace Package

/-- Numbered versions are ordered by the numbers of their releases. Of the same release the one that
is written with fewer numbers comes first, then a prerelease, so a prerelease is found as the highest
version only if no higher release is seen beside it and its own is written with fewer numbers. -/
theorem versions_ordered (store : PackageStore) (fs : FileSystem) (package : PackageReference) :
    (∀ version, IsNumbered version → ((∃ key, VersionKey.ofText version = .ok key) ↔
      ∀ part ∈ Text.split '.' (releaseText version), part.length ≤ Text.maxDigits)) ∧
    (∀ version other key otherKey, IsNumbered version → IsNumbered other →
      VersionKey.ofText version = .ok key → VersionKey.ofText other = .ok otherKey →
      (LowerRelease version other ∨ SameRelease version other ∨ LowerRelease other version) ∧
      (LowerRelease version other → key.compare otherKey = .lt) ∧
      (SameRelease version other → key.compare otherKey =
        (compare (places version) (places other)).then
          ((compare (prerelease version).isEmpty (prerelease other).isEmpty).then
            (compare (String.ofList (prerelease version)) (String.ofList (prerelease other))))) ∧
      (SameRelease version other → IsPrerelease version → ¬IsPrerelease other →
        (key.compare otherKey = .lt ↔ places version ≤ places other))) ∧
    ∀ directory, store.find fs package = .ok (some directory) →
      ∃ root ∈ store.roots, ∃ version, (version, directory) ∈ PackageStore.seenIn fs package root ∧
        ∀ other ∈ PackageStore.seenIn fs package root, IsNumbered version → IsNumbered other.1 →
          ¬LowerRelease version other.1 ∧
          (IsPrerelease version → ¬IsPrerelease other.1 → SameRelease version other.1 →
            places other.1 < places version) := by
  refine ⟨fun _ => IsNumbered.returns_iff, ?order, ?highest⟩
  case order =>
    intro version other key otherKey first second made otherMade
    exact ⟨below_or_same _ _, compare_of_lower first second made otherMade,
      compare_of_same first second made otherMade,
      compare_prerelease_iff first second made otherMade⟩
  case highest =>
    intro directory found
    obtain ⟨before, root, after, same, -, highest⟩ := PackageStore.findIn_isAnswer found
    obtain ⟨version, key, member, made, notLess⟩ := highest.key_le
    refine ⟨root, same ▸ List.mem_append_right before List.mem_cons_self, version, member, ?_⟩
    intro other among first second
    obtain ⟨otherKey, otherMade, notLess⟩ := notLess other among
    refine ⟨fun lower => notLess (compare_of_lower first second made otherMade lower), ?_⟩
    intro pre release same
    exact Nat.lt_of_not_le fun fewer =>
      notLess ((compare_prerelease_iff first second made otherMade same pre release).mpr fewer)

section

open PackageStore FileSystem ScriptDeps.Path

/-- A version with a higher number is above one with a higher digit, and is found as the highest. -/
theorem versions_ordered_numerically :
    IsNumbered "1.9" ∧ IsNumbered "1.10.0-rc" ∧ LowerRelease "1.9" "1.10.0-rc" ∧
      VersionKey.compare ⟨[1, 9], true, ""⟩ ⟨[1, 10, 0], false, "rc"⟩ = .lt ∧
      ∃ root ∈ [shelfRoot 0], ∃ version,
        (version, inside (inside (shelfRoot 0) "foo") "1.10.0-rc") ∈
          seenIn (shelf ["1.10.0-rc", "1.9"]) foo root := by
  have first : IsNumbered "1.9" := isDotted_iff.mp (by decide +kernel)
  have second : IsNumbered "1.10.0-rc" := isDotted_iff.mp (by decide +kernel)
  have lower : LowerRelease "1.9" "1.10.0-rc" := by
    have numbers : releaseNumbers "1.9" = [1, 9] ∧ releaseNumbers "1.10.0-rc" = [1, 10, 0] := by
      decide +kernel
    rw [LowerRelease, numbers.1, numbers.2]
    exact ⟨1, by decide, by decide⟩
  have low : VersionKey.ofText "1.9" = .ok ⟨[1, 9], true, ""⟩ := by decide +kernel
  have high : VersionKey.ofText "1.10.0-rc" = .ok ⟨[1, 10, 0], false, "rc"⟩ := by decide +kernel
  have found : PackageStore.find ⟨[shelfRoot 0], none⟩ (shelf ["1.10.0-rc", "1.9"]) foo =
      .ok (some (inside (inside (shelfRoot 0) "foo") "1.10.0-rc")) := by
    rw [find_shelf (List.cons_ne_nil _ _) (by decide +kernel) (by decide), List.map_cons,
      List.map_singleton, highest?_pair high low, if_neg (by decide)]
  obtain ⟨-, ordered, highest⟩ :=
    versions_ordered ⟨[shelfRoot 0], none⟩ (shelf ["1.10.0-rc", "1.9"]) foo
  obtain ⟨root, among, version, member, -⟩ := highest _ found
  exact ⟨first, second, lower, (ordered _ _ _ _ first second low high).2.1 lower, root, among, version,
    member⟩

/-- A prerelease is above its release if it is written with more numbers, and is found in its place. -/
theorem prerelease_above_release :
    SameRelease "1.0.0-beta" "1.0" ∧ IsPrerelease "1.0.0-beta" ∧ ¬IsPrerelease "1.0" ∧
      VersionKey.ofText "1.0.0-beta" = .ok ⟨[1, 0, 0], false, "beta"⟩ ∧
      VersionKey.ofText "1.0" = .ok ⟨[1, 0], true, ""⟩ ∧
      VersionKey.compare ⟨[1, 0, 0], false, "beta"⟩ ⟨[1, 0], true, ""⟩ = .gt ∧
      PackageStore.find ⟨[shelfRoot 0], none⟩ (shelf ["1.0", "1.0.0-beta"]) foo =
        .ok (some (inside (inside (shelfRoot 0) "foo") "1.0.0-beta")) ∧
      (shelf ["1.0", "1.0.0-beta"]).isDirectory (inside (inside (shelfRoot 0) "foo") "1.0").text =
        .ok true := by
  have numbers : releaseNumbers "1.0.0-beta" = [1, 0, 0] ∧ releaseNumbers "1.0" = [1, 0] := by
    decide +kernel
  have same : SameRelease "1.0.0-beta" "1.0" := by
    rw [SameRelease, numbers.1, numbers.2, sameNumbers_cons, sameNumbers_cons]
    refine ⟨rfl, rfl, fun i => ?_⟩
    cases i <;> rfl
  have pre : VersionKey.ofText "1.0.0-beta" = .ok ⟨[1, 0, 0], false, "beta"⟩ := by decide +kernel
  have release : VersionKey.ofText "1.0" = .ok ⟨[1, 0], true, ""⟩ := by decide +kernel
  refine ⟨same, by decide +kernel, by decide +kernel, pre, release, by decide, ?_,
    shelf_version (by decide) (by decide) rfl (by decide)⟩
  rw [find_shelf (List.cons_ne_nil _ _) (by decide +kernel) (by decide), List.map_cons,
    List.map_singleton, highest?_pair release pre, if_pos (by decide)]

end

end Package

end ScriptDeps
