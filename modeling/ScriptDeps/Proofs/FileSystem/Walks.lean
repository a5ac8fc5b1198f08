import ScriptDeps.Proofs.FileSystem.Nodes

/-!
# Walks

`Walks` has one rule for each name that a walk can meet, and says exactly when a walk ends and where.
From it follows where a walk can end in a well-formed file system, and that changes which keep links
and directories keep the ends of walks.
-/

namespace ScriptDeps.FileSystem

variable {fs fs' : FileSystem} {followLast : Bool}

/-- A name that leads down from a directory. -/
structure IsProper (name : String) : Prop where
  noDot : (name == ".") = false
  notUp : (name == "..") = false
  short : name.utf8ByteSize ≤ maxNameBytes

/-- What lies at a place that has been walked to. -/
def nodeAt (fs : FileSystem) (place : Place) : Node :=
  (fs.node? place).getD (.directory false)

/-- A walk from a directory through at most some number of links, and what it meets at its end. -/
inductive Walks (fs : FileSystem) (followLast : Bool) : Nat → Place → List String → Found → Prop
  | done {links : Nat} {place : Place} :
    Walks fs followLast links place [] (.present place (fs.nodeAt place))
  | dot {links : Nat} {place : Place} {rest : List String} {found : Found}
      (onward : Walks fs followLast links place rest found) :
    Walks fs followLast links place ("." :: rest) found
  | up {links : Nat} {place : Place} {rest : List String} {found : Found}
      (onward : Walks fs followLast links place.tail rest found) :
    Walks fs followLast links place (".." :: rest) found
  | absent {links : Nat} {place : Place} {name : String} (proper : IsProper name)
      (free : fs.node? (name :: place) = none) :
    Walks fs followLast links place [name] (.absent (name :: place))
  | file {links : Nat} {place : Place} {name : String} {node : Node} (proper : IsProper name)
      (lies : fs.node? (name :: place) = some node) (isFile : node.isFile = true) :
    Walks fs followLast links place [name] (.present (name :: place) node)
  | directory {links : Nat} {place : Place} {name : String} {rest : List String} {found : Found}
      {denied : Bool} (proper : IsProper name)
      (lies : fs.node? (name :: place) = some (.directory denied))
      (onward : Walks fs followLast links (name :: place) rest found) :
    Walks fs followLast links place (name :: rest) found
  | link {links : Nat} {place : Place} {name target : String} (proper : IsProper name)
      (lies : fs.node? (name :: place) = some (.link target)) (last : followLast = false) :
    Walks fs followLast links place [name] (.present (name :: place) (.link target))
  | follow {links : Nat} {place : Place} {name target : String} {rest : List String} {found : Found}
      (proper : IsProper name) (lies : fs.node? (name :: place) = some (.link target))
      (more : (rest.isEmpty && !followLast) = false) (leads : target.isEmpty = false)
      (onward : Walks fs followLast links
        (if (Path.ofText target).isAbsolute then [] else place) (stepsOf target.toList ++ rest)
        found) :
    Walks fs followLast (links + 1) place (name :: rest) found

/-! ### Walks and their rules -/

/-- What is done at a link when at most some number of them may be followed. -/
def atLink (fs : FileSystem) (followLast : Bool) :
    Nat → Place → String → List String → Except FileFault Found
  | 0, _, _, _ => .error .tooManyLinks
  | links + 1, place, target, rest =>
    if target.isEmpty then .error .missing
    else walkLinks fs followLast links (if (Path.ofText target).isAbsolute then [] else place)
      (stepsOf target.toList ++ rest)

theorem walkLinks_eq (links : Nat) :
    walkLinks fs followLast links = walkNames fs followLast (atLink fs followLast links) := by
  cases links <;> rfl

theorem walkNames_proper {onLink : Place → String → List String → Except FileFault Found}
    {place : Place} {name : String} (proper : IsProper name) (rest : List String) :
    walkNames fs followLast onLink place (name :: rest) =
      match fs.node? (name :: place) with
      | none => if rest.isEmpty then .ok (.absent (name :: place)) else .error .missing
      | some (.directory _) => walkNames fs followLast onLink (name :: place) rest
      | some (.link target) =>
        if rest.isEmpty && !followLast then .ok (.present (name :: place) (.link target))
        else onLink place target rest
      | some node =>
        if rest.isEmpty then .ok (.present (name :: place) node) else .error .notDirectory := by
  rw [walkNames, proper.noDot, proper.notUp, if_neg Bool.false_ne_true, if_neg Bool.false_ne_true]
  split
  · rename_i long
    exact absurd long (Nat.not_lt_of_le proper.short)
  · cases fs.node? (name :: place) with
    | none => rfl
    | some node => cases node <;> rfl

theorem walks_of_walkNames {links : Nat}
    {onLink : Place → String → List String → Except FileFault Found}
    (follow : ∀ {place name target rest found}, IsProper name →
      fs.node? (name :: place) = some (.link target) → (rest.isEmpty && !followLast) = false →
      onLink place target rest = .ok found → Walks fs followLast links place (name :: rest) found)
    {names : List String} {place : Place} {found : Found}
    (h : walkNames fs followLast onLink place names = .ok found) :
    Walks fs followLast links place names found := by
  induction names generalizing place with
  | nil => exact Except.ok.inj h ▸ .done
  | cons name rest ih =>
    by_cases dot : (name == ".") = true
    · rw [walkNames, if_pos dot] at h
      exact eq_of_beq dot ▸ .dot (ih h)
    by_cases up : (name == "..") = true
    · rw [walkNames, if_neg dot, if_pos up] at h
      exact eq_of_beq up ▸ .up (ih h)
    by_cases long : maxNameBytes < name.utf8ByteSize
    · rw [walkNames, if_neg dot, if_neg up, if_pos long] at h
      cases h
    have proper : IsProper name :=
      ⟨by simpa using dot, by simpa using up, Nat.le_of_not_lt long⟩
    rw [walkNames_proper proper] at h
    cases lies : fs.node? (name :: place) with
    | none =>
      rw [lies] at h
      dsimp only at h
      split at h
      · rename_i last
        rw [← Except.ok.inj h, List.isEmpty_iff.mp last]
        exact .absent proper lies
      · cases h
    | some node =>
      rw [lies] at h
      cases node with
      | directory denied => exact .directory proper lies (ih h)
      | link target =>
        dsimp only at h
        split at h
        · rename_i last
          rw [Bool.and_eq_true, List.isEmpty_iff, Bool.not_eq_true'] at last
          rw [← Except.ok.inj h, last.1]
          exact .link proper lies last.2
        · rename_i more
          exact follow proper lies (by simpa using more) h
      | file content time denied =>
        dsimp only at h
        split at h
        · rename_i last
          rw [← Except.ok.inj h, List.isEmpty_iff.mp last]
          exact .file proper lies rfl
        · cases h

theorem walks_of_walkLinks {links : Nat} {place : Place} {names : List String} {found : Found}
    (h : walkLinks fs followLast links place names = .ok found) :
    Walks fs followLast links place names found := by
  induction links generalizing place names found with
  | zero =>
    rw [walkLinks_eq] at h
    exact walks_of_walkNames (fun _ _ _ h => nomatch (h : Except.error _ = _)) h
  | succ links ih =>
    rw [walkLinks_eq] at h
    refine walks_of_walkNames (fun proper lies more h => ?_) h
    rw [atLink] at h
    split at h
    · cases h
    · rename_i leads
      exact .follow proper lies more (by simpa using leads) (ih h)

theorem walkLinks_of_walks {links : Nat} {place : Place} {names : List String} {found : Found}
    (h : Walks fs followLast links place names found) :
    walkLinks fs followLast links place names = .ok found := by
  induction h with
  | done => rw [walkLinks_eq]; rfl
  | dot onward ih => rwa [walkLinks_eq, walkNames, if_pos (beq_self_eq_true _), ← walkLinks_eq]
  | up onward ih =>
    rwa [walkLinks_eq, walkNames, if_neg (by decide), if_pos (beq_self_eq_true _), ← walkLinks_eq]
  | absent proper free => rw [walkLinks_eq, walkNames_proper proper, free]; rfl
  | @file links place name node proper lies isFile =>
    rw [walkLinks_eq, walkNames_proper proper, lies]
    cases node with
    | file content time denied => rfl
    | directory denied => cases isFile
    | link target => cases isFile
  | directory proper lies onward ih =>
    rw [walkLinks_eq, walkNames_proper proper, lies]
    rwa [walkLinks_eq] at ih
  | link proper lies last => rw [walkLinks_eq, walkNames_proper proper, lies, last]; rfl
  | follow proper lies more leads onward ih =>
    rw [walkLinks_eq, walkNames_proper proper, lies]
    dsimp only
    rw [more, if_neg Bool.false_ne_true, atLink, leads, if_neg Bool.false_ne_true, ih]

/-- The directory that a path is walked from, if there is one. -/
def start? (fs : FileSystem) (path : String) : Option Place :=
  if (Path.ofText path).isAbsolute then some []
  else if (fs.node? fs.workingDirectory).isNone then none else some fs.workingDirectory

theorem walk_eq (path : String) : fs.walk followLast path =
    if path.isEmpty then .error .missing
    else if maxPathBytes < path.utf8ByteSize then .error .nameTooLong
    else match fs.start? path with
      | none => .error .missing
      | some place => walkLinks fs followLast maxLinks place (stepsOf path.toList) := by
  unfold walk start?
  by_cases absolute : (Path.ofText path).isAbsolute = true
  · simp only [if_pos absolute]
  · simp only [if_neg absolute]
    by_cases nowhere : (fs.node? fs.workingDirectory).isNone = true
    · simp only [if_pos nowhere]
    · simp only [if_neg nowhere]

theorem walk_iff {path : String} {found : Found} :
    fs.walk followLast path = .ok found ↔ path.isEmpty = false ∧
      path.utf8ByteSize ≤ maxPathBytes ∧ ∃ place, fs.start? path = some place ∧
        Walks fs followLast maxLinks place (stepsOf path.toList) found := by
  rw [walk_eq]
  by_cases empty : path.isEmpty = true
  · simp [empty]
  by_cases long : maxPathBytes < path.utf8ByteSize
  · rw [if_neg empty, if_pos long]
    exact ⟨nofun, fun h => absurd h.2.1 (Nat.not_le_of_lt long)⟩
  rw [if_neg empty, if_neg long]
  have sizes : path.isEmpty = false ∧ path.utf8ByteSize ≤ maxPathBytes :=
    ⟨by simpa using empty, Nat.le_of_not_lt long⟩
  cases fs.start? path with
  | none => simp
  | some place =>
    have walks : walkLinks fs followLast maxLinks place (stepsOf path.toList) = .ok found ↔
        Walks fs followLast maxLinks place (stepsOf path.toList) found :=
      ⟨walks_of_walkLinks, walkLinks_of_walks⟩
    simp [walks, sizes]

theorem stat_of_walk {path : String} {place : Place} {node : Node}
    (h : fs.walk true path = .ok (.present place node)) : fs.stat path = .ok node := by
  rw [stat, h]
  rfl

theorem walk_of_stat {path : String} {node : Node} (h : fs.stat path = .ok node) :
    ∃ place, fs.walk true path = .ok (.present place node) := by
  obtain ⟨found, walked, h⟩ := bind_ok h
  cases found with
  | absent place => cases h
  | present place other => exact ⟨place, pure_ok h ▸ walked⟩

/-! ### Where walks end -/

/-- What a walk can meet: the node that lies there, no link if links are followed, or a place in a
directory where nothing lies. -/
def Found.Sound (fs : FileSystem) (followLast : Bool) : Found → Prop
  | present place node =>
    fs.node? place = some node ∧ (followLast = true → node.isLink = false)
  | absent place => fs.node? place = none ∧ fs.isDirectoryAt place.tail = true

theorem Walks.sound {links : Nat} {place : Place} {names : List String} {found : Found}
    (h : Walks fs followLast links place names found) (sound : fs.WellFormed)
    (directory : fs.isDirectoryAt place = true) : found.Sound fs followLast := by
  induction h with
  | done =>
    rw [isDirectoryAt, Option.any_eq_true] at directory
    obtain ⟨node, lies, isDirectory⟩ := directory
    rw [nodeAt, lies]
    refine ⟨lies, fun _ => ?_⟩
    cases node with
    | directory denied => rfl
    | _ => cases isDirectory
  | dot onward ih => exact ih directory
  | up onward ih => exact ih (sound.tail directory)
  | absent proper free => exact ⟨free, directory⟩
  | @file links place name node proper lies isFile =>
    refine ⟨lies, fun _ => ?_⟩
    cases node with
    | file content time denied => rfl
    | _ => cases isFile
  | directory proper lies onward ih => exact ih (isDirectoryAt_of_node? lies)
  | link proper lies last => exact ⟨lies, fun follow => absurd (last.symm.trans follow) Bool.false_ne_true⟩
  | follow proper lies more leads onward ih =>
    refine ih ?_
    split
    · rfl
    · exact directory

theorem walk_sound (sound : fs.WellFormed) {path : String} {found : Found}
    (h : fs.walk followLast path = .ok found) : found.Sound fs followLast := by
  obtain ⟨_, _, place, starts, walks⟩ := walk_iff.mp h
  refine walks.sound sound ?_
  rw [start?] at starts
  split at starts
  · exact Option.some.inj starts ▸ rfl
  · split at starts
    · cases starts
    · exact Option.some.inj starts ▸ sound.working

theorem Walks.free {links : Nat} {place end_ : Place} {names : List String}
    (h : Walks fs followLast links place names (.absent end_)) : fs.node? end_ = none := by
  generalize met : Found.absent end_ = found at h
  induction h with
  | absent proper free => exact Found.absent.inj met ▸ free
  | dot onward ih => exact ih met
  | up onward ih => exact ih met
  | directory proper lies onward ih => exact ih met
  | follow proper lies more leads onward ih => exact ih met
  | done => cases met
  | file proper lies isFile => cases met
  | link proper lies last => cases met

/-- A walk that does not end at a link is the same if it would follow one. -/
theorem Walks.followed {links : Nat} {place : Place} {names : List String} {found : Found}
    (h : Walks fs false links place names found)
    (noLink : ∀ end_ target, found ≠ .present end_ (.link target)) :
    Walks fs true links place names found := by
  induction h with
  | done => exact .done
  | dot onward ih => exact .dot (ih noLink)
  | up onward ih => exact .up (ih noLink)
  | absent proper free => exact .absent proper free
  | file proper lies isFile => exact .file proper lies isFile
  | directory proper lies onward ih => exact .directory proper lies (ih noLink)
  | link proper lies last => exact absurd rfl (noLink _ _)
  | follow proper lies more leads onward ih =>
    exact .follow proper lies (Bool.and_false _) leads (ih noLink)

/-- Where something lies, something lies too if a link at the very end is not followed. -/
theorem Walks.unfollowed {links : Nat} {place end_ : Place} {names : List String} {node : Node}
    (h : Walks fs true links place names (.present end_ node)) :
    ∃ last other, Walks fs false links place names (.present last other) := by
  generalize met : Found.present end_ node = found at h
  induction h with
  | done => exact ⟨_, _, .done⟩
  | dot onward ih => exact (ih met).imp fun _ => Exists.imp fun _ => .dot
  | up onward ih => exact (ih met).imp fun _ => Exists.imp fun _ => .up
  | absent proper free => cases met
  | file proper lies isFile => exact ⟨_, _, .file proper lies isFile⟩
  | directory proper lies onward ih =>
    exact (ih met).imp fun _ => Exists.imp fun _ => .directory proper lies
  | link proper lies last => cases last
  | @follow links place name target rest found proper lies more leads onward ih =>
    cases rest with
    | nil => exact ⟨_, _, .link proper lies rfl⟩
    | cons next others =>
      exact (ih met).imp fun _ => Exists.imp fun _ => .follow proper lies rfl leads

/-- The place of what a path leads to, if it leads anywhere. -/
def placeAt? (fs : FileSystem) (path : String) : Option Place :=
  match fs.walk true path with
  | .ok (.present place _) => some place
  | _ => none

theorem placeAt?_of_walk {path : String} {place : Place} {node : Node}
    (h : fs.walk true path = .ok (.present place node)) : fs.placeAt? path = some place := by
  rw [placeAt?, h]

theorem walk_of_placeAt? {path : String} {place : Place} (h : fs.placeAt? path = some place) :
    ∃ node, fs.walk true path = .ok (.present place node) := by
  rw [placeAt?] at h
  split at h
  · rename_i found node walked
    exact ⟨node, Option.some.inj h ▸ walked⟩
  · cases h

/-! ### What changes keep of walks -/

def Found.place : Found → Place
  | present place _ => place
  | absent place => place

/-- What a walk meets when it ends at the same place in another file system. -/
def Found.later (fs' : FileSystem) : Found → Found
  | present place _ => .present place (fs'.nodeAt place)
  | absent place => match fs'.node? place with
    | some node => .present place node
    | none => .absent place

/-- Where nothing lay, no link has come to lie. -/
def Found.Unlinked (fs' : FileSystem) (found : Found) : Prop :=
  ∀ place node, found = .absent place → fs'.node? place = some node → node.isLink = false

def Found.Filled (fs' : FileSystem) (found : Found) : Prop :=
  ∀ place, found = .absent place → ∃ node, fs'.node? place = some node ∧ node.isFile = true

theorem Found.unlinked_present (fs' : FileSystem) (place : Place) (node : Node) :
    (present place node).Unlinked fs' := by
  intro other _ absent
  cases absent

theorem Found.filled_present (fs' : FileSystem) (place : Place) (node : Node) :
    (present place node).Filled fs' := by
  intro other absent
  cases absent

theorem Found.Filled.unlinked {found : Found} (filled : found.Filled fs') :
    found.Unlinked fs' := by
  intro place node absent lies
  obtain ⟨other, there, isFile⟩ := filled place absent
  obtain rfl := Option.some.inj (there.symm.trans lies)
  cases other <;> first | rfl | cases isFile

theorem Found.Filled.later {found : Found} (filled : found.Filled fs') :
    found.later fs' = .present found.place (fs'.nodeAt found.place) := by
  cases found with
  | present place node => rfl
  | absent place =>
    obtain ⟨node, lies, _⟩ := filled place rfl
    simp only [Found.later, Found.place, nodeAt, lies, Option.getD_some]

theorem Walks.later {links : Nat} {place : Place} {names : List String} {found : Found}
    (h : Walks fs followLast links place names found) {written : Place → Prop}
    (kept : Keeps written fs fs') (unlinked : found.Unlinked fs') :
    Walks fs' followLast links place names (found.later fs') := by
  -- directories and links are what they were, so every rule but the last one applies as before
  have same : ∀ {place node}, fs.node? place = some node → node.isFile = false →
      fs'.node? place = some node := fun lies other =>
    (kept.nodes _ _ lies).resolve_right fun file => Bool.false_ne_true (other.symm.trans file.2.1)
  have fileAt : ∀ {links place name node}, IsProper name → fs'.node? (name :: place) = some node →
      node.isFile = true → Walks fs' followLast links place [name]
        (.present (name :: place) (fs'.nodeAt (name :: place))) := fun proper lies isFile => by
    rw [nodeAt, lies]
    exact .file proper lies isFile
  induction h with
  | done => exact .done
  | dot onward ih => exact .dot (ih unlinked)
  | up onward ih => exact .up (ih unlinked)
  | @absent links place name proper free =>
    dsimp only [Found.later]
    cases lies : fs'.node? (name :: place) with
    | none => exact .absent proper lies
    | some node =>
      have last := unlinked _ node rfl lies
      cases node with
      | file content time denied => exact .file proper lies rfl
      | directory denied =>
        have ends := @Walks.done fs' followLast links (name :: place)
        rw [nodeAt, lies, Option.getD_some] at ends
        exact .directory proper lies ends
      | link target => cases last
  | file proper lies isFile =>
    rcases kept.nodes _ _ lies with lies | ⟨_, _, node, lies, isFile⟩
    · exact fileAt proper lies isFile
    · exact fileAt proper lies isFile
  | directory proper lies onward ih => exact .directory proper (same lies rfl) (ih unlinked)
  | link proper lies last =>
    rw [Found.later, nodeAt, same lies rfl]
    exact .link proper (same lies rfl) last
  | follow proper lies more leads onward ih =>
    exact .follow proper (same lies rfl) more leads (ih unlinked)

theorem start?_kept {path : String} {place : Place} (starts : fs.start? path = some place)
    {written : Place → Prop} (kept : Keeps written fs fs') : fs'.start? path = some place := by
  have present : (fs.node? fs.workingDirectory).isNone = false →
      (fs'.node? fs.workingDirectory).isNone = false := fun there => by
    cases lies : fs.node? fs.workingDirectory with
    | none =>
      rw [lies] at there
      cases there
    | some node =>
      rcases kept.nodes _ _ lies with lies | ⟨_, _, new, lies, _⟩
      · rw [lies]
        rfl
      · rw [lies]
        rfl
  rw [start?] at starts ⊢
  split at starts
  · rename_i absolute
    rwa [if_pos absolute]
  · rename_i relative
    split at starts
    · cases starts
    · rename_i there
      rw [if_neg relative, kept.working, present (Bool.not_eq_true _ ▸ there)]
      exact starts

theorem walk_later {path : String} {found : Found} (h : fs.walk followLast path = .ok found)
    {written : Place → Prop} (kept : Keeps written fs fs') (unlinked : found.Unlinked fs') :
    fs'.walk followLast path = .ok (found.later fs') := by
  obtain ⟨some, short, place, starts, walks⟩ := walk_iff.mp h
  exact walk_iff.mpr ⟨some, short, place, start?_kept starts kept, walks.later kept unlinked⟩

theorem walk_kept {path : String} {found : Found} (h : fs.walk followLast path = .ok found)
    {written : Place → Prop} (kept : Keeps written fs fs') (filled : found.Filled fs') :
    fs'.walk followLast path = .ok (.present found.place (fs'.nodeAt found.place)) :=
  filled.later ▸ walk_later h kept filled.unlinked

theorem placeAt?_kept {path : String} {place : Place} (leads : fs.placeAt? path = some place)
    {written : Place → Prop} (kept : Keeps written fs fs') : fs'.placeAt? path = some place := by
  obtain ⟨node, walked⟩ := walk_of_placeAt? leads
  exact placeAt?_of_walk (walk_kept walked kept (Found.filled_present fs' place node))

end ScriptDeps.FileSystem
