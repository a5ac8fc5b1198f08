import Mathlib.Data.List.Induction
import ScriptDeps.ClosureService
import ScriptDeps.Proofs.Closure.Effects

/-!
# Histories

What a builder keeps of the scripts that it has served does not show in the next closure: its record
of strategies is written before it is read, and the companion library lies where it would be located
now, as long as the loaded modules are those that it was located among.
-/

namespace ScriptDeps

open Library

namespace Library.Deduplicator

theorem record_same (d : Deduplicator) (items : List Json) (host : Host) (a b : Strategy) :
    (d.record items host a).1 = (d.record items host b).1 ∧
      d.used (d.record items host a).2 = d.used (d.record items host b).2 := by
  cases d with
  | byFileName => exact ⟨rfl, rfl⟩
  | byDeclaredName timeout => exact ⟨rfl, rfl⟩

theorem dedupe_eq (d : Deduplicator) (items : List Json) (host : Host) (recorded : Strategy) :
    d.dedupe items host = match d.record items host recorded with
      | (.ok paths, recorded) => .ok ⟨paths, d.used recorded⟩
      | (.error failure, _) => .error failure := by
  have same := record_same d items host .load recorded
  rw [dedupe]
  generalize d.record items host .load = fresh at same ⊢
  generalize d.record items host recorded = again at same ⊢
  obtain ⟨result, after⟩ := fresh
  obtain ⟨_, later⟩ := again
  obtain ⟨rfl, sameUsed⟩ := same
  cases result with
  | ok paths =>
    dsimp only at sameUsed ⊢
    rw [sameUsed]
    rfl
  | error failure => rfl

end Library.Deduplicator

theorem Companion.find?_congr {companion other : Companion}
    (same : companion.hostName = other.hostName) (modules : List (String × Option String)) :
    companion.find? modules = other.find? modules := by
  have owns : companion.owns = other.owns := by
    funext name
    rw [Companion.owns, Companion.owns, same]
  rw [Companion.find?, Companion.find?, owns]

namespace ClosureService

/-! ### What becomes of the host -/

section Hosts

variable {R : Host → Host → Prop} [IsPreorder Host R]

omit [IsPreorder Host R] in
theorem onHost_moves {α : Type} {action : Action α} (moves : Moves R action) :
    Moves (Hosts R) (Serving.onHost action) :=
  fun (host, _) => moves host

theorem candidates_moves (p : ClosureBuilder.Prepared) : Moves (Hosts R) (candidates p) := by
  refine Moves.bind (moves_of_same fun _ => rfl) fun (_, service) => ?_
  dsimp only
  split
  · rename_i index _
    exact fun (host, _) => ClosureBuilder.candidates_moves p (host, index)
  · exact onHost_moves (service.builder.freshIndex_moves.bind fun index =>
      Gathering.startingFrom_moves (ClosureBuilder.candidates_moves p) index)

theorem resolve_moves {script : String} {state : Host × ClosureService}
    (prepared : Moves R (state.2.builder.prepare script)) :
    Hosts R state (resolve script state).2 := by
  rw [resolve, run_bind, run_get]
  obtain ⟨host, service⟩ := state
  refine ((onHost_moves prepared).bind fun p => ?_) (host, service)
  refine (candidates_moves p).bind fun found => ?_
  refine Moves.bind (fun (host, _) => refl_of R host) fun paths => ?_
  refine Moves.bind (fun (host, _) => refl_of R host) fun companion => ?_
  exact Moves.bind (moves_of_same fun _ => rfl) fun _ => moves_pure _

end Hosts

/-! ### One script -/

/-- What becomes of a builder without an index of its own when a script is served. -/
structure Follows (service : ClosureService) (host : Host) (later : ClosureService) : Prop where
  builder : later.builder = service.builder
  index : later.index = none
  companion : later.companion = service.companion ∨
    later.companion = service.companion.lookedUp host.modules

theorem Follows.refl {service : ClosureService} (own : service.index = none) (host : Host) :
    Follows service host service :=
  ⟨rfl, own, .inl rfl⟩

theorem candidates_run {service : ClosureService} (own : service.index = none)
    (p : ClosureBuilder.Prepared) (host : Host) :
    candidates p (host, service) = Serving.onHost (do
      let index ← Action.ofExcept service.builder.freshIndex
      Gathering.startingFrom index (ClosureBuilder.candidates p)) (host, service) := by
  rw [candidates, run_bind, run_get]
  dsimp only
  rw [own]

/-- A builder that was made without an index serves a script as it would without anything that it
has kept but the companion. -/
theorem resolve_run {service : ClosureService} (own : service.index = none) (script : String)
    (host : Host) : ∃ later,
      resolve script (host, service) =
        ((service.builder.resolve service.companion script host).1,
          (service.builder.resolve service.companion script host).2, later) ∧
      Follows service (service.builder.resolve service.companion script host).2 later := by
  rw [resolve, run_bind, run_get]
  dsimp only
  rw [run_bind, Serving.onHost, ClosureBuilder.resolve, run_bind]
  rcases service.builder.prepare script host with ⟨_ | p, host₁⟩
  · exact ⟨service, rfl, .refl own _⟩
  dsimp only
  rw [run_bind, candidates_run own, Serving.onHost, run_bind, run_bind]
  rcases Action.ofExcept service.builder.freshIndex host₁ with ⟨_ | index, host₂⟩
  · exact ⟨service, rfl, .refl own _⟩
  dsimp only
  rw [run_bind]
  rcases Gathering.startingFrom index (ClosureBuilder.candidates p) host₂ with ⟨_ | found, host₃⟩
  · exact ⟨service, rfl, .refl own _⟩
  dsimp only
  rw [run_bind, Serving.onRecorded, ClosureBuilder.finish, run_bind, Action.ofHost,
    Deduplicator.dedupe_eq _ _ _ service.recorded]
  generalize service.builder.deduplicator.record _ host₃ service.recorded = outcome
  -- nothing fails after this, so the companion is located just when a closure comes out
  obtain ⟨_ | paths, recorded⟩ := outcome
  · exact ⟨{ service with recorded }, rfl, rfl, own, .inl rfl⟩
  · exact ⟨_, rfl, rfl, own, .inr rfl⟩

theorem answer_eq {service : ClosureService} (own : service.index = none) (script : String)
    (host : Host) :
    service.answer script host = service.builder.resolve service.companion script host := by
  obtain ⟨later, ran, _⟩ := resolve_run own script host
  rw [answer, ran]
  rfl

/-! ### Companions -/

/-- The library lies where it would be located among some modules. -/
def Located (companion : Companion) (modules : List (String × Option String)) : Prop :=
  ∀ place, companion.located = some place → place = companion.find? modules

theorem Located.path {companion : Companion} {modules : List (String × Option String)}
    (located : Located companion modules) : companion.path modules = companion.find? modules := by
  rw [Companion.path]
  cases known : companion.located with
  | none => rfl
  | some place => exact located place known

theorem Located.lookedUp {companion : Companion} {modules now : List (String × Option String)}
    (located : Located companion modules) (same : now = modules) :
    Located (companion.lookedUp now) modules := by
  intro place known
  rw [← Option.some.inj known, same, located.path]
  rfl

/-! ### Every history -/

/-- Since the companion library was first located, the loaded modules have been those of the end. -/
def Steady (history : List Event) (start : Host × ClosureService) : Prop :=
  ∀ earlier, earlier <+: history → (after earlier start).2.companion.located.isSome = true →
    (after earlier start).1.modules = (after history start).1.modules

/-- What holds of a builder after every history. -/
structure Serves (builder : ClosureBuilder) (hostName : Json)
    (modules : List (String × Option String)) (service : ClosureService) : Prop where
  builder : service.builder = builder
  index : service.index = none
  hostName : service.companion.hostName = hostName
  located : Located service.companion modules

variable {builder : ClosureBuilder} {hostName : Json} {modules : List (String × Option String)}

theorem Serves.follows {service later : ClosureService} {host : Host}
    (serves : Serves builder hostName modules service) (follows : Follows service host later)
    (steady : later.companion.located.isSome = true → host.modules = modules) :
    Serves builder hostName modules later := by
  refine ⟨follows.builder.trans serves.builder, follows.index, ?_, ?_⟩
  · rcases follows.companion with same | looked
    · rw [same, serves.hostName]
    · rw [looked, ← serves.hostName]
      rfl
  · rcases follows.companion with same | looked
    · rw [same]
      exact serves.located
    · rw [looked] at steady ⊢
      exact serves.located.lookedUp (steady rfl)

theorem Event.next_serves {event : Event} {state : Host × ClosureService}
    (serves : Serves builder hostName modules state.2)
    (steady : (event.next state).2.companion.located.isSome = true →
      (event.next state).1.modules = modules) :
    Serves builder hostName modules (event.next state).2 := by
  obtain ⟨host, service⟩ := state
  cases event with
  | resolve script =>
    obtain ⟨later, ran, follows⟩ := resolve_run serves.index script host
    rw [Event.next, ran] at steady ⊢
    exact serves.follows follows steady
  | change other => exact serves
  | locate => exact serves.follows ⟨rfl, serves.index, .inr rfl⟩ steady
  | dedupe items => exact serves.follows ⟨rfl, serves.index, .inl rfl⟩ steady

theorem after_append (history : List Event) (event : Event) (start : Host × ClosureService) :
    after (history ++ [event]) start = event.next (after history start) :=
  List.foldl_append

theorem serves_after {history : List Event} {start : Host × ClosureService}
    (serves : Serves builder hostName modules start.2)
    (steady : ∀ earlier, earlier <+: history →
      (after earlier start).2.companion.located.isSome = true →
      (after earlier start).1.modules = modules) :
    Serves builder hostName modules (after history start).2 := by
  -- from the end, since the condition speaks of what came before
  induction history using List.reverseRecOn with
  | nil => exact serves
  | append_singleton history event ih =>
    have before := ih fun earlier begins => steady earlier (begins.trans (List.prefix_append _ _))
    have now := steady _ (List.prefix_refl _)
    rw [after_append] at now ⊢
    exact Event.next_serves before now

theorem Event.next_modules {event : Event} {state : Host × ClosureService}
    (quiet : ∀ host, event = .change host → host.modules = state.1.modules) :
    (event.next state).1.modules = state.1.modules := by
  cases event with
  | resolve script =>
    exact resolve_moves (state.2.builder.prepare_moves script Action.makeDirectory_sameModules
      Action.writeText_sameModules)
  | change host => exact quiet host rfl
  | locate => rfl
  | dedupe items => rfl

theorem modules_after {history : List Event} {start : Host × ClosureService}
    (quiet : ∀ host, .change host ∈ history → host.modules = start.1.modules) :
    (after history start).1.modules = start.1.modules := by
  induction history generalizing start with
  | nil => rfl
  | cons event rest ih =>
    have next : (event.next start).1.modules = start.1.modules :=
      Event.next_modules fun host same => quiet host (same ▸ List.mem_cons_self)
    refine (ih fun host member => ?_).trans next
    rw [next]
    exact quiet host (List.mem_cons_of_mem event member)

/-- While nobody loads or unloads modules, the condition is met. -/
theorem steady_of_quiet {history : List Event} {start : Host × ClosureService}
    (quiet : ∀ host, .change host ∈ history → host.modules = start.1.modules) :
    Steady history start := by
  intro earlier begins _
  rw [modules_after quiet, modules_after fun host member => quiet host (begins.subset member)]

/-- After every history a builder that was made without an index answers as one that is freshly
made, if since the companion library was first located the loaded modules have stayed the same. -/
theorem answer_after_history {builder : ClosureBuilder} {hostName : Json} {recorded : Strategy}
    {origin : Host} {history : List Event} {host : Host} {service : ClosureService}
    (ran : after history (origin, fresh builder hostName recorded) = (host, service))
    (steady : Steady history (origin, fresh builder hostName recorded)) (script : String)
    (recordedNow : Strategy) :
    service.answer script host = (fresh builder hostName recordedNow).answer script host := by
  have start : Serves builder hostName host.modules (fresh builder hostName recorded) :=
    ⟨rfl, rfl, rfl, nofun⟩
  rw [Steady, ran] at steady
  have serves := serves_after start steady
  rw [ran] at serves
  rw [answer_eq serves.index, answer_eq rfl, serves.builder]
  exact ClosureBuilder.resolve_congr
    (serves.located.path.trans (Companion.find?_congr serves.hostName host.modules))

/-- A machine on which the host is loaded and no worker can be started. -/
def workerlessHost : Host where
  files := {
    nodes := [
      (["w"], .directory false),
      (["a.cs", "w"], .file "using B;".toUTF8 0 false),
      (["B.dll", "w"], .file .empty 0 false)]
    workingDirectory := ["w"] }
  environment := [("HOME", "/h")]
  modules := [("nppscripts", some "/n/nppscripts.py")]
  worker := .missing

def askingBuilder : ClosureBuilder where
  engineEnv := none
  packages := none
  locations := {}
  deduplicator := .byDeclaredName (.integer 30)
  extensions := [.text ".dll"]
  ignored := []

/-- A script is served without a worker, another one cannot be read, and then the worker can be
started. -/
def recovery : List Event :=
  [.resolve "/w/a.cs", .resolve "/w/b.cs", .change { workerlessHost with worker := .answers }]

theorem answer_after_recovery : ∃ host service,
    after (recovery ++ [.locate])
        (workerlessHost, fresh askingBuilder (.text "nppscripts") .load) = (host, service) ∧
      service.companion.located.isSome = true ∧
      service.answer "/w/a.cs" host =
        (fresh askingBuilder (.text "nppscripts") .load).answer "/w/a.cs" host := by
  have quiet : ∀ host, Event.change host ∈ recovery ++ [.locate] →
      host.modules = workerlessHost.modules := by
    intro host member
    simp only [recovery, List.cons_append, List.nil_append, List.mem_cons, reduceCtorEq, false_or,
      Event.change.injEq, List.not_mem_nil, or_false] at member
    rw [member]
  rcases before : after recovery
    (workerlessHost, fresh askingBuilder (.text "nppscripts") .load) with ⟨host, service⟩
  have ran : after (recovery ++ [.locate])
      (workerlessHost, fresh askingBuilder (.text "nppscripts") .load) =
        (host, { service with companion := service.companion.lookedUp host.modules }) := by
    rw [after_append, before]
    rfl
  exact ⟨host, _, ran, rfl, answer_after_history ran (steady_of_quiet quiet) "/w/a.cs" .load⟩

end ClosureService

end ScriptDeps
