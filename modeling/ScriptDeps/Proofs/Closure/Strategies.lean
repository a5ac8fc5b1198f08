import ScriptDeps.Proofs.Closure.Histories
import ScriptDeps.Proofs.Library.Again

/-!
# The strategy that is reported

A deduplicator that is used again and again, while the worker behaves now this way and now that,
records for each use the strategy that told these paths apart. The strategy of a closure is the one
that its own libraries were kept by.
-/

namespace ScriptDeps

open Library

namespace Library.Deduplicator

/-- The strategy, applied to some paths on a host, keeps just these: what a deduplicator by file
names keeps, or the first path for each name that the worker reports on this host. -/
def Applied (host : Host) (paths kept : List String) : Strategy → Prop
  | .filename => byFileName.dedupe (itemsOf paths) host = .ok ⟨kept, .filename⟩
  | .load => paths = [] ∧ kept = [] ∨ ∃ reports, Delivers host paths reports ∧
      KeepsFirst Json.sameAtom (reportedName? reports) paths kept

theorem dedupe_applied {d : Deduplicator} {host : Host} {paths : List String} {deduped : Deduped}
    (done : d.dedupe (itemsOf paths) host = .ok deduped) :
    Applied host paths deduped.paths deduped.used := by
  obtain ⟨reports, told, kept⟩ := dedupe_ok done
  obtain ⟨_, used⟩ := deduped
  cases used with
  | filename =>
    rw [Applied, dedupe_byFileName, firstByFileName_keeps reports, ← kept]
  | load =>
    obtain rfl | delivers := told rfl
    · exact .inl ⟨rfl, kept⟩
    · refine .inr ⟨reports, delivers, ?_⟩
      rw [kept]
      exact keepsFirst_keepFirst _ _ _

/-- What was recorded before a use does not matter to it. -/
theorem record_applied {d : Deduplicator} {host : Host} {paths kept : List String}
    {before recorded : Strategy}
    (ran : d.record (itemsOf paths) host before = (.ok kept, recorded)) :
    Applied host paths kept (d.used recorded) := by
  have done := dedupe_eq d (itemsOf paths) host before
  rw [ran] at done
  exact dedupe_applied done

end Library.Deduplicator

namespace ClosureService

/-! ### The builder -/

/-- The builder is the same, whatever has become of what it keeps. -/
def SameBuilder (state later : Host × ClosureService) : Prop :=
  later.2.builder = state.2.builder

instance : IsPreorder (Host × ClosureService) SameBuilder where
  refl _ := rfl
  trans _ _ _ first next := Eq.trans next first

theorem candidates_sameBuilder (p : ClosureBuilder.Prepared) :
    Moves SameBuilder (candidates p) := by
  refine Moves.bind (moves_of_same fun _ => rfl) fun (_, service) => ?_
  dsimp only
  split <;> exact fun _ => rfl

theorem resolve_sameBuilder (script : String) : Moves SameBuilder (resolve script) := by
  refine Moves.bind (moves_of_same fun _ => rfl) fun (_, service) => ?_
  refine Moves.bind (fun _ => rfl) fun p => ?_
  refine (candidates_sameBuilder p).bind fun found => ?_
  refine Moves.bind (fun _ => rfl) fun paths => ?_
  refine Moves.bind (fun _ => rfl) fun companion => ?_
  exact Moves.bind (moves_of_same fun _ => rfl) fun _ => moves_pure _

theorem Event.next_sameBuilder (event : Event) (state : Host × ClosureService) :
    SameBuilder state (event.next state) := by
  cases event with
  | resolve script => exact resolve_sameBuilder script state
  | change host => rfl
  | locate => rfl
  | dedupe items => rfl

theorem after_sameBuilder (history : List Event) (start : Host × ClosureService) :
    SameBuilder start (after history start) := by
  induction history generalizing start with
  | nil => rfl
  | cons event rest ih =>
    exact trans_of SameBuilder (event.next_sameBuilder start) (ih (event.next start))

/-! ### One closure -/

theorem onRecorded_ok {α : Type} {recording : Host → Recording α} {a : α}
    {state next : Host × ClosureService} (ran : Serving.onRecorded recording state = (.ok a, next)) :
    ∃ recorded, recording state.1 state.2.recorded = (.ok a, recorded) ∧
      next = (state.1, { state.2 with recorded }) := by
  obtain ⟨result, rfl⟩ := Prod.mk.inj ran
  exact ⟨_, Prod.ext result rfl, rfl⟩

theorem locate_ok {companion : Option String} {state next : Host × ClosureService}
    (ran : locate state = (.ok companion, next)) :
    companion = state.2.companion.path state.1.modules ∧ next.1 = state.1 ∧
      next.2.builder = state.2.builder ∧ next.2.recorded = state.2.recorded := by
  obtain ⟨_, _, ⟨⟩, ran⟩ := run_ok ran
  obtain ⟨_, _, ⟨⟩, ran⟩ := run_ok ran
  obtain ⟨path, rfl⟩ := Prod.mk.inj ran
  exact ⟨(Except.ok.inj path).symm, rfl, rfl, rfl⟩

/-- The parts of a closure's making: the script is prepared, its candidates are gathered, the
deduplicator keeps some of them, and the companion library is put after these. -/
theorem resolve_ok {script : String} {closure : Closure} {state next : Host × ClosureService}
    (returned : resolve script state = (.ok closure, next)) :
    ∃ p prepared found gathered kept recorded,
      Serving.onHost (state.2.builder.prepare script) state = (.ok p, prepared) ∧
      candidates p prepared = (.ok found, gathered) ∧
      state.2.builder.deduplicator.record (Deduplicator.itemsOf (found.map (·.path))) gathered.1
          gathered.2.recorded = (.ok kept, recorded) ∧
      next.1 = gathered.1 ∧
      closure.libraries = kept ++ (gathered.2.companion.path gathered.1.modules).toList ∧
      closure.strategy = state.2.builder.deduplicator.used recorded := by
  obtain ⟨_, _, ⟨⟩, returned⟩ := run_ok returned
  obtain ⟨p, prepared, read, returned⟩ := run_ok returned
  obtain ⟨found, gathered, searched, returned⟩ := run_ok returned
  obtain ⟨kept, used, recording, returned⟩ := run_ok returned
  obtain ⟨companion, located, looked, returned⟩ := run_ok returned
  obtain ⟨_, _, ⟨⟩, returned⟩ := run_ok returned
  obtain ⟨made, rfl⟩ := Prod.mk.inj returned
  obtain rfl := Except.ok.inj made
  -- locating the companion does not touch what the deduplicator has recorded
  obtain ⟨recorded, ran, rfl⟩ := onRecorded_ok recording
  obtain ⟨rfl, host, builder, recordedStill⟩ := locate_ok looked
  have same : gathered.2.builder = state.2.builder := by
    have moves := candidates_sameBuilder p prepared
    rw [searched] at moves
    obtain ⟨-, rfl⟩ := Prod.mk.inj read
    exact moves
  refine ⟨p, prepared, found, gathered, kept, recorded, read, searched, ?_, host, rfl, ?_⟩
  · rw [Deduplicator.itemsOf, List.map_map]
    exact ran
  · dsimp only
    rw [builder, recordedStill, same]

/-! ### Every history -/

/-- Whatever has happened to a builder and its host, its deduplicator records for each use the
strategy that was applied to the paths of that use, and each closure names the strategy that was
applied to the candidates that were found for it. -/
theorem strategy_after_history (history : List Event) (start : Host × ClosureService) :
    (∀ paths kept next,
      Serving.onRecorded (start.2.builder.deduplicator.record (Deduplicator.itemsOf paths))
          (after history start) = (.ok kept, next) →
        next.1 = (after history start).1 ∧
        Deduplicator.Applied next.1 paths kept
          (start.2.builder.deduplicator.used next.2.recorded)) ∧
      ∀ script closure next, resolve script (after history start) = (.ok closure, next) →
        ∃ p prepared found gathered kept,
          Serving.onHost (start.2.builder.prepare script) (after history start) =
              (.ok p, prepared) ∧
          candidates p prepared = (.ok found, gathered) ∧ next.1 = gathered.1 ∧
          closure.libraries = kept ++ (gathered.2.companion.path gathered.1.modules).toList ∧
          Deduplicator.Applied next.1 (found.map (·.path)) kept closure.strategy := by
  refine ⟨fun paths kept next recording => ?_, fun script closure next returned => ?_⟩
  · obtain ⟨recorded, ran, rfl⟩ := onRecorded_ok recording
    exact ⟨rfl, Deduplicator.record_applied ran⟩
  · have same : (after history start).2.builder = start.2.builder := after_sameBuilder history start
    obtain ⟨p, prepared, found, gathered, kept, recorded, read, searched, recording, host, libraries,
      strategy⟩ := resolve_ok returned
    rw [same] at read recording strategy
    refine ⟨p, prepared, found, gathered, kept, read, searched, host, libraries, ?_⟩
    rw [strategy, host]
    exact Deduplicator.record_applied recording

end ClosureService

end ScriptDeps
