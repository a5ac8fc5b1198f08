import ScriptDeps.Proofs.Library.Fallback

/-!
# Keeping again

What a deduplicator keeps is the first path for each identity, under the identity that it has used.
Handed the paths that it kept, it keeps them all, but for one case: a worker that died of a path that
was not kept comes back to life, and tells the others apart by other names than those of the files.
-/

namespace ScriptDeps.Library

/-- What tells a path from others under a strategy, if anything does; `reports` are the worker's. -/
def Strategy.nameOf (reports : List Json) : Strategy → String → Option Json
  | filename, path => nameIn (fileIdentity path)
  | load, path => reportedName? reports path

namespace Deduplicator

variable {host : Host} {paths : List String}

/-! ### What comes of the worker for fewer paths -/

theorem Delivers.unique {reports others : List Json} (delivers : Delivers host paths reports)
    (again : Delivers host paths others) : reports = others := by
  obtain ⟨output, wrote, answer, read, tells⟩ := delivers
  obtain ⟨_, wrote', _, read', tells'⟩ := again
  obtain rfl := Option.some.inj (wrote.symm.trans wrote')
  obtain rfl := Except.ok.inj (read.symm.trans read')
  exact Except.ok.inj (tells.listed.symm.trans tells'.listed)

/-- Only a worker that answers looks at the paths. -/
theorem written?_const (deaf : host.worker ≠ .answers) (paths fewer : List String) :
    written? host paths = written? host fewer := by
  unfold written?
  cases mode : host.worker with
  | answers => exact absurd mode deaf
  | _ => rfl

theorem Delivers.spoken {reports : List Json} (delivers : Delivers host paths reports)
    (answering : host.worker = .answers) : ∀ path ∈ paths, '\x00' ∉ path.toList :=
  fun _ member silent => (unheard_of_null answering member silent).not_delivers reports delivers

/-- The names of some of the paths are the same when only they are asked about. -/
theorem Delivers.fewer {reports : List Json} (delivers : Delivers host paths reports)
    {fewer : List String} (among : fewer ⊆ paths) :
    ∃ others, Delivers host fewer others ∧
      ∀ path ∈ fewer, reportedName? others path = reportedName? reports path := by
  by_cases answering : host.worker = .answers
  · have spoken := delivers.spoken answering
    obtain ⟨all, allDelivered, names⟩ := delivers_of_answers answering spoken
    obtain rfl := delivers.unique allDelivered
    obtain ⟨others, othersDelivered, fewerNames⟩ :=
      delivers_of_answers answering fun path member => spoken path (among member)
    refine ⟨others, othersDelivered, fun path member => ?_⟩
    rw [fewerNames path member, names path (among member)]
  · obtain ⟨output, wrote, answer, read, tells⟩ := delivers
    refine ⟨reports, ⟨output, ?_, answer, read, tells.listed, tells.wellFormed, ?_⟩, fun _ _ => rfl⟩
    · rw [written?_const answering fewer paths]
      exact wrote
    · exact fun path member => tells.named path (among member)

theorem Unheard.fewer (unheard : Unheard host paths) (deaf : host.worker ≠ .answers)
    (fewer : List String) : Unheard host fewer := by
  intro output wrote
  rw [written?_const deaf fewer paths] at wrote
  exact unheard output wrote

/-! ### What is kept -/

theorem firstByFileName_keeps (reports : List Json) (paths : List String) :
    firstByFileName paths = keepFirst Json.sameAtom (Strategy.filename.nameOf reports) [] paths := by
  have renamed : ∀ path ∈ paths, Strategy.filename.nameOf reports path =
      (fileIdentity path).map fun name => Json.text (.ofString name) := fun _ _ => rfl
  have kept := keepFirst_rename (fun name : String => Json.text (.ofString name)) sameAtom_ofString
    renamed []
  rw [List.map_nil] at kept
  rw [kept, firstByFileName]

theorem firstByFileName_again (paths : List String) :
    firstByFileName (firstByFileName paths) = firstByFileName paths := by
  unfold firstByFileName
  exact (keepsFirst_keepFirst (· == ·) fileIdentity paths).again

/-- A deduplicator that returns has kept the first path for each name under the strategy that it
reports, and if that is the one of the worker, the worker has delivered the names. -/
theorem dedupe_ok {d : Deduplicator} {deduped : Deduped}
    (done : d.dedupe (itemsOf paths) host = .ok deduped) :
    ∃ reports, (deduped.used = .load → paths = [] ∨ Delivers host paths reports) ∧
      deduped.paths = keepFirst Json.sameAtom (deduped.used.nameOf reports) [] paths := by
  cases d with
  | byFileName =>
    rw [dedupe_byFileName] at done
    obtain rfl := Except.ok.inj done
    exact ⟨[], nofun, firstByFileName_keeps [] paths⟩
  | byDeclaredName timeout =>
    by_cases asked : paths = []
    · subst asked
      obtain rfl := Except.ok.inj done
      exact ⟨[], fun _ => .inl rfl, rfl⟩
    obtain ⟨reports, delivers⟩ | garbles | unheard := delivers_or_garbles_or_unheard host paths
    · rw [dedupe_byDeclaredName (recordByWorker_delivers asked delivers timeout .load)] at done
      obtain rfl := Except.ok.inj done
      exact ⟨reports, fun _ => .inr delivers, rfl⟩
    · obtain ⟨failure, ran⟩ := recordByWorker_garbles asked garbles timeout .load
      rw [dedupe_byDeclaredName ran] at done
      cases done
    · rw [dedupe_byDeclaredName (recordByWorker_unheard asked unheard timeout .load)] at done
      obtain rfl := Except.ok.inj done
      exact ⟨[], nofun, firstByFileName_keeps [] paths⟩

/-! ### Keeping again -/

/-- The worker died of a path that is not kept. It will answer for those that are, and they do not
each declare a name of their own. -/
def Revives (host : Host) (paths kept : List String) : Prop :=
  host.worker = .answers ∧ (∃ path ∈ paths, '\x00' ∈ path.toList) ∧
    (∀ path ∈ kept, '\x00' ∉ path.toList) ∧
    ¬((∀ path ∈ kept, (declaredName? host.files path).isSome = true) ∧
      kept.Pairwise fun a b => declaredName? host.files a ≠ declaredName? host.files b)

theorem again_of_delivers {reports : List Json} (delivers : Delivers host paths reports)
    (timeout : Json) {kept : List String}
    (keeps : KeepsFirst Json.sameAtom (reportedName? reports) paths kept) :
    (byDeclaredName timeout).dedupe (itemsOf kept) host = .ok ⟨kept, .load⟩ := by
  by_cases some_ : kept = []
  · subst some_
    rfl
  obtain ⟨others, othersDelivered, names⟩ := delivers.fewer keeps.sublist.subset
  rw [dedupe_byDeclaredName (recordByWorker_delivers some_ othersDelivered timeout .load),
    keepFirst_congr names, keeps.again]
  rfl

theorem again_of_unheard (unheard : Unheard host paths) (timeout : Json) (kept : List String)
    (own : firstByFileName kept = kept) :
    ∃ again, (byDeclaredName timeout).dedupe (itemsOf kept) host = .ok again ∧
      (again.paths = kept ↔ ¬Revives host paths kept) := by
  by_cases answering : host.worker = .answers
  · have died : ∃ path ∈ paths, '\x00' ∈ path.toList := by
      by_contra spoken
      push Not at spoken
      obtain ⟨reports, delivers, -⟩ := delivers_of_answers answering spoken
      exact unheard.not_delivers reports delivers
    by_cases spoken : ∀ path ∈ kept, '\x00' ∉ path.toList
    · refine ⟨_, dedupe_byDeclaredName (recordByWorker_answers answering spoken timeout .load), ?_⟩
      rw [firstOfEach_eq_self_iff, Revives]
      constructor
      · rintro named ⟨-, -, -, unnamed⟩
        exact unnamed named
      · intro alive
        by_contra unnamed
        exact alive ⟨answering, died, spoken, unnamed⟩
    · obtain ⟨path, member, silent⟩ : ∃ path ∈ kept, '\x00' ∈ path.toList := by
        push Not at spoken
        exact spoken
      have asked : kept ≠ [] := List.ne_nil_of_mem member
      refine ⟨_, dedupe_byDeclaredName
        (recordByWorker_unheard asked (unheard_of_null answering member silent) timeout .load), ?_⟩
      exact ⟨fun _ revives => revives.2.2.1 path member silent, fun _ => own⟩
  · have alive : ¬Revives host paths kept := fun revives => answering revives.1
    by_cases asked : kept = []
    · subst asked
      exact ⟨_, rfl, fun _ => alive, fun _ => rfl⟩
    · exact ⟨_, dedupe_byDeclaredName
        (recordByWorker_unheard asked (unheard.fewer answering kept) timeout .load),
        fun _ => alive, fun _ => own⟩

/-- Both deduplicators keep the first path for each identity. Handed those paths they return, and
they keep all of them, unless the worker revives. -/
theorem dedupe_again {d : Deduplicator} {deduped : Deduped}
    (done : d.dedupe (itemsOf paths) host = .ok deduped) :
    (∃ reports, (deduped.used = .load → paths = [] ∨ Delivers host paths reports) ∧
        KeepsFirst Json.sameAtom (deduped.used.nameOf reports) paths deduped.paths) ∧
      ∃ again, d.dedupe (itemsOf deduped.paths) host = .ok again ∧
        (again.paths = deduped.paths ↔ ¬(d.strategy = .load ∧ Revives host paths deduped.paths)) := by
  refine ⟨?_, ?_⟩
  · obtain ⟨reports, told, kept⟩ := dedupe_ok done
    rw [kept]
    exact ⟨reports, told, keepsFirst_keepFirst _ _ _⟩
  · cases d with
    | byFileName =>
      rw [dedupe_byFileName] at done
      obtain rfl := Except.ok.inj done
      refine ⟨_, dedupe_byFileName _ _, fun _ => ?_, fun _ => firstByFileName_again paths⟩
      rintro ⟨other, -⟩
      cases other
    | byDeclaredName timeout =>
      have asksIt : (byDeclaredName timeout).strategy = .load := rfl
      simp only [asksIt, true_and]
      by_cases asked : paths = []
      · subst asked
        obtain rfl := Except.ok.inj done
        refine ⟨_, rfl, fun _ => ?_, fun _ => rfl⟩
        rintro ⟨-, ⟨path, member, -⟩, -⟩
        cases member
      obtain ⟨reports, delivers⟩ | garbles | unheard := delivers_or_garbles_or_unheard host paths
      · rw [dedupe_byDeclaredName (recordByWorker_delivers asked delivers timeout .load)] at done
        obtain rfl := Except.ok.inj done
        refine ⟨_, again_of_delivers delivers timeout (keepsFirst_keepFirst _ _ _), fun _ => ?_,
          fun _ => rfl⟩
        rintro ⟨answering, ⟨path, member, silent⟩, -⟩
        exact delivers.spoken answering path member silent
      · obtain ⟨failure, ran⟩ := recordByWorker_garbles asked garbles timeout .load
        rw [dedupe_byDeclaredName ran] at done
        cases done
      · rw [dedupe_byDeclaredName (recordByWorker_unheard asked unheard timeout .load)] at done
        obtain rfl := Except.ok.inj done
        exact again_of_unheard unheard timeout _ (firstByFileName_again paths)

/-- Numbers and truth values are names too, and `1` is the same as `true`. -/
theorem dedupe_again_numbers :
    ∃ output, (byDeclaredName (.integer 30)).dedupe (itemsOf ["/w/b", "/w/a", "/w/c"])
          (strayHost output) = .ok ⟨["/w/b"], .load⟩ ∧
        ∃ again, (byDeclaredName (.integer 30)).dedupe (itemsOf ["/w/b"]) (strayHost output) =
            .ok again ∧ again.paths = ["/w/b"] := by
  have kept : (byDeclaredName (.integer 30)).dedupe (itemsOf ["/w/b", "/w/a", "/w/c"])
      (strayHost "[\x7b\"path\": \"/w/a\", \"name\": 1\x7d, \x7b\"path\": \"/w/b\", \"name\": true\x7d]") =
      .ok ⟨["/w/b"], .load⟩ := by
    decide +kernel
  obtain ⟨-, again, ran, same⟩ := dedupe_again kept
  exact ⟨_, kept, again, ran, same.mpr fun revives => nomatch revives.2.1⟩

/-- The worker dies of the second path, so that the file names tell the two apart. Asked about the
first alone it finds nothing there. -/
theorem dedupe_null_revives :
    (byDeclaredName (.integer 30)).dedupe (itemsOf ["/w/a.dll", "/w\x00/a.dll"])
          { strayHost "" with worker := .answers } = .ok ⟨["/w/a.dll"], .filename⟩ ∧
      (byDeclaredName (.integer 30)).dedupe (itemsOf ["/w/a.dll"])
          { strayHost "" with worker := .answers } = .ok ⟨[], .load⟩ := by
  decide +kernel

end Deduplicator

end ScriptDeps.Library
