import BuildController.Proofs.Conduct
import BuildController.Proofs.Versions

/-! No update is lost. A pass writes only what it read, with one part changed, and in the version
that it read. So on a control plane that keeps versions, a write that comes too late is a conflict,
and nothing that anybody wrote after the pass had read it is replaced. -/
namespace BuildController

/-- What a pass did and what it was answered, the latest first. -/
abbrev Memory := List (Σ effect : Effect, effect.Answer)

namespace Memory

/-- What was told, and nothing else. -/
def reports (heard : Memory) : Reports where
  build key build := ⟨.send (.getBuild key.ns key.name), .ok (some build)⟩ ∈ heard
  run key run := ⟨.send (.getRun key.ns key.name), .ok (some run)⟩ ∈ heard
  listed key run := ∃ runs, ⟨.send (.listRunsOf key.ns key.name), .ok runs⟩ ∈ heard ∧ run ∈ runs

/-- The pass read the item, by itself or in a listing. -/
inductive Reads (heard : Memory) : Item → Prop
  | build {build : Build} (found : heard.reports.build key build) : heard.Reads (.build build)
  | run {run : BuildRun} (found : heard.reports.run key run) : heard.Reads (.run run)
  | listed {run : BuildRun} (found : heard.reports.listed key run) : heard.Reads (.run run)

/-- The request writes what the pass read, with one part changed: with another status if it was read
by itself, with other owners if it was listed. -/
inductive Revises (heard : Memory) : Request → Item → Prop
  | buildStatus {build : Build} (found : heard.reports.build key build) (status : BuildStatus) :
      heard.Revises (.updateBuildStatus { build with status }) (.build build)
  | runStatus {run : BuildRun} (found : heard.reports.run key run) (status : RunStatus) :
      heard.Revises (.updateRunStatus { run with status }) (.run run)
  | owners {run : BuildRun} (found : heard.reports.listed key run)
      (references : List OwnerReference) :
      heard.Revises (.updateRun (run.withOwners references)) (.run run)

variable {heard : Memory} {item read : Item} {request : Request} {l l' : Ledger}
  {effect : Effect} {answer : effect.Answer}

theorem covers_reports (heard : Memory) :
    ∀ event ∈ heard, heard.reports.Covers event.1 event.2 := by
  rintro ⟨effect, answer⟩ member
  cases effect with
  | send request =>
    cases request with
    | getBuild | getRun =>
      rintro found rfl
      exact member
    | listRunsOf =>
      rintro runs rfl run listed
      exact ⟨runs, member, listed⟩
    | _ => trivial
  | _ => trivial

/-- What a pass reads is stored, under the name of the item. -/
theorem Reads.cons (reads : Reads (⟨effect, answer⟩ :: heard) item) (met : l.Meets effect answer l')
    (filed : l.cluster.Filed) :
    heard.Reads item ∨ ∃ subject, l.cluster.item? subject = some item := by
  cases reads with
  | build found =>
    rcases List.mem_cons.mp found with latest | earlier
    · cases latest
      have stored := Except.ok.inj (Ledger.Meets.answered met rfl)
      exact .inr ⟨_, Cluster.item?_build stored⟩
    · exact .inl (.build earlier)
  | run found =>
    rcases List.mem_cons.mp found with latest | earlier
    · cases latest
      have stored := Except.ok.inj (Ledger.Meets.answered met rfl)
      exact .inr ⟨_, Cluster.item?_run stored⟩
    · exact .inl (.run earlier)
  | @listed key run found =>
    obtain ⟨runs, told, member⟩ := found
    rcases List.mem_cons.mp told with latest | earlier
    · cases latest
      have listing := Except.ok.inj (Ledger.Meets.answered met rfl)
      rw [← listing] at member
      have stored := ((Cluster.mem_inNamespace_iff filed.runs).mp (List.mem_filter.mp member).1).2
      exact .inr ⟨_, Cluster.item?_run stored⟩
    · exact .inl (.listed ⟨runs, earlier, member⟩)

theorem Revises.reads (revises : heard.Revises request read) : heard.Reads read := by
  cases revises with
  | buildStatus found => exact .build found
  | runStatus found => exact .run found
  | owners found => exact .listed found

/-- A revision is one of the same object, in the same version. -/
theorem Revises.names (revises : heard.Revises request read) (writes : request.item? = some item) :
    item.subject = read.subject ∧ item.version = read.version := by
  cases revises <;>
  · cases writes
    exact ⟨rfl, rfl⟩

end Memory

/-- All that a pass writes revises what it read. -/
theorem Subject.Conducts.revises {subject : Subject} {heard : Memory} {request : Request}
    (conducts : subject.Conducts settings heard.reports (.send request))
    (writes : request.item? = some item) : ∃ read, heard.Revises request read := by
  cases request with
  | updateBuildStatus written =>
    obtain ⟨key, build, found, same⟩ := conducts.of_updateBuildStatus
    rw [same]
    exact ⟨_, .buildStatus found _⟩
  | updateRun written =>
    obtain ⟨key, run, references, listed, rfl⟩ := conducts.of_updateRun
    exact ⟨_, .owners listed references⟩
  | updateRunStatus written =>
    obtain ⟨key, run, found, same, -⟩ := conducts.of_updateRunStatus
    rw [same]
    exact ⟨_, .runStatus found _⟩
  | _ => cases writes

/-- A pass that is under way, with what it has heard so far. -/
structure Reader where
  subject : Subject
  heard : Memory := []
  rest : Pass Unit

/-- A control plane that keeps versions, and the passes that are under way. -/
structure Traffic where
  ledger : Ledger
  readers : List Reader := []

namespace Traffic

/-- One step: a pass begins, performs an effect or goes away, or others write something. -/
inductive Step (settings : Settings) : Traffic → Traffic → Prop
  | launch {readers : List Reader} (subject : Subject) :
      Step settings ⟨l, readers⟩ ⟨l, ⟨subject, [], subject.pass settings⟩ :: readers⟩
  | perform {before after : List Reader} {heard : Memory} {effect : Effect}
      {resume : effect.Answer → Pass Unit} {answer : effect.Answer}
      (met : Ledger.Meets l effect answer l') :
      Step settings ⟨l, before ++ ⟨subject, heard, .perform effect resume⟩ :: after⟩
        ⟨l', before ++ ⟨subject, ⟨effect, answer⟩ :: heard, resume answer⟩ :: after⟩
  | leave {before after : List Reader} :
      Step settings ⟨l, before ++ reader :: after⟩ ⟨l, before ++ after⟩
  | intervene {readers : List Reader} (intervenes : l.Intervenes l') :
      Step settings ⟨l, readers⟩ ⟨l', readers⟩

def Path (settings : Settings) : Traffic → Traffic → Prop := Relation.ReflTransGen (Step settings)

end Traffic

variable {settings : Settings} {l l' : Ledger}

/-- What the pass read was stored in its version, and what is to come rests on what it heard. -/
structure Reader.Sound (settings : Settings) (l : Ledger) (reader : Reader) : Prop where
  knew : ∀ item, reader.heard.Reads item → l.Knew item
  -- Of any reports that cover what was heard so far: those of what is yet to be heard are among them.
  given : ∀ reports : Reports, (∀ event ∈ reader.heard, reports.Covers event.1 event.2) →
    reader.rest.Given reports.Covers (reader.subject.Conducts settings reports) fun _ => True
  heeds : reader.rest.Heeds

namespace Reader

theorem sound_launch (settings : Settings) (l : Ledger) (subject : Subject) :
    Sound settings l ⟨subject, [], subject.pass settings⟩ where
  knew item reads := by
    cases reads with
    | build found | run found => cases found
    | listed found =>
      obtain ⟨_, told, _⟩ := found
      cases told
  given reports _ := subject.given_pass settings reports
  heeds := subject.heeds_pass settings

theorem Sound.intervene {reader : Reader} (sound : reader.Sound settings l)
    (intervenes : l.Intervenes l') : reader.Sound settings l' :=
  { sound with knew := fun item reads => (sound.knew item reads).next intervenes }

variable {subject : Subject} {heard : Memory} {effect : Effect}
  {resume : effect.Answer → Pass Unit} {answer : effect.Answer}

theorem Sound.perform (sound : Sound settings l ⟨subject, heard, .perform effect resume⟩)
    (kept : l.Sound) (met : l.Meets effect answer l') :
    Sound settings l' ⟨subject, ⟨effect, answer⟩ :: heard, resume answer⟩ where
  knew item reads := by
    refine Ledger.Knew.next ?_ (met.intervenes kept)
    obtain earlier | ⟨subject, stored⟩ := reads.cons met kept.filed
    · exact sound.knew item earlier
    · exact kept.knew stored
  given reports covers := by
    obtain ⟨latest, earlier⟩ := List.forall_mem_cons.mp covers
    exact (sound.given reports earlier).2 answer latest
  heeds := sound.heeds.2 answer

end Reader

namespace Traffic

variable {s t : Traffic}

structure Sound (settings : Settings) (s : Traffic) : Prop where
  ledger : s.ledger.Sound
  readers : ∀ reader ∈ s.readers, reader.Sound settings s.ledger

/-- Whatever happens, nobody's writes are anything but writes that others made. -/
theorem Step.intervenes (step : Step settings s t) (sound : s.ledger.Sound) :
    s.ledger.Intervenes t.ledger := by
  cases step with
  | launch | leave => exact .refl _
  | perform met => exact met.intervenes sound
  | intervene intervenes => exact intervenes

theorem Sound.next (sound : s.Sound settings) (step : Step settings s t) : t.Sound settings where
  ledger := sound.ledger.next (step.intervenes sound.ledger)
  readers := by
    have kept (reader : Reader) (member : reader ∈ s.readers) : reader.Sound settings t.ledger :=
      (sound.readers reader member).intervene (step.intervenes sound.ledger)
    cases step with
    | launch subject =>
      exact List.forall_mem_cons.mpr ⟨Reader.sound_launch settings _ subject, kept⟩
    | @perform l l' subject before after heard effect resume answer met =>
      have here := sound.readers _ (List.mem_append_right _ List.mem_cons_self)
      simp only [List.forall_mem_append, List.forall_mem_cons] at kept ⊢
      exact ⟨kept.1, here.perform sound.ledger met, kept.2.2⟩
    | leave =>
      simp only [List.forall_mem_append, List.forall_mem_cons] at kept ⊢
      exact ⟨kept.1, kept.2.2⟩
    | intervene => exact kept

theorem Sound.reaches (sound : s.Sound settings) (path : Path settings s t) : t.Sound settings := by
  induction path with
  | refl => exact sound
  | tail _ last ih => exact ih.next last

theorem Path.gone (path : Path settings s t) (sound : s.Sound settings)
    (knew : s.ledger.Knew item) (replaced : s.ledger.cluster.item? item.subject ≠ some item) :
    t.ledger.cluster.item? item.subject ≠ some item := by
  induction path using Relation.ReflTransGen.head_induction_on with
  | refl => exact replaced
  | head step _ ih =>
    have intervenes := step.intervenes sound.ledger
    exact ih (sound.next step) (knew.next intervenes) (knew.gone replaced intervenes)

/-- No update is lost, in whatever order passes and others write. Once something that a pass has
read is replaced, it stays so. And when the pass writes, it writes a revision of something that it
read, which has an effect only if just that is stored; if another version is stored, the control
plane answers with a conflict, and any error is how the pass ends. -/
theorem updates_kept (sound : s.ledger.Sound) (idle : s.readers = []) (path : Path settings s t)
    {reader : Reader} (member : reader ∈ t.readers) :
    (∀ read, reader.heard.Reads read → t.ledger.cluster.item? read.subject ≠ some read →
      ∀ u, Path settings t u → u.ledger.cluster.item? read.subject ≠ some read) ∧
    ∀ (request : Request) resume item, reader.rest = .perform (.send request) resume →
      request.item? = some item → ∃ read, reader.heard.Revises request read ∧
        (∀ answer l', t.ledger.Meets (.send request) answer l' → l' ≠ t.ledger →
          t.ledger.cluster.item? read.subject = some read) ∧
        (∀ current, t.ledger.cluster.item? read.subject = some current → current ≠ read →
          ∀ answer l', t.ledger.Answers request answer l' →
            ∃ message, answer = .error (.conflict message)) ∧
        ∀ error, resume (.error error) = .done (.error (.request error)) := by
  have begun : s.Sound settings := by
    refine ⟨sound, fun reader member => ?_⟩
    rw [idle] at member
    cases member
  have reached := begun.reaches path
  have safe := reached.readers reader member
  constructor
  · intro read reads replaced u later
    exact later.gone reached (safe.knew read reads) replaced
  · intro request resume item sends writes
    obtain ⟨subject, heard, rest⟩ := reader
    subst sends
    have conducts := (safe.given heard.reports (Memory.covers_reports heard)).1
    obtain ⟨read, revises⟩ := Subject.Conducts.revises conducts writes
    obtain ⟨same, version⟩ := revises.names writes
    have knew := safe.knew read revises.reads
    refine ⟨read, revises, fun answer l' met effective => ?_, ?_, safe.heeds.1⟩
    · exact knew.written met rfl writes same version effective
    · intro current stored replaced answer l' answers
      exact knew.conflict answers writes same version stored replaced

/-- A pass that is under way alone performs an effect. -/
theorem alone {effect : Effect} {resume : effect.Answer → Pass Unit} {answer : effect.Answer}
    (met : Ledger.Meets l effect answer l') :
    Step settings ⟨l, [⟨subject, heard, .perform effect resume⟩]⟩
      ⟨l', [⟨subject, ⟨effect, answer⟩ :: heard, resume answer⟩]⟩ := by
  have step : Step settings ⟨l, [] ++ ⟨subject, heard, .perform effect resume⟩ :: []⟩
      ⟨l', [] ++ ⟨subject, ⟨effect, answer⟩ :: heard, resume answer⟩ :: []⟩ := .perform met
  exact step

/-- Somebody changes a run after a pass read it. The status that the pass writes is a conflict. -/
theorem updates_kept_stale :
    let run : BuildRun :=
      { metadata := { name := "run", resourceVersion := some "1" }, spec := { build := {} } }
    let changed : BuildRun :=
      { metadata := { name := "run", resourceVersion := some "2" }
        spec := { build := { name := "app" } } }
    let failed : BuildRun := run.failed default (.conflict .noBuild)
    let l : Ledger := ⟨Cluster.put {} (.run run), fun _ version => version = "1"⟩
    let l' : Ledger :=
      ⟨Cluster.put {} (.run changed), fun _ version => version = "1" ∨ version = "2"⟩
    ∃ t reader resume, Path {} ⟨l, []⟩ t ∧ t.ledger = l' ∧ reader ∈ t.readers ∧
      reader.rest = .perform (.send (.updateRunStatus failed)) resume ∧
      ∀ answer after, l'.Answers (.updateRunStatus failed) answer after →
        after = l' ∧ ∃ message, answer = .error (.conflict message) := by
  intro run changed failed l l'
  have single (run : BuildRun) (subject : Subject) (item : Item)
      (stored : (Cluster.put {} (.run run)).item? subject = some item) : item = .run run := by
    cases subject with
    | build key => cases stored
    | run key =>
      obtain ⟨other, found, rfl⟩ := Option.map_eq_some_iff.mp stored
      exact congrArg Item.run (OrderedMap.eq_of_get?_insert_empty found)
  have sound : l.Sound := by
    refine ⟨Cluster.filed_empty.put (.run run), fun subject item stored => ?_⟩
    cases single run subject item stored
    exact ⟨"1", rfl, rfl⟩
  have read : l.Meets (.send (.getRun "" "run")) (.ok (some run)) l := by
    refine .inl (.unversioned ?_)
    rintro _ ⟨⟩
  have intervenes : l.Intervenes l' := by
    refine ⟨fun _ => Cluster.filed_empty.put (.run changed), fun _ _ => .inl, ?_⟩
    intro subject item stored
    cases single changed subject item stored
    exact .inr ⟨"2", rfl, by simp [l], .inr rfl⟩
  obtain ⟨first, launched, second, going, third, again, last, ready⟩ : ∃ first,
      Subject.pass {} (.run ⟨"", "run"⟩) = .perform (.send (.getRun "" "run")) first ∧ ∃ second,
      first (.ok (some run)) = .perform .clock second ∧ ∃ third,
      second default = .perform .clock third ∧ ∃ last,
      third default = .perform (.send (.updateRunStatus failed)) last :=
    ⟨_, rfl, _, rfl, _, rfl, _, rfl⟩
  let told : Memory := [⟨.send (.getRun "" "run"), .ok (some run)⟩]
  let heard : Memory := ⟨.clock, default⟩ :: ⟨.clock, default⟩ :: told
  let reader : Reader := ⟨.run ⟨"", "run"⟩, heard, third default⟩
  have ticked : Step {} ⟨l', [⟨.run ⟨"", "run"⟩, told, .perform .clock second⟩]⟩
      ⟨l', [⟨.run ⟨"", "run"⟩, ⟨.clock, default⟩ :: told, second default⟩]⟩ := alone rfl
  have path : Path {} ⟨l, []⟩ ⟨l', [reader]⟩ := by
    refine .head (.launch (.run ⟨"", "run"⟩)) ?_
    rw [launched]
    refine .head (alone read) (.head (.intervene intervenes) ?_)
    rw [going]
    refine .head ticked ?_
    rw [again]
    exact .single (alone rfl)
  refine ⟨_, reader, last, path, rfl, List.mem_singleton_self _, ready, ?_⟩
  obtain ⟨-, kept⟩ := updates_kept sound rfl path (List.mem_singleton_self _)
  obtain ⟨old, revises, effective, conflict, -⟩ := kept _ last _ ready rfl
  have same : old = .run run := by
    cases revises.reads with
    | build found => simp [Memory.reports, reader, heard, told] at found
    | @run key old found =>
      have same : (key.ns = "" ∧ key.name = "run") ∧ old = run := by
        simpa [Memory.reports, reader, heard, told] using found
      rw [same.2]
    | listed found => simp [Memory.reports, reader, heard, told] at found
  subst same
  have stored : l'.cluster.item? (.run ⟨"", "run"⟩) = some (.run changed) :=
    Cluster.item?_run (OrderedMap.get?_insert_self _ _ _)
  have replaced : Item.run changed ≠ .run run := by simp [run, changed]
  intro answer after answers
  refine ⟨?_, conflict _ stored replaced answer after answers⟩
  by_contra moved
  exact replaced (Option.some.inj (stored.symm.trans (effective answer after (.inl answers) moved)))

end Traffic

end BuildController
