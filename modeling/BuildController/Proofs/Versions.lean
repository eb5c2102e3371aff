import BuildController.Proofs.Heeding
import BuildController.Proofs.Registration

/-! Control planes that keep versions of their builds and runs. Whatever is written gets a version
that its object never had before, and a write that names another version than the stored one is a
conflict. So an object that is stored in the version that was read is the one that was read. -/
namespace BuildController

/-- A build or a run. -/
inductive Item
  | build (build : Build)
  | run (run : BuildRun)

namespace Item

def metadata : Item → Metadata
  | build b => b.metadata
  | run r => r.metadata

def subject : Item → Subject
  | build b => .build b.metadata.key
  | run r => .run r.metadata.key

def version (item : Item) : Option String := item.metadata.resourceVersion

/-- The item in another version. -/
def inVersion (version : String) : Item → Item
  | build b => build { b with metadata := { b.metadata with resourceVersion := some version } }
  | run r => run { r with metadata := { r.metadata with resourceVersion := some version } }

@[simp] theorem version_inVersion (item : Item) (version : String) :
    (item.inVersion version).version = some version := by
  cases item <;> rfl

@[simp] theorem subject_inVersion (item : Item) (version : String) :
    (item.inVersion version).subject = item.subject := by
  cases item <;> rfl

end Item

/-- The item that a request asks to write. -/
def Request.item? : Request → Option Item
  | .updateBuildStatus build => some (.build build)
  | .updateRun run | .updateRunStatus run => some (.run run)
  | _ => none

namespace Cluster

/-- What is stored under the subject. -/
def item? (c : Cluster) : Subject → Option Item
  | .build key => (c.builds.get? key).map .build
  | .run key => (c.runs.get? key).map .run

def store (c : Cluster) : Item → Cluster
  | .build build => c.withBuild build
  | .run run => c.withRun run

/-- The control plane with a new version of what is stored under the subject. -/
def renew (c : Cluster) (subject : Subject) (version : String) : Cluster :=
  match c.item? subject with
  | some item => c.store (item.inVersion version)
  | none => c

variable {c : Cluster} {item current : Item} {subject : Subject} {request : Request}

theorem item?_build {key : ObjectKey} {build : Build} (stored : c.builds.get? key = some build) :
    c.item? (.build key) = some (.build build) := by
  rw [item?, stored]
  rfl

theorem item?_run {key : ObjectKey} {run : BuildRun} (stored : c.runs.get? key = some run) :
    c.item? (.run key) = some (.run run) := by
  rw [item?, stored]
  rfl

theorem Filed.subject_of (filed : c.Filed) (stored : c.item? subject = some item) :
    item.subject = subject := by
  cases subject with
  | build key =>
    obtain ⟨build, found, rfl⟩ := Option.map_eq_some_iff.mp stored
    exact congrArg Subject.build (filed.builds key build found)
  | run key =>
    obtain ⟨run, found, rfl⟩ := Option.map_eq_some_iff.mp stored
    exact congrArg Subject.run (filed.runs key run found)

theorem item?_store_self : (c.store item).item? item.subject = some item := by
  cases item with
  | build build => exact item?_build (OrderedMap.get?_insert_self _ _ _)
  | run run => exact item?_run (OrderedMap.get?_insert_self _ _ _)

theorem item?_store_of_ne (other : subject ≠ item.subject) :
    (c.store item).item? subject = c.item? subject := by
  cases item with
  | build build =>
    cases subject with
    | run => rfl
    | build key =>
      have different : key ≠ build.metadata.key := fun same => other (congrArg Subject.build same)
      exact congrArg (Option.map Item.build) (OrderedMap.get?_insert_of_ne _ _ different)
  | run run =>
    cases subject with
    | build => rfl
    | run key =>
      have different : key ≠ run.metadata.key := fun same => other (congrArg Subject.run same)
      exact congrArg (Option.map Item.run) (OrderedMap.get?_insert_of_ne _ _ different)

theorem Filed.store (filed : c.Filed) (item : Item) : (c.store item).Filed := by
  cases item with
  | build build => exact filed.put (.build build)
  | run run => exact filed.put (.run run)

theorem renew_eq (stored : c.item? subject = some item) :
    c.renew subject version = c.store (item.inVersion version) := by
  rw [renew, stored]

/-- A request writes nothing but a new content of the item that it names, if that is stored. -/
theorem answer_item (filed : c.Filed) (writes : request.item? = some item)
    (stored : c.item? item.subject = some current) :
    ∃ next, (c.answer request).2 = c.store next ∧ next.subject = item.subject := by
  cases request with
  | updateBuildStatus build =>
    cases writes
    obtain ⟨old, found, -⟩ := Option.map_eq_some_iff.mp stored
    have key := filed.builds _ old found
    refine ⟨.build { old with status := build.status }, ?_, congrArg Subject.build key⟩
    simp only [answer, modify?, found, commit, store, withBuild, key]
  | updateRun run =>
    cases writes
    obtain ⟨old, found, -⟩ := Option.map_eq_some_iff.mp stored
    refine ⟨.run { old with metadata := run.metadata, spec := run.spec }, ?_, rfl⟩
    simp only [answer, modify?, found, commit, store, withRun]
  | updateRunStatus run =>
    cases writes
    obtain ⟨old, found, -⟩ := Option.map_eq_some_iff.mp stored
    have key := filed.runs _ old found
    refine ⟨.run { old with status := run.status }, ?_, congrArg Subject.run key⟩
    simp only [answer, modify?, found, commit, store, withRun, key]
  | _ => cases writes

/-- Nothing is written where nothing is stored. -/
theorem answer_missing (writes : request.item? = some item)
    (missing : c.item? item.subject = none) : (c.answer request).2 = c := by
  cases request with
  | updateBuildStatus | updateRun | updateRunStatus =>
    cases writes
    have absent := Option.map_eq_none_iff.mp missing
    simp only [answer, modify?, absent, commit]
  | _ => cases writes

/-- A request that writes no stored item leaves builds and runs alone. -/
theorem answer_unwritten
    (free : ∀ item, request.item? = some item → c.item? item.subject = none) :
    (c.answer request).2.builds = c.builds ∧ (c.answer request).2.runs = c.runs := by
  cases request with
  | updateBuildStatus | updateRun | updateRunStatus =>
    rw [answer_missing rfl (free _ rfl)]
    exact ⟨rfl, rfl⟩
  | createTaskRun taskRun =>
    simp only [answer]
    split <;> exact ⟨rfl, rfl⟩
  | _ => exact ⟨rfl, rfl⟩

end Cluster

/-- A control plane, and the versions that its builds and runs have or had. -/
structure Ledger where
  cluster : Cluster
  used : Subject → String → Prop

namespace Ledger

/-- The request took effect, and what it wrote got a new version. -/
def accept (l : Ledger) (request : Request) (subject : Subject) (version : String) : Ledger where
  cluster := (l.cluster.answer request).2.renew subject version
  used other old := l.used other old ∨ (other = subject ∧ old = version)

/-- How a control plane that keeps versions answers. -/
inductive Answers (l : Ledger) (request : Request) :
    Except RequestError request.Answer → Ledger → Prop
  | unversioned (free : ∀ item, request.item? = some item → l.cluster.item? item.subject = none) :
      l.Answers request (l.cluster.answer request).1
        { l with cluster := (l.cluster.answer request).2 }
  | conflict (writes : request.item? = some item)
      (stored : l.cluster.item? item.subject = some current)
      (stale : item.version ≠ current.version) (message : String) :
      l.Answers request (.error (.conflict message)) l
  | accepted (writes : request.item? = some item)
      (stored : l.cluster.item? item.subject = some current)
      (upToDate : item.version = current.version) (fresh : ¬l.used item.subject version) :
      l.Answers request (l.cluster.answer request).1 (l.accept request item.subject version)

/-- How it meets the effects of passes, if any request can fail, with or without an effect. -/
def Meets : Handling Ledger
  | before, .send request, answer, after =>
    before.Answers request answer after ∨
      ((after = before ∨ ∃ other, before.Answers request other after) ∧
        ∃ error, answer = .error error)
  | before, .probe url, reachable, after => reachable = before.cluster.reaches url ∧ after = before
  | before, .clock, _, after | before, .randomSuffix, _, after
  | before, .isCancelled, _, after => after = before

/-- Others did something: all builds and runs that they wrote got new versions. -/
structure Intervenes (before after : Ledger) : Prop where
  filed : before.cluster.Filed → after.cluster.Filed
  remembers : ∀ subject version, before.used subject version → after.used subject version
  renews : ∀ subject item, after.cluster.item? subject = some item →
    before.cluster.item? subject = some item ∨
      ∃ version, item.version = some version ∧ ¬before.used subject version ∧
        after.used subject version

/-- Builds and runs are stored under their own names, each in a version. -/
structure Sound (l : Ledger) : Prop where
  filed : l.cluster.Filed
  versioned : ∀ subject item, l.cluster.item? subject = some item →
    ∃ version, item.version = some version ∧ l.used subject version

/-- The item was stored once, and its version stands for it. -/
structure Knew (l : Ledger) (item : Item) : Prop where
  versioned : ∃ version, item.version = some version ∧ l.used item.subject version
  same : ∀ current, l.cluster.item? item.subject = some current → current.version = item.version →
    current = item

variable {l l' : Ledger} {subject : Subject} {item read current : Item} {request : Request}
  {answer : Except RequestError request.Answer}

theorem Intervenes.refl (l : Ledger) : l.Intervenes l :=
  ⟨id, fun _ _ => id, fun _ _ => .inl⟩

theorem Answers.of_unwritten (answers : l.Answers request answer l')
    (unwritten : request.item? = none) : answer = (l.cluster.answer request).1 := by
  cases answers with
  | unversioned => rfl
  | conflict writes | accepted writes =>
    cases unwritten.symm.trans writes

/-- A write takes effect only if it names the version of what is stored; if it names another, it is
a conflict. -/
theorem Answers.of_stored (answers : l.Answers request answer l')
    (writes : request.item? = some item) (stored : l.cluster.item? item.subject = some current) :
    (item.version ≠ current.version ∧ l' = l ∧
      ∃ message, answer = .error (.conflict message)) ∨
      item.version = current.version := by
  cases answers with
  | unversioned free =>
    rw [free item writes] at stored
    cases stored
  | conflict named found stale message =>
    cases writes.symm.trans named
    cases stored.symm.trans found
    exact .inl ⟨stale, rfl, message, rfl⟩
  | accepted named found upToDate fresh =>
    cases writes.symm.trans named
    cases stored.symm.trans found
    exact .inr upToDate

theorem Answers.of_missing (answers : l.Answers request answer l')
    (writes : request.item? = some item) (missing : l.cluster.item? item.subject = none) :
    l' = l := by
  cases answers with
  | unversioned => rw [Cluster.answer_missing writes missing]
  | conflict => rfl
  | accepted named found =>
    cases writes.symm.trans named
    cases missing.symm.trans found

/-- What a control plane does for one is, for everybody else, something that others did. -/
theorem Answers.intervenes (answers : l.Answers request answer l') (sound : l.Sound) :
    l.Intervenes l' := by
  cases answers with
  | unversioned free =>
    obtain ⟨builds, runs⟩ := Cluster.answer_unwritten free
    have same (subject : Subject) :
        (l.cluster.answer request).2.item? subject = l.cluster.item? subject := by
      cases subject <;> simp only [Cluster.item?, builds, runs]
    refine ⟨fun filed => ⟨?_, ?_⟩, fun _ _ => id, fun subject item stored => .inl ?_⟩
    · rw [builds]
      exact filed.builds
    · rw [Cluster.Keyed, runs]
      exact filed.runs
    · exact (same subject).symm.trans stored
  | conflict => exact .refl l
  | @accepted item current version writes stored upToDate fresh =>
    obtain ⟨next, wrote, subject⟩ := Cluster.answer_item sound.filed writes stored
    -- What the request wrote is stored once more, in its new version.
    have renewed : (l.accept request item.subject version).cluster
        = (l.cluster.store next).store (next.inVersion version) := by
      rw [accept, wrote, ← subject, Cluster.renew_eq Cluster.item?_store_self]
    refine ⟨fun filed => ?_, fun _ _ => .inl, fun other found stored => ?_⟩
    · rw [renewed]
      exact (filed.store next).store _
    · rw [renewed] at stored
      by_cases here : other = next.subject
      · subst here
        rw [← next.subject_inVersion version, Cluster.item?_store_self] at stored
        cases stored
        rw [subject]
        exact .inr ⟨version, next.version_inVersion version, fresh, .inr ⟨rfl, rfl⟩⟩
      · rw [Cluster.item?_store_of_ne (by simpa using here),
          Cluster.item?_store_of_ne here] at stored
        exact .inl stored

/-- What is not written is answered as ever. -/
theorem Meets.answered {value : request.Answer} (met : Meets l (.send request) (.ok value) l')
    (unwritten : request.item? = none) : (l.cluster.answer request).1 = .ok value := by
  rcases met with answers | ⟨-, error, impossible⟩
  · exact (answers.of_unwritten unwritten).symm
  · cases impossible

theorem Meets.intervenes {effect : Effect} {answer : effect.Answer}
    (met : Meets l effect answer l') (sound : l.Sound) : l.Intervenes l' := by
  cases effect with
  | send request =>
    rcases met with answers | ⟨rfl | ⟨other, answers⟩, -⟩
    · exact answers.intervenes sound
    · exact .refl _
    · exact answers.intervenes sound
  | probe url => exact met.2 ▸ .refl l
  | clock | randomSuffix | isCancelled =>
    cases met
    exact .refl l

theorem Sound.next (sound : l.Sound) (intervenes : l.Intervenes l') : l'.Sound := by
  refine ⟨intervenes.filed sound.filed, fun subject item stored => ?_⟩
  obtain kept | ⟨version, named, -, used⟩ := intervenes.renews subject item stored
  · obtain ⟨version, named, used⟩ := sound.versioned subject item kept
    exact ⟨version, named, intervenes.remembers subject version used⟩
  · exact ⟨version, named, used⟩

theorem Sound.knew (sound : l.Sound) (stored : l.cluster.item? subject = some item) :
    l.Knew item := by
  cases sound.filed.subject_of stored
  refine ⟨sound.versioned _ item stored, fun current found _ => ?_⟩
  cases stored.symm.trans found
  rfl

/-- What is new has another version than all that was known before. -/
theorem Knew.next (knew : l.Knew item) (intervenes : l.Intervenes l') : l'.Knew item := by
  obtain ⟨version, named, used⟩ := knew.versioned
  refine ⟨⟨version, named, intervenes.remembers _ version used⟩, fun current stored same => ?_⟩
  obtain kept | ⟨other, renamed, fresh, -⟩ := intervenes.renews _ current stored
  · exact knew.same current kept same
  · cases (renamed.symm.trans same).trans named
    exact (fresh used).elim

/-- What was replaced once does not come back. -/
theorem Knew.gone (knew : l.Knew item) (replaced : l.cluster.item? item.subject ≠ some item)
    (intervenes : l.Intervenes l') : l'.cluster.item? item.subject ≠ some item := by
  intro stored
  obtain ⟨version, named, used⟩ := knew.versioned
  obtain kept | ⟨other, renamed, fresh, -⟩ := intervenes.renews _ item stored
  · exact replaced kept
  · cases renamed.symm.trans named
    exact fresh used

/-- A write in the version that was read has an effect only on what was read. -/
theorem Knew.written {effect : Effect} {answer : effect.Answer} (knew : l.Knew read)
    (met : Meets l effect answer l') (sends : effect = .send request)
    (writes : request.item? = some item) (subject : item.subject = read.subject)
    (version : item.version = read.version) (effective : l' ≠ l) :
    l.cluster.item? read.subject = some read := by
  have only {other : Except RequestError request.Answer} (answers : l.Answers request other l') :
      l.cluster.item? read.subject = some read := by
    cases stored : l.cluster.item? item.subject with
    | none => exact (effective (answers.of_missing writes stored)).elim
    | some current =>
      obtain ⟨-, same, -⟩ | upToDate := answers.of_stored writes stored
      · exact (effective same).elim
      · rw [subject] at stored
        rw [stored, knew.same current stored (upToDate.symm.trans version)]
  subst sends
  rcases met with answers | ⟨same | ⟨other, answers⟩, -⟩
  · exact only answers
  · exact (effective same).elim
  · exact only answers

/-- A write in the version that was read is a conflict if something else is stored by now. -/
theorem Knew.conflict (knew : l.Knew read) (answers : l.Answers request answer l')
    (writes : request.item? = some item) (subject : item.subject = read.subject)
    (version : item.version = read.version)
    (stored : l.cluster.item? read.subject = some current) (replaced : current ≠ read) :
    ∃ message, answer = .error (.conflict message) := by
  obtain ⟨-, -, conflict⟩ | upToDate := answers.of_stored writes (subject ▸ stored)
  · exact conflict
  · exact (replaced (knew.same current stored (upToDate.symm.trans version))).elim

end Ledger

end BuildController
