import BuildController.Proofs.System
import BuildController.Resync

/-! Schedules of a resync. In each of its two phases passes are launched in the order of a listing,
no more at once than the settings allow. They perform their effects in any interleaving, and all of
them are joined before the next phase begins. Here nothing fails, nothing is cancelled, and nobody
else writes. -/
namespace BuildController

/-- A phase: the control plane, the subjects of the passes that are still to be launched, and the
passes that are under way. -/
structure Phase where
  cluster : Cluster
  queue : List Subject
  flights : List Flight := []

namespace Resync

def buildSubjects (settings : Settings) (builds : List Build) : List Subject :=
  builds.map fun build => .build ⟨settings.ns, build.metadata.name⟩

def runSubjects (settings : Settings) (runs : List BuildRun) : List Subject :=
  (runs.filter fun run => !run.status.isDone).map fun run => .run ⟨settings.ns, run.metadata.name⟩

theorem buildPasses_eq (settings : Settings) (builds : List Build) :
    buildPasses settings builds = (buildSubjects settings builds).map (Subject.pass settings) := by
  simp [buildPasses, buildSubjects, Subject.pass]

theorem runPasses_eq (settings : Settings) (runs : List BuildRun) :
    runPasses settings runs = (runSubjects settings runs).map (Subject.pass settings) := by
  simp [runPasses, runSubjects, Subject.pass]

end Resync

namespace Phase

/-- One step: the next pass is launched if there is room for it, a pass performs an effect, or one
that is done makes room. -/
inductive Step (settings : Settings) : Phase → Phase → Prop
  | launch {flights : List Flight} (room : flights.length < settings.maxParallelReconciles) :
      Step settings ⟨c, subject :: waiting, flights⟩
        ⟨c, waiting, flights ++ [⟨subject, subject.pass settings⟩]⟩
  | perform {before after : List Flight} {effect : Effect} {resume : effect.Answer → Pass Unit}
      {answer : effect.Answer} (met : Cluster.Meets .calm c effect answer d) :
      Step settings ⟨c, waiting, before ++ ⟨subject, .perform effect resume⟩ :: after⟩
        ⟨d, waiting, before ++ ⟨subject, resume answer⟩ :: after⟩
  | land {before after : List Flight} :
      Step settings ⟨c, waiting, before ++ ⟨subject, .done outcome⟩ :: after⟩
        ⟨c, waiting, before ++ after⟩

def Path (settings : Settings) : Phase → Phase → Prop := Relation.ReflTransGen (Step settings)

/-- All passes of the phase can come to an end and leave the control plane behind. -/
def Completes (settings : Settings) (phase : Phase) (d : Cluster) : Prop :=
  Path settings phase ⟨d, [], []⟩

/-- The passes over all builds of the watched namespace. -/
def ofBuilds (settings : Settings) (c : Cluster) : Phase :=
  ⟨c, Resync.buildSubjects settings (Cluster.inNamespace settings.ns c.builds), []⟩

/-- The passes over all runs of the watched namespace that are not done. -/
def ofRuns (settings : Settings) (c : Cluster) : Phase :=
  ⟨c, Resync.runSubjects settings (Cluster.inNamespace settings.ns c.runs), []⟩

end Phase

/-- A resync under way: in the phase of the builds, or then in that of the runs. -/
inductive Tick
  | builds (phase : Phase)
  | runs (phase : Phase)

namespace Tick

/-- One step of a resync. The runs are listed once all passes over builds are done. -/
inductive Step (settings : Settings) : Tick → Tick → Prop
  | building (step : p.Step settings q) : Step settings (.builds p) (.builds q)
  | turn : Step settings (.builds ⟨c, [], []⟩) (.runs (.ofRuns settings c))
  | running (step : p.Step settings q) : Step settings (.runs p) (.runs q)

def Path (settings : Settings) : Tick → Tick → Prop := Relation.ReflTransGen (Step settings)

end Tick

/-- A resync can lead from one control plane to the other. -/
def Cluster.Resyncs (settings : Settings) (c d : Cluster) : Prop :=
  Tick.Path settings (.builds (.ofBuilds settings c)) (.runs ⟨d, [], []⟩)

variable {settings : Settings}

namespace Tick

/-- A resync is in its first phase, or it has completed that one and is in the second. -/
theorem Path.phases {t : Tick} (path : Path settings (.builds p) t) :
    (∃ q, t = .builds q ∧ p.Path settings q) ∨
      ∃ middle q, t = .runs q ∧ p.Completes settings middle ∧
        (Phase.ofRuns settings middle).Path settings q := by
  induction path with
  | refl => exact .inl ⟨p, rfl, .refl⟩
  | tail earlier last ih =>
    cases last with
    | building step =>
      obtain ⟨q, same, begun⟩ | ⟨_, _, impossible, _⟩ := ih
      · cases same
        exact .inl ⟨_, rfl, begun.tail step⟩
      · cases impossible
    | turn =>
      obtain ⟨q, same, begun⟩ | ⟨_, _, impossible, _⟩ := ih
      · cases same
        exact .inr ⟨_, _, rfl, begun, .refl⟩
      · cases impossible
    | running step =>
      obtain ⟨_, impossible, _⟩ | ⟨middle, q, same, first, second⟩ := ih
      · cases impossible
      · cases same
        exact .inr ⟨middle, _, rfl, first, second.tail step⟩

theorem path_builds (path : p.Path settings q) : Path settings (.builds p) (.builds q) :=
  path.lift Tick.builds fun _ _ => .building

theorem path_runs (path : p.Path settings q) : Path settings (.runs p) (.runs q) :=
  path.lift Tick.runs fun _ _ => .running

/-- A first phase that can be completed is followed by the second one. -/
theorem path_turn (first : p.Completes settings middle) :
    Path settings (.builds p) (.runs (.ofRuns settings middle)) :=
  (path_builds first).tail .turn

end Tick

/-- A resync is two phases in turn. -/
theorem Cluster.resyncs_iff {c d : Cluster} :
    c.Resyncs settings d ↔ ∃ middle, (Phase.ofBuilds settings c).Completes settings middle ∧
      (Phase.ofRuns settings middle).Completes settings d := by
  constructor
  · intro resyncs
    obtain ⟨_, impossible, _⟩ | ⟨middle, q, same, first, second⟩ := resyncs.phases
    · cases impossible
    · cases same
      exact ⟨middle, first, second⟩
  · rintro ⟨middle, first, second⟩
    exact (Tick.path_turn first).trans (Tick.path_runs second)

namespace Phase

/-- A pass that is under way can go on as if it were alone. -/
theorem path_of_ends {pass : Pass Unit} {before after : List Flight}
    (ended : pass.Ends (Cluster.Meets .calm) c r d) :
    Path settings ⟨c, waiting, before ++ ⟨subject, pass⟩ :: after⟩
      ⟨d, waiting, before ++ ⟨subject, .done r⟩ :: after⟩ := by
  let place (c : Cluster) (rest : Pass Unit) : Phase :=
    ⟨c, waiting, before ++ ⟨subject, rest⟩ :: after⟩
  apply ended.path place
  intro s effect resume answer t met
  exact .perform met

/-- Passes can be made one after the other. -/
theorem path_of_pass (room : 1 ≤ settings.maxParallelReconciles)
    (ended : (subject.pass settings).Ends (Cluster.Meets .calm) c r d) :
    Path settings ⟨c, subject :: waiting, []⟩ ⟨d, waiting, []⟩ := by
  have launched : Step settings ⟨c, subject :: waiting, []⟩
      ⟨c, waiting, [] ++ ⟨subject, subject.pass settings⟩ :: []⟩ := .launch room
  have landed : Step settings ⟨d, waiting, [] ++ ⟨subject, .done r⟩ :: []⟩
      ⟨d, waiting, [] ++ []⟩ := .land
  exact .head launched ((path_of_ends ended).tail landed)

/-- A phase can be completed if passes over its subjects can come to an end one by one. -/
theorem exists_completes {good : Cluster → Prop} (room : 1 ≤ settings.maxParallelReconciles)
    (subjects : List Subject) (holds : good c)
    (ends : ∀ c, good c → ∀ subject ∈ subjects, ∃ r d,
      (subject.pass settings).Ends (Cluster.Meets .calm) c r d ∧ good d) :
    ∃ d, Completes settings ⟨c, subjects, []⟩ d ∧ good d := by
  induction subjects generalizing c with
  | nil => exact ⟨c, .refl, holds⟩
  | cons subject rest ih =>
    obtain ⟨r, middle, ended, kept⟩ := ends c holds subject List.mem_cons_self
    obtain ⟨d, completes, last⟩ := ih kept fun c holds other member =>
      ends c holds other (List.mem_cons_of_mem _ member)
    exact ⟨d, (path_of_pass room ended).trans completes, last⟩

end Phase

end BuildController
