import Mathlib.Logic.Relation
import BuildController.Proofs.Writes

/-! The control plane with all that goes on around it. Passes over builds and runs are under way
side by side and perform one effect at a time, under all hazards; any of them can vanish at any
moment. Meanwhile others change the control plane as they like, except that they write no status of
a run. -/
namespace BuildController

/-- What a pass is about: a build or a run. -/
inductive Subject
  | build (key : ObjectKey)
  | run (key : ObjectKey)

/-- The pass over a subject. -/
def Subject.pass (settings : Settings) : Subject → Pass Unit
  | build key => Build.register key.ns key.name
  | run key => BuildRun.advance settings key.ns key.name

/-- A pass that is under way, as far as it is still to be performed. -/
structure Flight where
  subject : Subject
  rest : Pass Unit

/-- A control plane and the passes that are under way. -/
structure System where
  cluster : Cluster
  flights : List Flight := []

namespace Cluster

/-- Runs are stored under their own names. -/
def Keyed (c : Cluster) : Prop := ∀ key run, c.runs.get? key = some run → run.metadata.key = key

/-- The status that a run has if nobody wrote it: the one that it had, or an empty one if it is
new. -/
def Carries (c : Cluster) (key : ObjectKey) (status : RunStatus) : Prop :=
  match c.runs.get? key with
  | some old => status = old.status
  | none => status = {}

/-- A change from outside: anything but the statuses of runs. -/
structure Intervenes (before after : Cluster) : Prop where
  keyed : before.Keyed → after.Keyed
  carries : ∀ key run, after.runs.get? key = some run → before.Carries key run.status

end Cluster

namespace System

/-- One step: a pass begins, performs an effect or goes away, or something outside changes. -/
inductive Step (settings : Settings) : System → System → Prop
  | launch {flights : List Flight} (subject : Subject) :
      Step settings ⟨c, flights⟩ ⟨c, ⟨subject, subject.pass settings⟩ :: flights⟩
  | perform {before after : List Flight} {effect : Effect} {resume : effect.Answer → Pass Unit}
      {answer : effect.Answer} (handled : Cluster.Meets .all c effect answer d) :
      Step settings ⟨c, before ++ ⟨subject, .perform effect resume⟩ :: after⟩
        ⟨d, before ++ ⟨subject, resume answer⟩ :: after⟩
  | leave : Step settings ⟨c, before ++ flight :: after⟩ ⟨c, before ++ after⟩
  | intervene {flights : List Flight} (intervenes : c.Intervenes d) :
      Step settings ⟨c, flights⟩ ⟨d, flights⟩

/-- Steps in turn, within states that meet a condition. -/
def Path (settings : Settings) (within : System → Prop) : System → System → Prop :=
  Relation.ReflTransGen fun s t => Step settings s t ∧ within t

/-- No two passes are under way over the same run. -/
def Exclusive (s : System) : Prop :=
  s.flights.Pairwise fun f g => ∀ key, f.subject = .run key → g.subject ≠ .run key

end System

namespace Cluster

variable {c d : Cluster}

theorem carries_of_stored (stored : c.runs.get? key = some run) : c.Carries key run.status := by
  simp only [Carries, stored]

theorem keyed_empty : Keyed {} := by
  intro key run stored
  cases stored

theorem keyed_put (keyed : c.Keyed) (object : Object) : (c.put object).Keyed := by
  intro key run stored
  cases object with
  | run new =>
    simp only [put, OrderedMap.get?_insert] at stored
    split at stored
    · next same =>
      cases stored
      exact same.symm
    · exact keyed key run stored
  | _ => exact keyed key run stored

/-- An effect changes nothing, or all that its request changes. -/
theorem Meets.effect {effect : Effect} {answer : effect.Answer}
    (handled : Meets hazards c effect answer d) :
    d = c ∨ ∃ request, effect = .send request ∧ d = (c.answer request).2 := by
  cases effect with
  | send request =>
    rcases handled with ⟨value, answered, -⟩ | ⟨-, same | ⟨-, same⟩, -⟩
    · exact .inr ⟨request, rfl, by rw [answered]⟩
    · exact .inl same
    · exact .inr ⟨request, rfl, same⟩
  | probe | isCancelled => exact .inl handled.2
  | clock | randomSuffix => exact .inl handled

theorem modify?_eq {objects : OrderedMap ObjectKey α} {key : ObjectKey} {change : α → α}
    {put : OrderedMap ObjectKey α → Cluster} :
    (∃ stored, objects.get? key = some stored ∧
      (c.commit (modify? objects key change) put).2 = put (objects.insert key (change stored))) ∨
      (c.commit (modify? objects key change) put).2 = c := by
  unfold modify?
  cases stored : objects.get? key with
  | some old => exact .inl ⟨old, rfl, rfl⟩
  | none => exact .inr rfl

/-- Runs are changed by two requests only, which replace a stored run. -/
theorem answer_runs (c : Cluster) (request : Request) :
    (c.answer request).2.runs = c.runs ∨
      (∃ run old, request = .updateRun run ∧ c.runs.get? run.metadata.key = some old ∧
        (c.answer request).2.runs = c.runs.insert run.metadata.key
          { old with metadata := run.metadata, spec := run.spec }) ∨
      ∃ run old, request = .updateRunStatus run ∧ c.runs.get? run.metadata.key = some old ∧
        (c.answer request).2.runs = c.runs.insert run.metadata.key
          { old with status := run.status } := by
  cases request with
  | updateRun run =>
    rcases modify?_eq (c := c) with ⟨old, stored, changed⟩ | same
    · exact .inr (.inl ⟨run, old, rfl, stored, congrArg runs changed⟩)
    · exact .inl (congrArg runs same)
  | updateRunStatus run =>
    rcases modify?_eq (c := c) with ⟨old, stored, changed⟩ | same
    · exact .inr (.inr ⟨run, old, rfl, stored, congrArg runs changed⟩)
    · exact .inl (congrArg runs same)
  | updateBuildStatus build =>
    unfold answer
    rcases modify?_eq (c := c) with ⟨old, stored, changed⟩ | same
    · rw [changed]
      exact .inl rfl
    · rw [same]
      exact .inl rfl
  | createTaskRun taskRun =>
    simp only [answer]
    split <;> exact .inl rfl
  | _ => exact .inl rfl

theorem answer_keyed (request : Request) (keyed : c.Keyed) : (c.answer request).2.Keyed := by
  intro key run stored
  obtain same | ⟨next, old, -, -, changed⟩ | ⟨next, old, -, found, changed⟩ := answer_runs c request
  · rw [same] at stored
    exact keyed key run stored
  · rw [changed, OrderedMap.get?_insert] at stored
    split at stored
    · next same =>
      cases stored
      exact same.symm
    · exact keyed key run stored
  · rw [changed, OrderedMap.get?_insert] at stored
    split at stored
    · next same =>
      cases stored
      exact (keyed _ old found).trans same.symm
    · exact keyed key run stored

/-- A status changes only if it is written. -/
theorem answer_carries {request : Request}
    (stored : (c.answer request).2.runs.get? key = some run) :
    c.Carries key run.status ∨ ∃ next, request = .updateRunStatus next ∧
      next.metadata.key = key ∧ run.status = next.status := by
  obtain same | ⟨next, old, -, found, changed⟩ | ⟨next, old, written, -, changed⟩ :=
    answer_runs c request
  · rw [same] at stored
    exact .inl (carries_of_stored stored)
  · rw [changed, OrderedMap.get?_insert] at stored
    split at stored
    · next same =>
      cases stored
      have unwritten : c.Carries next.metadata.key old.status := carries_of_stored found
      rw [same]
      exact .inl unwritten
    · exact .inl (carries_of_stored stored)
  · rw [changed, OrderedMap.get?_insert] at stored
    split at stored
    · next same =>
      cases stored
      exact .inr ⟨next, written, same.symm, rfl⟩
    · exact .inl (carries_of_stored stored)

theorem Meets.carries {effect : Effect} {answer : effect.Answer}
    (handled : Meets hazards c effect answer d) (stored : d.runs.get? key = some run) :
    c.Carries key run.status ∨ ∃ next, effect.runWrite? = some next ∧
      next.metadata.key = key ∧ run.status = next.status := by
  obtain same | ⟨request, sent, same⟩ := handled.effect
  · subst same
    exact .inl (carries_of_stored stored)
  · subst sent
    subst same
    refine (answer_carries stored).imp_right ?_
    rintro ⟨next, rfl, written⟩
    exact ⟨next, rfl, written⟩

end Cluster

namespace Flight

variable {good weaker : ObjectKey → BuildRun → Prop} {subject : Subject} {rest : Pass Unit}
  {effect : Effect} {resume : effect.Answer → Pass Unit}

/-- A pass over a build writes no status of a run; one over a run has yet to read it, or it writes a
good status at most. -/
def Safe (settings : Settings) (good : ObjectKey → BuildRun → Prop) (flight : Flight) : Prop :=
  match flight.subject with
  | .build _ => flight.rest.Quiet
  | .run key => flight.rest = BuildRun.advance settings key.ns key.name ∨
      flight.rest.Commits (good key)

theorem safe_launch (settings : Settings) (subject : Subject) :
    Safe settings good ⟨subject, subject.pass settings⟩ := by
  cases subject with
  | build key => exact Build.quiet_register _ _
  | run key => exact .inl rfl

theorem safe_of_quiet (quiet : rest.Quiet) : Safe settings good ⟨subject, rest⟩ := by
  cases subject with
  | build key => exact quiet
  | run key => exact .inr quiet.commits

theorem Safe.mono {flight : Flight} (safe : flight.Safe settings good)
    (weakens : ∀ key next, flight.subject = .run key → good key next → weaker key next) :
    flight.Safe settings weaker := by
  obtain ⟨subject, rest⟩ := flight
  cases subject with
  | build key => exact safe
  | run key => exact safe.imp_right fun commits => commits.mono fun next => weakens key next rfl

/-- A status that is about to be written is a good one of the run that the pass is about. -/
theorem Safe.writes
    (safe : Safe settings good ⟨subject, .perform effect resume⟩)
    (written : effect.runWrite? = some next) :
    (∃ key, subject = .run key ∧ good key next) ∧ ∀ answer, (resume answer).Quiet := by
  cases subject with
  | build key =>
    rw [safe.1] at written
    cases written
  | run key =>
    rcases safe with unread | commits
    · obtain ⟨_, reads, _⟩ := BuildRun.advance_commits settings key.ns key.name
      cases unread.trans reads
      cases written
    · obtain ⟨holds, quiet⟩ := commits.1 next written
      exact ⟨⟨key, rfl, holds⟩, quiet⟩

theorem Safe.next {answer : effect.Answer}
    (safe : Safe settings good ⟨subject, .perform effect resume⟩)
    (handled : Cluster.Meets hazards c effect answer d)
    (becomes : ∀ key run next, c.runs.get? key = some run → run.status.isDone = false →
      run.Becomes next → good key next) : Safe settings good ⟨subject, resume answer⟩ := by
  cases subject with
  | build key => exact safe.2 answer
  | run key =>
    rcases safe with unread | commits
    · obtain ⟨rest, reads, writes⟩ := BuildRun.advance_commits settings key.ns key.name
      cases unread.trans reads
      refine .inr (writes _ answer fun run next found notDone follows => ?_)
      subst found
      exact becomes key run next (Except.ok.inj handled.answered) notDone follows
    · exact .inr (commits.2 answer)

end Flight

namespace System

variable {s t : System}

theorem Step.keyed (step : Step settings s t) (keyed : s.cluster.Keyed) : t.cluster.Keyed := by
  cases step with
  | launch | leave => exact keyed
  | perform handled =>
    obtain same | ⟨request, -, same⟩ := handled.effect
    · exact same ▸ keyed
    · exact same ▸ Cluster.answer_keyed request keyed
  | intervene intervenes => exact intervenes.keyed keyed

/-- The status of a stored run is the one that it had, unless a pass writes it. -/
theorem Step.carries (step : Step settings s t) (stored : t.cluster.runs.get? key = some run) :
    s.cluster.Carries key run.status ∨ ∃ subject effect, ∃ resume : effect.Answer → Pass Unit,
      ∃ next, ⟨subject, .perform effect resume⟩ ∈ s.flights ∧ effect.runWrite? = some next ∧
        next.metadata.key = key ∧ run.status = next.status := by
  cases step with
  | launch | leave => exact .inl (Cluster.carries_of_stored stored)
  | perform handled =>
    refine (handled.carries stored).imp_right ?_
    rintro ⟨next, writes, written⟩
    exact ⟨_, _, _, next, List.mem_append_right _ List.mem_cons_self, writes, written⟩
  | intervene intervenes => exact .inl (intervenes.carries key run stored)

/-- Passes that are under way stay safe if all that a stored run can become is good. -/
theorem Step.safe {good : ObjectKey → BuildRun → Prop} (step : Step settings s t)
    (safe : ∀ flight ∈ s.flights, flight.Safe settings good)
    (becomes : ∀ key run next, s.cluster.runs.get? key = some run → run.status.isDone = false →
      run.Becomes next → good key next) : ∀ flight ∈ t.flights, flight.Safe settings good := by
  cases step with
  | launch subject => exact List.forall_mem_cons.mpr ⟨Flight.safe_launch settings subject, safe⟩
  | perform handled =>
    simp only [List.forall_mem_append, List.forall_mem_cons] at safe ⊢
    exact ⟨safe.1, safe.2.1.next handled becomes, safe.2.2⟩
  | leave =>
    simp only [List.forall_mem_append, List.forall_mem_cons] at safe ⊢
    exact ⟨safe.1, safe.2.2⟩
  | intervene => exact safe

variable {within : System → Prop}

/-- A pass that is under way alone can go on in every way that the hazards allow. -/
theorem path_of_ends {subject : Subject} {pass : Pass Unit}
    (alone : ∀ c flight, within ⟨c, [flight]⟩)
    (ended : pass.Ends (Cluster.Meets .all) c r d) :
    Path settings within ⟨c, [⟨subject, pass⟩]⟩ ⟨d, [⟨subject, .done r⟩]⟩ := by
  let place (c : Cluster) (rest : Pass Unit) : System := ⟨c, [] ++ ⟨subject, rest⟩ :: []⟩
  apply ended.path place
  intro s effect resume answer t handled
  exact ⟨.perform handled, alone _ _⟩

/-- A whole pass is a path of the system. -/
theorem path_of_pass {subject : Subject} (idle : ∀ c, within ⟨c, []⟩)
    (alone : ∀ c flight, within ⟨c, [flight]⟩)
    (ended : (subject.pass settings).Ends (Cluster.Meets .all) c r d) :
    Path settings within ⟨c, []⟩ ⟨d, []⟩ := by
  have begun : Step settings ⟨c, []⟩ ⟨c, [⟨subject, subject.pass settings⟩]⟩ := .launch subject
  have gone : Step settings ⟨d, [] ++ ⟨subject, .done r⟩ :: []⟩ ⟨d, [] ++ []⟩ := .leave
  exact .head ⟨begun, alone _ _⟩ (.tail (path_of_ends alone ended) ⟨gone, idle d⟩)

end System

end BuildController
