import BuildController.Proofs.Conduct
import BuildController.Proofs.Restriction
import BuildController.Proofs.Schedule

/-! Passes are confined to the namespace of their subject: the object is stored there, and what a
pass asks for takes its namespace from the object. So whatever passes over the objects of a
namespace go through on one control plane, in any interleaving, they can go through on each that
agrees on the namespace, and other namespaces stay as they are. -/
namespace BuildController

/-- The namespace of a subject. -/
def Subject.ns : Subject → String
  | build key | run key => key.ns

/-- What passes are told by a control plane that stores builds and runs under their own names. -/
def Reports.filed : Reports where
  build key build := build.metadata.key = key
  run key run := run.metadata.key = key
  listed key run := run.metadata.namespaceName = key.ns

variable {settings : Settings} {ns : String}

theorem Build.Conducts.within {key : ObjectKey} {effect : Effect}
    (conducts : Build.Conducts .filed key effect) : effect.Within key.ns := by
  cases conducts with
  | reads => rfl
  | looks found looks =>
    cases found
    exact looks.within
  | lists found | writes found =>
    cases found
    rfl
  | owns found listed =>
    cases found
    exact listed

theorem BuildRun.Conducts.within {key : ObjectKey} {effect : Effect}
    (conducts : BuildRun.Conducts settings .filed key effect) : effect.Within key.ns := by
  cases conducts with
  | reads => rfl
  | clock | randomSuffix => trivial
  | inquires found inquires =>
    cases found
    rcases inquires with looks | ⟨name, rfl⟩
    · exact looks.within
    · rfl
  | looksUp found | creates found =>
    cases found
    rfl
  | writes found proposes =>
    cases found
    rw [proposes.1]
    rfl

/-- A pass stays in the namespace of its subject. -/
theorem Subject.stays (settings : Settings) (subject : Subject) :
    (subject.pass settings).Given Reports.filed.Covers (Effect.Within subject.ns)
      fun _ => True := by
  refine (subject.given_pass settings .filed).mono fun effect conducts => ?_
  cases subject with
  | build key => exact Build.Conducts.within conducts
  | run key => exact BuildRun.Conducts.within conducts

namespace Cluster

variable {c d c' : Cluster} {keep : String → Bool} {effect : Effect} {answer : effect.Answer}

theorem Meets.filed (met : Meets hazards c effect answer d) (filed : c.Filed) : d.Filed := by
  obtain same | ⟨request, -, same⟩ := met.effect
  · exact same ▸ filed
  · exact same ▸ answer_filed request filed

theorem Meets.covers (met : Meets hazards c effect answer d) (filed : c.Filed) :
    Reports.filed.Covers effect answer :=
  met.tells filed.builds filed.runs fun _ _ _ run stored =>
    congrArg ObjectKey.ns (filed.runs _ run stored)

/-- What is asked within a namespace changes nothing elsewhere. -/
theorem Meets.spares (met : Meets hazards c effect answer d) (within : effect.Within ns)
    (dropped : keep ns = false) : d.restrict keep = c.restrict keep := by
  obtain rfl | ⟨request, rfl, rfl⟩ := met.effect
  · rfl
  · exact answer_spares within dropped

theorem answer_agree {request : Request} (within : request.Within ns) (kept : keep ns = true)
    (agree : c.restrict keep = d.restrict keep) :
    (c.answer request).1 = (d.answer request).1 ∧
      (c.answer request).2.restrict keep = (d.answer request).2.restrict keep := by
  have same := (answer_restrict (c := c) within kept).symm.trans
    ((congrArg (answer · request) agree).trans (answer_restrict within kept))
  exact Prod.mk.inj same

/-- What can happen on one of two control planes that agree on a namespace can happen on the other,
and they still agree. -/
theorem Meets.agree (met : Meets hazards c effect answer c') (within : effect.Within ns)
    (kept : keep ns = true) (agree : c.restrict keep = d.restrict keep) :
    ∃ d', Meets hazards d effect answer d' ∧ c'.restrict keep = d'.restrict keep := by
  cases effect with
  | send request =>
    obtain ⟨first, second⟩ := answer_agree within kept agree
    rcases met with ⟨value, answered, same⟩ | ⟨fails, rfl | ⟨lost, rfl⟩, failed⟩
    · rw [answered] at first second
      exact ⟨(d.answer request).2, .inl ⟨value, Prod.ext first.symm rfl, same⟩, second⟩
    · exact ⟨d, .inr ⟨fails, .inl rfl, failed⟩, agree⟩
    · exact ⟨_, .inr ⟨fails, .inr ⟨lost, rfl⟩, failed⟩, second⟩
  | probe url =>
    have same : (c.restrict keep).reachable = (d.restrict keep).reachable := by rw [agree]
    obtain ⟨truth, rfl⟩ := met
    exact ⟨d, ⟨truth.trans (congrArg (OrderedMap.contains · url.toText) same), rfl⟩, agree⟩
  | clock | randomSuffix =>
    cases met
    exact ⟨d, rfl, agree⟩
  | isCancelled =>
    obtain ⟨causes, rfl⟩ := met
    exact ⟨d, ⟨causes, rfl⟩, agree⟩

end Cluster

/-- Something that the pass over a subject does, and the answer that it gets. -/
structure Event where
  subject : Subject
  effect : Effect
  answer : effect.Answer

namespace Phase

/-- The phase can go on with these events, in this order. -/
inductive Moves (hazards : Hazards) (settings : Settings) : Phase → List Event → Phase → Prop
  | refl : Moves hazards settings p [] p
  | launch {flights : List Flight} (room : flights.length < settings.maxParallelReconciles)
      (rest : Moves hazards settings
        ⟨c, waiting, flights ++ [⟨subject, subject.pass settings⟩]⟩ events q) :
      Moves hazards settings ⟨c, subject :: waiting, flights⟩ events q
  | perform {before after : List Flight} {effect : Effect} {resume : effect.Answer → Pass Unit}
      {answer : effect.Answer} (met : Cluster.Meets hazards c effect answer d)
      (rest : Moves hazards settings
        ⟨d, waiting, before ++ ⟨subject, resume answer⟩ :: after⟩ events q) :
      Moves hazards settings ⟨c, waiting, before ++ ⟨subject, .perform effect resume⟩ :: after⟩
        (⟨subject, effect, answer⟩ :: events) q
  | land {before after : List Flight}
      (rest : Moves hazards settings ⟨c, waiting, before ++ after⟩ events q) :
      Moves hazards settings ⟨c, waiting, before ++ ⟨subject, .done outcome⟩ :: after⟩ events q

/-- Steps are moves of which the events are not recorded. -/
theorem path_iff_moves {p q : Phase} :
    p.Path settings q ↔ ∃ events, p.Moves .calm settings events q := by
  constructor
  · intro path
    induction path using Relation.ReflTransGen.head_induction_on with
    | refl => exact ⟨[], .refl⟩
    | head step _ ih =>
      obtain ⟨events, rest⟩ := ih
      cases step with
      | launch room => exact ⟨_, .launch room rest⟩
      | perform met => exact ⟨_, .perform met rest⟩
      | land => exact ⟨_, .land rest⟩
  · rintro ⟨events, moves⟩
    induction moves with
    | refl => exact .refl
    | launch room _ ih => exact .head (.launch room) ih
    | perform met _ ih => exact .head (.perform met) ih
    | land _ ih => exact .head .land ih

/-- All passes of the phase stay in the namespace. -/
structure Confined (ns : String) (p : Phase) : Prop where
  filed : p.cluster.Filed
  queue : ∀ subject ∈ p.queue, subject.ns = ns
  flights : ∀ flight ∈ p.flights,
    flight.rest.Given Reports.filed.Covers (Effect.Within ns) fun _ => True

variable {hazards : Hazards} {p q : Phase} {c d d' : Cluster} {waiting : List Subject}
  {subject : Subject} {before after flights : List Flight} {effect : Effect}
  {resume : effect.Answer → Pass Unit} {answer : effect.Answer} {keep : String → Bool}

theorem Confined.launch (confined : Confined ns ⟨c, subject :: waiting, flights⟩) :
    Confined ns ⟨c, waiting, flights ++ [⟨subject, subject.pass settings⟩]⟩ := by
  obtain ⟨filed, queue, flying⟩ := confined
  obtain ⟨here, later⟩ := List.forall_mem_cons.mp queue
  refine ⟨filed, later, List.forall_mem_append.mpr ⟨flying, ?_⟩⟩
  rw [List.forall_mem_singleton]
  subst here
  exact subject.stays settings

theorem Confined.within
    (confined : Confined ns ⟨c, waiting, before ++ ⟨subject, .perform effect resume⟩ :: after⟩) :
    effect.Within ns :=
  (confined.flights _ (List.mem_append_right _ List.mem_cons_self)).1

theorem Confined.perform (met : Cluster.Meets hazards c effect answer d)
    (confined : Confined ns ⟨c, waiting, before ++ ⟨subject, .perform effect resume⟩ :: after⟩) :
    Confined ns ⟨d, waiting, before ++ ⟨subject, resume answer⟩ :: after⟩ := by
  obtain ⟨filed, queue, flying⟩ := confined
  simp only [List.forall_mem_append, List.forall_mem_cons] at flying
  refine ⟨met.filed filed, queue, ?_⟩
  simp only [List.forall_mem_append, List.forall_mem_cons]
  exact ⟨flying.1, flying.2.1.2 answer (met.covers filed), flying.2.2⟩

theorem Confined.land
    (confined : Confined ns ⟨c, waiting, before ++ ⟨subject, .done outcome⟩ :: after⟩) :
    Confined ns ⟨c, waiting, before ++ after⟩ := by
  obtain ⟨filed, queue, flying⟩ := confined
  simp only [List.forall_mem_append, List.forall_mem_cons] at flying
  exact ⟨filed, queue, List.forall_mem_append.mpr ⟨flying.1, flying.2.2⟩⟩

theorem Moves.confined (moves : p.Moves hazards settings events q) (confined : p.Confined ns) :
    q.Confined ns := by
  induction moves with
  | refl => exact confined
  | launch _ _ ih => exact ih confined.launch
  | perform met _ ih => exact ih (confined.perform met)
  | land _ ih => exact ih confined.land

theorem Moves.spares (moves : p.Moves hazards settings events q) (confined : p.Confined ns)
    (dropped : keep ns = false) : q.cluster.restrict keep = p.cluster.restrict keep := by
  induction moves with
  | refl => rfl
  | launch _ _ ih => exact ih confined.launch
  | perform met _ ih =>
    exact (ih (confined.perform met)).trans (met.spares confined.within dropped)
  | land _ ih => exact ih confined.land

/-- A control plane that agrees on the namespace can go through the same events. -/
theorem Moves.agree (moves : p.Moves hazards settings events q) (confined : p.Confined ns)
    (kept : keep ns = true) (agree : p.cluster.restrict keep = d.restrict keep) :
    ∃ d', Moves hazards settings ⟨d, p.queue, p.flights⟩ events ⟨d', q.queue, q.flights⟩ ∧
      q.cluster.restrict keep = d'.restrict keep := by
  induction moves generalizing d with
  | refl => exact ⟨d, .refl, agree⟩
  | launch room _ ih =>
    obtain ⟨d', rest, agree'⟩ := ih confined.launch agree
    exact ⟨d', .launch room rest, agree'⟩
  | perform met _ ih =>
    obtain ⟨middle, met', between⟩ := met.agree confined.within kept agree
    obtain ⟨d', rest, agree'⟩ := ih (confined.perform met) between
    exact ⟨d', .perform met' rest, agree'⟩
  | land _ ih =>
    obtain ⟨d', rest, agree'⟩ := ih confined.land agree
    exact ⟨d', .land rest, agree'⟩

end Phase

namespace Cluster

variable {hazards : Hazards} {c d c' : Cluster}

/-- A resync can go through the events, with so many passes, and leave a control plane behind. -/
def ResyncsBy (hazards : Hazards) (settings : Settings) (c : Cluster) (events : List Event)
    (count : Nat) (d : Cluster) : Prop :=
  ∃ middle first second, (Phase.ofBuilds settings c).Moves hazards settings first ⟨middle, [], []⟩ ∧
    (Phase.ofRuns settings middle).Moves hazards settings second ⟨d, [], []⟩ ∧
    events = first ++ second ∧
    count = (Phase.ofBuilds settings c).queue.length + (Phase.ofRuns settings middle).queue.length

theorem resyncs_iff_by :
    c.Resyncs settings d ↔ ∃ events count, c.ResyncsBy .calm settings events count d := by
  simp only [resyncs_iff, Phase.Completes, Phase.path_iff_moves]
  constructor
  · rintro ⟨middle, ⟨first, builds⟩, second, runs⟩
    exact ⟨_, _, middle, first, second, builds, runs, rfl, rfl⟩
  · rintro ⟨_, _, middle, first, second, builds, runs, -, -⟩
    exact ⟨middle, ⟨first, builds⟩, second, runs⟩

/-- What the control plane holds in the namespace, and what belongs to no namespace. -/
def within (ns : String) (c : Cluster) : Cluster := c.restrict fun place => place = ns

/-- What the control plane holds in other namespaces, and what belongs to no namespace. -/
def outside (ns : String) (c : Cluster) : Cluster := c.restrict fun place => place ≠ ns

theorem confined_ofBuilds (settings : Settings) (filed : c.Filed) :
    (Phase.ofBuilds settings c).Confined settings.ns := by
  refine ⟨filed, fun subject member => ?_, fun _ impossible => nomatch impossible⟩
  obtain ⟨build, -, rfl⟩ := List.mem_map.mp member
  rfl

theorem confined_ofRuns (settings : Settings) (filed : c.Filed) :
    (Phase.ofRuns settings c).Confined settings.ns := by
  refine ⟨filed, fun subject member => ?_, fun _ impossible => nomatch impossible⟩
  obtain ⟨run, -, rfl⟩ := List.mem_map.mp member
  rfl

theorem inNamespace_agree (agree : c.within ns = d.within ns) :
    inNamespace ns c.builds = inNamespace ns d.builds ∧
      inNamespace ns c.runs = inNamespace ns d.runs := by
  have here : decide (ns = ns) = true := decide_eq_true rfl
  have builds := congrArg (fun c => inNamespace ns c.builds) agree
  have runs := congrArg (fun c => inNamespace ns c.runs) agree
  simp only [within, restrict] at builds runs
  exact ⟨by rwa [inNamespace_restrict here, inNamespace_restrict here] at builds,
    by rwa [inNamespace_restrict here, inNamespace_restrict here] at runs⟩

theorem ResyncsBy.spares (resyncs : c.ResyncsBy hazards settings events count c')
    (filed : c.Filed) :
    c'.outside settings.ns = c.outside settings.ns := by
  obtain ⟨middle, first, second, builds, runs, -, -⟩ := resyncs
  have dropped : decide (settings.ns ≠ settings.ns) = false := by simp
  have begun := confined_ofBuilds settings filed
  have turned := confined_ofRuns settings (builds.confined begun).filed
  exact (runs.spares turned dropped).trans (builds.spares begun dropped)

theorem ResyncsBy.agree (resyncs : c.ResyncsBy hazards settings events count c') (filed : c.Filed)
    (agree : c.within settings.ns = d.within settings.ns) :
    ∃ d', d.ResyncsBy hazards settings events count d' ∧
      c'.within settings.ns = d'.within settings.ns := by
  obtain ⟨middle, first, second, builds, runs, rfl, rfl⟩ := resyncs
  have kept : decide (settings.ns = settings.ns) = true := decide_eq_true rfl
  have begun := confined_ofBuilds settings filed
  have turned := confined_ofRuns settings (builds.confined begun).filed
  obtain ⟨middle', builds', between⟩ := builds.agree begun kept agree
  obtain ⟨d', runs', agree'⟩ := runs.agree turned kept between
  refine ⟨d', ⟨middle', first, second, ?_, ?_, rfl, ?_⟩, agree'⟩
  · simp only [Phase.ofBuilds, ← (inNamespace_agree agree).1]
    exact builds'
  · simp only [Phase.ofRuns, ← (inNamespace_agree between).2]
    exact runs'
  · simp only [Phase.ofBuilds, Phase.ofRuns, (inNamespace_agree agree).1,
      (inNamespace_agree between).2]

end Cluster

end BuildController
