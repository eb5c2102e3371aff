import BuildController.Proofs.Schedule

/-! Passes that are under way side by side do not disturb one another if they keep to a discipline.
It says what a pass over a subject may do, and what of the control plane is the subject's own, so
that no other pass touches it. What a pass assures in view of that, whatever the others do between
its effects, holds when its phase is completed. -/
namespace BuildController

/-- What passes over different subjects can rely on, and have to keep to. -/
structure Discipline where
  /-- What holds of the control plane at any time. -/
  sound : Cluster → Prop
  /-- What a pass over the subject may do. -/
  allows : Subject → Effect → Prop
  /-- What is the subject's own is the same in both control planes. -/
  spares : Subject → Cluster → Cluster → Prop
  /-- No pass ever asks for what cannot be done. -/
  live : Prop
  refl : ∀ s c, spares s c c
  trans : ∀ {s a b c}, spares s a b → spares s b c → spares s a c
  keeps : ∀ {t c d} {effect : Effect} {answer : effect.Answer}, sound c → allows t effect →
    Cluster.Meets .calm c effect answer d → sound d ∧ ∀ s, s ≠ t → spares s c d

namespace Discipline

/-- After a pass over the subject left the first control plane behind, it can find the second. -/
structure Follows (D : Discipline) (s : Subject) (u v : Cluster) : Prop where
  sound : D.sound v
  spares : D.spares s u v

theorem Follows.refl {D : Discipline} (sound : D.sound u) : D.Follows s u u := ⟨sound, D.refl s u⟩

theorem Follows.trans {D : Discipline} (first : D.Follows s u v) (second : D.Follows s v w) :
    D.Follows s u w := ⟨second.sound, D.trans first.spares second.spares⟩

/-- A pass over the subject may perform the effect, which always gets the same answer and changes
nothing, whatever the others do. -/
structure Steady (D : Discipline) (s : Subject) (effect : Effect) : Prop where
  allowed : D.allows s effect
  answered : ∀ c, D.sound c → ∃ answer d, Cluster.Meets .calm c effect answer d
  same : ∀ {u c d} {answer : effect.Answer}, D.sound u → D.Follows s u c →
    Cluster.Meets .calm c effect answer d → d = c ∧ Cluster.Meets .calm u effect answer u

end Discipline

namespace Pass

/-- After its last effect left the first control plane behind, the pass goes on within the
discipline, and it ends with an outcome and a control plane that are related, whatever passes over
other subjects do in between. -/
def Assures (D : Discipline) (s : Subject) (post : Except PassError α → Cluster → Prop) :
    Pass α → Cluster → Prop
  | done outcome, u => post outcome u
  | perform effect resume, u => ∀ c, D.Follows s u c →
    D.allows s effect ∧ (D.live → ∃ answer d, Cluster.Meets .calm c effect answer d) ∧
      ∀ answer d, Cluster.Meets .calm c effect answer d → (resume answer).Assures D s post d

variable {D : Discipline} {s : Subject} {post weaker : Except PassError α → Cluster → Prop}
  {pass : Pass α}

theorem Assures.mono (assures : pass.Assures D s post u)
    (weakens : ∀ r v, post r v → weaker r v) : pass.Assures D s weaker u := by
  induction pass generalizing u with
  | done outcome => exact weakens outcome u assures
  | perform effect resume ih =>
    intro c follows
    obtain ⟨allowed, answered, rest⟩ := assures c follows
    exact ⟨allowed, answered, fun answer d met => ih answer (rest answer d met)⟩

theorem assures_pure (holds : post (.ok a) u) : (pure a : Pass α).Assures D s post u := holds

theorem assures_bind {next : α → Pass β} {last : Except PassError β → Cluster → Prop}
    (first : pass.Assures D s post u)
    (rest : ∀ value v, post (.ok value) v → (next value).Assures D s last v)
    (ended : ∀ error v, post (.error error) v → last (.error error) v) :
    (pass >>= next).Assures D s last u := by
  change (pass.bind next).Assures D s last u
  induction pass generalizing u with
  | done outcome =>
    cases outcome with
    | ok value => exact rest value u first
    | error error => exact ended error u first
  | perform effect resume ih =>
    intro c follows
    obtain ⟨allowed, answered, goes⟩ := first c follows
    exact ⟨allowed, answered, fun answer d met => ih answer (goes answer d met)⟩

theorem assures_send {request : Request} {post : Except PassError request.Answer → Cluster → Prop}
    (allowed : D.allows s (.send request))
    (answered : ∀ c, D.Follows s u c → D.live → ∃ value d, c.answer request = (.ok value, d))
    (holds : ∀ c, D.Follows s u c → ∀ value d, c.answer request = (.ok value, d) → D.sound d →
      post (.ok value) d) : (send request).Assures D s post u := by
  intro c follows
  refine ⟨allowed, fun live => ?_, fun answer d met => ?_⟩
  · obtain ⟨value, d, answer⟩ := answered c follows live
    exact ⟨.ok value, d, .inl ⟨value, answer, rfl⟩⟩
  · obtain ⟨value, answer, rfl⟩ := Cluster.meets_calm_send.mp met
    exact holds c follows value d answer (D.keeps follows.sound allowed met).1

theorem ReadsClock.assures {read : Pass Readings}
    {post : Except PassError Readings → Cluster → Prop} (reads : read.ReadsClock)
    (allowed : D.allows s .clock)
    (holds : ∀ now c, D.Follows s u c → post (.ok now) c) : read.Assures D s post u := by
  cases reads
  all_goals
    intro c follows
    refine ⟨allowed, fun _ => ⟨default, c, rfl⟩, ?_⟩
    rintro first c rfl d goes
    refine ⟨allowed, fun _ => ⟨default, d, rfl⟩, ?_⟩
    rintro second d rfl
    exact holds _ d (follows.trans goes)

theorem assures_randomSuffix {post : Except PassError String → Cluster → Prop}
    (allowed : D.allows s .randomSuffix)
    (holds : ∀ suffix c, D.Follows s u c → post (.ok suffix) c) :
    randomSuffix.Assures D s post u := by
  intro c follows
  refine ⟨allowed, fun _ => ⟨"", c, rfl⟩, ?_⟩
  rintro suffix d rfl
  exact holds suffix d follows

/-- A pass that only asks for what is steady ends as it would end alone. -/
theorem Reads.assures (reads : pass.Reads u result) (only : pass.Only (D.Steady s))
    (sound : D.sound u) : pass.Assures D s (fun r v => r = result ∧ D.Follows s u v) u := by
  have truth : ∀ r, pass.Ends (Cluster.Meets .calm) u r u → r = result := by
    intro r ended
    exact (reads.calm_iff.mp ended).1
  clear reads
  -- The answers are those that `u` gives, while the control plane moves on.
  suffices go : ∀ v, D.Follows s u v →
      pass.Assures D s (fun r v => r = result ∧ D.Follows s u v) v from go u (.refl sound)
  induction pass with
  | done outcome =>
    intro v follows
    exact ⟨truth outcome ⟨rfl, rfl⟩, follows⟩
  | perform effect resume ih =>
    intro v before c after
    have follows : D.Follows s u c := before.trans after
    refine ⟨only.1.allowed, fun _ => only.1.answered c follows.sound, fun answer d met => ?_⟩
    obtain ⟨rfl, steady⟩ := only.1.same sound follows met
    exact ih answer (only.2 answer) (fun r ended => truth r ⟨answer, u, steady, ended⟩) d follows

/-- A pass that is alone ends with what it assures. -/
theorem Assures.ends (assures : pass.Assures D s post u) (sound : D.sound u)
    (ended : pass.Ends (Cluster.Meets .calm) u r d) : post r d := by
  induction pass generalizing u with
  | done outcome =>
    obtain ⟨rfl, rfl⟩ := ended
    exact assures
  | perform effect resume ih =>
    obtain ⟨answer, middle, met, rest⟩ := ended
    obtain ⟨allowed, _, goes⟩ := assures u (.refl sound)
    exact ih answer (goes answer middle met) (D.keeps sound allowed met).1 rest

/-- If the discipline is live, a pass can always come to an end. -/
theorem Assures.exists_ends (assures : pass.Assures D s post u) (live : D.live)
    (follows : D.Follows s u c) : ∃ r d, pass.Ends (Cluster.Meets .calm) c r d := by
  induction pass generalizing u c with
  | done outcome => exact ⟨outcome, c, rfl, rfl⟩
  | perform effect resume ih =>
    obtain ⟨allowed, answered, goes⟩ := assures c follows
    obtain ⟨answer, middle, met⟩ := answered live
    obtain ⟨r, d, ended⟩ := ih answer (goes answer middle met)
      (.refl (D.keeps follows.sound allowed met).1)
    exact ⟨r, d, answer, middle, met, ended⟩

end Pass

/-- The subjects with which a phase is not through. -/
def Phase.pending (phase : Phase) : List Subject :=
  phase.queue ++ phase.flights.map Flight.subject

/-- What holds during a phase that keeps to a discipline. It began at the control plane `c` with the
given subjects. -/
structure Phase.Disciplined (D : Discipline)
    (post : Subject → Except PassError Unit → Cluster → Prop) (c : Cluster)
    (subjects : List Subject) (phase : Phase) : Prop where
  sound : D.sound phase.cluster
  distinct : phase.pending.Nodup
  listed : ∀ s ∈ phase.pending, s ∈ subjects
  /-- Nothing was done yet to what waits, and nothing is ever done to what was not listed. -/
  untouched : ∀ s, s ∈ phase.queue ∨ s ∉ subjects → D.spares s c phase.cluster
  flying : ∀ flight ∈ phase.flights, ∃ u, D.spares flight.subject u phase.cluster ∧
    flight.rest.Assures D flight.subject (post flight.subject) u
  landed : ∀ s ∈ subjects, s ∉ phase.pending → ∃ r u, D.spares s u phase.cluster ∧ post s r u

namespace Phase

variable {D : Discipline} {post : Subject → Except PassError Unit → Cluster → Prop}
  {subjects : List Subject} {settings : Settings} {p q : Phase}

theorem Disciplined.of_start (sound : D.sound c) (distinct : subjects.Nodup) :
    Disciplined D post c subjects ⟨c, subjects, []⟩ where
  sound := sound
  distinct := by simpa [pending] using distinct
  listed := by simp [pending]
  untouched s _ := D.refl s c
  flying := by simp
  landed s member away := by simp [pending, member] at away

theorem pending_perm {flight : Flight} {before after : List Flight} :
    (pending ⟨c, waiting, before ++ flight :: after⟩).Perm
      (flight.subject :: pending ⟨c, waiting, before ++ after⟩) := by
  simp only [pending, List.map_append, List.map_cons, ← List.append_assoc]
  exact List.perm_middle

/-- A pass that is under way is the only one over its subject. -/
theorem Disciplined.alone {flight : Flight} {before after : List Flight}
    (disciplined : Disciplined D post c subjects ⟨now, waiting, before ++ flight :: after⟩) :
    flight.subject ∉ pending ⟨now, waiting, before ++ after⟩ :=
  (List.nodup_cons.mp (pending_perm.nodup_iff.mp disciplined.distinct)).1

theorem Disciplined.launch {flights : List Flight}
    (assured : (subject.pass settings).Assures D subject (post subject) c)
    (disciplined : Disciplined D post c subjects ⟨now, subject :: waiting, flights⟩) :
    Disciplined D post c subjects
      ⟨now, waiting, flights ++ [⟨subject, subject.pass settings⟩]⟩ := by
  obtain ⟨sound, distinct, listed, untouched, flying, landed⟩ := disciplined
  have moved : (pending ⟨now, waiting, flights ++ [⟨subject, subject.pass settings⟩]⟩).Perm
      (pending ⟨now, subject :: waiting, flights⟩) := by
    simpa [pending] using List.perm_append_singleton subject (waiting ++ flights.map Flight.subject)
  constructor
  · exact sound
  · exact moved.nodup_iff.mpr distinct
  · intro s member
    exact listed s (moved.mem_iff.mp member)
  · intro s either
    exact untouched s (either.imp_left (List.mem_cons_of_mem _))
  · intro flight member
    rcases List.mem_append.mp member with member | member
    · exact flying flight member
    · cases List.mem_singleton.mp member
      exact ⟨c, untouched subject (.inl List.mem_cons_self), assured⟩
  · intro s member away
    exact landed s member fun present => away (moved.mem_iff.mpr present)

theorem Disciplined.perform {before after : List Flight} {effect : Effect}
    {resume : effect.Answer → Pass Unit} {answer : effect.Answer}
    (met : Cluster.Meets .calm now effect answer later)
    (disciplined : Disciplined D post c subjects
      ⟨now, waiting, before ++ ⟨subject, .perform effect resume⟩ :: after⟩) :
    Disciplined D post c subjects
      ⟨later, waiting, before ++ ⟨subject, resume answer⟩ :: after⟩ := by
  have alone := disciplined.alone
  obtain ⟨sound, distinct, listed, untouched, flying, landed⟩ := disciplined
  obtain ⟨u, spares, assures⟩ := flying _ List.mem_append_cons_self
  obtain ⟨allowed, _, goes⟩ := assures now ⟨sound, spares⟩
  obtain ⟨sound', others⟩ := D.keeps sound allowed met
  have same : pending ⟨later, waiting, before ++ ⟨subject, resume answer⟩ :: after⟩ =
      pending ⟨now, waiting, before ++ ⟨subject, .perform effect resume⟩ :: after⟩ := by
    simp [pending]
  have here : subject ∈
      pending ⟨now, waiting, before ++ ⟨subject, .perform effect resume⟩ :: after⟩ := by
    simp [pending]
  constructor
  · exact sound'
  · exact same ▸ distinct
  · exact same ▸ listed
  · intro s either
    refine D.trans (untouched s either) (others s ?_)
    rintro rfl
    rcases either with queued | unlisted
    · exact alone (List.mem_append_left _ queued)
    · exact unlisted (listed s here)
  · intro flight member
    rcases List.perm_middle.mem_iff.mp member with _ | ⟨_, member⟩
    · exact ⟨later, D.refl _ _, goes answer later met⟩
    · obtain ⟨v, kept, rest⟩ := flying flight (List.perm_middle.mem_iff.mpr (.tail _ member))
      have other : flight.subject ≠ subject := by
        intro equal
        exact alone (List.mem_append_right _ (List.mem_map.mpr ⟨flight, member, equal⟩))
      exact ⟨v, D.trans kept (others _ other), rest⟩
  · rw [same]
    intro s member away
    obtain ⟨r, v, kept, holds⟩ := landed s member away
    have other : s ≠ subject := by
      rintro rfl
      exact away here
    exact ⟨r, v, D.trans kept (others s other), holds⟩

theorem Disciplined.land {before after : List Flight}
    (disciplined : Disciplined D post c subjects
      ⟨now, waiting, before ++ ⟨subject, .done outcome⟩ :: after⟩) :
    Disciplined D post c subjects ⟨now, waiting, before ++ after⟩ := by
  obtain ⟨sound, distinct, listed, untouched, flying, landed⟩ := disciplined
  constructor
  · exact sound
  · exact (List.nodup_cons.mp (pending_perm.nodup_iff.mp distinct)).2
  · intro s member
    exact listed s (pending_perm.mem_iff.mpr (.tail _ member))
  · exact untouched
  · intro flight member
    exact flying flight (List.perm_middle.mem_iff.mpr (.tail _ member))
  · intro s member away
    by_cases same : s = subject
    · subst same
      obtain ⟨u, kept, holds⟩ := flying _ List.mem_append_cons_self
      exact ⟨outcome, u, kept, holds⟩
    · refine landed s member fun present => ?_
      rcases pending_perm.mem_iff.mp present with _ | ⟨_, present⟩
      · exact same rfl
      · exact away present

variable (assured : ∀ s ∈ subjects, (s.pass settings).Assures D s (post s) c)

include assured

/-- Every step keeps to the discipline. -/
theorem Disciplined.next (disciplined : p.Disciplined D post c subjects)
    (step : p.Step settings q) : q.Disciplined D post c subjects := by
  cases step with
  | launch room =>
    refine disciplined.launch (assured _ (disciplined.listed _ ?_))
    simp [pending]
  | perform met => exact disciplined.perform met
  | land => exact disciplined.land

theorem Disciplined.reaches (disciplined : p.Disciplined D post c subjects)
    (path : p.Path settings q) : q.Disciplined D post c subjects := by
  induction path with
  | refl => exact disciplined
  | tail _ last ih => exact ih.next assured last

/-- When a phase is completed, its passes ended with what they assure, and what belongs to nobody's
pass was left alone. -/
theorem completed (start : D.sound c) (distinct : subjects.Nodup)
    (completes : Completes settings ⟨c, subjects, []⟩ d) :
    D.sound d ∧ (∀ s, s ∉ subjects → D.spares s c d) ∧
      ∀ s ∈ subjects, ∃ r u, D.spares s u d ∧ post s r u := by
  have last := (Disciplined.of_start start distinct).reaches assured completes
  refine ⟨last.sound, fun s unlisted => last.untouched s (.inr unlisted), fun s member => ?_⟩
  exact last.landed s member (by simp [pending])

/-- If the discipline is live, the passes that are under way can all be brought to an end. -/
theorem Disciplined.lands {flights : List Flight} (live : D.live)
    (disciplined : Disciplined D post c subjects ⟨now, waiting, flights⟩) :
    ∃ later, Path settings ⟨now, waiting, flights⟩ ⟨later, waiting, []⟩ := by
  induction flights generalizing now with
  | nil => exact ⟨now, .refl⟩
  | cons flight rest ih =>
    obtain ⟨u, spares, assures⟩ := disciplined.flying flight List.mem_cons_self
    obtain ⟨r, middle, ended⟩ := assures.exists_ends live ⟨disciplined.sound, spares⟩
    have flown : Path settings ⟨now, waiting, [] ++ flight :: rest⟩
        ⟨middle, waiting, [] ++ ⟨flight.subject, .done r⟩ :: rest⟩ := path_of_ends ended
    have landed : Path settings ⟨now, waiting, flight :: rest⟩ ⟨middle, waiting, rest⟩ :=
      flown.tail .land
    obtain ⟨later, others⟩ := ih (disciplined.reaches assured landed)
    exact ⟨later, landed.trans others⟩

/-- However a phase has begun, it can be completed. -/
theorem Disciplined.completes (live : D.live) (room : 1 ≤ settings.maxParallelReconciles)
    (disciplined : p.Disciplined D post c subjects) : ∃ d, p.Completes settings d := by
  obtain ⟨now, waiting, flights⟩ := p
  obtain ⟨later, landed⟩ := disciplined.lands assured live
  replace disciplined := disciplined.reaches assured landed
  suffices rest : ∃ d, Completes settings ⟨later, waiting, []⟩ d by
    obtain ⟨d, completes⟩ := rest
    exact ⟨d, landed.trans completes⟩
  clear landed
  induction waiting generalizing later with
  | nil => exact ⟨later, .refl⟩
  | cons subject waiting ih =>
    have launched : Path settings ⟨later, subject :: waiting, []⟩
        ⟨later, waiting, [⟨subject, subject.pass settings⟩]⟩ := .single (.launch room)
    have begun := disciplined.reaches assured launched
    obtain ⟨next, landed⟩ := begun.lands assured live
    obtain ⟨d, completes⟩ := ih next (begun.reaches assured landed)
    exact ⟨d, launched.trans (landed.trans completes)⟩

end Phase

end BuildController
