import BuildController.Proofs.Demands
import BuildController.Proofs.Registration

/-! The registration of a build. A pass over a build decides whether runs may use it, and it does so
for the demands of the concerns and for nothing else. -/
namespace BuildController

variable {c : Cluster} {build : Build} {key : ObjectKey}

theorem BuildStatus.accepted_ofViolation {found : Option Violation} :
    (BuildStatus.ofViolation found).registered = some .true ∧
      (BuildStatus.ofViolation found).reason = some .succeeded ↔ found = none := by
  cases found with
  | none => simp [BuildStatus.ofViolation, BuildStatus.accepted]
  | some violation => simp [BuildStatus.ofViolation, BuildStatus.rejected]

namespace Cluster

/-- A build has no violation exactly if it meets all concerns. -/
theorem violation?_eq_none : c.violation? build = none ↔ ∀ concern, c.Holds build concern := by
  have complete (concern : Concern) : concern ∈ Concern.ofBuild := by cases concern <;> decide
  rw [violation?, List.findSome?_eq_none_iff]
  exact ⟨fun fine concern => holds_iff.mpr (fine concern (complete concern)),
    fun holds concern _ => holds_iff.mp (holds concern)⟩

end Cluster

namespace Build

/-- Without hazards, a pass over a stored build ends, and the build is registered exactly if it
meets all twelve concerns. Otherwise it is turned down, for the reason of the first concern that it
does not meet and for no other. -/
theorem register_decides (filed : c.Filed) (stored : c.builds.get? key = some build) :
    (∃ r d, (register key.ns key.name).Ends (Cluster.Meets .calm) c r d) ∧
      ∀ r d, (register key.ns key.name).Ends (Cluster.Meets .calm) c r d →
        r = .ok () ∧ ∃ status, d.builds.get? key = some { build with status } ∧
          (status.registered = some .true ∧ status.reason = some .succeeded ↔
            ∀ concern, c.Holds build concern) ∧
          ((∃ concern, ¬c.Holds build concern) → status.registered = some .false ∧
            ∃ reason, status.reason = some reason ∧
              ∀ other, c.TurnsDown build [.ownerReferences, .sourceUrl, .secrets, .strategy,
                .source, .buildName, .env, .output, .triggers, .nodeSelector, .tolerations,
                .schedulerName] other ↔ other = reason) := by
  have registers := assures_register filed key
  have sound : c.registration.sound c := Cluster.Reviewed.refl c
  refine ⟨registers.exists_ends trivial (.refl sound), fun r d ended => ?_⟩
  have registered := registers.ends sound ended
  refine ⟨registered.ended, _, registered.status build stored, ?_, ?_⟩
  · rw [BuildStatus.accepted_ofViolation, Cluster.violation?_eq_none]
  · intro violated
    cases found : c.violation? build with
    | none =>
      obtain ⟨concern, broken⟩ := violated
      exact (broken (Cluster.violation?_eq_none.mp found concern)).elim
    | some violation =>
      refine ⟨rfl, violation.reason, rfl, fun other => ?_⟩
      change c.TurnsDown build Concern.ofBuild other ↔ other = violation.reason
      rw [Cluster.turnsDown_iff, ← Cluster.violation?, found, Option.map_some, Option.some.injEq,
        eq_comm]

/-- Of two violations the one of the strategy counts. -/
theorem register_decides_missing :
    let build : Build :=
      { metadata := { name := "app" }
        spec := { strategy := { name := "kaniko" }, output := { image := "app" }
                  env := [{ name := " " }] } }
    ∀ r d, (register "" "app").Ends (Cluster.Meets .calm) (Cluster.put {} (.build build)) r d →
      r = .ok () ∧ ∃ status, d.builds.get? ⟨"", "app"⟩ = some { build with status } ∧
        status.registered = some .false ∧ status.reason = some .strategyNotFound := by
  intro build r d ended
  have filed : (Cluster.put {} (.build build)).Filed := Cluster.filed_empty.put (.build build)
  have stored : (Cluster.put {} (.build build)).builds.get? ⟨"", "app"⟩ = some build :=
    OrderedMap.get?_insert_self _ _ _
  obtain ⟨done, status, kept, -, rejects⟩ := (register_decides filed stored).2 r d ended
  have down : (Cluster.put {} (.build build)).TurnsDown build Concern.ofBuild .strategyNotFound :=
    Cluster.turnsDown_iff.mpr rfl
  have violated : ¬(Cluster.put {} (.build build)).Holds build .strategy := fun holds =>
    nomatch Cluster.holds_iff.mp holds
  obtain ⟨rejected, reason, said, only⟩ := rejects ⟨_, violated⟩
  exact ⟨done, status, kept, rejected, (only _).mp down ▸ said⟩

end Build

end BuildController
