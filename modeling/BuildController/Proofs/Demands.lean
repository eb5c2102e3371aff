import BuildController.Proofs.Labels
import BuildController.Proofs.Ownership

/-! What the concerns demand of a build, stated without the checks. Each demand comes with the
reason that a build gets that does not meet it. A build that fails several gets the first one's. -/
namespace BuildController

/-- Something that has to hold, and the reason for which a build fails otherwise. -/
structure Demand where
  reason : BuildReason
  met : Prop

namespace Demand

/-- The reason of the first demand that is not met, if there is one. -/
inductive Finds : List Demand → Option BuildReason → Prop
  | nothing : Finds [] none
  | unmet (fails : ¬demand.met) : Finds (demand :: rest) (some demand.reason)
  | met (holds : demand.met) (later : Finds rest found) : Finds (demand :: rest) found

theorem Finds.unique (finds : Finds demands found) (again : Finds demands other) :
    found = other := by
  induction finds with
  | nothing => cases again; rfl
  | unmet fails =>
    cases again with
    | unmet => rfl
    | met holds => exact (fails holds).elim
  | met holds _ ih =>
    cases again with
    | unmet fails => exact (fails holds).elim
    | met _ later => exact ih later

theorem finds_none : Finds demands none ↔ ∀ demand ∈ demands, demand.met := by
  induction demands with
  | nil => simpa using Finds.nothing
  | cons demand rest ih =>
    rw [List.forall_mem_cons, ← ih]
    constructor
    · rintro (_ | _ | ⟨holds, later⟩)
      exact ⟨holds, later⟩
    · exact fun both => .met both.1 both.2

theorem Finds.append (first : Finds demands found) (second : Finds others other) :
    Finds (demands ++ others) (found.or other) := by
  induction first with
  | nothing => exact second
  | unmet fails => exact .unmet fails
  | met holds _ ih => exact .met holds ih

/-- Checks in turn find the first demand that is not met, if each of them does. -/
theorem finds_flatMap {check : α → Option Violation} {demands : α → List Demand}
    (each : ∀ a, Finds (demands a) ((check a).map Violation.reason)) (items : List α) :
    Finds (items.flatMap demands) ((items.findSome? check).map Violation.reason) := by
  induction items with
  | nil => exact .nothing
  | cons a rest ih =>
    have both := (each a).append ih
    rw [List.flatMap_cons, List.findSome?_cons]
    cases found : check a with
    | none => simpa [found] using both
    | some violation => simpa [found] using both

/-- A check that has one reason only finds whether the one demand is met. -/
theorem finds_single {found : Option Violation} {demand : Demand}
    (fine : found = none ↔ demand.met)
    (reasons : ∀ violation, found = some violation → violation.reason = demand.reason) :
    Finds [demand] (found.map Violation.reason) := by
  cases found with
  | none => exact .met (fine.mp rfl) .nothing
  | some violation =>
    rw [Option.map_some, reasons violation rfl]
    exact .unmet fun holds => nomatch fine.mpr holds

end Demand

/-- The text is the URL of something that is fetched over HTTP. -/
def Url.Web (text : String) (url : Url) : Prop :=
  Url.ofText? text = some url ∧ (url.scheme = "http" ∨ url.scheme = "https")

structure HttpSource.Usable (source : HttpSource) : Prop where
  named : source.name ≠ ""
  free : source.name ≠ SourceSteps.defaultName
  address : ∃ url, Url.Web source.url url

def EnvVar.demands (v : EnvVar) : List Demand :=
  [⟨.envNameBlank, ∃ c ∈ v.name.toList, Text.isBlank c = false⟩,
    ⟨.envValueAmbiguous, ¬(v.value.getD "" ≠ "" ∧ v.valueFrom ≠ none)⟩]

/-- The event has the part that belongs to its type, and the part says what is waited for. -/
inductive TriggerEvent.Complete (event : TriggerEvent) : Prop
  | github (kind : event.type = githubType) (part : event.github = some pushes)
      (events : pushes.events ≠ [])
  | image (kind : event.type = imageType) (part : event.image = some images)
      (names : images.names ≠ [])
  | pipeline (kind : event.type = pipelineType) (part : event.objectRef = some objects)
      (status : objects.status ≠ [])
      (selected : objects.name ≠ none ∨ objects.selector.entries ≠ [])

structure Toleration.Valid (t : Toleration) : Prop where
  key : Label.QualifiedName t.key.toList
  operator : t.operator = some equalOperator ∨ t.operator = some existsOperator ∧ t.value = ""
  value : Label.Value t.value.toList
  effect : t.effect = "" ∨ t.effect = supportedEffect

/-- The kind that the reference gives. It is that of one namespace if it gives none. -/
def StrategyRef.Means (ref : StrategyRef) (kind : StrategyKind) : Prop :=
  ref.kind.getD StrategyKind.namespaced.text = kind.text

namespace BuildSpec

/-- The auxiliary sources can be told apart, and all of them can be fetched. -/
structure SourcesUsable (spec : BuildSpec) : Prop where
  usable : ∀ source ∈ spec.sources, source.Usable
  distinct : (spec.sources.map (·.name)).Nodup

/-- The spec has a main source that is not empty. -/
def HasGitSource (spec : BuildSpec) : Prop := ∃ source, spec.source = some source ∧ source.url ≠ ""

def timestampDemands (spec : BuildSpec) : List Demand :=
  [⟨.outputTimestampNotSupported, spec.output.timestamp = some Image.sourceTimestamp →
      spec.HasGitSource⟩,
    ⟨.outputTimestampNotValid, ∀ timestamp, spec.output.timestamp = some timestamp →
      timestamp ∈ ["", "Zero", "BuildTimestamp", "SourceTimestamp"] ∨
        ∃ seconds, Text.int64? timestamp = some seconds⟩]

end BuildSpec

namespace Cluster

/-- No run of a build that is to take its runs along is controlled without being owned by it. -/
def Ownable (c : Cluster) (build : Build) : Prop :=
  build.spec.retention.bind (·.atBuildDeletion) = some true →
    ∀ name run, c.runs.get? ⟨build.metadata.namespaceName, name⟩ = some run →
      run.metadata.labels.get? buildLabel = some build.metadata.name →
      (∃ r ∈ run.metadata.ownerReferences, r.controller = some true) →
      ∃ r ∈ run.metadata.ownerReferences, r.kind = Build.kind ∧ r.name = build.metadata.name

/-- A repository that has to be probed and that needs no secret can be reached. -/
def Reachable (c : Cluster) (build : Build) : Prop :=
  build.metadata.annotationEnabled Build.verifyAnnotation = true →
    ∀ source, build.spec.source = some source → source.url ≠ "" → source.cloneSecret = none →
      ∃ url, Url.Web source.url url ∧ c.reaches url = true

/-- The namespace of the build has the secret, if one is named. -/
def HasSecret (c : Cluster) (build : Build) (secret : Option String) : Prop :=
  ∀ name, secret = some name → c.secrets.contains ⟨build.metadata.namespaceName, name⟩ = true

def secretDemands (c : Cluster) (build : Build) : List Demand :=
  let clone := c.HasSecret build (build.spec.source.bind (·.cloneSecret))
  let push := c.HasSecret build build.spec.output.pushSecret
  [⟨.severalSecretsNotFound, clone ∨ push⟩, ⟨.sourceSecretNotFound, clone⟩,
    ⟨.outputSecretNotFound, push⟩]

/-- The strategy that the reference stands for in the namespace. -/
inductive Provides (c : Cluster) (ns : String) (ref : StrategyRef) : BuildStrategy → Prop
  | namespaced (means : ref.Means .namespaced)
      (stored : c.strategies.get? ⟨ns, ref.name⟩ = some strategy) : Provides c ns ref strategy
  | cluster (means : ref.Means .cluster)
      (stored : c.clusterStrategies.get? ref.name = some strategy) : Provides c ns ref strategy

def strategyDemands (c : Cluster) (build : Build) : List Demand :=
  let ref := build.spec.strategy
  let values := build.spec.paramValues
  let provides := c.Provides build.metadata.namespaceName ref
  [⟨.unknownStrategyKind, ∃ kind, ref.Means kind⟩,
    ⟨.strategyNotFound, ref.Means .namespaced → ∃ strategy, provides strategy⟩,
    ⟨.clusterStrategyNotFound, ref.Means .cluster → ∃ strategy, provides strategy⟩,
    ⟨.restrictedParameters, ∀ v ∈ values, ¬ownParamMark.toList <+: v.name.toList⟩,
    ⟨.undefinedParameter, ∀ strategy, provides strategy →
      ∀ v ∈ values, ∃ p ∈ strategy.spec.parameters, p.name = v.name⟩,
    ⟨.missingParameterValues, ∀ strategy, provides strategy →
      ∀ p ∈ strategy.spec.parameters, p.default = none → ∃ v ∈ values, v.name = p.name⟩]

/-- What a concern demands of a build. -/
def demands (c : Cluster) (build : Build) : Concern → List Demand
  | .ownerReferences => [⟨.ownerReferenceFailed, c.Ownable build⟩]
  | .sourceUrl => [⟨.repositoryUnreachable, c.Reachable build⟩]
  | .secrets => c.secretDemands build
  | .strategy => c.strategyDemands build
  | .source => [⟨.sourceNotValid, build.spec.SourcesUsable⟩]
  | .buildName =>
    [⟨.nameInvalid, build.metadata.name ≠ "" ∧ Label.Value build.metadata.name.toList⟩]
  | .env => build.spec.env.flatMap EnvVar.demands
  | .output => build.spec.timestampDemands
  | .triggers => [⟨.triggerNotValid, ∀ trigger, build.spec.trigger = some trigger →
      ∀ event ∈ trigger.events, event.Complete⟩]
  | .nodeSelector =>
    [⟨.nodeSelectorNotValid, ∀ key value, build.spec.nodeSelector.get? key = some value →
      Label.QualifiedName key.toList ∧ Label.Value value.toList⟩]
  | .tolerations => [⟨.tolerationNotValid, ∀ t ∈ build.spec.tolerations, t.Valid⟩]
  | .schedulerName =>
    [⟨.schedulerNameNotValid, ∀ name, build.spec.schedulerName = some name → name ≠ "" →
      Label.QualifiedName name.toList⟩]

/-- The build meets a concern. -/
def Holds (c : Cluster) (build : Build) (concern : Concern) : Prop :=
  ∀ demand ∈ c.demands build concern, demand.met

/-- The first concern that the build does not meet turns it down for the reason. -/
inductive TurnsDown (c : Cluster) (build : Build) : List Concern → BuildReason → Prop
  | first (violated : Demand.Finds (c.demands build concern) (some reason)) :
      TurnsDown c build (concern :: rest) reason
  | later (holds : c.Holds build concern) (down : TurnsDown c build rest reason) :
      TurnsDown c build (concern :: rest) reason

end Cluster

open Demand

variable {c : Cluster} {build : Build}

theorem Url.web_iff : Url.Web text url ↔ (Url.ofText? text).filter Url.isHttp = some url := by
  simp [Url.Web, Option.filter_eq_some_iff, Url.isHttp]

namespace Build

theorem blocker?_eq_none {run : Metadata} : build.blocker? retain run = none ↔
    (retain = true → (∃ r ∈ run.ownerReferences, r.controller = some true) →
      ∃ r ∈ run.ownerReferences, r.kind = Build.kind ∧ r.name = build.metadata.name) := by
  simp only [← namesBuild_iff, ← List.any_eq_true]
  unfold blocker? adjustment
  cases run.ownerReferences.any (OwnerReference.namesBuild build) with
  | true => cases retain <;> simp
  | false =>
    cases retain with
    | false => simp
    | true =>
      cases found : run.ownerReferences.find? fun r => r.controller = some true with
      | none => simpa using List.find?_eq_none.mp found
      | some controller =>
        have controls : controller.controller = some true := by
          simpa using List.find?_some found
        simpa using ⟨controller, List.mem_of_find?_eq_some found, controls⟩

theorem reason_of_blocker? {run : Metadata} (blocked : build.blocker? retain run = some violation) :
    violation.reason = .ownerReferenceFailed := by
  unfold blocker? at blocked
  split at blocked
  · cases blocked
    rfl
  · cases blocked
  · cases blocked

end Build

namespace Cluster

theorem reason_of_ownershipVerdict (found : c.ownershipVerdict build = some violation) :
    violation.reason = .ownerReferenceFailed := by
  rw [ownershipVerdict_eq] at found
  obtain ⟨retain, -, found⟩ := Option.bind_eq_some_iff.mp found
  obtain ⟨run, -, blocked⟩ := List.exists_of_findSome?_eq_some found
  exact Build.reason_of_blocker? blocked

theorem finds_ownerReferences :
    Finds (c.demands build .ownerReferences) ((c.ownershipVerdict build).map Violation.reason) := by
  refine finds_single ?_ fun violation => reason_of_ownershipVerdict
  · rw [ownershipVerdict_eq]
    simp only [Ownable]
    cases build.spec.retention.bind (·.atBuildDeletion) with
    | none => simp
    | some retain =>
      simp only [Option.bind_some, List.findSome?_eq_none_iff, List.forall_mem_map,
        Build.blocker?_eq_none, mem_runsOf]
      constructor
      · intro blockless same name run stored labelled
        exact blockless run ⟨⟨name, stored⟩, labelled⟩ (Option.some.inj same)
      · rintro ownable run ⟨⟨name, stored⟩, labelled⟩ rfl
        exact ownable rfl name run stored labelled

theorem probedSource?_eq_some : probedSource? build = some source ↔
    build.metadata.annotationEnabled Build.verifyAnnotation = true ∧
      build.spec.source = some source ∧ source.url ≠ "" ∧ source.cloneSecret = none := by
  rw [probedSource?, Option.ite_none_right_eq_some, Option.filter_eq_some_iff, BuildSpec.gitSource?,
    Option.filter_eq_some_iff]
  simp [and_assoc]

theorem finds_sourceUrl :
    Finds (c.demands build .sourceUrl) ((c.repositoryVerdict build).map Violation.reason) := by
  have reachable : c.Reachable build ↔ ∀ source, probedSource? build = some source →
      ∃ url, Url.Web source.url url ∧ c.reaches url = true := by
    simp only [Reachable, probedSource?_eq_some]
    exact ⟨fun reach source both => reach both.1 source both.2.1 both.2.2.1 both.2.2.2,
      fun reach asked source given url free => reach source ⟨asked, given, url, free⟩⟩
  refine finds_single ?_ fun violation found => ?_
  · rw [reachable, repositoryVerdict]
    cases probedSource? build with
    | none => simp
    | some source =>
      simp only [Option.some.injEq, forall_eq', Url.web_iff]
      cases (Url.ofText? source.url).filter Url.isHttp with
      | none => simp
      | some url => simp
  · unfold repositoryVerdict at found
    split at found
    · cases found
    · split at found
      · cases found
        rfl
      · split at found
        · cases found
        · cases found
          rfl

theorem lackedSecret?_eq_none {secret : Option String} :
    c.lackedSecret? build.metadata.namespaceName secret = none ↔ c.HasSecret build secret := by
  simp [lackedSecret?, HasSecret, Option.filter_eq_none_iff]

theorem finds_secrets :
    Finds (c.demands build .secrets) ((c.secretsVerdict build).map Violation.reason) := by
  simp only [demands, secretDemands, ← lackedSecret?_eq_none, secretsVerdict]
  cases c.lackedSecret? build.metadata.namespaceName (build.spec.source.bind (·.cloneSecret)) with
  | none =>
    cases c.lackedSecret? build.metadata.namespaceName build.spec.output.pushSecret with
    | none => exact .met (.inl rfl) (.met rfl (.met rfl .nothing))
    | some push => exact .met (.inl rfl) (.met rfl (.unmet nofun))
  | some clone =>
    cases c.lackedSecret? build.metadata.namespaceName build.spec.output.pushSecret with
    | none => exact .met (.inr rfl) (.unmet nofun)
    | some push => exact .unmet nofun

theorem resolvedKind_eq_ok {ref : StrategyRef} : ref.resolvedKind = .ok kind ↔ ref.Means kind := by
  unfold StrategyRef.resolvedKind StrategyRef.Means
  cases ref.kind with
  | none => cases kind <;> simp [StrategyKind.text]
  | some text =>
    by_cases namespaced : text = StrategyKind.namespaced.text
    · subst namespaced
      cases kind <;> simp [StrategyKind.text]
    · by_cases cluster : text = StrategyKind.cluster.text
      · subst cluster
        cases kind <;> simp [StrategyKind.text]
      · cases kind <;> simp [namespaced, cluster]

theorem provides_iff : c.Provides ns ref strategy ↔ c.strategyOf ns ref = .ok strategy := by
  constructor
  · rintro (⟨means, stored⟩ | ⟨means, stored⟩) <;>
    simp [strategyOf, resolvedKind_eq_ok.mpr means, stored]
  · unfold strategyOf
    cases kind : ref.resolvedKind with
    | error text =>
      intro found
      cases found
    | ok means =>
      cases means with
      | namespaced =>
        cases stored : c.strategies.get? ⟨ns, ref.name⟩ with
        | none =>
          intro found
          cases found
        | some found =>
          rintro ⟨⟩
          exact .namespaced (resolvedKind_eq_ok.mp kind) stored
      | cluster =>
        cases stored : c.clusterStrategies.get? ref.name with
        | none =>
          intro found
          cases found
        | some found =>
          rintro ⟨⟩
          exact .cluster (resolvedKind_eq_ok.mp kind) stored

theorem restrictedParams_eq_nil {values : List ParamValue} : restrictedParams values = [] ↔
    ∀ v ∈ values, ¬ownParamMark.toList <+: v.name.toList := by
  simp [restrictedParams, List.filter_eq_nil_iff, Text.beginsWith]

theorem undefinedParams_eq_nil {values : List ParamValue} {strategy : StrategySpec} :
    undefinedParams values strategy = [] ↔
      ∀ v ∈ values, ∃ p ∈ strategy.parameters, p.name = v.name := by
  simp [undefinedParams, List.filter_eq_nil_iff]

theorem missingParams_eq_nil {values : List ParamValue} {strategy : StrategySpec} :
    missingParams values strategy = [] ↔
      ∀ p ∈ strategy.parameters, p.default = none → ∃ v ∈ values, v.name = p.name := by
  simp [missingParams, List.filter_eq_nil_iff]

/-- A strategy that is found leaves the demands on the values. -/
theorem finds_params {values : List ParamValue} {strategy : StrategySpec} :
    Finds [⟨.restrictedParameters, restrictedParams values = []⟩,
      ⟨.undefinedParameter, undefinedParams values strategy = []⟩,
      ⟨.missingParameterValues, missingParams values strategy = []⟩]
      ((paramsViolation? values strategy).map Violation.reason) := by
  unfold paramsViolation?
  split
  · next restricted => exact .unmet restricted
  · next free =>
    refine .met (not_not.mp free) ?_
    split
    · next undefined => exact .unmet undefined
    · next defined =>
      refine .met (not_not.mp defined) ?_
      split
      · next missing => exact .unmet missing
      · next complete => exact .met (not_not.mp complete) .nothing

theorem finds_strategy :
    Finds (c.demands build .strategy) ((c.strategyVerdict build).map Violation.reason) := by
  simp only [demands, strategyDemands, provides_iff, ← resolvedKind_eq_ok, strategyVerdict]
  cases found : c.strategyOf build.metadata.namespaceName build.spec.strategy with
  | ok strategy =>
    obtain ⟨kind, known⟩ : ∃ kind, build.spec.strategy.resolvedKind = .ok kind := by
      cases known : build.spec.strategy.resolvedKind with
      | ok kind => exact ⟨kind, rfl⟩
      | error text => simp [strategyOf, known] at found
    refine .met ⟨kind, known⟩ (.met (fun _ => ⟨strategy, rfl⟩) (.met (fun _ => ⟨strategy, rfl⟩) ?_))
    -- There is one strategy to be asked for, so the demands on the values are those that it makes.
    simp only [Except.ok.injEq, forall_eq', ← restrictedParams_eq_nil, ← undefinedParams_eq_nil,
      ← missingParams_eq_nil]
    exact finds_params
  | error violation =>
    -- The kind says where to look, and the demand on the other place is met.
    unfold strategyOf at found
    cases known : build.spec.strategy.resolvedKind with
    | error text =>
      simp only [known] at found
      cases found
      exact .unmet (by simp)
    | ok kind =>
      cases kind with
      | namespaced =>
        simp only [known] at found
        split at found <;> cases found
        exact .met ⟨_, rfl⟩ (.unmet (by simp))
      | cluster =>
        simp only [known] at found
        split at found <;> cases found
        exact .met ⟨_, rfl⟩ (.met (by simp) (.unmet (by simp)))

end Cluster

theorem HttpSource.problem?_eq_none {source : HttpSource} :
    source.problem? earlier = none ↔ source.Usable ∧ source.name ∉ earlier := by
  have web : (∃ url, Url.Web source.url url) ↔
      source.url ≠ "" ∧ ((Url.ofText? source.url).map Url.isHttp).getD false = true := by
    constructor
    · rintro ⟨url, read, http⟩
      have nothing : Url.ofText? "" = none := by decide
      refine ⟨fun empty => ?_, by simpa [read, Url.isHttp] using http⟩
      rw [empty, nothing] at read
      cases read
    · rintro ⟨-, http⟩
      cases read : Url.ofText? source.url with
      | none => simp [read] at http
      | some url => exact ⟨url, read, by simpa [read, Url.isHttp] using http⟩
  have usable : source.Usable ↔ source.name ≠ "" ∧ source.name ≠ SourceSteps.defaultName ∧
      ∃ url, Url.Web source.url url :=
    ⟨fun usable => ⟨usable.named, usable.free, usable.address⟩, fun h => ⟨h.1, h.2.1, h.2.2⟩⟩
  rw [usable, web]
  unfold problem?
  split_ifs <;> simp_all

theorem HttpSource.firstProblem?_eq_none (sources : List HttpSource) (earlier : List String) :
    firstProblem? earlier sources = none ↔ (∀ source ∈ sources, source.Usable) ∧
      (∀ source ∈ sources, source.name ∉ earlier) ∧ (sources.map (·.name)).Nodup := by
  induction sources generalizing earlier with
  | nil => simp [firstProblem?]
  | cons source rest ih =>
    have fresh : (∀ other ∈ rest, other.name ∉ source.name :: earlier) ↔
        (∀ other ∈ rest, other.name ∉ earlier) ∧ source.name ∉ rest.map (·.name) := by
      rw [List.mem_map]
      grind
    -- The loop compares later names with this one, `Nodup` compares this one with later names.
    rw [firstProblem?, Option.or_eq_none_iff, problem?_eq_none, ih, fresh, List.forall_mem_cons,
      List.forall_mem_cons, List.map_cons, List.nodup_cons]
    tauto

namespace BuildSpec

theorem sourcesViolation?_eq_none {spec : BuildSpec} :
    spec.sourcesViolation? = none ↔ spec.SourcesUsable := by
  rw [sourcesViolation?, Option.map_eq_none_iff, HttpSource.firstProblem?_eq_none]
  constructor
  · rintro ⟨usable, -, distinct⟩
    exact ⟨usable, distinct⟩
  · rintro ⟨usable, distinct⟩
    exact ⟨usable, by simp, distinct⟩

end BuildSpec

theorem EnvVar.finds_demands (v : EnvVar) :
    Finds v.demands (v.violation?.map Violation.reason) := by
  have blank : Text.blank v.name = true ↔ ¬∃ c ∈ v.name.toList, Text.isBlank c = false := by
    simp [Text.blank]
  have ambiguous : (v.hasValue && v.valueFrom.isSome) = true ↔
      v.value.getD "" ≠ "" ∧ v.valueFrom ≠ none := by
    simp [hasValue, Option.isSome_iff_ne_none]
  unfold violation? demands
  split
  · next unnamed => exact .unmet (blank.mp unnamed)
  · next named =>
    refine .met (not_not.mp fun nameless => named (blank.mpr nameless)) ?_
    split
    · next both => exact .unmet fun plain => plain (ambiguous.mp both)
    · next plain => exact .met (fun both => plain (ambiguous.mpr both)) .nothing

theorem BuildSpec.hasGitSource_iff {spec : BuildSpec} :
    spec.gitSource?.isSome = true ↔ spec.HasGitSource := by
  unfold gitSource? HasGitSource
  cases spec.source <;> simp

theorem BuildSpec.finds_timestampDemands {spec : BuildSpec} :
    Finds spec.timestampDemands (spec.outputViolation?.map Violation.reason) := by
  have known (timestamp : String) :
      timestamp ∈ ["", "Zero", "BuildTimestamp", "SourceTimestamp"] ↔
        timestamp ∈ Image.freeTimestamps ∨ timestamp = Image.sourceTimestamp := by
    simp [Image.freeTimestamps, Image.sourceTimestamp, or_assoc]
  unfold timestampDemands outputViolation?
  cases spec.output.timestamp with
  | none => exact .met nofun (.met nofun .nothing)
  | some timestamp =>
    simp only [Option.some.injEq, forall_eq', ← hasGitSource_iff, known]
    split
    · next free =>
      refine .met (fun same => ?_) (.met (.inl (.inl free)) .nothing)
      rw [same] at free
      exact absurd free (by decide)
    · next bound =>
      split
      · next same =>
        split
        · next git => exact .met (fun _ => git) (.met (.inl (.inr same)) .nothing)
        · next none => exact .unmet fun git => none (git same)
      · next other =>
        refine .met (fun same => (other same).elim) ?_
        split
        · next number => exact .met (.inr (Option.isSome_iff_exists.mp number)) .nothing
        · next wrong =>
          refine .unmet ?_
          rintro ((free | same) | number)
          · exact bound free
          · exact other same
          · exact wrong (Option.isSome_iff_exists.mpr number)

namespace TriggerEvent

/-- The type of an event decides which part of it counts. -/
theorem problem?_eq_none {event : TriggerEvent} : event.problem? = none ↔ event.Complete := by
  unfold problem?
  split
  · next github =>
    constructor
    · intro fine
      cases part : event.github with
      | none => simp [part] at fine
      | some pushes => exact .github github part (by simpa [part] using fine)
    · rintro (⟨-, part, events⟩ | ⟨image, -, -⟩ | ⟨pipeline, -, -, -⟩)
      · simpa [part] using events
      · exact absurd (github.symm.trans image) (by decide)
      · exact absurd (github.symm.trans pipeline) (by decide)
  · next noGithub =>
    split
    · next image =>
      constructor
      · intro fine
        cases part : event.image with
        | none => simp [part] at fine
        | some images => exact .image image part (by simpa [part] using fine)
      · rintro (⟨github, -, -⟩ | ⟨-, part, names⟩ | ⟨pipeline, -, -, -⟩)
        · exact (noGithub github).elim
        · simpa [part] using names
        · exact absurd (image.symm.trans pipeline) (by decide)
    · next noImage =>
      split
      · next pipeline =>
        constructor
        · intro fine
          cases part : event.objectRef with
          | none => simp [part] at fine
          | some objects =>
            simp only [part] at fine
            split_ifs at fine with silent unselected
            refine .pipeline pipeline part (by simpa using silent) ?_
            simpa [OrderedMap.isEmpty, or_iff_not_imp_left] using unselected
        · rintro (⟨github, -, -⟩ | ⟨image, -, -⟩ | ⟨-, part, status, selected⟩)
          · exact (noGithub github).elim
          · exact (noImage image).elim
          · simpa [part, status, OrderedMap.isEmpty, or_iff_not_imp_left] using selected
      · next noPipeline =>
        refine iff_of_false (Option.some_ne_none _) ?_
        rintro (⟨github, -, -⟩ | ⟨image, -, -⟩ | ⟨pipeline, -, -, -⟩)
        · exact noGithub github
        · exact noImage image
        · exact noPipeline pipeline

end TriggerEvent

namespace Toleration

theorem operatorProblem?_eq_none {operator : Option String} {value : String} :
    operatorProblem? (operator.getD "") value = none ↔
      operator = some equalOperator ∨ operator = some existsOperator ∧ value = "" := by
  cases operator with
  | none => simp [operatorProblem?, existsOperator, equalOperator]
  | some operator =>
    simp only [Option.getD_some, Option.some.injEq, operatorProblem?]
    split_ifs with present empty equal missing
    · simp [present, empty]
    · simp [present, empty, existsOperator, equalOperator]
    · simp [equal]
    · simp [present, equal]
    · simp [present, equal]

theorem effectProblem?_eq_none {t : Toleration} : t.effectProblem? = none ↔
    Label.Value t.value.toList ∧ (t.effect = "" ∨ t.effect = supportedEffect) := by
  unfold effectProblem?
  rw [← Label.valueProblems_eq_nil]
  split
  · next fine => simp [fine, or_iff_not_imp_left]
  · next wrong => exact iff_of_false nofun fun both => wrong both.1

theorem problem?_eq_none {t : Toleration} : t.problem? = none ↔ t.Valid := by
  have valid : t.Valid ↔ Label.QualifiedName t.key.toList ∧
      (t.operator = some equalOperator ∨ t.operator = some existsOperator ∧ t.value = "") ∧
      Label.Value t.value.toList ∧ (t.effect = "" ∨ t.effect = supportedEffect) :=
    ⟨fun valid => ⟨valid.key, valid.operator, valid.value, valid.effect⟩,
      fun h => ⟨h.1, h.2.1, h.2.2.1, h.2.2.2⟩⟩
  rw [valid, ← operatorProblem?_eq_none, ← effectProblem?_eq_none, ← Label.nameProblems_eq_nil]
  unfold problem?
  split
  · next fine => rw [Option.or_eq_none_iff, and_iff_right fine]
  · next wrong => exact iff_of_false nofun fun both => wrong both.1

end Toleration

theorem reason_of_nodeSelectorViolation? {entry : String × String}
    (found : nodeSelectorViolation? entry = some violation) :
    violation.reason = .nodeSelectorNotValid := by
  unfold nodeSelectorViolation? at found
  split at found <;> cases found <;> rfl

theorem nodeSelectorViolation?_eq_none {entry : String × String} :
    nodeSelectorViolation? entry = none ↔
      Label.QualifiedName entry.1.toList ∧ Label.Value entry.2.toList := by
  rw [← Label.nameProblems_eq_nil, ← Label.valueProblems_eq_nil]
  unfold nodeSelectorViolation?
  split
  · next name value => simp [name, value]
  · next name wrong => exact iff_of_false nofun fun both => wrong both.2
  · next wrong => exact iff_of_false nofun fun both => wrong both.1 both.2

namespace BuildSpec

variable {spec : BuildSpec}

theorem triggersViolation?_eq_none : spec.triggersViolation? = none ↔
    ∀ trigger, spec.trigger = some trigger → ∀ event ∈ trigger.events, event.Complete := by
  unfold triggersViolation?
  cases spec.trigger <;> simp [TriggerEvent.problem?_eq_none]

theorem nodeSelectorViolation?_eq_none : spec.nodeSelectorViolation? = none ↔
    ∀ key value, spec.nodeSelector.get? key = some value →
      Label.QualifiedName key.toList ∧ Label.Value value.toList := by
  simp only [nodeSelectorViolation?, List.findSome?_eq_none_iff,
    BuildController.nodeSelectorViolation?_eq_none, Prod.forall, OrderedMap.mem_entries]

theorem tolerationsViolation?_eq_none :
    spec.tolerationsViolation? = none ↔ ∀ t ∈ spec.tolerations, t.Valid := by
  simp [tolerationsViolation?, Toleration.problem?_eq_none]

theorem schedulerNameViolation?_eq_none : spec.schedulerNameViolation? = none ↔
    ∀ name, spec.schedulerName = some name → name ≠ "" → Label.QualifiedName name.toList := by
  unfold schedulerNameViolation?
  cases spec.schedulerName with
  | none => simp
  | some name =>
    simp only [Option.getD_some, Option.some.injEq, forall_eq', ← Label.nameProblems_eq_nil]
    split
    · simp
    · next named =>
      split
      · next fine => simp [fine]
      · next wrong => exact iff_of_false nofun fun fine => wrong (fine named)

theorem reason_of_schedulerNameViolation? (found : spec.schedulerNameViolation? = some violation) :
    violation.reason = .schedulerNameNotValid := by
  unfold schedulerNameViolation? at found
  split at found
  · cases found
  · split at found <;> cases found
    rfl

end BuildSpec

theorem Build.reason_of_nameViolation? (found : build.nameViolation? = some violation) :
    violation.reason = .nameInvalid := by
  unfold nameViolation? at found
  split at found
  · cases found
    rfl
  · split at found <;> cases found
    rfl

theorem Build.nameViolation?_eq_none : build.nameViolation? = none ↔
    build.metadata.name ≠ "" ∧ Label.Value build.metadata.name.toList := by
  rw [← Label.valueProblems_eq_nil]
  unfold nameViolation?
  split
  · next unnamed => simp [unnamed]
  · next named =>
    split
    · next fine => simp [named, fine]
    · next wrong => exact iff_of_false nofun fun both => wrong both.2

namespace Cluster

/-- The checks of a concern find the first of its demands that is not met. -/
theorem finds_demands (concern : Concern) :
    Finds (c.demands build concern) ((c.verdict build concern).map Violation.reason) := by
  cases concern with
  | ownerReferences => exact finds_ownerReferences
  | sourceUrl => exact finds_sourceUrl
  | secrets => exact finds_secrets
  | strategy => exact finds_strategy
  | env => exact finds_flatMap EnvVar.finds_demands _
  | output => exact BuildSpec.finds_timestampDemands
  | source =>
    refine finds_single BuildSpec.sourcesViolation?_eq_none fun violation found => ?_
    obtain ⟨problem, -, rfl⟩ := Option.map_eq_some_iff.mp found
    rfl
  | buildName =>
    exact finds_single Build.nameViolation?_eq_none fun _ => Build.reason_of_nameViolation?
  | schedulerName =>
    exact finds_single BuildSpec.schedulerNameViolation?_eq_none fun _ =>
      BuildSpec.reason_of_schedulerNameViolation?
  | nodeSelector =>
    refine finds_single BuildSpec.nodeSelectorViolation?_eq_none fun violation found => ?_
    obtain ⟨entry, -, found⟩ := List.exists_of_findSome?_eq_some found
    exact reason_of_nodeSelectorViolation? found
  | triggers =>
    refine finds_single BuildSpec.triggersViolation?_eq_none fun violation found => ?_
    obtain ⟨event, -, found⟩ := List.exists_of_findSome?_eq_some found
    obtain ⟨problem, -, rfl⟩ := Option.map_eq_some_iff.mp found
    rfl
  | tolerations =>
    refine finds_single BuildSpec.tolerationsViolation?_eq_none fun violation found => ?_
    obtain ⟨problem, -, rfl⟩ := Option.map_eq_some_iff.mp found
    rfl

theorem holds_iff {concern : Concern} : c.Holds build concern ↔ c.verdict build concern = none := by
  rw [Holds, ← finds_none, ← Option.map_eq_none_iff (f := Violation.reason)]
  exact ⟨(finds_demands concern).unique, fun none => none ▸ finds_demands concern⟩

theorem turnsDown_iff {concerns : List Concern} {reason : BuildReason} :
    c.TurnsDown build concerns reason ↔
      (concerns.findSome? (c.verdict build)).map Violation.reason = some reason := by
  induction concerns with
  | nil => exact iff_of_false (fun down => nomatch down) nofun
  | cons concern rest ih =>
    have finds : Finds (c.demands build concern) _ := finds_demands concern
    rw [List.findSome?_cons]
    cases verdict : c.verdict build concern with
    | none =>
      rw [verdict] at finds
      constructor
      · rintro (⟨violated⟩ | ⟨-, down⟩)
        · exact (nomatch finds.unique violated)
        · exact ih.mp down
      · exact fun found => .later (holds_iff.mpr verdict) (ih.mpr found)
    | some violation =>
      rw [verdict] at finds
      constructor
      · rintro (⟨violated⟩ | ⟨holds, -⟩)
        · exact finds.unique violated
        · exact (nomatch verdict.symm.trans (holds_iff.mp holds))
      · exact fun found => .first (found ▸ finds)

end Cluster

end BuildController
