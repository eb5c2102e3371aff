import BuildController.Proofs.Paths
import BuildController.Proofs.Segments
import BuildController.Proofs.Template

/-! Downloads of auxiliary sources. A source goes to a path below the root of the sources that ends
in the last segment of its address or, if that is empty, in the name of the source. The names of
sources are distinct, but neither the paths nor the files that they denote need be, and what is
downloaded last to a file is what stays there. -/
namespace BuildController

namespace Step

/-- Where the step downloads to, if it is a download. -/
def output? (step : Step) : Option String :=
  if step.command = ["curl"] then (step.args.dropWhile (· ≠ "--output"))[1]? else none

/-- The files after a step, given which file a path denotes. What is told of a file is the address
that its content is from. -/
def fetch (place : String → Path.Place) (files : Path.Place → Option String) (step : Step) :
    Path.Place → Option String :=
  match step.output? with
  | some path => Function.update files (place path) step.args.getLast?
  | none => files

/-- Steps that download nothing leave the files as they are. -/
theorem fetch_of_unsaved {steps : List Step} (unsaved : ∀ step ∈ steps, step.output? = none)
    (place : String → Path.Place) (files : Path.Place → Option String) :
    steps.foldl (fetch place) files = files := by
  induction steps with
  | nil => rfl
  | cons step rest ih =>
    obtain ⟨first, later⟩ := List.forall_mem_cons.mp unsaved
    rw [List.foldl_cons, fetch, first]
    exact ih later

end Step

namespace HttpSource

/-- The path of the address ends in the segment. -/
def Ends (source : HttpSource) (segment : String) : Prop :=
  ∃ url above, Url.Web source.url url ∧ url.path = .segments (above ++ [segment])

/-- The name of the file that the source is downloaded to. -/
inductive StoredAs (source : HttpSource) : String → Prop
  | segment {file : String} (ends : source.Ends file) (nonempty : file ≠ "") : source.StoredAs file
  | name (ends : source.Ends "") : source.StoredAs source.name

/-- The file that the source is downloaded to, given which file a path denotes. -/
def LandsAt (place : String → Path.Place) (source : HttpSource) (path : Path.Place) : Prop :=
  ∃ file, source.StoredAs file ∧ place ("$(params.kiln-source-root)/" ++ file) = path

/-- Two sources with names of their own go to one path. -/
inductive Clash (first second : HttpSource) : Prop
  | segments {segment : String} (ofFirst : first.Ends segment) (ofSecond : second.Ends segment)
      (nonempty : segment ≠ "")
  | segmentAndName (ofFirst : first.Ends second.name) (ofSecond : second.Ends "")
  | nameAndSegment (ofFirst : first.Ends "") (ofSecond : second.Ends first.name)

open SourceSteps

variable {source first second : HttpSource}

theorem Usable.ends (usable : source.Usable) : ∃ segment, source.Ends segment := by
  obtain ⟨url, web⟩ := usable.address
  obtain ⟨above, last, path, -⟩ := Url.path_of_isHttp web.1 (by simpa [Url.isHttp] using web.2)
  exact ⟨last, url, above, web, path⟩

/-- The last segment of an address is a name for a file, and no way up. -/
theorem Ends.plain {segment : String} (ends : source.Ends segment) :
    '/' ∉ segment.toList ∧ segment.toList ≠ ['.', '.'] := by
  obtain ⟨url, above, web, path⟩ := ends
  obtain ⟨_, last, ended, undivided, plain⟩ :=
    Url.path_of_isHttp web.1 (by simpa [Url.isHttp] using web.2)
  rw [path] at ended
  obtain ⟨-, same⟩ := List.append_inj' (UrlPath.segments.inj ended) rfl
  cases same
  refine ⟨undivided, fun dots => plain (.inr ?_)⟩
  rw [dots]
  rfl

theorem Ends.fileName_eq {segment : String} (ends : source.Ends segment) :
    fileName source = if segment = "" then source.name else segment := by
  obtain ⟨url, above, web, path⟩ := ends
  simp [fileName, web.1, Url.lastSegment?, path]

/-- The file of a source is the one that the step for it names. -/
theorem Usable.storedAs_iff (usable : source.Usable) {file : String} :
    source.StoredAs file ↔ fileName source = file := by
  constructor
  · rintro (⟨ends, nonempty⟩ | ends)
    · rw [ends.fileName_eq, if_neg nonempty]
    · rw [ends.fileName_eq, if_pos rfl]
  · rintro rfl
    obtain ⟨segment, ends⟩ := usable.ends
    rw [ends.fileName_eq]
    split_ifs with empty
    · rw [empty] at ends
      exact .name ends
    · exact .segment ends empty

theorem Usable.landsAt_iff (usable : source.Usable) {place : String → Path.Place}
    {path : Path.Place} : source.LandsAt place path ↔ place (outputPath source) = path := by
  constructor
  · rintro ⟨file, stored, rfl⟩
    rw [← usable.storedAs_iff.mp stored]
    rfl
  · rintro rfl
    exact ⟨fileName source, usable.storedAs_iff.mpr rfl, rfl⟩

/-- Sources with different names clash exactly if their files have one name. -/
theorem clash_iff (usable : first.Usable) (usable' : second.Usable)
    (distinct : first.name ≠ second.name) :
    first.Clash second ↔ fileName first = fileName second := by
  constructor
  · rintro (⟨ofFirst, ofSecond, nonempty⟩ | ⟨ofFirst, ofSecond⟩ | ⟨ofFirst, ofSecond⟩)
    · rw [ofFirst.fileName_eq, ofSecond.fileName_eq, if_neg nonempty, if_neg nonempty]
    · rw [ofFirst.fileName_eq, ofSecond.fileName_eq, if_neg usable'.named, if_pos rfl]
    · rw [ofFirst.fileName_eq, ofSecond.fileName_eq, if_neg usable.named, if_pos rfl]
  · intro same
    obtain ⟨segment, ofFirst⟩ := usable.ends
    obtain ⟨segment', ofSecond⟩ := usable'.ends
    rw [ofFirst.fileName_eq, ofSecond.fileName_eq] at same
    split_ifs at same with none none' none'
    · exact (distinct same).elim
    · rw [none] at ofFirst
      rw [← same] at ofSecond
      exact .nameAndSegment ofFirst ofSecond
    · rw [none'] at ofSecond
      rw [same] at ofFirst
      exact .segmentAndName ofFirst ofSecond
    · rw [← same] at ofSecond
      exact .segments ofFirst ofSecond none

end HttpSource

namespace SourceSteps

variable {settings : Settings} {sources : List HttpSource}

theorem output?_httpStep (settings : Settings) (source : HttpSource) :
    (httpStep settings source).output? = some (outputPath source) := by
  simp [Step.output?, httpStep]

/-- The step of the git source downloads nothing. -/
theorem output?_gitStep (settings : Settings) (spec : BuildSpec) :
    ∀ step ∈ spec.gitSource?.toList.map fun source => gitStep settings source defaultName,
      step.output? = none := by
  intro step member
  obtain ⟨source, -, rfl⟩ := List.mem_map.mp member
  simp [Step.output?, gitStep]

theorem outputPath_inj {first second : HttpSource} :
    outputPath first = outputPath second ↔ fileName first = fileName second :=
  String.append_right_inj _

variable {place : String → Path.Place}

theorem fetch_httpStep (settings : Settings) (files : Path.Place → Option String)
    (source : HttpSource) : Step.fetch place files (httpStep settings source) =
      Function.update files (place (outputPath source)) (some source.url) := by
  rw [Step.fetch, output?_httpStep]
  rfl

/-- A file that no source goes to is as it was. -/
theorem fetch_of_ne {path : Path.Place} (files : Path.Place → Option String)
    (others : ∀ source ∈ sources, place (outputPath source) ≠ path) :
    (sources.map (httpStep settings)).foldl (Step.fetch place) files path = files path := by
  induction sources generalizing files with
  | nil => rfl
  | cons source rest ih =>
    obtain ⟨other, later⟩ := List.forall_mem_cons.mp others
    rw [List.map_cons, List.foldl_cons, ih _ later, fetch_httpStep,
      Function.update_of_ne other.symm]

/-- Every source is there after all downloads exactly if those that go to one file are the same. -/
theorem fetched_iff (settings : Settings) (sources : List HttpSource)
    (place : String → Path.Place) (files : Path.Place → Option String) :
    (∀ source ∈ sources, (sources.map (httpStep settings)).foldl (Step.fetch place) files
        (place (outputPath source)) = some source.url) ↔
      sources.Pairwise fun first second =>
        place (outputPath first) = place (outputPath second) → first.url = second.url := by
  induction sources generalizing files with
  | nil => simp
  | cons source rest ih =>
    have later := ih (Step.fetch place files (httpStep settings source))
    rw [List.forall_mem_cons, List.pairwise_cons, List.map_cons, List.foldl_cons, later, and_comm,
      and_comm (b := rest.Pairwise _)]
    refine and_congr_right fun kept => ?_
    have present := later.mpr kept
    constructor
    · intro here other member path
      have there := present other member
      rw [← path, here] at there
      exact Option.some.inj there
    · intro same
      by_cases shared : ∃ other ∈ rest, place (outputPath source) = place (outputPath other)
      · obtain ⟨other, member, path⟩ := shared
        rw [path, present other member, same other member path]
      · have others : ∀ other ∈ rest, place (outputPath other) ≠ place (outputPath source) :=
          fun other member path => shared ⟨other, member, path.symm⟩
        rw [fetch_of_ne _ others, fetch_httpStep, Function.update_self]

end SourceSteps

namespace BuildSpec.SourcesUsable

open SourceSteps

variable {spec : BuildSpec}

/-- The paths of all sources differ exactly if no two sources clash. -/
theorem pairwise_outputPath (usable : spec.SourcesUsable) :
    (spec.sources.Pairwise fun first second => outputPath first ≠ outputPath second) ↔
      spec.sources.Pairwise fun first second => ¬first.Clash second := by
  have distinct : spec.sources.Pairwise fun first second => first.name ≠ second.name :=
    List.pairwise_map.mp usable.distinct
  have clash {first second : HttpSource} (ofFirst : first ∈ spec.sources)
      (ofSecond : second ∈ spec.sources) (other : first.name ≠ second.name) :
      first.Clash second ↔ outputPath first = outputPath second :=
    (HttpSource.clash_iff (usable.usable first ofFirst) (usable.usable second ofSecond) other).trans
      outputPath_inj.symm
  constructor
  · intro differ
    refine (differ.and distinct).imp_of_mem fun ofFirst ofSecond both clashing => ?_
    exact both.1 ((clash ofFirst ofSecond both.2).mp clashing)
  · intro differ
    refine (differ.and distinct).imp_of_mem fun ofFirst ofSecond both same => ?_
    exact both.1 ((clash ofFirst ofSecond both.2).mpr same)

variable {place : String → Path.Place} {root : Path.Place}

/-- The sources are all in a directory after the downloads exactly if they go there, and those that
go to one file have one address. -/
theorem landed_iff (usable : spec.SourcesUsable) (settings : Settings)
    (files : Path.Place → Option String) :
    (∀ source ∈ spec.sources, ∃ path, source.LandsAt place path ∧ Path.Below root path ∧
        (spec.sources.map (httpStep settings)).foldl (Step.fetch place) files path =
          some source.url) ↔
      (∀ source ∈ spec.sources, ∀ path, source.LandsAt place path → Path.Below root path) ∧
      spec.sources.Pairwise fun first second => ∀ path, first.LandsAt place path →
        second.LandsAt place path → first.url = second.url := by
  have lands {source : HttpSource} (member : source ∈ spec.sources) {path : Path.Place} :
      source.LandsAt place path ↔ place (outputPath source) = path :=
    (usable.usable source member).landsAt_iff
  have fetched := fetched_iff settings spec.sources place files
  constructor
  · intro present
    refine ⟨fun source member path landed => ?_, ?_⟩
    · obtain ⟨there, landed', below, -⟩ := present source member
      rwa [← (lands member).mp landed, (lands member).mp landed']
    · have kept := fetched.mp fun source member => by
        obtain ⟨there, landed, -, content⟩ := present source member
        rwa [(lands member).mp landed]
      refine kept.imp_of_mem fun ofFirst ofSecond same path landed landed' => same ?_
      rw [(lands ofFirst).mp landed, (lands ofSecond).mp landed']
  · rintro ⟨inside, same⟩ source member
    have landed : source.LandsAt place (place (outputPath source)) := (lands member).mpr rfl
    refine ⟨_, landed, inside source member _ landed, ?_⟩
    refine fetched.mpr (same.imp_of_mem fun ofFirst ofSecond one path => ?_) source member
    exact one _ ((lands ofFirst).mpr path) ((lands ofSecond).mpr rfl)

end BuildSpec.SourcesUsable

namespace TaskRun

open SourceSteps

/-- Each accepted source is downloaded to a path below the root of the sources. The paths are
distinct exactly if no two sources clash. Whatever files there were and however variables are
replaced, all sources are in the root when the strategy begins exactly if all their paths lead there
and those that lead to one file have one address. -/
theorem plan_downloads (settings : Settings) (name : String) (build : Build) (run : BuildRun)
    (strategy : StrategySpec) (accepted : build.spec.sourcesViolation? = none)
    (expand : List Char → List Char) :
    let task := (plan settings name build run strategy).spec.taskSpec
    let place := Path.resolve expand
    let root := place "$(params.kiln-source-root)"
    ∃ git downloads made, task.steps = git ++ downloads ++ made ∧
      (∀ step ∈ git, step.output? = none) ∧ made.map Step.name = strategy.steps.map Step.name ∧
      build.spec.sources.Forall₂ (fun source step => ∃ file, source.StoredAs file ∧
        step.name = "source-" ++ source.name ∧
        step.output? = some ("$(params.kiln-source-root)/" ++ file)) downloads ∧
      ((downloads.map Step.output?).Nodup ↔
        build.spec.sources.Pairwise fun first second => ¬first.Clash second) ∧
      ∀ files : Path.Place → Option String,
        (∀ source ∈ build.spec.sources, ∃ path, source.LandsAt place path ∧
            Path.Below root path ∧
            downloads.foldl (Step.fetch place) files path = some source.url) ↔
          (∀ source ∈ build.spec.sources, ∀ path, source.LandsAt place path →
            Path.Below root path) ∧
          build.spec.sources.Pairwise fun first second => ∀ path, first.LandsAt place path →
            second.LandsAt place path → first.url = second.url := by
  intro task place root
  have usable := BuildSpec.sourcesViolation?_eq_none.mp accepted
  refine ⟨_, _, _, TaskRunPlan.taskSpec_steps_eq settings, output?_gitStep settings build.spec,
    ?_, ?_, ?_, usable.landed_iff settings⟩
  · rw [List.map_map]
    rfl
  · rw [List.forall₂_map_right_iff]
    refine List.forall₂_same.mpr fun source member => ⟨fileName source, ?_, rfl, ?_⟩
    · exact (usable.usable source member).storedAs_iff.mpr rfl
    · exact output?_httpStep settings source
  · have outputs : (build.spec.sources.map (httpStep settings)).map Step.output? =
        build.spec.sources.map fun source => some (outputPath source) := by
      rw [List.map_map]
      exact List.map_congr_left fun source _ => output?_httpStep settings source
    rw [outputs, List.Nodup, List.pairwise_map]
    simp only [ne_eq, Option.some.injEq]
    exact usable.pairwise_outputPath

/-- Three files: two with the last segment of the address and one with the name of its source, which
has a part that leads nowhere. All three are in the root of the sources in the end. -/
theorem plan_downloads_named :
    let sources : List HttpSource := [⟨"license", "https://example.com/files/LICENSE"⟩,
      ⟨"notice", "https://example.com/NOTICE?raw"⟩, ⟨"./docs", "https://example.com/docs/"⟩]
    let build : Build :=
      { metadata := { name := "app" }
        spec := { strategy := { name := "kaniko" }, output := { image := "registry/app" }
                  sources } }
    let run : BuildRun := { metadata := { name := "run" }, spec := { build := { name := "app" } } }
    let task := (plan {} "run-0a1b2" build run { steps := [] }).spec.taskSpec
    let place := Path.resolve (inRoot "/workspace/source")
    build.spec.sourcesViolation? = none ∧
      task.steps.map Step.output? = [some "$(params.kiln-source-root)/LICENSE",
        some "$(params.kiln-source-root)/NOTICE", some "$(params.kiln-source-root)/./docs"] ∧
      (sources.Pairwise fun first second => ¬first.Clash second) ∧
      ∀ source ∈ sources, ∃ path, source.LandsAt place path ∧
        Path.Below (place "$(params.kiln-source-root)") path ∧
        task.steps.foldl (Step.fetch place) (fun _ => none) path = some source.url := by
  intro sources build run task place
  have accepted : build.spec.sourcesViolation? = none := by decide +kernel
  have outputs : task.steps.map Step.output? = [some "$(params.kiln-source-root)/LICENSE",
      some "$(params.kiln-source-root)/NOTICE", some "$(params.kiln-source-root)/./docs"] := by
    decide +kernel
  obtain ⟨git, downloads, made, steps, unsaved, unmade, -, distinct, present⟩ :=
    plan_downloads {} "run-0a1b2" build run { steps := [] } accepted (inRoot "/workspace/source")
  obtain rfl : made = [] := List.map_eq_nil_iff.mp unmade
  have all : task.steps = git ++ downloads := steps.trans (List.append_nil _)
  refine ⟨accepted, outputs, distinct.mp ?_, ?_⟩
  · have apart : (task.steps.map Step.output?).Nodup := by
      rw [outputs]
      decide
    rw [all] at apart
    exact apart.sublist ((List.sublist_append_right git downloads).map _)
  · rw [all, List.foldl_append, Step.fetch_of_unsaved unsaved]
    have usable := (BuildSpec.sourcesViolation?_eq_none.mp accepted).usable
    have paths : sources.map outputPath = ["$(params.kiln-source-root)/LICENSE",
        "$(params.kiln-source-root)/NOTICE", "$(params.kiln-source-root)/./docs"] := by
      decide +kernel
    have inside : ∀ path ∈ sources.map outputPath,
        Path.Below (place "$(params.kiln-source-root)") (place path) := by
      rw [paths]
      decide +kernel
    have apart : (sources.map outputPath).Pairwise fun first second =>
        place first ≠ place second := by
      rw [paths]
      decide +kernel
    refine (present _).mpr ⟨fun source member path landed => ?_, ?_⟩
    · rw [← (usable source member).landsAt_iff.mp landed]
      exact inside _ (List.mem_map_of_mem member)
    · refine (List.pairwise_map.mp apart).imp_of_mem fun ofFirst ofSecond differ path landed landed' => ?_
      rw [← (usable _ ofFirst).landsAt_iff.mp landed] at landed'
      exact (differ ((usable _ ofSecond).landsAt_iff.mp landed').symm).elim

/-- Two sources that are accepted go to one file, and the first is not there in the end. -/
theorem plan_downloads_overwritten :
    let sources : List HttpSource := [⟨"a", "https://example.com/files/LICENSE"⟩,
      ⟨"b", "https://example.org/LICENSE"⟩]
    let build : Build :=
      { metadata := { name := "app" }
        spec := { strategy := { name := "kaniko" }, output := { image := "registry/app" }
                  sources } }
    let run : BuildRun := { metadata := { name := "run" }, spec := { build := { name := "app" } } }
    let task := (plan {} "run-0a1b2" build run { steps := [] }).spec.taskSpec
    let place := Path.resolve (inRoot "/workspace/source")
    build.spec.sourcesViolation? = none ∧ ¬(task.steps.map Step.output?).Nodup ∧
      task.steps.foldl (Step.fetch place) (fun _ => none)
        (place "$(params.kiln-source-root)/LICENSE") = some "https://example.org/LICENSE" := by
  refine ⟨by decide +kernel, by decide +kernel, by decide +kernel⟩

end TaskRun

end BuildController
