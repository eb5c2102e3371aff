import BuildController.Api.Client
import BuildController.Proofs.Roots

/-! The addresses of lookups. An address is the text of a root with the path of an endpoint after
it, read as a whole. The path goes through the reading as it is exactly if the namespace and the
name are literal: then the lookup is one of the named object. -/
namespace BuildController

namespace Url

open Text

/-- A text that stands for itself as a segment of a path. -/
structure Literal (cs : List Char) : Prop where
  undivided : ∀ c ∈ cs, c ∉ ['/', '\\', '?', '#', '\t', '\n', '\r']
  undotted : cs ≠ ['.'] ∧ cs ≠ ['.', '.']
  unescaped : ¬Escapes cs

section Literals

variable {port : Nat} {before parts segments : List (List Char)} {cs : List Char}

/-- Encoded segments, decoded again, have no more bytes, and fewer if they had escapes. -/
theorem weight_percentEncode (segments : List (List Char)) :
    weight (segments.map (percentEncode inPath)) ≤
        (segments.map fun segment => (bytes segment).length + 1).sum ∧
      ((∃ segment ∈ segments, Escapes segment) →
        weight (segments.map (percentEncode inPath)) <
          (segments.map fun segment => (bytes segment).length + 1).sum) := by
  induction segments with
  | nil => simp [weight]
  | cons segment rest ih =>
    obtain ⟨fewer, strict⟩ := length_percentDecode segment
    simp only [List.map_cons, weight_cons, List.sum_cons, percentDecode_percentEncode]
    refine ⟨by omega, ?_⟩
    rintro ⟨part, member, escapes⟩
    rcases List.mem_cons.mp member with rfl | later
    · have := strict escapes
      omega
    · have := ih.2 ⟨part, later, escapes⟩
      omega

theorem bytes_append (cs ds : List Char) : bytes (cs ++ ds) = bytes cs ++ bytes ds := by
  simp [bytes]

theorem length_bytes_intercalate (present : parts ≠ []) :
    (parts.map fun part => (bytes part).length + 1).sum =
      (bytes (['/'].intercalate parts)).length + 1 := by
  induction parts with
  | nil => exact (present rfl).elim
  | cons part rest ih =>
    cases rest with
    | nil => simp
    | cons next rest =>
      have slash : (bytes ['/']).length = 1 := rfl
      rw [List.map_cons, List.sum_cons, ih (by simp), List.intercalate_cons_cons, bytes_append,
        bytes_append, List.length_append, List.length_append, slash]
      omega

theorem mem_intercalate {c : Char} (member : c ∈ ['/'].intercalate parts) :
    c = '/' ∨ ∃ part ∈ parts, c ∈ part := by
  induction parts with
  | nil => cases member
  | cons part rest ih =>
    cases rest with
    | nil => exact .inr ⟨part, by simp, by simpa using member⟩
    | cons next rest =>
      rw [List.intercalate_cons_cons, List.mem_append, List.mem_append,
        List.mem_singleton] at member
      rcases member with (inside | slash) | later
      · exact .inr ⟨part, List.mem_cons_self, inside⟩
      · exact .inl slash
      · rcases ih later with slash | ⟨part, found, inside⟩
        · exact .inl slash
        · exact .inr ⟨part, List.mem_cons_of_mem _ found, inside⟩

theorem subset_intercalate {part : List Char} (member : part ∈ parts) :
    part ⊆ ['/'].intercalate parts := by
  induction parts with
  | nil => cases member
  | cons first rest ih =>
    cases rest with
    | nil => simpa using (List.mem_singleton.mp member) ▸ List.Subset.refl part
    | cons next rest =>
      rw [List.intercalate_cons_cons, List.append_assoc]
      rcases List.mem_cons.mp member with rfl | later
      · exact List.subset_append_left _ _
      · intro c inside
        exact List.mem_append_right _ (List.mem_append_right _ (ih later inside))

theorem kept_sublist (cs : List Char) : (kept cs).Sublist cs :=
  List.filter_sublist.trans (List.rdropWhile_prefix _ _).sublist

/-- All of a text is read as a path if nothing at its end or inside it is dropped and it has no
query or fragment. -/
theorem place_eq_self (cs : List Char) : (splitBefore isPathEnd (kept cs)).1 = cs ↔
    (∀ c ∈ cs.getLast?, 0x20 < c.toNat) ∧ ∀ c ∈ cs, c ∉ ['?', '#', '\t', '\n', '\r'] := by
  have visible : (∀ c ∈ cs.getLast?, 0x20 < c.toNat) ↔
      cs.rdropWhile (fun c => c.toNat ≤ 0x20) = cs := by
    rw [List.rdropWhile_eq_self_iff]
    rcases List.eq_nil_or_concat cs with rfl | ⟨before, c, rfl⟩
    · simp
    · simp
  have unbroken : (∀ c ∈ cs, c ∉ ['?', '#', '\t', '\n', '\r']) ↔
      (∀ c ∈ cs, (c ≠ '\t' && c ≠ '\n' && c ≠ '\r') = true) ∧ ∀ c ∈ cs, (!isPathEnd c) = true := by
    simp only [isPathEnd, ← forall_and]
    refine forall_congr' fun c => ?_
    simp
    tauto
  rw [visible, unbroken]
  constructor
  · intro whole
    have taken : ((kept cs).takeWhile fun c => !isPathEnd c) = cs := whole
    have all : kept cs = cs := by
      apply (kept_sublist cs).eq_of_length_le
      conv_lhs => rw [← taken]
      exact (List.takeWhile_sublist _).length_le
    have trimmed : cs.rdropWhile (fun c => c.toNat ≤ 0x20) = cs := by
      apply (List.rdropWhile_prefix _ _).eq_of_length_le
      conv_lhs => rw [← all]
      exact List.length_filter_le _ _
    refine ⟨trimmed, ?_, ?_⟩
    · rw [kept, trimmed] at all
      exact List.filter_eq_self.mp all
    · rw [all] at taken
      exact List.takeWhile_eq_self_iff.mp taken
  · rintro ⟨trimmed, kind, ended⟩
    have all : kept cs = cs := by
      rw [kept, trimmed]
      exact List.filter_eq_self.mpr kind
    rw [all]
    exact List.takeWhile_eq_self_iff.mpr ended

theorem Literal.of_unmarked
    (unmarked : cs.all (· ∉ ['%', '/', '\\', '?', '#', '\t', '\n', '\r']) = true)
    (undotted : cs ≠ ['.'] ∧ cs ≠ ['.', '.']) : Literal cs := by
  simp only [List.all_eq_true, decide_eq_true_eq] at unmarked
  refine ⟨fun c member mark => unmarked c member (List.mem_cons_of_mem _ mark), undotted, ?_⟩
  rintro ⟨a, b, inside, -⟩
  exact unmarked '%' (inside.subset List.mem_cons_self) List.mem_cons_self

theorem not_isDots_of_literal (literal : Literal cs) : ¬IsDots (percentEncode inPath cs) := by
  intro dots
  have decoded := percentDecode_isDots dots
  rw [percentDecode_percentEncode, percentDecode_of_not_escapes literal.unescaped] at decoded
  rcases decoded with here | parent
  · exact literal.undotted.1 (bytes_injective here)
  · exact literal.undotted.2 (bytes_injective parent)

/-- Literal segments are read to their end. -/
theorem place_of_literal (literal : ∀ part ∈ parts, Literal part)
    (ended : ∀ c ∈ (['/'].intercalate parts).getLast?, 0x20 < c.toNat) :
    splitBefore isPathEnd (kept (['/'].intercalate parts)) = (['/'].intercalate parts, []) := by
  have place : (splitBefore isPathEnd (kept (['/'].intercalate parts))).1 =
      ['/'].intercalate parts := by
    refine (place_eq_self _).mpr ⟨ended, fun c member => ?_⟩
    rcases mem_intercalate member with rfl | ⟨part, found, inside⟩
    · decide
    · have undivided := (literal part found).undivided c inside
      simp only [List.mem_cons, not_or] at undivided ⊢
      tauto
  have whole := congrArg List.length
    (splitBefore_whole isPathEnd (kept (['/'].intercalate parts)))
  have fewer := (kept_sublist (['/'].intercalate parts)).length_le
  rw [List.length_append, place] at whole
  exact Prod.ext place (List.length_eq_zero_iff.mp (by omega))

theorem length_bytes_map_slash (kind : SchemeKind) (cs : List Char) :
    (bytes (cs.map fun c => if kind.isSlash c then '/' else c)).length = (bytes cs).length := by
  induction cs with
  | nil => rfl
  | cons c cs ih =>
    rw [List.map_cons, bytes_cons, bytes_cons, List.length_append, List.length_append, ih]
    split_ifs with slash
    · have either : c = '/' ∨ c = '\\' := by
        have both : c = '/' ∨ kind.special = true ∧ c = '\\' := by
          simpa [SchemeKind.isSlash] using slash
        exact both.imp_right And.right
      rcases either with rfl | rfl
      · rfl
      · rfl
    · rfl

theorem intercalate_splitSlashes (kind : SchemeKind) (cs : List Char) :
    ['/'].intercalate (splitSlashes kind cs) =
      cs.map fun c => if kind.isSlash c then '/' else c := by
  rw [splitSlashes, splitAt_eq]
  exact List.intercalate_splitOn '/'

/-- Literal segments are the ones that are read. -/
theorem splitSlashes_literal (present : parts ≠ []) (literal : ∀ part ∈ parts, Literal part) :
    splitSlashes (.web port) (['/'].intercalate parts) = parts := by
  have same : ((['/'].intercalate parts).map fun c =>
      if (SchemeKind.web port).isSlash c then '/' else c) = ['/'].intercalate parts := by
    refine (List.map_congr_left fun c member => ?_).trans (List.map_id _)
    rcases mem_intercalate member with rfl | ⟨part, found, inside⟩
    · rfl
    · have undivided := (literal part found).undivided c inside
      have plain : (SchemeKind.web port).isSlash c = false := by
        simp only [List.mem_cons, not_or] at undivided
        simp [SchemeKind.isSlash, undivided]
      simp [plain]
  rw [splitSlashes, same, splitAt_eq]
  refine List.splitOn_intercalate '/' (fun part found slash => ?_) present
  exact (literal part found).undivided '/' slash (by simp)

/-- Segments that are read as they are have lost nothing on the way: each step that would have
changed one would have made the path shorter. -/
theorem unchanged_of_resolve (present : parts ≠ [])
    (read : (resolve (.web port) before ((splitSlashes (.web port)
        (splitBefore isPathEnd (kept (['/'].intercalate parts))).1).map
          (percentEncode inPath))).map percentDecode =
        before.reverse.map percentDecode ++ parts.map bytes) :
    (splitBefore isPathEnd (kept (['/'].intercalate parts))).1 = ['/'].intercalate parts ∧
      splitSlashes (.web port) (['/'].intercalate parts) = parts ∧
      ∀ part ∈ parts, ¬IsDots (percentEncode inPath part) ∧ ¬Escapes part := by
  have part : (splitBefore isPathEnd (kept (['/'].intercalate parts))).1.Sublist
      (['/'].intercalate parts) := (List.takeWhile_sublist _).trans (kept_sublist _)
  have total := congrArg (fun decoded => (decoded.map fun part => part.length + 1).sum) read
  generalize (splitBefore isPathEnd (kept (['/'].intercalate parts))).1 = place at read part total ⊢
  have written := length_bytes_intercalate (splitSlashes_ne_nil (.web port) place)
  rw [intercalate_splitSlashes, length_bytes_map_slash] at written
  -- From what is asked for to what is read, no step makes the path longer, and they are of one
  -- length: so each step keeps it.
  have asked := length_bytes_intercalate present
  have shorter := length_bytes_le_of_sublist part
  have encoded := weight_percentEncode (splitSlashes (.web port) place)
  have resolved := weight_resolve port before
    ((splitSlashes (.web port) place).map (percentEncode inPath))
  have weighed : weight (resolve (.web port) before
      ((splitSlashes (.web port) place).map (percentEncode inPath))) =
        weight before + (parts.map fun part => (bytes part).length + 1).sum := by
    simpa [weight, Function.comp_def] using total
  obtain rfl : place = ['/'].intercalate parts := eq_of_sublist part (by omega)
  have plain : ∀ segment ∈ (splitSlashes (.web port) (['/'].intercalate parts)).map
      (percentEncode inPath), ¬IsDots segment := by
    intro segment member dots
    have lost := resolved.2 ⟨segment, member, dots⟩
    omega
  have unescaped : ∀ segment ∈ splitSlashes (.web port) (['/'].intercalate parts),
      ¬Escapes segment := by
    intro segment member escapes
    have lost := encoded.2 ⟨segment, member, escapes⟩
    omega
  have same : splitSlashes (.web port) (['/'].intercalate parts) = parts := by
    rw [resolve_of_plain plain, List.map_append, List.append_cancel_left_eq, List.map_map] at read
    refine List.map_injective_iff.mpr bytes_injective (Eq.trans ?_ read)
    refine List.map_congr_left fun segment member => ?_
    rw [Function.comp_apply, percentDecode_percentEncode,
      percentDecode_of_not_escapes (unescaped segment member)]
  rw [same] at plain unescaped
  exact ⟨rfl, same, fun part found => ⟨plain _ (List.mem_map_of_mem found), unescaped part found⟩⟩

theorem literal_of_resolve (present : parts ≠ [])
    (read : (resolve (.web port) before ((splitSlashes (.web port)
        (splitBefore isPathEnd (kept (['/'].intercalate parts))).1).map
          (percentEncode inPath))).map percentDecode =
        before.reverse.map percentDecode ++ parts.map bytes) :
    (∀ part ∈ parts, Literal part) ∧
      ∀ c ∈ (['/'].intercalate parts).getLast?, 0x20 < c.toNat := by
  obtain ⟨whole, same, unchanged⟩ := unchanged_of_resolve present read
  obtain ⟨ended, unbroken⟩ := (place_eq_self _).mp whole
  refine ⟨fun part found => ⟨fun c inside => ?_, ⟨?_, ?_⟩, (unchanged part found).2⟩, ended⟩
  · have slash : c ≠ '/' := by
      rintro rfl
      rw [← same] at found
      exact not_mem_of_mem_splitAt found inside
    have backslash : c ≠ '\\' := by
      rintro rfl
      have member := subset_intercalate found inside
      rw [← same, intercalate_splitSlashes] at member
      obtain ⟨d, -, form⟩ := List.mem_map.mp member
      split_ifs at form with special
      · cases form
      · simp [form, SchemeKind.isSlash, SchemeKind.special] at special
    have others := unbroken c (subset_intercalate found inside)
    simp only [List.mem_cons, not_or] at others ⊢
    tauto
  · rintro rfl
    exact (unchanged _ found).1 (.inl rfl)
  · rintro rfl
    exact (unchanged _ found).1 (.inr rfl)

/-- Segments go through the reading of an address as they are exactly if they are literal and no
blank stands at the end. -/
theorem resolve_eq_iff (port : Nat) (before : List (List Char)) (present : parts ≠ []) :
    (resolve (.web port) before ((splitSlashes (.web port)
        (splitBefore isPathEnd (kept (['/'].intercalate parts))).1).map
          (percentEncode inPath))).map percentDecode =
        before.reverse.map percentDecode ++ parts.map bytes ↔
      (∀ part ∈ parts, Literal part) ∧
        ∀ c ∈ (['/'].intercalate parts).getLast?, 0x20 < c.toNat := by
  refine ⟨literal_of_resolve present, fun ⟨literal, ended⟩ => ?_⟩
  have plain : ∀ segment ∈ parts.map (percentEncode inPath), ¬IsDots segment := by
    intro segment member
    obtain ⟨part, found, rfl⟩ := List.mem_map.mp member
    exact not_isDots_of_literal (literal part found)
  rw [place_of_literal literal ended, splitSlashes_literal present literal,
    resolve_of_plain plain, List.map_append, List.map_map, List.append_cancel_left_eq]
  refine List.map_congr_left fun part found => ?_
  rw [Function.comp_apply, percentDecode_percentEncode,
    percentDecode_of_not_escapes (literal part found).unescaped]

end Literals
end Url

namespace Request

/-- The request looks up the named object of a resource of an API in a namespace. -/
inductive LooksUp : Request → List String → String → String → String → Prop
  | build : LooksUp (.getBuild ns name) ["apis", "kiln.dev", "v1"] ns "builds" name
  | run : LooksUp (.getRun ns name) ["apis", "kiln.dev", "v1"] ns "buildruns" name
  | strategy : LooksUp (.getStrategy ns name) ["apis", "kiln.dev", "v1"] ns "buildstrategies" name
  | secret : LooksUp (.secretExists ns name) ["api", "v1"] ns "secrets" name
  | taskRun : LooksUp (.getTaskRun ns name) ["apis", "tekton.dev", "v1"] ns "taskruns" name

variable {request : Request} {api : List String} {ns resource name : String}

/-- The path of a lookup is made up of the parts of its meaning. -/
theorem LooksUp.path (looksUp : request.LooksUp api ns resource name) :
    request.endpoint.path = .ofList ('/' ::
      ['/'].intercalate ((api ++ ["namespaces", ns, resource, name]).map String.toList)) := by
  apply String.toList_injective
  cases looksUp with
  | build => simp [endpoint, Endpoint.path, Endpoint.namespaced, buildApi]
  | run => simp [endpoint, Endpoint.path, Endpoint.namespaced, buildApi]
  | strategy => simp [endpoint, Endpoint.path, Endpoint.namespaced, buildApi]
  | secret => simp [endpoint, Endpoint.path, Endpoint.namespaced, coreApi]
  | taskRun => simp [endpoint, Endpoint.path, Endpoint.namespaced, pipelineApi]

/-- All parts of the path but the namespace and the name are literal. -/
theorem LooksUp.literal (looksUp : request.LooksUp api ns resource name) :
    ∀ part ∈ api ++ ["namespaces", resource], Url.Literal part.toList := by
  intro part member
  have unmarked : part.toList.all (· ∉ ['%', '/', '\\', '?', '#', '\t', '\n', '\r']) = true ∧
      part.toList ≠ ['.'] ∧ part.toList ≠ ['.', '.'] := by
    revert part
    cases looksUp <;> decide
  exact .of_unmarked unmarked.1 unmarked.2

theorem LooksUp.literal_iff (looksUp : request.LooksUp api ns resource name) :
    (∀ part ∈ (api ++ ["namespaces", ns, resource, name]).map String.toList, Url.Literal part) ↔
      Url.Literal ns.toList ∧ Url.Literal name.toList := by
  have fixed := looksUp.literal
  rw [List.forall_mem_append] at fixed
  obtain ⟨ofApi, others⟩ := fixed
  obtain ⟨ofNamespaces, ofResource⟩ := List.forall_mem_cons.mp others
  rw [List.forall_mem_map, List.forall_mem_append, List.forall_mem_cons, List.forall_mem_cons,
    List.forall_mem_cons, List.forall_mem_singleton]
  constructor
  · exact fun ⟨_, _, first, _, second⟩ => ⟨first, second⟩
  · exact fun ⟨first, second⟩ =>
      ⟨ofApi, ofNamespaces, first, ofResource resource (List.mem_singleton_self _), second⟩

theorem LooksUp.method (looksUp : request.LooksUp api ns resource name) :
    request.endpoint.method = .get := by
  cases looksUp <;> rfl

theorem LooksUp.selector (looksUp : request.LooksUp api ns resource name) :
    request.endpoint.selector = none := by
  cases looksUp <;> rfl

end Request

namespace Client

theorem of_httpRequest? {client : Client} {endpoint : Endpoint} {sent : HttpRequest}
    (found : client.httpRequest? endpoint = some sent) :
    sent.method = endpoint.method ∧ client.url? endpoint = some sent.url := by
  unfold httpRequest? at found
  obtain ⟨url, filtered, found⟩ := Option.bind_eq_some_iff.mp found
  have given := (Option.filter_eq_some_iff.mp filtered).1
  simp only at found
  split at found
  · obtain ⟨authorization, -, same⟩ := Option.bind_eq_some_iff.mp found
    cases same
    exact ⟨rfl, given⟩
  · cases found
    exact ⟨rfl, given⟩

theorem ne_slash_of_ofUrl (base : String) (token : Option String) :
    ∀ c ∈ (ofUrl base token).baseUrl.toList.getLast?, c ≠ '/' := by
  intro c last slash
  have stops := List.head?_dropWhile_not (fun d => decide (d = '/')) base.toList.reverse
  rw [ofUrl, Text.trimEnd, String.toList_ofList, List.getLast?_reverse, Option.mem_def] at last
  rw [last] at stops
  exact of_decide_eq_false stops slash

/-- The text of a lookup ends in its name, or in a slash if that is empty. -/
theorem ended_iff (api : List String) (ns resource name : String) :
    (∀ c ∈ (['/'].intercalate
        ((api ++ ["namespaces", ns, resource, name]).map String.toList)).getLast?, 0x20 < c.toNat) ↔
      ∀ c ∈ name.toList.getLast?, 0x20 < c.toNat := by
  have joined : ∃ before, ['/'].intercalate
      ((api ++ ["namespaces", ns, resource, name]).map String.toList) =
        before ++ '/' :: name.toList := by
    induction api with
    | nil => exact ⟨"namespaces".toList ++ '/' :: ns.toList ++ '/' :: resource.toList, by simp⟩
    | cons part api ih =>
      obtain ⟨before, joined⟩ := ih
      refine ⟨part.toList ++ '/' :: before, ?_⟩
      rw [List.cons_append, List.map_cons, List.intercalate_cons_of_ne_nil (by simp), joined]
      simp
  obtain ⟨before, joined⟩ := joined
  rw [joined, List.getLast?_append, List.getLast?_cons]
  cases name.toList.getLast? with
  | none => simp
  | some c => simp

/-- A lookup goes to the root that the client has been given, and it asks for the object that is
meant exactly if namespace and name stand for themselves in a path and the name does not end in a
blank. Any other name is cut, split, resolved or decoded, and the lookup is one of something
else. -/
theorem lookup_addresses {base : String} {token : Option String} {root : Url}
    (served : Url.IsRoot (ofUrl base token).baseUrl root) {request : Request} {api : List String}
    {ns resource name : String} (looksUp : request.LooksUp api ns resource name) :
    ∃ url, (ofUrl base token).url? request.endpoint = some url ∧
      (∀ sent, (ofUrl base token).httpRequest? request.endpoint = some sent →
        sent.method = .get ∧ sent.url = url) ∧
      (url.scheme = root.scheme ∧ url.host = root.host ∧ url.port = root.port) ∧
      (url.decodedPath = root.directory ++
            (api ++ ["namespaces", ns, resource, name]).map (fun part => Url.bytes part.toList) ∧
          url.query = none ↔
        Url.Literal ns.toList ∧ Url.Literal name.toList ∧
          ∀ c ∈ name.toList.getLast?, 0x20 < c.toNat) := by
  obtain ⟨port, before, directory, reads⟩ := served.reads (ne_slash_of_ofUrl base token)
  obtain ⟨url, parsed, site, path, query⟩ :=
    reads (['/'].intercalate ((api ++ ["namespaces", ns, resource, name]).map String.toList))
  have asked : (ofUrl base token).url? request.endpoint = some url := by
    rw [url?, looksUp.path, parsed, looksUp.selector]
    rfl
  refine ⟨url, asked, ?_, site, ?_⟩
  · intro sent found
    obtain ⟨method, sentUrl⟩ := of_httpRequest? found
    exact ⟨method.trans looksUp.method, Option.some.inj (sentUrl.symm.trans asked)⟩
  · have parts : (api ++ ["namespaces", ns, resource, name]).map String.toList ≠ [] := by simp
    have literal := looksUp.literal_iff
    have read := Url.resolve_eq_iff port before parts
    rw [literal, ended_iff, List.map_map, ← path, ← directory] at read
    constructor
    · rintro ⟨same, -⟩
      obtain ⟨both, ended⟩ := read.mp same
      exact ⟨both.1, both.2, ended⟩
    · rintro ⟨first, second, ended⟩
      refine ⟨read.mpr ⟨⟨first, second⟩, ended⟩, ?_⟩
      rw [query, Url.place_of_literal (literal.mpr ⟨first, second⟩)
        ((ended_iff api ns resource name).mpr ended)]
      rfl

/-- A strategy is looked up through a proxy. -/
theorem lookup_addresses_strategy :
    let client := ofUrl "https://10.0.0.1:6443/proxy/" none
    let request := Request.getStrategy "build-examples" "buildah"
    ∃ root url, Url.IsRoot client.baseUrl root ∧ client.url? request.endpoint = some url ∧
      request.LooksUp ["apis", "kiln.dev", "v1"] "build-examples" "buildstrategies" "buildah" ∧
      url.decodedPath = ["proxy", "apis", "kiln.dev", "v1", "namespaces", "build-examples",
        "buildstrategies", "buildah"].map fun part => Url.bytes part.toList := by
  intro client request
  let root : Url :=
    { scheme := "https", username := "", password := "", host := some (.ipv4 167772161)
      port := some 6443, path := .segments ["proxy"], query := none, fragment := none }
  have served : Url.IsRoot client.baseUrl root := by
    refine ⟨by decide +kernel, by decide, rfl, rfl, ?_⟩
    have last : client.baseUrl.toList.getLast? = some 'y' := by decide +kernel
    simp [last]
  have looksUp : request.LooksUp ["apis", "kiln.dev", "v1"] "build-examples" "buildstrategies"
    "buildah" := .strategy
  have literal : Url.Literal "build-examples".toList ∧ Url.Literal "buildah".toList :=
    ⟨.of_unmarked (by decide) (by decide), .of_unmarked (by decide) (by decide)⟩
  obtain ⟨url, asked, -, -, addressed⟩ := lookup_addresses served looksUp
  obtain ⟨path, -⟩ := addressed.mpr ⟨literal.1, literal.2, by simp⟩
  exact ⟨root, url, served, asked, looksUp, path⟩

/-- A secret whose name leads out of its namespace is looked up in another one. -/
theorem lookup_addresses_other :
    let client := ofUrl "http://localhost:8001" none
    let request := Request.secretExists "build-examples" "../../other/secrets/creds"
    ∃ root url, Url.IsRoot client.baseUrl root ∧ client.url? request.endpoint = some url ∧
      client.url? (Request.secretExists "other" "creds").endpoint = some url ∧
      url.decodedPath ≠ root.directory ++ ["api", "v1", "namespaces", "build-examples", "secrets",
        "../../other/secrets/creds"].map fun part => Url.bytes part.toList := by
  intro client request
  let root : Url :=
    { scheme := "http", username := "", password := "", host := some (.name "localhost")
      port := some 8001, path := .segments [""], query := none, fragment := none }
  let url : Url := { root with
    path := .segments ["api", "v1", "namespaces", "other", "secrets", "creds"] }
  have served : Url.IsRoot client.baseUrl root := by
    refine ⟨by decide +kernel, by decide, rfl, rfl, ?_⟩
    have last : client.baseUrl.toList.getLast? = some '1' := by decide +kernel
    simp [last]
  exact ⟨root, url, served, by decide +kernel, by decide +kernel, by decide +kernel⟩

end Client

end BuildController
