import BuildController.Proofs.Segments

/-! Addresses under a root. The address of a root has no query or fragment, so a text after it goes
on with its path: scheme, host and port are those of the root, and the path is resolved from where
the path of the root leads. -/
namespace BuildController

namespace Url

open Text

/-- What is read of a text that stands at the end of an address. -/
def kept (cs : List Char) : List Char :=
  (cs.rdropWhile fun c => c.toNat ≤ 0x20).filter fun c => c ≠ '\t' && c ≠ '\n' && c ≠ '\r'

/-- The segments of the path of a URL, decoded. -/
def decodedPath (url : Url) : List (List Nat) :=
  match url.path with
  | .segments parts => parts.map fun part => percentDecode part.toList
  | .plain _ => []

/-- The decoded segments of the directory that a URL denotes. A path that ends in a slash has an
empty segment at its end. -/
def directory (url : Url) : List (List Nat) :=
  if url.decodedPath.getLast? = some [] then url.decodedPath.dropLast else url.decodedPath

/-- The text is the address of a root: a web address without query and fragment, and with nothing
at its end that is not read as a part of its path or host. -/
structure IsRoot (text : String) (root : Url) : Prop where
  parsed : ofText? text = some root
  web : root.isHttp = true
  query : root.query = none
  fragment : root.fragment = none
  ended : ∀ c ∈ text.toList.getLast?, 0x20 < c.toNat ∧ c ≠ '\\'

section Reading

variable {p : Char → Bool} {cs ds : List Char}

theorem dropWhile_append_cons {c : Char} (stops : p c = false) (cs ds : List Char) :
    (cs ++ c :: ds).dropWhile p = cs.dropWhile p ++ c :: ds := by
  rw [List.dropWhile_append]
  split
  · next through =>
    rw [List.isEmpty_iff.mp through, List.dropWhile_cons_of_neg (by simp [stops]), List.nil_append]
  · rfl

theorem rdropWhile_append_cons {c : Char} (stops : p c = false) (cs ds : List Char) :
    (cs ++ c :: ds).rdropWhile p = cs ++ c :: ds.rdropWhile p := by
  rw [List.rdropWhile, List.reverse_append, List.reverse_cons, List.append_assoc,
    List.singleton_append, dropWhile_append_cons stops]
  simp [List.rdropWhile]

theorem splitBefore_append (stops : (splitBefore p cs).2 ≠ []) :
    splitBefore p (cs ++ ds) = ((splitBefore p cs).1, (splitBefore p cs).2 ++ ds) := by
  simp only [splitBefore] at stops ⊢
  have fewer : (cs.takeWhile fun c => !p c).length ≠ cs.length := by
    intro all
    have parts := congrArg List.length
      (List.takeWhile_append_dropWhile (p := fun c => !p c) (l := cs))
    rw [List.length_append] at parts
    exact stops (List.length_eq_zero_iff.mp (by omega))
  have more : ¬(cs.dropWhile fun c => !p c).isEmpty = true := mt List.isEmpty_iff.mp stops
  rw [List.takeWhile_append, List.dropWhile_append, if_neg fewer, if_neg more]

theorem splitBefore_whole (p : Char → Bool) (cs : List Char) :
    (splitBefore p cs).1 ++ (splitBefore p cs).2 = cs := List.takeWhile_append_dropWhile

theorem splitBefore_append_of_nil (through : (splitBefore p cs).2 = []) :
    splitBefore p (cs ++ ds) = (cs ++ (splitBefore p ds).1, (splitBefore p ds).2) := by
  have all := List.dropWhile_eq_nil_iff.mp through
  simp only [splitBefore]
  rw [List.takeWhile_append_of_pos all, List.dropWhile_append_of_pos all]

theorem unbroken_of_visible {c : Char} (visible : 0x20 < c.toNat) :
    (c ≠ '\t' && c ≠ '\n' && c ≠ '\r') = true := by
  have plain : c ≠ '\t' ∧ c ≠ '\n' ∧ c ≠ '\r' := by
    refine ⟨?_, ?_, ?_⟩ <;> rintro rfl <;> exact absurd visible (by decide)
  simp [plain]

theorem kept_cons {c : Char} (visible : 0x20 < c.toNat) (cs : List Char) :
    kept (c :: cs) = c :: kept cs := by
  have stops : decide (c.toNat ≤ 0x20) = false := decide_eq_false (by omega)
  have dropped := rdropWhile_append_cons (p := fun c => c.toNat ≤ 0x20) stops [] cs
  rw [kept, ← List.nil_append (c :: cs), dropped]
  exact List.filter_cons_of_pos (unbroken_of_visible visible)

/-- A text after a visible character is cleaned apart from what stands before it. -/
theorem exists_clean {c : Char} (visible : 0x20 < c.toNat) (cs : List Char) :
    ∃ before, ∀ ds, clean (cs ++ c :: ds) = before ++ c :: kept ds := by
  have stops : decide (c.toNat ≤ 0x20) = false := decide_eq_false (by omega)
  refine ⟨(cs.dropWhile fun c => c.toNat ≤ 0x20).filter
    fun c => c ≠ '\t' && c ≠ '\n' && c ≠ '\r', fun ds => ?_⟩
  have dropped := dropWhile_append_cons (p := fun c => c.toNat ≤ 0x20) stops cs ds
  have trimmed : Text.trimList (fun c => c.toNat ≤ 0x20) (cs ++ c :: ds) =
      cs.dropWhile (fun c => c.toNat ≤ 0x20) ++ c :: ds.rdropWhile fun c => c.toNat ≤ 0x20 := by
    rw [Text.trimList, dropped]
    exact rdropWhile_append_cons (p := fun c => c.toNat ≤ 0x20) stops _ ds
  rw [clean, trimmed, List.filter_append, List.append_cancel_left_eq]
  exact List.filter_cons_of_pos (unbroken_of_visible visible)

theorem scheme?_append {scheme : String} {rest : List Char}
    (read : scheme? cs = some (scheme, rest)) : scheme? (cs ++ ds) = some (scheme, rest ++ ds) := by
  unfold scheme? at read ⊢
  have stops : (splitBefore (· = ':') cs).2 ≠ [] := by
    intro through
    simp [through] at read
  rw [splitBefore_append stops]
  generalize splitBefore (· = ':') cs = parts at read stops
  obtain ⟨name, colon⟩ := parts
  cases name with
  | nil => cases read
  | cons first name =>
    cases colon with
    | nil => cases read
    | cons colon after =>
      simp only [List.cons_append] at read ⊢
      split at read
      · next word =>
        rw [if_pos word]
        cases read
        rfl
      · cases read

theorem suffix_of_scheme? {cs rest : List Char} {scheme : String}
    (read : scheme? cs = some (scheme, rest)) : rest <:+ cs := by
  have whole := splitBefore_whole (· = ':') cs
  unfold scheme? at read
  generalize splitBefore (· = ':') cs = parts at read whole
  obtain ⟨name, colon⟩ := parts
  cases name with
  | nil => cases read
  | cons first name =>
    cases colon with
    | nil => cases read
    | cons colon after =>
      simp only at read
      split at read
      · cases read
        rw [← whole]
        exact ⟨first :: name ++ [colon], by simp⟩
      · cases read

theorem splitHost_suffix (bracket : Bool) (cs : List Char) : (splitHost bracket cs).2 <:+ cs := by
  fun_induction splitHost bracket cs with
  | case1 => exact List.suffix_rfl
  | case2 => exact List.suffix_rfl
  | case3 bracket c rest _ inside host after found ih =>
    rw [found] at ih
    exact ih.trans (List.suffix_cons c rest)

theorem splitLast_suffix (c : Char) (cs : List Char) :
    ((splitLast c cs).getD ([], cs)).2 <:+ cs := by
  have ending : (splitBefore (· = c) cs.reverse).1.reverse <:+ cs := by
    rw [← List.reverse_prefix, List.reverse_reverse]
    exact List.takeWhile_prefix _
  unfold splitLast
  generalize splitBefore (· = c) cs.reverse = parts at ending
  obtain ⟨after, before⟩ := parts
  cases before with
  | nil => exact List.suffix_rfl
  | cons d before => exact ending

/-- Without a host an authority is not one of the web, whatever follows it. -/
theorem authority?_atEnd (port : Nat) (atEnd : Bool) (cs : List Char) :
    authority? (.web port) atEnd cs = authority? (.web port) true cs := by
  have nowhere : domainHost? (splitHost false []).1 = none := by decide +kernel
  unfold authority?
  generalize (splitLast '@' cs).getD ([], cs) = parts
  obtain ⟨info, place⟩ := parts
  simp only [Bool.not_true, Bool.and_false, SchemeKind.special]
  split
  · next empty =>
    simp only [Bool.and_eq_true, decide_eq_true_eq] at empty
    obtain rfl := empty.1.1.2
    simp [nowhere]
  · rfl

theorem of_mem_head?_splitBefore (p : Char → Bool) (cs : List Char) {c : Char}
    (head : c ∈ (splitBefore p cs).2.head?) : p c = true := by
  have stops := List.head?_dropWhile_not (fun c => !p c) cs
  rw [splitBefore, Option.mem_def] at head
  simpa [head] using stops

/-- What an authority leaves to the path stands at its end, after a backslash. -/
theorem authority?_after {port : Nat} {found : Authority}
    (read : authority? (.web port) true cs = some found) :
    found.after <:+ cs ∧ ∀ c ∈ found.after.head?, c = '\\' := by
  have placed := splitLast_suffix '@' cs
  unfold authority? at read
  generalize (splitLast '@' cs).getD ([], cs) = parts at read placed
  obtain ⟨info, place⟩ := parts
  simp only [Bool.not_true, Bool.and_false, Bool.false_eq_true, if_false, SchemeKind.special,
    if_true] at read
  obtain ⟨host, -, read⟩ := Option.bind_eq_some_iff.mp read
  rcases ite_eq_iff.mp read with ⟨-, read⟩ | ⟨-, read⟩
  · cases read
  · obtain ⟨port, -, read⟩ := Option.bind_eq_some_iff.mp read
    cases read
    refine ⟨((List.dropWhile_suffix _).trans (splitHost_suffix false place)).trans placed, ?_⟩
    exact fun c head => of_decide_eq_true (of_mem_head?_splitBefore _ _ head)

/-- A text at which reading stops comes after the rest of the text before it. -/
theorem splitBefore_append_cons (p : Char → Bool) (cs : List Char) {c : Char} (ds : List Char)
    (stops : p c = true) : splitBefore p (cs ++ c :: ds) =
      ((splitBefore p cs).1, (splitBefore p cs).2 ++ c :: ds) := by
  cases rest : (splitBefore p cs).2 with
  | nil =>
    have whole := splitBefore_whole p cs
    rw [rest, List.append_nil] at whole
    rw [splitBefore_append_of_nil rest, whole]
    simp [splitBefore, stops]
  | cons d rest =>
    rw [splitBefore_append (by simp [rest]), rest]

theorem eq_nil_of_queryAndFragment {kind : SchemeKind} (query : (queryAndFragment kind cs).1 = none)
    (fragment : (queryAndFragment kind cs).2 = none) : cs = [] := by
  have whole := splitBefore_whole (· = '#') cs
  unfold queryAndFragment at query fragment
  generalize splitBefore (· = '#') cs = parts at query fragment whole
  obtain ⟨first, second⟩ := parts
  cases first with
  | cons => cases query
  | nil =>
    cases second with
    | cons => cases fragment
    | nil => exact whole.symm

theorem afterSlashes?_nil (scheme : String) (port : Nat) :
    afterSlashes? scheme (.web port) [] = none := by
  have nowhere : domainHost? (splitHost false []).1 = none := by decide +kernel
  have nobody : authority? (.web port) true [] = none := by
    simp [authority?, splitLast, splitBefore, SchemeKind.special, nowhere]
  simp [afterSlashes?, splitBefore, nobody]

/-- A text after an address without query and fragment is read as a part of its path, up to a query
or fragment of its own. -/
theorem afterSlashes?_append {scheme : String} {port : Nat} {root : Url}
    (read : afterSlashes? scheme (.web port) cs = some root) (query : root.query = none)
    (fragment : root.fragment = none) :
    ∃ above, above <:+ cs ∧ (∀ c ∈ above.head?, (SchemeKind.web port).isSlash c = true) ∧
      root.path = pathAfterHost (.web port) above ∧
      ∀ ds, afterSlashes? scheme (.web port) (cs ++ '/' :: ds) = some { root with
        path := pathAfterHost (.web port) (above ++ '/' :: (splitBefore isPathEnd ds).1)
        query := (queryAndFragment (.web port) (splitBefore isPathEnd ds).2).1
        fragment := (queryAndFragment (.web port) (splitBefore isPathEnd ds).2).2 } := by
  have turns (ds : List Char) := splitBefore_append_cons
    (fun c => (SchemeKind.web port).isSlash c || isPathEnd c) cs (c := '/') ds rfl
  have goesOn (ds : List Char) : splitBefore isPathEnd ('/' :: ds) =
      ('/' :: (splitBefore isPathEnd ds).1, (splitBefore isPathEnd ds).2) := rfl
  have begins (c : Char) := @of_mem_head?_splitBefore
    (fun c => (SchemeKind.web port).isSlash c || isPathEnd c) cs c
  have whole := splitBefore_whole (fun c => (SchemeKind.web port).isSlash c || isPathEnd c) cs
  simp only [afterSlashes?, turns, authority?_atEnd port] at read ⊢
  generalize splitBefore (fun c => (SchemeKind.web port).isSlash c || isPathEnd c) cs = parts
    at read begins whole ⊢
  obtain ⟨place, rest⟩ := parts
  obtain ⟨found, authority, same⟩ := Option.bind_eq_some_iff.mp read
  cases same
  simp only at authority begins whole query fragment ⊢
  obtain ⟨after, backslash⟩ := authority?_after authority
  have ended := eq_nil_of_queryAndFragment query fragment
  have inside := List.dropWhile_eq_nil_iff.mp ended
  have path := splitBefore_whole isPathEnd rest
  rw [ended, List.append_nil] at path
  refine ⟨found.after ++ rest, ?_, ?_, ?_, fun ds => ?_⟩
  · obtain ⟨before, rfl⟩ := after
    exact ⟨before, by rw [← whole, List.append_assoc]⟩
  · intro c head
    rw [List.head?_append] at head
    cases first : found.after.head? with
    | some d =>
      rw [first] at head
      cases head
      rw [backslash c first]
      rfl
    | none =>
      rw [first] at head
      have unended : isPathEnd c = false := by simpa using inside c (List.mem_of_head? head)
      simpa [unended] using begins c head
  · rw [path]
  · rw [splitBefore_append_of_nil ended, goesOn, authority, List.append_assoc]
    rfl

end Reading

section Paths

variable {port : Nat}

theorem splitSlashes_append (cs ds : List Char) : splitSlashes (.web port) (cs ++ '/' :: ds) =
    splitSlashes (.web port) cs ++ splitSlashes (.web port) ds := by
  unfold splitSlashes
  rw [List.map_append, List.map_cons]
  exact splitAt_append_cons '/' _ _

theorem decodedPath_of_segments {url : Url} {segments : List (List Char)}
    (path : url.path = .segments (segments.map String.ofList)) :
    url.decodedPath = segments.map percentDecode := by
  simp [decodedPath, path]

theorem percentEncode_ne_nil {cs : List Char} (present : cs ≠ []) :
    percentEncode inPath cs ≠ [] := by
  obtain ⟨c, rest, rfl⟩ := List.exists_cons_of_ne_nil present
  obtain ⟨after, ⟨form, -⟩ | form⟩ := encodeChar_cons inPath c
  · simp [percentEncode, form]
  · simp [percentEncode, form]

/-- The path of a URL whose segments end in one that is not empty is all of its directory. -/
theorem directory_of_path {url : Url} {before : List (List Char)} {last : List Char}
    (present : last ≠ []) (path : url.path =
      .segments ((resolve (.web port) before [last]).map String.ofList)) :
    url.directory = ((enter before last).reverse).map percentDecode := by
  unfold directory
  rw [decodedPath_of_segments path]
  obtain ⟨kept, plain⟩ | ⟨kept, -⟩ := resolve_singleton port before last
  · have entered : enter before last = last :: before := by
      rw [IsDots, not_or] at plain
      simp [enter, plain]
    rw [kept, entered]
    simp [percentDecode_ne_nil present]
  · rw [kept]
    simp [percentDecode]

/-- A path under another one is resolved from where the other one leads. -/
theorem pathAfterHost_append {path : List Char}
    (begins : ∀ c ∈ path.head?, (SchemeKind.web port).isSlash c = true)
    (ends : ∀ c ∈ path.getLast?, (SchemeKind.web port).isSlash c = false) :
    ∃ before : List (List Char),
      (∀ url : Url, url.path = pathAfterHost (.web port) path →
        url.directory = before.reverse.map percentDecode) ∧
      ∀ place, ∀ url : Url, url.path = pathAfterHost (.web port) (path ++ '/' :: place) →
        url.decodedPath = (resolve (.web port) before
          ((splitSlashes (.web port) place).map (percentEncode inPath))).map percentDecode := by
  have slash : (SchemeKind.web port).isSlash '/' = true := rfl
  cases path with
  | nil =>
    refine ⟨[], fun url path => ?_, fun place url path => ?_⟩
    · simp [directory, decodedPath, path, pathAfterHost, SchemeKind.special, percentDecode]
    · rw [List.nil_append, pathAfterHost, slash, if_pos rfl, pathSegments_web] at path
      exact decodedPath_of_segments path
  | cons first path =>
    have slash := begins first rfl
    refine ⟨((splitSlashes (.web port) path).map (percentEncode inPath)).foldl enter [],
      fun url same => ?_, fun place url same => ?_⟩
    · rw [pathAfterHost, slash, if_pos rfl, pathSegments_web] at same
      rcases List.eq_nil_or_concat path with rfl | ⟨cs, d, rfl⟩
      · rw [ends first rfl] at slash
        cases slash
      · have plain : (SchemeKind.web port).isSlash d = false := by
          apply ends
          rw [List.concat_eq_append, ← List.cons_append, List.getLast?_concat]
          rfl
        have other : d ≠ '/' := by
          rintro rfl
          cases plain
        obtain ⟨parts, last, split⟩ := splitAt_concat other
          (cs.map fun c => if (SchemeKind.web port).isSlash c then '/' else c)
        have segments : splitSlashes (.web port) (cs.concat d) = parts ++ [last ++ [d]] := by
          rw [splitSlashes, List.concat_eq_append, List.map_append, List.map_singleton, plain]
          exact split
        rw [segments, List.map_append, List.map_singleton, resolve_append _ (by simp)] at same
        rw [segments, List.map_append, List.map_singleton, List.foldl_append]
        exact directory_of_path (percentEncode_ne_nil (by simp)) same
    · have more : (splitSlashes (.web port) place).map (percentEncode inPath) ≠ [] := by
        rw [splitSlashes, splitAt_eq]
        exact mt List.map_eq_nil_iff.mp (List.splitOn_ne_nil _ _)
      rw [List.cons_append, pathAfterHost, slash, if_pos rfl, pathSegments_web, splitSlashes_append,
        List.map_append, resolve_append _ more] at same
      exact decodedPath_of_segments same

/-- A text after a visible character goes on with the authority and the path before it. -/
theorem ofText?_append {text scheme : String} {cs rest : List Char} {c : Char}
    (ended : text.toList = cs ++ [c]) (visible : 0x20 < c.toNat)
    (begins : scheme? (clean text.toList) = some (scheme, rest))
    (kind : SchemeKind.of scheme = .web port)
    (placed : rest.dropWhile (SchemeKind.web port).isSlash ≠ []) (ds : List Char) :
    ofText? (text ++ .ofList ('/' :: ds)) = afterSlashes? scheme (.web port)
      (rest.dropWhile (SchemeKind.web port).isSlash ++ '/' :: kept ds) := by
  have more : (rest.dropWhile (SchemeKind.web port).isSlash).isEmpty = false :=
    List.isEmpty_eq_false_iff.mpr placed
  have cleaned : clean (text ++ .ofList ('/' :: ds)).toList =
      clean text.toList ++ '/' :: kept ds := by
    obtain ⟨before, cleaned⟩ := exists_clean visible cs
    rw [String.toList_append, String.toList_ofList, ended, List.append_assoc, List.singleton_append,
      cleaned, cleaned, kept_cons (by decide)]
    simp [kept]
  rw [ofText?, cleaned, scheme?_append begins, Option.bind_eq_bind, Option.bind_some]
  simp only [kind, List.dropWhile_append, more]
  rfl

/-- A text under a root is read as a path from the directory of the root, up to a query or fragment
of its own. -/
theorem IsRoot.reads {text : String} {root : Url} (served : IsRoot text root)
    (unslashed : ∀ c ∈ text.toList.getLast?, c ≠ '/') :
    ∃ port before, root.directory = before.reverse.map percentDecode ∧
      ∀ ds : List Char, ∃ url, ofText? (text ++ .ofList ('/' :: ds)) = some url ∧
        (url.scheme = root.scheme ∧ url.host = root.host ∧ url.port = root.port) ∧
        url.decodedPath = (resolve (.web port) before
          ((splitSlashes (.web port) (splitBefore isPathEnd (kept ds)).1).map
            (percentEncode inPath))).map percentDecode ∧
        url.query = (queryAndFragment (.web port) (splitBefore isPathEnd (kept ds)).2).1 := by
  obtain ⟨scheme, rest, port, begins, kind, read⟩ := read_of_isHttp served.parsed served.web
  obtain ⟨path, suffix, slash, same, under⟩ :=
    afterSlashes?_append read served.query served.fragment
  have placed : rest.dropWhile (SchemeKind.web port).isSlash ≠ [] := by
    intro none
    rw [none, afterSlashes?_nil] at read
    cases read
  have ended := served.ended
  rcases List.eq_nil_or_concat text.toList with none | ⟨cs, c, whole⟩
  · rw [none] at begins
    cases begins
  · rw [List.concat_eq_append] at whole
    rw [whole, List.getLast?_concat] at ended unslashed
    obtain ⟨visible, forward⟩ := ended c rfl
    have other : c ≠ '/' := unslashed c rfl
    -- The path of the root ends as the text does, since nothing at its end is cleaned away.
    have ends : ∀ d ∈ path.getLast?, (SchemeKind.web port).isSlash d = false := by
      obtain ⟨before, cleaned⟩ := exists_clean visible cs
      have last : clean (cs ++ [c]) = before ++ [c] := cleaned []
      obtain ⟨above, suffix⟩ :=
        (suffix.trans (List.dropWhile_suffix _)).trans (suffix_of_scheme? begins)
      intro d member
      have lasts := congrArg List.getLast? suffix
      rw [whole, last, List.getLast?_append, member, List.getLast?_concat, Option.some_or] at lasts
      cases lasts
      simp [SchemeKind.isSlash, forward, other]
    obtain ⟨before, directory, resolved⟩ := pathAfterHost_append slash ends
    refine ⟨port, before, directory root same, fun ds => ?_⟩
    refine ⟨_, (ofText?_append whole visible begins kind placed ds).trans (under (kept ds)),
      ⟨rfl, rfl, rfl⟩, ?_, rfl⟩
    exact resolved _ _ rfl

end Paths

end Url

end BuildController
