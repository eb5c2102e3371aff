import BuildController.Proofs.Labels
import BuildController.Text.Blank
import Mathlib.Data.List.Induction

/-! Paths of files, which may have a variable for the root of the sources. A path leads through
directories by its parts between slashes: empty parts and points stay where they are, two points
lead up and all others down. A path below a root leads up some directories and then down again, and
it stays inside the root if it does not lead up, or if it comes down the same way. -/
namespace BuildController

/-- The text with a value in place of a variable, read from the left. A number of characters of a
variable that was replaced are still to be passed over. -/
def substitute (name value : List Char) : Nat → List Char → List Char
  | _, [] => []
  | passed + 1, _ :: rest => substitute name value passed rest
  | 0, c :: rest =>
    if name.isPrefixOf (c :: rest) then value ++ substitute name value (name.length - 1) rest
    else c :: substitute name value 0 rest

/-- The text with the root of the sources in place of its parameter. -/
def inRoot (root : String) (text : List Char) : List Char :=
  substitute "$(params.kiln-source-root)".toList root.toList 0 text

section Substitution

variable {name value : List Char} {c : Char}

theorem substitute_append (begins : name = c :: after) (rest : List Char) :
    substitute name value 0 (name ++ rest) = value ++ substitute name value 0 rest := by
  have pass (passed : List Char) : substitute name value passed.length (passed ++ rest) =
      substitute name value 0 rest := by
    induction passed with
    | nil => rfl
    | cons d passed ih => exact ih
  have here : name.isPrefixOf (name ++ rest) = true := by simp
  subst begins
  rw [List.cons_append] at here ⊢
  rw [substitute, if_pos here]
  exact congrArg (value ++ ·) (pass after)

theorem substitute_cons {d : Char} (begins : name = c :: after) (other : d ≠ c)
    (rest : List Char) :
    substitute name value 0 (d :: rest) = d :: substitute name value 0 rest := by
  subst begins
  rw [substitute, if_neg]
  simp [List.isPrefixOf, Ne.symm other]

theorem substitute_of_not_mem {cs : List Char} (begins : name = c :: after) (free : c ∉ cs) :
    substitute name value 0 cs = cs := by
  induction cs with
  | nil => rfl
  | cons d rest ih =>
    rw [List.mem_cons, not_or] at free
    rw [substitute_cons begins (Ne.symm free.1), ih free.2]

theorem inRoot_of_not_mem {root : String} {cs : List Char} (free : '$' ∉ cs) :
    inRoot root cs = cs := substitute_of_not_mem (c := '$') rfl free

/-- The root of the sources is in the place of its parameter at the beginning of a path. -/
theorem inRoot_append (root : String) (rest : List Char) :
    inRoot root ("$(params.kiln-source-root)/".toList ++ rest) =
      root.toList ++ '/' :: inRoot root rest := by
  have parameter : "$(params.kiln-source-root)/".toList ++ rest =
      "$(params.kiln-source-root)".toList ++ '/' :: rest := by simp
  have begins : "$(params.kiln-source-root)".toList =
      '$' :: "(params.kiln-source-root)".toList := by simp
  rw [parameter, inRoot, substitute_append begins, substitute_cons begins (by decide)]
  rfl

end Substitution

namespace Path

/-- The names on the way to a file or a directory. -/
abbrev Place := List (List Char)

/-- Where a part leads from a directory. Directories are given by the names on the way to them, the
last one first. -/
def enter (dir : List (List Char)) (part : List Char) : List (List Char) :=
  if part = [] ∨ part = ['.'] then dir
  else if part = ['.', '.'] then dir.tail
  else part :: dir

/-- The names on the way to what an absolute path denotes. -/
def locate (path : String) : List (List Char) :=
  ((Text.splitAt '/' path.toList).foldl enter []).reverse

/-- What a path denotes once its variables are replaced. -/
def resolve (expand : List Char → List Char) (path : String) : Place :=
  locate (.ofList (expand path.toList))

/-- The directory lies on the way. -/
def Below (dir place : Place) : Prop := dir <+: place ∧ place ≠ dir

instance (dir place : Place) : Decidable (Below dir place) := inferInstanceAs (Decidable (_ ∧ _))

/-- The path denotes the root or something below it. -/
def Inside (root path : String) : Prop := ['/'] <+: path.toList ∧ locate root <+: locate path

instance : Decidable (Inside root path) := inferInstanceAs (Decidable (_ ∧ _))

/-- The parts of a relative path lead up a number of directories, and then down through names. -/
inductive Detour : List (List Char) → Nat → List (List Char) → Prop
  | start : Detour [] 0 []
  | stay (so : Detour parts ups names) (still : part = [] ∨ part = ['.']) :
      Detour (parts ++ [part]) ups names
  | down (so : Detour parts ups names) (still : ¬(part = [] ∨ part = ['.']))
      (named : part ≠ ['.', '.']) : Detour (parts ++ [part]) ups (names ++ [part])
  | back (so : Detour parts ups (names ++ [name])) : Detour (parts ++ [['.', '.']]) ups names
  | up (so : Detour parts ups []) : Detour (parts ++ [['.', '.']]) (ups + 1) []

/-- The path below the root stays inside it unless it leads up, and not down again the same way. -/
def Stays (root path : String) (rest : List Char) : Prop :=
  ∃ ups names, Detour (Text.splitAt '/' rest) ups names ∧
    (Inside root path ↔ (locate root).drop ((locate root).length - ups) <+: names)

variable {parts names dir : List (List Char)} {ups : Nat}

theorem exists_detour (parts : List (List Char)) : ∃ ups names, Detour parts ups names := by
  induction parts using List.reverseRecOn with
  | nil => exact ⟨0, [], .start⟩
  | append_singleton parts part ih =>
    obtain ⟨ups, names, so⟩ := ih
    by_cases still : part = [] ∨ part = ['.']
    · exact ⟨ups, names, .stay so still⟩
    · by_cases parent : part = ['.', '.']
      · subst parent
        rcases List.eq_nil_or_concat names with rfl | ⟨before, name, rfl⟩
        · exact ⟨ups + 1, [], .up so⟩
        · rw [List.concat_eq_append] at so
          exact ⟨ups, before, .back so⟩
      · exact ⟨ups, names ++ [part], .down so still parent⟩

theorem enter_of_still {part : List Char} (still : part = [] ∨ part = ['.']) :
    enter dir part = dir := if_pos still

theorem enter_parent : enter dir ['.', '.'] = dir.tail := rfl

theorem enter_of_name {part : List Char} (still : ¬(part = [] ∨ part = ['.']))
    (named : part ≠ ['.', '.']) : enter dir part = part :: dir := by
  rw [enter, if_neg still, if_neg named]

/-- A detour leads from any directory to where its ups and names lead. -/
theorem Detour.foldl_enter (detour : Detour parts ups names) (dir : List (List Char)) :
    parts.foldl enter dir = names.reverse ++ dir.drop ups := by
  induction detour with
  | start => rfl
  | stay _ still ih =>
    rw [List.foldl_append, ih, List.foldl_cons, enter_of_still still, List.foldl_nil]
  | down _ still named ih =>
    rw [List.foldl_append, ih, List.foldl_cons, enter_of_name still named]
    simp
  | back _ ih =>
    rw [List.foldl_append, ih, List.foldl_cons, enter_parent]
    simp
  | up _ ih =>
    rw [List.foldl_append, ih, List.foldl_cons, enter_parent]
    simp

/-- Slashes at the ends of a relative path do not count. -/
theorem foldl_enter_trimList (cs : List Char) (dir : List (List Char)) :
    (Text.splitAt '/' (Text.trimList (· = '/') cs)).foldl enter dir =
      (Text.splitAt '/' cs).foldl enter dir := by
  have atStart (cs : List Char) : (Text.splitAt '/' (cs.dropWhile (· = '/'))).foldl enter dir =
      (Text.splitAt '/' cs).foldl enter dir := by
    induction cs with
    | nil => rfl
    | cons c cs ih =>
      by_cases slash : c = '/'
      · subst slash
        rw [List.dropWhile_cons_of_pos (by simp), ih]
        rfl
      · rw [List.dropWhile_cons_of_neg (by simpa using slash)]
  have atEnd (cs : List Char) :
      (Text.splitAt '/' (cs.dropWhile (· = '/')).reverse).foldl enter dir =
        (Text.splitAt '/' cs.reverse).foldl enter dir := by
    induction cs with
    | nil => rfl
    | cons c cs ih =>
      by_cases slash : c = '/'
      · subst slash
        rw [List.dropWhile_cons_of_pos (by simp), ih, List.reverse_cons, Text.splitAt_append_cons,
          List.foldl_append]
        rfl
      · rw [List.dropWhile_cons_of_neg (by simpa using slash)]
  rw [Text.trimList, atEnd, List.reverse_reverse, atStart]

/-- A path below a root is one of the root or leads out of it, whatever slashes are dropped. -/
theorem stays_append {rest written : List Char} (root : String) (absolute : ['/'] <+: root.toList)
    (alike : ∀ dir, (Text.splitAt '/' written).foldl enter dir =
      (Text.splitAt '/' rest).foldl enter dir) :
    Stays root (root ++ .ofList ('/' :: written)) rest := by
  obtain ⟨ups, names, detour⟩ := exists_detour (Text.splitAt '/' rest)
  refine ⟨ups, names, detour, ?_⟩
  have below : ['/'] <+: (root ++ .ofList ('/' :: written)).toList := by
    rw [String.toList_append]
    exact absolute.trans (List.prefix_append _ _)
  have place : locate (root ++ .ofList ('/' :: written)) =
      (locate root).take ((locate root).length - ups) ++ names := by
    unfold locate
    rw [String.toList_append, String.toList_ofList, Text.splitAt_append_cons, List.foldl_append,
      alike, detour.foldl_enter, List.reverse_append, List.reverse_reverse, List.length_reverse,
      List.reverse_drop]
  rw [Inside, and_iff_right below, place]
  generalize (locate root).length - ups = kept
  have parted : locate root <+: (locate root).take kept ++ names ↔
      (locate root).take kept ++ (locate root).drop kept <+: (locate root).take kept ++ names := by
    rw [List.take_append_drop]
  exact parted.trans (List.prefix_append_right_inj _)

theorem stays_root (root : String) (absolute : ['/'] <+: root.toList) : Stays root root [] := by
  refine ⟨0, [], .stay .start (.inl rfl), ?_⟩
  rw [Inside, and_iff_right absolute, Nat.sub_zero, List.drop_length]
  exact iff_of_true List.prefix_rfl List.prefix_rfl

theorem Detour.ups_eq_zero (detour : Detour parts ups names)
    (plain : ∀ part ∈ parts, part ≠ ['.', '.']) : ups = 0 := by
  induction detour with
  | start => rfl
  | stay _ _ ih | down _ _ _ ih =>
    exact ih fun part member => plain part (List.mem_append_left _ member)
  | back | up => exact (plain ['.', '.'] (by simp) rfl).elim

/-- A path that never leads up stays inside. -/
theorem Stays.inside {root path : String} {rest : List Char} (stays : Stays root path rest)
    (plain : ∀ part ∈ Text.splitAt '/' rest, part ≠ ['.', '.']) : Inside root path := by
  obtain ⟨ups, names, detour, inside⟩ := stays
  obtain rfl := detour.ups_eq_zero plain
  rw [inside, Nat.sub_zero, List.drop_length]
  exact List.nil_prefix

end Path

end BuildController
