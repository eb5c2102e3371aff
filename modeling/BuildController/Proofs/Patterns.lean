import BuildController.Proofs.Labels
import Mathlib.Computability.Language

/-! Two descriptions of names and labels. Messages quote regular expressions, and users are told
which characters may stand where. A check finds no problem with a text exactly if the text is short
enough and matches the expression as a whole, and exactly if it is built as it is described. -/
namespace BuildController

open Computability

/-- A regular expression: a class of characters, a sign that is escaped, and what is made of
expressions by writing them one after the other, `?` and `*`. -/
inductive Pattern
  | oneOf (ranges : List (Char × Char))
  | literal (c : Char)
  | sequence (first next : Pattern)
  | optional (inner : Pattern)
  | repeated (inner : Pattern)

namespace Pattern

/-- The character lies in one of the ranges. -/
def Among (ranges : List (Char × Char)) (c : Char) : Prop :=
  ∃ range ∈ ranges, range.1 ≤ c ∧ c ≤ range.2

/-- The texts that match the expression from beginning to end. -/
def language : Pattern → Language Char
  | oneOf ranges => {cs | ∃ c, Among ranges c ∧ cs = [c]}
  | literal c => {cs | cs = [c]}
  | sequence first next => first.language * next.language
  | optional inner => 1 + inner.language
  | repeated inner => inner.language∗

variable {p q : Pattern} {cs : List Char} {edges insides : List (Char × Char)}

theorem mem_oneOf : cs ∈ (oneOf edges).language ↔ ∃ c, Among edges c ∧ cs = [c] := Iff.rfl

theorem mem_literal {c : Char} : cs ∈ (literal c).language ↔ cs = [c] := Iff.rfl

theorem mem_sequence : cs ∈ (sequence p q).language ↔
    ∃ before ∈ p.language, ∃ after ∈ q.language, before ++ after = cs := Language.mem_mul

theorem mem_optional : cs ∈ (optional p).language ↔ cs = [] ∨ cs ∈ p.language := Iff.rfl

theorem mem_repeated : cs ∈ (repeated p).language ↔
    ∃ parts : List (List Char), cs = parts.flatten ∧ ∀ part ∈ parts, part ∈ p.language :=
  Language.mem_kstar

/-- A repeated class matches the texts over it. -/
theorem mem_repeated_oneOf : cs ∈ (repeated (oneOf insides)).language ↔
    ∀ c ∈ cs, Among insides c := by
  rw [mem_repeated]
  constructor
  · rintro ⟨parts, rfl, matched⟩ c member
    obtain ⟨part, there, member⟩ := List.mem_flatten.mp member
    obtain ⟨d, among, rfl⟩ := mem_oneOf.mp (matched part there)
    rwa [List.mem_singleton.mp member]
  · intro among
    have whole : (cs.map fun c => [c]).flatten = cs := by
      rw [← List.flatMap_def, List.flatMap_singleton']
    refine ⟨cs.map fun c => [c], whole.symm, ?_⟩
    intro part member
    obtain ⟨c, there, rfl⟩ := List.mem_map.mp member
    exact mem_oneOf.mpr ⟨c, among c there, rfl⟩

/-- One way to write what a text is bounded by: a last character after all others, if there are
any. -/
theorem mem_edge_last :
    cs ∈ (sequence (optional (sequence (oneOf edges) (repeated (oneOf insides))))
      (oneOf edges)).language ↔ Label.Bounded (Among edges) (Among insides) cs := by
  simp only [mem_sequence, mem_optional, mem_repeated_oneOf, mem_oneOf]
  constructor
  · rintro ⟨before, rfl | ⟨_, ⟨c, first, rfl⟩, middle, inside, rfl⟩, _, ⟨e, last, rfl⟩, rfl⟩
    · exact .single last
    · exact .between first inside last
  · intro bounded
    cases bounded with
    | single only => exact ⟨[], .inl rfl, _, ⟨_, only, rfl⟩, rfl⟩
    | between first inside last =>
      exact ⟨_, .inr ⟨_, ⟨_, first, rfl⟩, _, inside, rfl⟩, _, ⟨_, last, rfl⟩, rfl⟩

/-- The other way: a first character before all others, if there are any. -/
theorem mem_edge_first : cs ∈ (sequence (oneOf edges) (optional (sequence (repeated (oneOf insides))
      (oneOf edges)))).language ↔ Label.Bounded (Among edges) (Among insides) cs := by
  simp only [mem_sequence, mem_optional, mem_repeated_oneOf, mem_oneOf]
  constructor
  · rintro ⟨_, ⟨c, first, rfl⟩, after, rfl | ⟨middle, inside, _, ⟨e, last, rfl⟩, rfl⟩, rfl⟩
    · exact .single first
    · exact .between first inside last
  · intro bounded
    cases bounded with
    | single only => exact ⟨_, ⟨_, only, rfl⟩, [], .inl rfl, rfl⟩
    | between first inside last =>
      exact ⟨_, ⟨_, first, rfl⟩, _, .inr ⟨_, inside, _, ⟨_, last, rfl⟩, rfl⟩, rfl⟩

end Pattern

namespace Label

open Pattern

def alnumRanges : List (Char × Char) := [('A', 'Z'), ('a', 'z'), ('0', '9')]

def nameRanges : List (Char × Char) :=
  [('-', '-'), ('A', 'Z'), ('a', 'z'), ('0', '9'), ('_', '_'), ('.', '.')]

def lowerRanges : List (Char × Char) := [('a', 'z'), ('0', '9')]

def domainRanges : List (Char × Char) := [('-', '-'), ('a', 'z'), ('0', '9')]

/-- The expression ([A-Za-z0-9][-A-Za-z0-9_.]*)?[A-Za-z0-9]. -/
def namePattern : Pattern :=
  sequence (optional (sequence (oneOf alnumRanges) (repeated (oneOf nameRanges))))
    (oneOf alnumRanges)

/-- The expression (([A-Za-z0-9][-A-Za-z0-9_.]*)?[A-Za-z0-9])?. -/
def valuePattern : Pattern := optional namePattern

/-- The expression [a-z0-9]([-a-z0-9]*[a-z0-9])?. -/
def domainLabelPattern : Pattern :=
  sequence (oneOf lowerRanges) (optional (sequence (repeated (oneOf domainRanges))
    (oneOf lowerRanges)))

/-- The expression of a label, repeated after points. -/
def subdomainPattern : Pattern :=
  sequence domainLabelPattern (repeated (sequence (literal '.') domainLabelPattern))

/-- A letter or a digit of ASCII. -/
def Alnum (c : Char) : Prop := ('A' ≤ c ∧ c ≤ 'Z') ∨ LowerAlnum c

theorem isAlphanum_iff : c.isAlphanum = true ↔ Alnum c := by
  have spelled : c.isAlphanum = (decide ('A' ≤ c ∧ c ≤ 'Z') ||
      (decide ('a' ≤ c) && decide (c ≤ 'z')) || (decide ('0' ≤ c) && decide (c ≤ '9'))) := rfl
  simp [spelled, Alnum, LowerAlnum, or_assoc]

theorem among_single {c d : Char} : d ≤ c ∧ c ≤ d ↔ c = d :=
  ⟨fun between => Char.le_antisymm between.2 between.1, fun same => by simp [same]⟩

theorem among_alnumRanges : Among alnumRanges = fun c => c.isAlphanum = true := by
  funext c
  rw [isAlphanum_iff]
  simp [Among, alnumRanges, Alnum, LowerAlnum]

theorem among_nameRanges : Among nameRanges = NameChar := by
  funext c
  simp only [NameChar, isAlphanum_iff]
  simp [Among, nameRanges, Alnum, LowerAlnum, among_single]
  tauto

theorem among_lowerRanges : Among lowerRanges = LowerAlnum := by
  funext c
  simp [Among, lowerRanges, LowerAlnum]

theorem among_domainRanges : Among domainRanges = fun c => LowerAlnum c ∨ c = '-' := by
  funext c
  simp [Among, domainRanges, LowerAlnum, among_single]
  tauto

theorem mem_namePattern : cs ∈ namePattern.language ↔ isName cs = true := by
  rw [namePattern, mem_edge_last, among_alnumRanges, among_nameRanges, isName_iff]

theorem mem_domainLabelPattern : cs ∈ domainLabelPattern.language ↔ DomainLabel cs := by
  rw [domainLabelPattern, mem_edge_first, among_lowerRanges, among_domainRanges, DomainLabel]

/-- One label, and each further one after a point. -/
theorem mem_subdomainPattern : cs ∈ subdomainPattern.language ↔ isSubdomain cs = true := by
  rw [isSubdomain_iff, subdomainPattern, mem_sequence]
  simp only [mem_domainLabelPattern, mem_repeated, mem_sequence, mem_literal]
  constructor
  · rintro ⟨label, valid, _, ⟨parts, rfl, pointed⟩, rfl⟩
    induction parts generalizing label with
    | nil => simpa using .last valid
    | cons part parts ih =>
      obtain ⟨first, later⟩ := List.forall_mem_cons.mp pointed
      obtain ⟨_, rfl, next, valid', rfl⟩ := first
      simpa using .before valid (ih next valid' later)
  · intro labels
    induction labels with
    | last label => exact ⟨_, label, [], ⟨[], rfl, nofun⟩, List.append_nil _⟩
    | before label rest ih =>
      obtain ⟨next, valid, _, ⟨parts, rfl, pointed⟩, rfl⟩ := ih
      refine ⟨_, label, _, ⟨('.' :: next) :: parts, rfl, ?_⟩, by simp⟩
      exact List.forall_mem_cons.mpr ⟨⟨_, rfl, next, valid, rfl⟩, pointed⟩

/-- A nonempty text over a class of characters, with characters of a narrower class at its ends. -/
structure Framed (edge inside : Char → Prop) (cs : List Char) : Prop where
  nonempty : cs ≠ []
  chars : ∀ c ∈ cs, inside c
  first : ∀ c, cs.head? = some c → edge c
  last : ∀ c, cs.getLast? = some c → edge c

theorem framed_iff {edge inside : Char → Prop} (narrow : ∀ c, edge c → inside c) :
    Framed edge inside cs ↔ Bounded edge inside cs := by
  constructor
  · rintro ⟨nonempty, chars, first, last⟩
    obtain ⟨c, rest, rfl⟩ := List.exists_cons_of_ne_nil nonempty
    obtain rfl | ⟨middle, e, rfl⟩ := List.eq_nil_or_concat rest
    · exact .single (first c rfl)
    · rw [List.concat_eq_append] at chars last ⊢
      have inner : ∀ d ∈ middle, inside d := fun d member => chars d (by simp [member])
      exact .between (first c rfl) inner (last e (by simp [List.getLast?_cons]))
  · intro bounded
    have chars := bounded.all narrow
    cases bounded with
    | single only =>
      refine ⟨List.cons_ne_nil _ _, chars, ?_, ?_⟩
      all_goals
        intro c found
        cases found
        exact only
    | between first middle last =>
      refine ⟨List.cons_ne_nil _ _, chars, ?_, ?_⟩
      · intro c found
        cases found
        exact first
      · intro c found
        simp [List.getLast?_cons] at found
        rwa [← found]

theorem Framed.append {edge inside : Char → Prop} {c : Char} (left : Framed edge inside cs)
    (between : inside c) (right : Framed edge inside ds) : Framed edge inside (cs ++ c :: ds) where
  nonempty := by simp
  chars d member := by
    rcases List.mem_append.mp member with before | after
    · exact left.chars d before
    · rcases List.mem_cons.mp after with rfl | after
      · exact between
      · exact right.chars d after
  first d found := by
    rw [List.head?_append_of_ne_nil _ left.nonempty] at found
    exact left.first d found
  last d found := by
    rw [List.getLast?_append_cons, List.getLast?_cons_of_ne_nil right.nonempty] at found
    exact right.last d found

/-- A subdomain has the form of a value. -/
theorem DomainLabels.framed (labels : DomainLabels cs) :
    Framed (fun c => c.isAlphanum = true) NameChar cs := by
  have plain {cs : List Char} (label : DomainLabel cs) :
      Framed (fun c => c.isAlphanum = true) NameChar cs := by
    obtain ⟨nonempty, -, first, last⟩ := (framed_iff fun _ => Or.inl).mpr label
    exact ⟨nonempty, (DomainLabels.last label).chars,
      fun c found => (first c found).isAlphanum, fun c found => (last c found).isAlphanum⟩
  induction labels with
  | last label => exact plain label
  | before label _ ih => exact (plain label).append (.inr (.inr (.inr rfl))) ih

theorem byteLength_toList (s : String) : byteLength s.toList = s.utf8ByteSize := by
  have sums (cs : List Char) (n : Nat) :
      cs.foldl (fun n c => n + c.utf8Size) n = n + (String.ofList cs).utf8ByteSize := by
    induction cs generalizing n with
    | nil => simp
    | cons c rest ih =>
      have first : String.ofList (c :: rest) = String.singleton c ++ String.ofList rest := by
        rw [String.singleton_eq_ofList, ← String.ofList_append, List.singleton_append]
      rw [List.foldl_cons, ih, first, String.utf8ByteSize_append, String.utf8ByteSize_singleton]
      omega
  rw [byteLength, sums, String.ofList_toList, Nat.zero_add]

theorem tooLong_iff {limit : Nat} {s : String} :
    problemIf (limit < byteLength s.toList) problem = [] ↔ s.utf8ByteSize ≤ limit := by
  rw [problemIf_eq_nil, byteLength_toList, decide_eq_false_iff_not, Nat.not_lt]

theorem checkSubdomain_eq_nil {s : String} :
    checkSubdomain s = [] ↔ s.utf8ByteSize ≤ 253 ∧ isSubdomain s.toList = true := by
  rw [checkSubdomain, List.map_eq_nil_iff, subdomainProblems, List.append_eq_nil_iff, tooLong_iff,
    malformed_eq_nil]
  rfl

theorem checkValue_eq_nil {s : String} :
    checkValue s = [] ↔ s.utf8ByteSize ≤ 63 ∧ (s.toList = [] ∨ isName s.toList = true) := by
  rw [checkValue, List.map_eq_nil_iff, valueProblems, List.append_eq_nil_iff, tooLong_iff,
    malformed_eq_nil, Bool.or_eq_true, List.isEmpty_iff]
  rfl

/-- All that keeps a subdomain from being a value is its length. -/
theorem checkValue_of_subdomain {s : String} (domain : checkSubdomain s = []) :
    checkValue s = [] ↔ s.utf8ByteSize ≤ 63 := by
  obtain ⟨-, labels⟩ := checkSubdomain_eq_nil.mp domain
  have name : isName s.toList = true :=
    isName_iff.mpr ((framed_iff fun _ => Or.inl).mp (isSubdomain_iff.mp labels).framed)
  rw [checkValue_eq_nil, and_iff_left (.inr name)]

/-- What is a name part is a value other than the empty one. -/
theorem namePart_iff {s : String} : NamePart s.toList ↔ s ≠ "" ∧ checkValue s = [] := by
  rw [checkValue, List.map_eq_nil_iff, valueProblems_eq_nil, Value, ne_eq,
    ← String.toList_eq_nil_iff]
  constructor
  · exact fun name => ⟨name.ne_nil, .inr name⟩
  · exact fun ⟨nonempty, value⟩ => value.resolve_left nonempty

theorem namePart_iff_matches {s : String} :
    NamePart s.toList ↔ s.utf8ByteSize ≤ 63 ∧ s.toList ∈ namePattern.language := by
  rw [namePart_iff, checkValue_eq_nil, mem_namePattern, ne_eq, ← String.toList_eq_nil_iff]
  constructor
  · exact fun ⟨nonempty, short, name⟩ => ⟨short, name.resolve_left nonempty⟩
  · rintro ⟨short, name⟩
    refine ⟨fun none => ?_, short, .inr name⟩
    rw [none] at name
    cases name

theorem checkName_eq_nil {s : String} : checkName s = [] ↔ ∃ name, NamePart name.toList ∧
    (s = name ∨ ∃ domain, s = domain ++ "/" ++ name ∧ checkSubdomain domain = []) := by
  rw [checkName, List.map_eq_nil_iff, nameProblems_eq_nil]
  constructor
  · intro qualified
    generalize same : s.toList = cs at qualified
    cases qualified with
    | plain name => exact ⟨s, same ▸ name, .inl rfl⟩
    | @within ds name domain named =>
      refine ⟨.ofList name, by simpa using named, .inr ⟨.ofList ds, ?_, ?_⟩⟩
      · apply String.toList_injective
        simp [same]
      · rw [checkSubdomain, List.map_eq_nil_iff, String.toList_ofList]
        exact subdomainProblems_eq_nil.mpr domain
  · rintro ⟨name, named, rfl | ⟨domain, rfl, fine⟩⟩
    · exact .plain named
    · rw [checkSubdomain, List.map_eq_nil_iff, subdomainProblems_eq_nil] at fine
      simpa using QualifiedName.within fine named

theorem NamePart.slashless (name : NamePart cs) : '/' ∉ cs :=
  fun slash => absurd (name.chars '/' slash) (by decide)

theorem Subdomain.slashless (domain : Subdomain cs) : '/' ∉ cs :=
  fun slash => absurd (domain.chars '/' slash) (by decide)

/-- A qualified name has no slash but the one after its domain. -/
theorem count_slash {s : String} (valid : checkName s = []) : s.toList.count '/' ≤ 1 := by
  obtain ⟨name, named, rfl | ⟨domain, rfl, fine⟩⟩ := checkName_eq_nil.mp valid
  · rw [List.count_eq_zero_of_not_mem named.slashless]
    omega
  · rw [checkSubdomain, List.map_eq_nil_iff, subdomainProblems_eq_nil] at fine
    simp [List.count_eq_zero_of_not_mem named.slashless,
      List.count_eq_zero_of_not_mem fine.slashless]

/-- The checks accept the texts that are short enough and match the expressions as a whole. These
are: subdomains whose labels between points are made of lower case letters, digits and inner dashes;
values that are empty, or made of name characters with letters or digits at both ends; and nonempty
values alone or after a subdomain and a slash, the only one. -/
theorem checks_exact (s : String) :
    ((checkSubdomain s = [] ↔ s.utf8ByteSize ≤ 253 ∧ s.toList ∈ subdomainPattern.language) ∧
      (checkSubdomain s = [] ↔ s.utf8ByteSize ≤ 253 ∧ ∀ label ∈ s.toList.splitOn '.',
        Framed LowerAlnum (fun c => LowerAlnum c ∨ c = '-') label)) ∧
    ((checkValue s = [] ↔ s.utf8ByteSize ≤ 63 ∧ s.toList ∈ valuePattern.language) ∧
      (checkValue s = [] ↔ s = "" ∨ s.utf8ByteSize ≤ 63 ∧
        Framed Alnum (fun c => Alnum c ∨ c = '-' ∨ c = '_' ∨ c = '.') s.toList)) ∧
    (checkName s = [] ↔ ∃ name, name.utf8ByteSize ≤ 63 ∧ name.toList ∈ namePattern.language ∧
      (s = name ∨ ∃ domain, s = domain ++ "/" ++ name ∧ checkSubdomain domain = [])) ∧
    (checkName s = [] ↔ s.toList.count '/' ≤ 1 ∧ ∃ name, name ≠ "" ∧ checkValue name = [] ∧
      (s = name ∨ ∃ domain, s = domain ++ "/" ++ name ∧ checkSubdomain domain = [])) := by
  refine ⟨⟨?_, ?_⟩, ⟨?_, ?_⟩, ?_, ?_⟩
  · rw [checkSubdomain_eq_nil, mem_subdomainPattern]
  · rw [checkSubdomain_eq_nil, isSubdomain, Text.splitAt_eq, List.all_eq_true]
    simp only [isDomainLabel_iff, DomainLabel, framed_iff fun _ => Or.inl]
  · rw [checkValue_eq_nil, valuePattern, mem_optional, mem_namePattern]
  · have chars : (fun c => Alnum c ∨ c = '-' ∨ c = '_' ∨ c = '.') = NameChar := by
      funext c
      rw [NameChar, isAlphanum_iff]
    have edges : Alnum = fun c => c.isAlphanum = true := funext fun c => propext isAlphanum_iff.symm
    rw [checkValue_eq_nil, framed_iff fun _ => Or.inl, chars, edges, ← isName_iff,
      ← String.toList_eq_nil_iff]
    constructor
    · rintro ⟨short, value⟩
      exact value.imp_right fun name => ⟨short, name⟩
    · rintro (none | ⟨short, name⟩)
      · rw [String.toList_eq_nil_iff.mp none]
        exact ⟨by decide, .inl rfl⟩
      · exact ⟨short, .inr name⟩
  · simp only [checkName_eq_nil, namePart_iff_matches, and_assoc]
  · constructor
    · intro valid
      refine ⟨count_slash valid, ?_⟩
      simpa only [checkName_eq_nil, namePart_iff, and_assoc] using valid
    · rintro ⟨-, found⟩
      simpa only [checkName_eq_nil, namePart_iff, and_assoc] using found

/-- No line break at the end, no letter of another script, and no dash beside a point. -/
example : checkValue "v1\n" ≠ [] ∧ checkValue "é" ≠ [] ∧ checkSubdomain "a-.b" ≠ [] := by decide

end Label

end BuildController
