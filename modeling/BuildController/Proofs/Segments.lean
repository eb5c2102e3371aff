import BuildController.Proofs.Labels
import BuildController.Url.Parser
import Mathlib.Algebra.GroupWithZero.Nat
import Mathlib.Data.List.DropRight

/-! Segments of the paths of web addresses. Percent-decoding undoes percent-encoding, but for what
was encoded before, so a text comes back as it is exactly if it has no escapes; and each segment of
a resolved path was written in the path, unless dots stand for it. No step makes a path longer than
it was written, and the steps that change something make it shorter. -/
namespace BuildController.Url

/-- The bytes of a text. -/
def bytes (cs : List Char) : List Nat := cs.flatMap utf8

/-- The text has a percent sign that two hexadecimal digits follow. -/
def Escapes (cs : List Char) : Prop :=
  ∃ a b, ['%', a, b] <:+: cs ∧ (Text.hexValue? a).isSome ∧ (Text.hexValue? b).isSome

/-- The text goes on with two hexadecimal digits. -/
def Digits (cs : List Char) : Prop :=
  ∃ a b, [a, b] <+: cs ∧ (Text.hexValue? a).isSome ∧ (Text.hexValue? b).isSome

/-- The segment denotes this or the parent directory. -/
def IsDots (segment : List Char) : Prop := isHere segment = true ∨ isParent segment = true

/-- The segments before a place in a path of the web, the last one first, after one more segment. -/
def enter (before : List (List Char)) (segment : List Char) : List (List Char) :=
  if isParent segment then dropSegment before
  else if isHere segment then before
  else segment :: before

/-- The bytes of decoded segments, with one for each of the slashes before them. -/
def weight (segments : List (List Char)) : Nat :=
  (segments.map fun segment => (percentDecode segment).length + 1).sum

theorem utf8_ne_nil (c : Char) : utf8 c ≠ [] := by
  intro none
  have size : (utf8 c).length = c.utf8Size := by simp [utf8]
  have positive := c.utf8Size_pos
  rw [none] at size
  exact absurd size.symm (Nat.ne_of_gt positive)

theorem bytes_cons (c : Char) (cs : List Char) : bytes (c :: cs) = utf8 c ++ bytes cs := rfl

theorem length_lt_bytes_cons (c : Char) (cs : List Char) :
    (bytes cs).length < (bytes (c :: cs)).length := by
  have positive := List.length_pos_iff.mpr (utf8_ne_nil c)
  rw [bytes_cons, List.length_append]
  omega

theorem bytes_injective : Function.Injective bytes := by
  intro cs ds same
  have octets : cs.flatMap String.utf8EncodeChar = ds.flatMap String.utf8EncodeChar := by
    refine List.map_injective_iff.mpr (fun a b h => UInt8.toNat.inj h) ?_
    rw [List.map_flatMap, List.map_flatMap]
    exact same
  have encoded : cs.utf8Encode = ds.utf8Encode := by
    rw [List.utf8Encode, List.utf8Encode, octets]
  apply String.ofList_injective
  apply String.toByteArray_inj.mp
  simpa using encoded

theorem length_bytes_le_of_sublist {cs ds : List Char} (part : cs.Sublist ds) :
    (bytes cs).length ≤ (bytes ds).length := by
  induction part with
  | slnil => exact Nat.le_refl _
  | cons d _ ih => exact ih.trans (length_lt_bytes_cons d _).le
  | cons_cons d _ ih => simpa [bytes_cons] using ih

/-- A part of a text with as many bytes is the whole of it. -/
theorem eq_of_sublist {cs ds : List Char} (part : cs.Sublist ds)
    (whole : (bytes ds).length ≤ (bytes cs).length) : cs = ds := by
  induction part with
  | slnil => rfl
  | cons d part _ =>
    have shorter := length_bytes_le_of_sublist part
    have strict := length_lt_bytes_cons d ‹_›
    omega
  | cons_cons d _ ih =>
    rw [bytes_cons, bytes_cons, List.length_append, List.length_append] at whole
    rw [ih (by omega)]

section Ascii

/-- What a table shows of the ASCII characters. -/
theorem of_table {p : Char → Prop} (table : ∀ n < 128, p (Char.ofNat n)) {c : Char}
    (ascii : c.toNat < 128) : p c := by
  have held := table c.toNat ascii
  rwa [Char.ofNat_toNat] at held

theorem toNat_le {c d : Char} : c ≤ d ↔ c.toNat ≤ d.toNat := Iff.rfl

theorem ascii_of_hexValue? {c : Char} (hex : (Text.hexValue? c).isSome) : c.toNat < 128 := by
  unfold Text.hexValue? Text.isDigit at hex
  split_ifs at hex with digit small large
  · rw [Bool.and_eq_true, decide_eq_true_eq, decide_eq_true_eq, toNat_le, toNat_le] at digit
    exact digit.2.trans_lt (by decide)
  · rw [Bool.and_eq_true, decide_eq_true_eq, decide_eq_true_eq, toNat_le, toNat_le] at small
    exact small.2.trans_lt (by decide)
  · rw [Bool.and_eq_true, decide_eq_true_eq, decide_eq_true_eq, toNat_le, toNat_le] at large
    exact large.2.trans_lt (by decide)
  · cases hex

theorem encodeChar_of_hexValue? {c : Char} (hex : (Text.hexValue? c).isSome) :
    encodeChar inPath c = [c] :=
  of_table (p := fun c => (Text.hexValue? c).isSome → encodeChar inPath c = [c]) (by decide)
    (ascii_of_hexValue? hex) hex

theorem toLower_of_not_ascii {c : Char} (foreign : ¬c.toNat < 128) : c.toLower = c := by
  have other : ¬(c.val ≥ 'A'.val ∧ c.val ≤ 'Z'.val) := by
    intro upper
    have bound : c.toNat ≤ 'Z'.toNat := UInt32.le_iff_toNat_le.mp upper.2
    exact foreign (bound.trans_lt (by decide))
  exact dif_neg other

/-- Only letters become others by lowering. -/
theorem eq_of_toLower {c d : Char} (caseless : d.isLower = false) (same : c.toLower = d) :
    c = d := by
  by_cases ascii : c.toNat < 128
  · have table := of_table (p := fun c => c.toLower = c ∨ c.toLower.isLower = true)
      (by decide) ascii
    rcases table with fixed | lower
    · exact fixed.symm.trans same
    · rw [same, caseless] at lower
      cases lower
  · exact (toLower_of_not_ascii ascii).symm.trans same

theorem hexValue?_of_toLower {c : Char} (same : c.toLower = 'e') : Text.hexValue? c = some 14 := by
  by_cases ascii : c.toNat < 128
  · revert same
    exact of_table (p := fun c => c.toLower = 'e' → Text.hexValue? c = some 14) (by decide) ascii
  · rw [toLower_of_not_ascii ascii] at same
    subst same
    rfl

end Ascii

section Decoding

theorem percentDecode_encodeByte {n : Nat} (octet : n < 256) (rest : List Char) :
    percentDecode (encodeByte n ++ rest) = n :: percentDecode rest := by
  have digit : ∀ n < 16, Text.hexValue? (upperHex n) = some n := by decide
  have high := digit (n / 16) (by omega)
  have low := digit (n % 16) (by omega)
  simp only [encodeByte, List.cons_append, List.nil_append, percentDecode, high, low]
  rw [show n / 16 * 16 + n % 16 = n by omega]

theorem percentDecode_encodeBytes (c : Char) (rest : List Char) :
    percentDecode ((utf8 c).flatMap encodeByte ++ rest) = utf8 c ++ percentDecode rest := by
  have octets : ∀ n ∈ utf8 c, n < 256 := by
    intro n member
    obtain ⟨octet, -, rfl⟩ := List.mem_map.mp member
    exact octet.toNat_lt
  generalize utf8 c = ns at octets
  induction ns with
  | nil => rfl
  | cons n ns ih =>
    obtain ⟨octet, later⟩ := List.forall_mem_cons.mp octets
    rw [List.flatMap_cons, List.append_assoc, percentDecode_encodeByte octet, ih later]
    rfl

/-- A character that begins no escape is decoded by itself. -/
theorem percentDecode_cons {c : Char} {rest : List Char} (alone : c = '%' → ¬Digits rest) :
    percentDecode (c :: rest) = utf8 c ++ percentDecode rest := by
  by_cases sign : c = '%'
  · subst sign
    match rest with
    | [] => rfl
    | [_] => rfl
    | a :: b :: rest =>
      rw [percentDecode]
      split
      · next high low =>
        refine (alone rfl ⟨a, b, ⟨rest, rfl⟩, ?_, ?_⟩).elim
        · rw [high, Option.isSome_some]
        · rw [low, Option.isSome_some]
      · rfl
  · rw [percentDecode]
    intro _ _ _ percent
    exact (sign percent).elim

/-- The form of a character begins with the character or with a percent sign. -/
theorem encodeChar_cons (encoded : Char → Bool) (c : Char) :
    ∃ rest, encodeChar encoded c = c :: rest ∧ rest = [] ∨ encodeChar encoded c = '%' :: rest := by
  unfold encodeChar
  split
  · obtain ⟨n, ns, octets⟩ := List.exists_cons_of_ne_nil (utf8_ne_nil c)
    rw [octets, List.flatMap_cons]
    exact ⟨_, .inr rfl⟩
  · exact ⟨[], .inl ⟨rfl, rfl⟩⟩

/-- Encoding makes no new digits. -/
theorem digits_of_percentEncode {cs : List Char} (digits : Digits (percentEncode inPath cs)) :
    Digits cs := by
  have percent : ¬(Text.hexValue? '%').isSome := by decide
  have first {cs ds : List Char} {a : Char} (hex : (Text.hexValue? a).isSome)
      (begins : percentEncode inPath cs = a :: ds) :
      ∃ rest, cs = a :: rest ∧ percentEncode inPath rest = ds := by
    cases cs with
    | nil => cases begins
    | cons c cs =>
      rw [percentEncode, List.flatMap_cons] at begins
      obtain ⟨rest, ⟨form, rfl⟩ | form⟩ := encodeChar_cons inPath c
      · rw [form] at begins
        obtain ⟨rfl, same⟩ := List.cons.inj begins
        exact ⟨cs, rfl, same⟩
      · rw [form] at begins
        obtain ⟨rfl, -⟩ := List.cons.inj begins
        exact (percent hex).elim
  obtain ⟨a, b, ⟨after, begins⟩, hexA, hexB⟩ := digits
  obtain ⟨rest, rfl, goesOn⟩ := first hexA begins.symm
  obtain ⟨rest, rfl, -⟩ := first hexB goesOn
  exact ⟨a, b, ⟨rest, rfl⟩, hexA, hexB⟩

/-- A text is read from the left, an escape as a whole and any other character by itself. -/
@[elab_as_elim]
theorem escape_induction {motive : List Char → Prop} (cs : List Char) (nil : motive [])
    (escape : ∀ a b rest high low, Text.hexValue? a = some high → Text.hexValue? b = some low →
      motive rest → motive ('%' :: a :: b :: rest))
    (plain : ∀ c rest, (c = '%' → ¬Digits rest) → motive rest → motive (c :: rest)) :
    motive cs := by
  fun_induction percentDecode cs with
  | case1 a b rest high low hexB hexA ih => exact escape a b rest high low hexA hexB ih
  | case2 a b rest alone ih =>
    refine plain '%' (a :: b :: rest) (fun _ => ?_) ih
    rintro ⟨_, _, ⟨_, begins⟩, hexA, hexB⟩
    cases begins
    obtain ⟨high, hexA⟩ := Option.isSome_iff_exists.mp hexA
    obtain ⟨low, hexB⟩ := Option.isSome_iff_exists.mp hexB
    exact alone high low hexA hexB
  | case3 c rest alone ih =>
    refine plain c rest ?_ ih
    rintro rfl ⟨a, b, ⟨after, begins⟩, -, -⟩
    exact alone a b after rfl begins.symm
  | case4 => exact nil

/-- Decoding undoes encoding. -/
theorem percentDecode_percentEncode (cs : List Char) :
    percentDecode (percentEncode inPath cs) = percentDecode cs := by
  induction cs using escape_induction with
  | nil => rfl
  | escape a b rest high low hexA hexB ih =>
    have formA := encodeChar_of_hexValue? (by rw [hexA, Option.isSome_some])
    have formB := encodeChar_of_hexValue? (by rw [hexB, Option.isSome_some])
    have form : percentEncode inPath ('%' :: a :: b :: rest) =
        '%' :: a :: b :: percentEncode inPath rest := by
      simp only [percentEncode, List.flatMap_cons, formA, formB]
      rfl
    rw [form]
    simp only [percentDecode, hexA, hexB, ih]
  | plain c rest alone ih =>
    rw [percentDecode_cons alone, ← ih, percentEncode, List.flatMap_cons]
    unfold encodeChar
    split
    · exact percentDecode_encodeBytes c _
    · exact percentDecode_cons fun sign digits => alone sign (digits_of_percentEncode digits)

theorem escapes_cons {c : Char} {rest : List Char} :
    Escapes (c :: rest) ↔ c = '%' ∧ Digits rest ∨ Escapes rest := by
  constructor
  · rintro ⟨a, b, inside, hexA, hexB⟩
    rcases List.infix_cons_iff.mp inside with begins | later
    · obtain ⟨same, begins⟩ := List.cons_prefix_cons.mp begins
      exact .inl ⟨same.symm, a, b, begins, hexA, hexB⟩
    · exact .inr ⟨a, b, later, hexA, hexB⟩
  · rintro (⟨rfl, a, b, begins, hexA, hexB⟩ | ⟨a, b, later, hexA, hexB⟩)
    · exact ⟨a, b, (List.cons_prefix_cons.mpr ⟨rfl, begins⟩).isInfix, hexA, hexB⟩
    · exact ⟨a, b, List.infix_cons later, hexA, hexB⟩

theorem percentDecode_of_not_escapes {cs : List Char} (plain : ¬Escapes cs) :
    percentDecode cs = bytes cs := by
  induction cs with
  | nil => rfl
  | cons c rest ih =>
    rw [escapes_cons, not_or, not_and] at plain
    rw [percentDecode_cons plain.1, ih plain.2, bytes_cons]

/-- Decoding never adds bytes, and it loses some of a text with escapes. -/
theorem length_percentDecode (cs : List Char) :
    (percentDecode cs).length ≤ (bytes cs).length ∧
      (Escapes cs → (percentDecode cs).length < (bytes cs).length) := by
  induction cs using escape_induction with
  | nil => exact ⟨Nat.le_refl _, fun ⟨_, _, inside, _⟩ => nomatch inside.length_le⟩
  | escape a b rest high low hexA hexB ih =>
    have whole := length_lt_bytes_cons '%' (a :: b :: rest)
    have second := length_lt_bytes_cons a (b :: rest)
    have third := length_lt_bytes_cons b rest
    simp only [percentDecode, hexA, hexB, List.length_cons]
    omega
  | plain c rest alone ih =>
    have same : Escapes (c :: rest) ↔ Escapes rest := by
      rw [escapes_cons, or_iff_right]
      exact fun both => alone both.1 both.2
    rw [percentDecode_cons alone, same, bytes_cons, List.length_append, List.length_append]
    refine ⟨by omega, fun escapes => ?_⟩
    have strict := ih.2 escapes
    omega

theorem percentDecode_ne_nil {cs : List Char} (present : cs ≠ []) : percentDecode cs ≠ [] := by
  induction cs using escape_induction with
  | nil => exact (present rfl).elim
  | escape a b rest high low hexA hexB ih => simp only [percentDecode, hexA, hexB]; exact nofun
  | plain c rest alone ih =>
    rw [percentDecode_cons alone]
    exact fun none => utf8_ne_nil c (List.append_eq_nil_iff.mp none).1

/-- A point, encoded or not, is decoded to a point. -/
theorem percentDecode_isHere_append {dot : List Char} (here : isHere dot = true)
    (rest : List Char) : percentDecode (dot ++ rest) = bytes ['.'] ++ percentDecode rest := by
  rw [isHere, Bool.or_eq_true, decide_eq_true_eq, decide_eq_true_eq] at here
  rcases here with rfl | lowered
  · exact percentDecode_cons (by simp)
  · obtain ⟨a, _, rfl, percent, lowered⟩ := List.map_eq_cons_iff.mp lowered
    obtain ⟨b, _, rfl, two, lowered⟩ := List.map_eq_cons_iff.mp lowered
    obtain ⟨c, _, rfl, e, lowered⟩ := List.map_eq_cons_iff.mp lowered
    obtain rfl := List.map_eq_nil_iff.mp lowered
    obtain rfl := eq_of_toLower (d := '%') rfl percent
    obtain rfl := eq_of_toLower (d := '2') rfl two
    simp only [List.cons_append, percentDecode, hexValue?_of_toLower e]
    rfl

/-- A segment that denotes the parent is made up of two points. -/
theorem isParent_eq_append {segment : List Char} (parent : isParent segment = true) :
    ∃ first second, segment = first ++ second ∧ isHere first = true ∧ isHere second = true := by
  have here {dot form : List Char} (lowered : dot.map Char.toLower = form)
      (forms : form = ['.'] ∨ form = ['%', '2', 'e']) : isHere dot = true := by
    rw [isHere, Bool.or_eq_true, decide_eq_true_eq, decide_eq_true_eq]
    rcases forms with rfl | rfl
    · obtain ⟨c, _, rfl, point, lowered⟩ := List.map_eq_cons_iff.mp lowered
      obtain rfl := List.map_eq_nil_iff.mp lowered
      exact .inl (by rw [eq_of_toLower rfl point])
    · exact .inr lowered
  have forms : ∃ a b, segment.map Char.toLower = a ++ b ∧ (a = ['.'] ∨ a = ['%', '2', 'e']) ∧
      (b = ['.'] ∨ b = ['%', '2', 'e']) := by
    simp only [isParent, Bool.or_eq_true, decide_eq_true_eq] at parent
    rcases parent with ((lowered | lowered) | lowered) | lowered
    · exact ⟨['.'], ['.'], lowered, .inl rfl, .inl rfl⟩
    · exact ⟨['.'], ['%', '2', 'e'], lowered, .inl rfl, .inr rfl⟩
    · exact ⟨['%', '2', 'e'], ['.'], lowered, .inr rfl, .inl rfl⟩
    · exact ⟨['%', '2', 'e'], ['%', '2', 'e'], lowered, .inr rfl, .inr rfl⟩
  obtain ⟨a, b, lowered, formA, formB⟩ := forms
  obtain ⟨first, second, rfl, loweredA, loweredB⟩ := List.map_eq_append_iff.mp lowered
  exact ⟨first, second, rfl, here loweredA formA, here loweredB formB⟩

/-- A segment that denotes a directory is one or two points, decoded. -/
theorem percentDecode_isDots {segment : List Char} (dots : IsDots segment) :
    percentDecode segment = bytes ['.'] ∨ percentDecode segment = bytes ['.', '.'] := by
  rcases dots with here | parent
  · left
    simpa [percentDecode] using percentDecode_isHere_append here []
  · right
    obtain ⟨first, second, rfl, hereA, hereB⟩ := isParent_eq_append parent
    rw [percentDecode_isHere_append hereA, ← List.append_nil second,
      percentDecode_isHere_append hereB]
    rfl

end Decoding

section Resolving

variable {port : Nat} {before segments : List (List Char)}

/-- The segment at the end of a path stays, or an empty one takes its place. -/
theorem resolve_singleton (port : Nat) (before : List (List Char)) (last : List Char) :
    resolve (.web port) before [last] = before.reverse ++ [last] ∧ ¬IsDots last ∨
      resolve (.web port) before [last] = (enter before last).reverse ++ [[]] ∧ IsDots last := by
  unfold resolve IsDots enter
  cases parent : isParent last with
  | true => simp [resolve]
  | false =>
    cases here : isHere last with
    | true => simp [resolve]
    | false => simp [resolve]

/-- A segment that others follow is entered. -/
theorem resolve_cons (segment : List Char) (present : segments ≠ []) :
    resolve (.web port) before (segment :: segments) =
      resolve (.web port) (enter before segment) segments := by
  have more : segments.isEmpty = false := List.isEmpty_eq_false_iff.mpr present
  rw [resolve, more]
  unfold enter
  cases isParent segment with
  | true => rfl
  | false =>
    cases isHere segment with
    | true => rfl
    | false => simp

theorem resolve_append (above : List (List Char)) (present : segments ≠ []) :
    resolve (.web port) before (above ++ segments) =
      resolve (.web port) (above.foldl enter before) segments := by
  induction above generalizing before with
  | nil => rfl
  | cons segment above ih =>
    rw [List.cons_append, resolve_cons segment (by simp [present]), ih]
    rfl

/-- Segments that denote no directories are all kept. -/
theorem resolve_of_plain (plain : ∀ segment ∈ segments, ¬IsDots segment) :
    resolve (.web port) before segments = before.reverse ++ segments := by
  induction segments generalizing before with
  | nil => simp [resolve]
  | cons segment rest ih =>
    obtain ⟨first, later⟩ := List.forall_mem_cons.mp plain
    cases rest with
    | nil =>
      obtain ⟨kept, -⟩ | ⟨-, dots⟩ := resolve_singleton port before segment
      · exact kept
      · exact (first dots).elim
    | cons next rest =>
      have entered : enter before segment = segment :: before := by
        rw [IsDots, not_or] at first
        simp [enter, first]
      rw [resolve_cons segment (by simp), entered, ih later]
      simp

theorem dropSegment_sublist (before : List (List Char)) : (dropSegment before).Sublist before := by
  cases before with
  | nil => exact .slnil
  | cons segment before =>
    rw [dropSegment]
    split
    · exact List.Sublist.refl _
    · exact List.sublist_cons_self segment before

theorem of_mem_enter {segment part : List Char} (member : part ∈ enter before segment) :
    part ∈ before ∨ part = segment ∧ ¬IsDots segment := by
  unfold enter at member
  split_ifs at member with parent here
  · exact .inl ((dropSegment_sublist before).subset member)
  · exact .inl member
  · rcases List.mem_cons.mp member with rfl | inside
    · exact .inr ⟨rfl, fun dots => dots.elim here parent⟩
    · exact .inl inside

/-- A segment of a resolved path was written in it and denotes no directory, unless it is the empty
one at the end. -/
theorem of_mem_resolve {part : List Char} (member : part ∈ resolve (.web port) before segments) :
    part = [] ∨ part ∈ before ∨ part ∈ segments ∧ ¬IsDots part := by
  induction segments generalizing before with
  | nil => exact .inr (.inl (by simpa [resolve] using member))
  | cons segment rest ih =>
    cases rest with
    | nil =>
      obtain ⟨kept, last⟩ | ⟨kept, last⟩ := resolve_singleton port before segment
      · rw [kept, List.mem_append, List.mem_reverse, List.mem_singleton] at member
        rcases member with inside | rfl
        · exact .inr (.inl inside)
        · exact .inr (.inr ⟨List.mem_singleton_self _, last⟩)
      · rw [kept, List.mem_append, List.mem_reverse, List.mem_singleton] at member
        rcases member with inside | none
        · rcases of_mem_enter inside with inside | ⟨-, plain⟩
          · exact .inr (.inl inside)
          · exact (plain last).elim
        · exact .inl none
    | cons next rest =>
      rw [resolve_cons segment (by simp)] at member
      rcases ih member with none | inside | ⟨later, plain⟩
      · exact .inl none
      · rcases of_mem_enter inside with inside | ⟨rfl, plain⟩
        · exact .inr (.inl inside)
        · exact .inr (.inr ⟨List.mem_cons_self, plain⟩)
      · exact .inr (.inr ⟨List.mem_cons_of_mem _ later, plain⟩)

theorem resolve_ne_nil (present : segments ≠ []) : resolve (.web port) before segments ≠ [] := by
  induction segments generalizing before with
  | nil => exact (present rfl).elim
  | cons segment rest ih =>
    cases rest with
    | nil =>
      obtain ⟨kept, -⟩ | ⟨kept, -⟩ := resolve_singleton port before segment
      · simp [kept]
      · simp [kept]
    | cons next rest =>
      rw [resolve_cons segment (by simp)]
      exact ih (by simp)

theorem weight_cons (segment : List Char) (segments : List (List Char)) :
    weight (segment :: segments) = (percentDecode segment).length + 1 + weight segments := rfl

theorem weight_append (before segments : List (List Char)) :
    weight (before ++ segments) = weight before + weight segments := by
  simp [weight]

theorem weight_reverse (segments : List (List Char)) :
    weight segments.reverse = weight segments := by
  simp [weight]

theorem weight_dropSegment (before : List (List Char)) :
    weight (dropSegment before) ≤ weight before := by
  cases before with
  | nil => exact Nat.le_refl _
  | cons segment before =>
    rw [dropSegment]
    split
    · exact Nat.le_refl _
    · rw [weight_cons]
      omega

theorem weight_enter_of_isDots (before : List (List Char)) {segment : List Char}
    (dots : IsDots segment) :
    weight (enter before segment) ≤ weight before := by
  unfold enter
  split_ifs with parent here
  · exact weight_dropSegment before
  · exact Nat.le_refl _
  · exact (dots.elim here parent).elim

theorem weight_enter (before : List (List Char)) (segment : List Char) :
    weight (enter before segment) ≤ (percentDecode segment).length + 1 + weight before := by
  by_cases dots : IsDots segment
  · have lighter := weight_enter_of_isDots before dots
    omega
  · rw [IsDots, not_or] at dots
    simp [enter, dots, weight_cons]

/-- Resolving makes no path longer, and one with points for directories shorter. -/
theorem weight_resolve (port : Nat) (before segments : List (List Char)) :
    weight (resolve (.web port) before segments) ≤ weight before + weight segments ∧
      ((∃ segment ∈ segments, IsDots segment) →
        weight (resolve (.web port) before segments) < weight before + weight segments) := by
  have letters {segment : List Char} (dots : IsDots segment) :
      0 < (percentDecode segment).length := by
    rcases percentDecode_isDots dots with decoded | decoded
    · rw [decoded]
      decide
    · rw [decoded]
      decide
  induction segments generalizing before with
  | nil => simp [resolve, weight]
  | cons segment rest ih =>
    rw [weight_cons]
    cases rest with
    | nil =>
      simp only [List.mem_singleton, exists_eq_left]
      obtain ⟨kept, last⟩ | ⟨kept, last⟩ :=
        resolve_singleton port before segment
      · rw [kept, weight_append, weight_reverse, weight_cons]
        exact ⟨by omega, fun dots => (last dots).elim⟩
      · have lighter := weight_enter_of_isDots before last
        have nonempty := letters last
        have none : weight [[]] = 1 := rfl
        have nothing : weight [] = 0 := rfl
        rw [kept, weight_append, weight_reverse]
        exact ⟨by omega, fun _ => by omega⟩
    | cons next rest =>
      obtain ⟨most, strict⟩ := ih (enter before segment)
      have entered := weight_enter before segment
      rw [resolve_cons segment (by simp)]
      refine ⟨by omega, ?_⟩
      rintro ⟨part, member, dots⟩
      rcases List.mem_cons.mp member with rfl | later
      · have lighter := weight_enter_of_isDots before dots
        omega
      · have fewer := strict ⟨part, later, dots⟩
        omega

end Resolving

section Parts

/-- Encoding makes no new slashes. -/
theorem slash_not_mem_percentEncode {cs : List Char} (undivided : '/' ∉ cs) :
    '/' ∉ percentEncode inPath cs := by
  intro member
  obtain ⟨c, inside, slash⟩ := List.mem_flatMap.mp member
  have digits : ∀ n < 16, '/' ≠ upperHex n := by decide
  unfold encodeChar at slash
  split at slash
  · obtain ⟨n, octet, slash⟩ := List.mem_flatMap.mp slash
    obtain ⟨byte, -, rfl⟩ := List.mem_map.mp octet
    have small := byte.toNat_lt
    simp only [encodeByte, List.mem_cons, List.not_mem_nil, or_false] at slash
    rcases slash with percent | high | low
    · cases percent
    · exact digits _ (by omega) high
    · exact digits _ (by omega) low
  · rw [List.mem_singleton.mp slash] at undivided
    exact undivided inside

theorem splitSlashes_ne_nil (kind : SchemeKind) (cs : List Char) : splitSlashes kind cs ≠ [] := by
  rw [splitSlashes, Text.splitAt_eq]
  exact List.splitOn_ne_nil _ _

theorem pathSegments_web (port : Nat) (cs : List Char) : pathSegments (.web port) cs =
    (resolve (.web port) [] ((splitSlashes (.web port) cs).map (percentEncode inPath))).map
      String.ofList := by
  simp [pathSegments]

/-- The last segment of the path of a web address is undivided and denotes no directory. -/
theorem pathAfterHost_ends (port : Nat) (cs : List Char) :
    ∃ above last, pathAfterHost (.web port) cs = .segments (above ++ [last]) ∧
      '/' ∉ last.toList ∧ ¬IsDots last.toList := by
  have plain : ¬IsDots [] := by
    rintro (here | parent)
    · cases here
    · cases parent
  cases cs with
  | nil => exact ⟨[], "", rfl, List.not_mem_nil, plain⟩
  | cons c rest =>
    rw [pathAfterHost, pathSegments_web]
    generalize (if (SchemeKind.web port).isSlash c then rest else c :: rest) = path
    have present : resolve (.web port) []
        ((splitSlashes (.web port) path).map (percentEncode inPath)) ≠ [] :=
      resolve_ne_nil (mt List.map_eq_nil_iff.mp (splitSlashes_ne_nil (.web port) path))
    obtain none | ⟨above, last, ended⟩ := List.eq_nil_or_concat
      (resolve (.web port) [] ((splitSlashes (.web port) path).map (percentEncode inPath)))
    · exact (present none).elim
    · refine ⟨above.map String.ofList, .ofList last, ?_, ?_⟩
      · rw [ended, List.concat_eq_append, List.map_append, List.map_singleton]
      · rw [String.toList_ofList]
        have member : last ∈ resolve (.web port) []
            ((splitSlashes (.web port) path).map (percentEncode inPath)) := by simp [ended]
        rcases of_mem_resolve member with rfl | before | ⟨written, whole⟩
        · exact ⟨List.not_mem_nil, plain⟩
        · cases before
        · obtain ⟨part, split, rfl⟩ := List.mem_map.mp written
          exact ⟨slash_not_mem_percentEncode (Text.not_mem_of_mem_splitAt split), whole⟩

end Parts

section Schemes

theorem scheme_of_file? {cs : List Char} {url : Url} (read : file? cs = some url) :
    url.scheme = "file" := by
  simp only [file?] at read
  split at read
  · split at read
    · obtain ⟨host, -, rfl⟩ := Option.map_eq_some_iff.mp read
      cases host with
      | none => rfl
      | some host => rfl
    · cases read
      rfl
  · cases read
    rfl

theorem scheme_of_other? {scheme : String} {cs : List Char} {url : Url}
    (read : other? scheme cs = some url) : url.scheme = scheme := by
  simp only [other?] at read
  split at read
  · obtain ⟨found, -, same⟩ := Option.bind_eq_some_iff.mp read
    cases same
    rfl
  · split at read
    · cases read
      rfl
    · cases read
      rfl

/-- A web address has an authority after the slashes that follow its scheme. -/
theorem read_of_isHttp {text : String} {url : Url} (read : ofText? text = some url)
    (http : url.isHttp = true) : ∃ scheme rest port,
      scheme? (clean text.toList) = some (scheme, rest) ∧ SchemeKind.of scheme = .web port ∧
      afterSlashes? scheme (.web port) (rest.dropWhile (SchemeKind.web port).isSlash) =
        some url := by
  have secure : url.scheme = "http" ∨ url.scheme = "https" := by simpa [isHttp] using http
  have kinds {scheme : String} (same : url.scheme = scheme) :
      SchemeKind.of scheme = .web 80 ∨ SchemeKind.of scheme = .web 443 := by
    rw [← same]
    rcases secure with http | https
    · rw [http]
      exact .inl rfl
    · rw [https]
      exact .inr rfl
  obtain ⟨⟨scheme, rest⟩, begins, read⟩ := Option.bind_eq_some_iff.mp read
  refine ⟨scheme, rest, ?_⟩
  cases kind : SchemeKind.of scheme with
  | web port =>
    simp only [kind] at read
    exact ⟨port, begins, rfl, read⟩
  | file =>
    simp only [kind] at read
    rw [scheme_of_file? read] at secure
    simp at secure
  | other =>
    simp only [kind] at read
    have web := kinds (scheme_of_other? read)
    simp [kind] at web

/-- The path of a web address ends in a segment that is undivided and denotes no directory. -/
theorem path_of_isHttp {text : String} {url : Url} (read : ofText? text = some url)
    (http : url.isHttp = true) : ∃ above last, url.path = .segments (above ++ [last]) ∧
      '/' ∉ last.toList ∧ ¬IsDots last.toList := by
  obtain ⟨scheme, rest, port, -, -, read⟩ := read_of_isHttp read http
  obtain ⟨authority, -, same⟩ := Option.bind_eq_some_iff.mp read
  cases same
  exact pathAfterHost_ends port _

end Schemes

end BuildController.Url
