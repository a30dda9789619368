import CompoundFile.Session
import Mathlib

/-!
# Names of codepages

Blanks around the name of a codepage and the case of its letters do not matter. What is left is one
of a few texts (`Codepage.texts`), and most of these end with the number of the codepage as a decimal
numeral.

**Numerals.** A text of digits is zeros and then the numeral of its value (`eq_zeros_append`). A
numeral that is read may begin with zeros, and with a plus sign before them. So more is accepted than
the names: also texts with such a padding before the number (`Codepage.IsPaddedName`).

Main result: `Session.setCodepage_exact`.
-/

namespace CompoundFile

namespace Codepage

/-! ## Numerals -/

theorem exists_eq_digitChar {c : Char} (h : c.isDigit = true) : ∃ d < 10, c = Nat.digitChar d := by
  rw [Char.isDigit_iff_toNat] at h
  have h9 : c.toNat ≤ 57 := h.2
  have h0 : 48 ≤ c.toNat := h.1
  refine ⟨c.toNat - 48, by omega, Char.toNat_inj.1 ?_⟩
  rw [Nat.toNat_digitChar_of_lt_ten (by omega)]
  omega

/-- **A text of digits is zeros and then the numeral of its value.** Of the value zero nothing but
zeros is written. -/
theorem eq_zeros_append {text : List Char} (h : ∀ c ∈ text, c.isDigit = true) :
    ∃ zeros, text = List.replicate zeros '0' ++
      if Nat.ofDigitChars 10 text 0 = 0 then [] else Nat.toDigits 10 (Nat.ofDigitChars 10 text 0) := by
  induction text using List.reverseRecOn with
  | nil => exact ⟨0, rfl⟩
  | append_singleton text c ih =>
    obtain ⟨zeros, htext⟩ := ih fun d hd => h d (List.mem_append_left _ hd)
    obtain ⟨d, hd, rfl⟩ := exists_eq_digitChar (h c (List.mem_append_right _ List.mem_cons_self))
    have hvalue : Nat.ofDigitChars 10 (text ++ [d.digitChar]) 0 =
        10 * Nat.ofDigitChars 10 text 0 + d := by
      rw [Nat.ofDigitChars_append, Nat.ofDigitChars_cons_digitChar_of_lt_ten hd, Nat.ofDigitChars_nil]
    rw [hvalue]
    generalize Nat.ofDigitChars 10 text 0 = n at htext
    rcases Nat.eq_zero_or_pos n with rfl | hn
    · rw [if_pos rfl, List.append_nil] at htext
      rcases Nat.eq_zero_or_pos d with rfl | hpos
      · refine ⟨zeros + 1, ?_⟩
        rw [htext, if_pos rfl, List.append_nil, List.replicate_succ']
        rfl
      · refine ⟨zeros, ?_⟩
        rw [htext, if_neg (by omega), Nat.mul_zero, Nat.zero_add, Nat.toDigits_of_lt_base hd]
    · refine ⟨zeros, ?_⟩
      rw [if_neg (by omega)] at htext
      rw [if_neg (by omega), htext, List.append_assoc, ← Nat.toDigits_append_toDigits (by omega) hn hd,
        Nat.toDigits_of_lt_base hd]

/-- The decimal numeral of a number. -/
def numeral (n : Nat) : List Char := (toString n).toList

theorem numeral_eq (n : Nat) : numeral n = Nat.toDigits 10 n := by
  rw [numeral, Nat.toString_eq_repr, Nat.toList_repr]

theorem digits?_eq_some_iff {text : List Char} {n : Nat} (hn : n ≠ 0) :
    digits? text = some n ↔ ∃ zeros, text = List.replicate zeros '0' ++ numeral n := by
  have hread : digits? text = some n ↔
      text ≠ [] ∧ (∀ c ∈ text, c.isDigit = true) ∧ Nat.ofDigitChars 10 text 0 = n := by
    unfold digits?
    rw [Option.ite_none_right_eq_some, List.all_eq_true, Option.some.injEq, and_assoc]
    rfl
  rw [hread, numeral_eq]
  constructor
  · rintro ⟨-, hdigits, rfl⟩
    obtain ⟨zeros, htext⟩ := eq_zeros_append hdigits
    rw [if_neg hn] at htext
    exact ⟨zeros, htext⟩
  · rintro ⟨zeros, rfl⟩
    refine ⟨List.append_ne_nil_of_right_ne_nil _ Nat.toDigits_ne_nil, fun c hc => ?_, ?_⟩
    · rcases List.mem_append.1 hc with hc | hc
      · rw [List.eq_of_mem_replicate hc]
        rfl
      · exact Nat.isDigit_of_mem_toDigits (by omega) (by omega) hc
    · rw [Nat.ofDigitChars_append, Nat.ofDigitChars_replicate_zero, Nat.mul_zero,
        Nat.ofDigitChars_toDigits (by omega) (by omega)]

/-- What may stand before the number where a numeral is read: a plus sign or none, and then zeros. -/
def IsPadding (padding : List Char) : Prop :=
  ∃ zeros, padding = List.replicate zeros '0' ∨ padding = '+' :: List.replicate zeros '0'

theorem plus_notMem (zeros n : Nat) : '+' ∉ List.replicate zeros '0' ++ numeral n := by
  intro hmem
  rcases List.mem_append.1 hmem with hmem | hmem
  · cases List.eq_of_mem_replicate hmem
  · rw [numeral_eq] at hmem
    have hdigit := Nat.isDigit_of_mem_toDigits (by omega) (by omega) hmem
    cases hdigit

/-- **A numeral that is read is the numeral of a number with padding before it.** -/
theorem numeral?_eq_some_iff {text : List Char} {n : Nat} (hn : n ≠ 0) :
    numeral? text = some n ↔ ∃ padding, IsPadding padding ∧ text = padding ++ numeral n := by
  unfold numeral?
  split
  next rest =>
    rw [digits?_eq_some_iff hn]
    constructor
    · rintro ⟨zeros, rfl⟩
      exact ⟨_, ⟨zeros, Or.inr rfl⟩, rfl⟩
    · rintro ⟨padding, ⟨zeros, rfl | rfl⟩, htext⟩
      · exact absurd (htext ▸ List.mem_cons_self) (plus_notMem zeros n)
      · exact ⟨zeros, (List.cons.inj htext).2⟩
  next hplus =>
    rw [digits?_eq_some_iff hn]
    constructor
    · rintro ⟨zeros, rfl⟩
      exact ⟨_, ⟨zeros, Or.inl rfl⟩, rfl⟩
    · rintro ⟨padding, ⟨zeros, rfl | rfl⟩, rfl⟩
      · exact ⟨zeros, rfl⟩
      · exact absurd rfl (hplus _)

/-! ## Names -/

/-- What stands before the number in a name. -/
def beginnings : List (List Char) := ["cp".toList, "windows-".toList]

theorem after?_eq_some_iff {beginning text rest : List Char} :
    after? beginning text = some rest ↔ text = beginning ++ rest := by
  unfold after?
  rw [Option.ite_none_right_eq_some, List.isPrefixOf_iff_prefix, Option.some.injEq]
  constructor
  · rintro ⟨⟨rest, rfl⟩, rfl⟩
    rw [List.drop_left]
  · rintro rfl
    exact ⟨List.prefix_append _ _, List.drop_left⟩

/-- No text begins in both ways. -/
theorem after?_or_eq_some_iff {text rest : List Char} :
    (after? "cp".toList text).or (after? "windows-".toList text) = some rest ↔
      ∃ beginning ∈ beginnings, text = beginning ++ rest := by
  have hshort : ∀ rest, after? "cp".toList ("windows-".toList ++ rest) = none := by
    intro rest
    refine Option.eq_none_iff_forall_not_mem.2 fun rest' h => ?_
    have hhead := congrArg List.head? (after?_eq_some_iff.1 h)
    cases hhead
  rw [Option.or_eq_some_iff, after?_eq_some_iff, after?_eq_some_iff]
  simp only [beginnings, List.mem_cons, List.not_mem_nil, or_false, exists_eq_or_imp,
    exists_eq_left]
  refine or_congr_right ⟨And.right, ?_⟩
  rintro rfl
  exact ⟨hshort rest, rfl⟩

/-- The codepages with a number in their names are those of a number but ASCII. -/
theorem ofId?_filter_eq_some_iff {n : Nat} {c : Codepage} :
    (ofId? n).filter (· != ascii) = some c ↔ c ≠ ascii ∧ n = c.id := by
  rw [Option.filter_eq_some_iff, bne_iff_ne, and_comm]
  refine and_congr_right fun _ => ⟨fun h => ?_, ?_⟩
  · have hid := List.find?_some h
    exact (beq_iff_eq.1 hid).symm
  · rintro rfl
    exact ofId?_id c

/-- The texts that stand for a codepage, with some padding before its number. -/
def texts (padding : List Char) (c : Codepage) : List (List Char) :=
  if c = ascii then ["ascii".toList, "us-ascii".toList]
  else beginnings.map fun beginning => beginning ++ (padding ++ numeral c.id)

/-- A text without the blanks around it, in lower case. -/
def plain (name : String) : List Char := (Text.trim name.toList).map Char.toLower

/-- A text is a name of a codepage. -/
def IsName (name : String) (c : Codepage) : Prop := plain name ∈ texts [] c

instance (name : String) (c : Codepage) : Decidable (IsName name c) :=
  inferInstanceAs (Decidable (_ ∈ _))

/-- A text would be a name of a codepage if there were no padding before the number. -/
def IsPaddedName (name : String) (c : Codepage) : Prop :=
  c ≠ ascii ∧ ∃ padding, padding ≠ [] ∧ IsPadding padding ∧ plain name ∈ texts padding c

theorem mem_texts_iff {padding text : List Char} {c : Codepage} (hc : c ≠ ascii) :
    text ∈ texts padding c ↔
      ∃ beginning ∈ beginnings, text = beginning ++ (padding ++ numeral c.id) := by
  rw [texts, if_neg hc, List.mem_map]
  simp only [eq_comm]

theorem id_ne_zero (c : Codepage) : c.id ≠ 0 := by cases c <;> decide

/-- The part of a text behind its beginning, read as a number. -/
theorem numbered_iff {text : List Char} {c : Codepage} :
    (((after? "cp".toList text).or (after? "windows-".toList text)).bind numeral?).bind
        (ofId? · |>.filter (· != ascii)) = some c ↔
      c ≠ ascii ∧ ∃ padding, IsPadding padding ∧ text ∈ texts padding c := by
  simp only [Option.bind_eq_some_iff, ofId?_filter_eq_some_iff, after?_or_eq_some_iff]
  constructor
  · rintro ⟨_, ⟨rest, ⟨beginning, hbeginning, rfl⟩, hnumeral⟩, hc, rfl⟩
    obtain ⟨padding, hpadding, rfl⟩ := (numeral?_eq_some_iff c.id_ne_zero).1 hnumeral
    exact ⟨hc, padding, hpadding, (mem_texts_iff hc).2 ⟨beginning, hbeginning, rfl⟩⟩
  · rintro ⟨hc, padding, hpadding, htext⟩
    obtain ⟨beginning, hbeginning, rfl⟩ := (mem_texts_iff hc).1 htext
    exact ⟨c.id, ⟨_, ⟨beginning, hbeginning, rfl⟩,
      (numeral?_eq_some_iff c.id_ne_zero).2 ⟨padding, hpadding, rfl⟩⟩, hc, rfl⟩

/-- The names of ASCII have no number. -/
theorem ascii_notMem_texts {padding text : List Char} {c : Codepage} (hc : c ≠ ascii)
    (htext : text = "ascii".toList ∨ text = "us-ascii".toList) : text ∉ texts padding c := by
  intro hmem
  obtain ⟨beginning, hbeginning, heq⟩ := (mem_texts_iff hc).1 hmem
  have hhead := congrArg List.head? heq
  rcases List.mem_pair.1 hbeginning with rfl | rfl
  · rcases htext with rfl | rfl <;> cases hhead
  · rcases htext with rfl | rfl <;> cases hhead

/-- **What is accepted as a name.** -/
theorem ofName?_eq_some_iff {name : String} {c : Codepage} :
    ofName? name = some c ↔ IsName name c ∨ IsPaddedName name c := by
  unfold IsName IsPaddedName ofName?
  dsimp only
  rw [← plain]
  by_cases hascii : plain name = "ascii".toList ∨ plain name = "us-ascii".toList
  · rw [if_pos hascii]
    by_cases hc : c = ascii
    · subst hc
      exact iff_of_true rfl (Or.inl (List.mem_pair.2 hascii))
    · refine iff_of_false (fun h => hc (Option.some.inj h).symm) ?_
      rintro (hname | ⟨-, padding, -, -, hname⟩)
      · exact ascii_notMem_texts hc hascii hname
      · exact ascii_notMem_texts hc hascii hname
  · rw [if_neg hascii, numbered_iff]
    constructor
    · rintro ⟨hc, padding, hpadding, hname⟩
      rcases eq_or_ne padding [] with rfl | hne
      · exact Or.inl hname
      · exact Or.inr ⟨hc, padding, hne, hpadding, hname⟩
    · rintro (hname | ⟨hc, padding, -, hpadding, hname⟩)
      · have hc : c ≠ ascii := by
          rintro rfl
          exact hascii (List.mem_pair.1 hname)
        exact ⟨hc, [], ⟨0, Or.inl rfl⟩, hname⟩
      · exact ⟨hc, padding, hpadding, hname⟩

/-- The padding before the number is no part of a name. -/
theorem IsName.not_isPaddedName {name : String} {c c' : Codepage} (h : IsName name c) :
    ¬IsPaddedName name c' := by
  rintro ⟨hc', padding, hne, hpadding, htext⟩
  -- A name has one meaning, so both have the same number behind the same beginning.
  obtain rfl : c = c' := by
    have hname := ofName?_eq_some_iff.2 (Or.inl h)
    have hpadded := ofName?_eq_some_iff.2 (Or.inr ⟨hc', padding, hne, hpadding, htext⟩)
    exact Option.some.inj (hname.symm.trans hpadded)
  obtain ⟨beginning, hbeginning, htext⟩ := (mem_texts_iff hc').1 htext
  obtain ⟨beginning', hbeginning', htext'⟩ := (mem_texts_iff hc').1 h
  have heq := htext.symm.trans htext'
  have hsame : beginning = beginning' := by
    have hhead := congrArg List.head? heq
    rcases List.mem_pair.1 hbeginning with rfl | rfl <;>
      rcases List.mem_pair.1 hbeginning' with rfl | rfl
    · rfl
    · cases hhead
    · cases hhead
    · rfl
  subst hsame
  exact hne (List.append_cancel_right (List.append_cancel_left heq))

end Codepage

/-- **Choosing a codepage by name.** A session takes the codepage of a name, and also that of a name
with padding before the number. It refuses all other texts, unharmed, and tells the text as it was
given. So exactly the names are accepted, unless the text is padded. -/
theorem Session.setCodepage_exact (s : Session) (name : String) :
    (∀ c, s.setCodepage name = (.ok (), { s with options := { s.options with codepage := c } }) ↔
      Codepage.IsName name c ∨ Codepage.IsPaddedName name c) ∧
    (s.setCodepage name = (.error (.unsupportedCodepage name), s) ↔
      ∀ c, ¬Codepage.IsName name c ∧ ¬Codepage.IsPaddedName name c) ∧
    ((∀ c, Codepage.ofName? name = some c ↔ Codepage.IsName name c) ↔
      ∀ c, ¬Codepage.IsPaddedName name c) := by
  have haccepted : ∀ c, Codepage.ofName? name = some c ↔
      Codepage.IsName name c ∨ Codepage.IsPaddedName name c :=
    fun _ => Codepage.ofName?_eq_some_iff
  refine ⟨fun c => ?_, ?_, ?_⟩
  · rw [← haccepted]
    unfold setCodepage
    cases Codepage.ofName? name with
    | none => exact iff_of_false (fun h => by cases h) (fun h => by cases h)
    | some c' =>
      refine ⟨fun h => ?_, fun h => by rw [Option.some.inj h]⟩
      have hoptions := congrArg (·.2.options.codepage) h
      exact congrArg some hoptions
  · simp only [← not_or, ← haccepted]
    unfold setCodepage
    cases Codepage.ofName? name with
    | none => exact iff_of_true rfl fun c h => by cases h
    | some c' => exact iff_of_false (fun h => by cases h) fun h => h c' rfl
  · simp only [haccepted]
    constructor
    · intro h c hpadded
      exact ((h c).1 (Or.inr hpadded)).not_isPaddedName hpadded
    · intro h c
      exact or_iff_left (h c)

/-- A plus sign before the number is passed over, though no codepage has such a name. -/
theorem Codepage.plus_accepted :
    Codepage.ofName? "cp+1252" = some .windows1252 ∧
      (∀ c, ¬Codepage.IsName "cp+1252" c) ∧
      ¬∀ name c, Codepage.ofName? name = some c ↔ Codepage.IsName name c := by
  have haccepted : Codepage.ofName? "cp+1252" = some .windows1252 := by decide
  have hname : ∀ c, ¬Codepage.IsName "cp+1252" c := by
    intro c
    cases c <;> decide
  exact ⟨haccepted, hname, fun h => hname _ ((h _ _).1 haccepted)⟩

example : Codepage.IsName " Windows-1251\n" .windows1251 := by decide

end CompoundFile
