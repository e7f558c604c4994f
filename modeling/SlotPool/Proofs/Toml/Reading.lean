import Mathlib.Data.List.Basic
import Mathlib.Data.List.Nodup
import SlotPool.Toml.Document

/-!
# Reading back lines of numbers

A document of lines that assign numbers to bare keys, every line in the form
`key = number`, is read as just these assignments.  Each reader stops exactly where
the text it reads ends: the key at the space, the number at the line break.

Main definitions:

- `numberLine`: the characters of an assignment of a number.

Main results:

- `value_toDigits`: the digits of a number are read as that number, and as nothing else.
- `line_numberLine`: a line is read as one assignment.
- `parse_documentOf`: a document of such lines with different keys is read as their entries.
- `Library.faithful_standard`: so the library that reads whole documents can be relied on.
-/

namespace SlotPool

/-! ## Digits -/

namespace Decimal

theorem digitValue?_of_isDigit {c : Char} (hdigit : c.isDigit = true) :
    digitValue? c = some (c.toNat - '0'.toNat) := by
  have hrange : '0' ≤ c ∧ c ≤ '9' := by
    simpa [Char.isDigit, Char.le_def] using hdigit
  rw [digitValue?, if_pos hrange]

theorem isDigitOf_of_isDigit {c : Char} (hdigit : c.isDigit = true) : isDigitOf 10 c = true := by
  have hle : c.toNat ≤ 57 := by
    simp only [Char.isDigit, Bool.and_eq_true, decide_eq_true_eq] at hdigit
    exact hdigit.2
  rw [isDigitOf, digitValue?_of_isDigit hdigit, Option.any_some, decide_eq_true_eq]
  have hzero : '0'.toNat = 48 := rfl
  omega

theorem isDigit_of_mem_toDigits {n : Nat} : ∀ c ∈ Nat.toDigits 10 n, c.isDigit = true :=
  fun _ hmem => Nat.isDigit_of_mem_toDigits (by decide) (by decide) hmem

/-- The digits of a number have its value. -/
theorem digitsValue_toDigits (n : Nat) : digitsValue 10 (Nat.toDigits 10 n) = n := by
  have hfold :
      digitsValue 10 (Nat.toDigits 10 n) = Nat.ofDigitChars 10 (Nat.toDigits 10 n) 0 := by
    rw [Nat.ofDigitChars_eq_foldl, digitsValue]
    apply List.foldl_ext
    intro value c hmem
    rw [digitValue?_of_isDigit (isDigit_of_mem_toDigits c hmem), Option.getD_some, Nat.mul_comm]
  rw [hfold, Nat.ofDigitChars_ten_toDigits]

/-- No number but zero starts with a zero. -/
theorem toDigits_eq_cons {n : Nat} (hpos : 0 < n) :
    ∃ c cs, Nat.toDigits 10 n = c :: cs ∧ c ≠ '0' := by
  induction n using Nat.strongRecOn with
  | ind n ih =>
      by_cases hsmall : n < 10
      · refine ⟨n.digitChar, [], Nat.toDigits_of_lt_base hsmall, ?_⟩
        intro hzero
        have := Nat.digitChar_eq_zero.1 hzero
        omega
      · rcases ih (n / 10) (by omega) (by omega) with ⟨c, cs, hdigits, hne⟩
        refine ⟨c, cs ++ [(n % 10).digitChar], ?_, hne⟩
        rw [Nat.toDigits_of_base_le (by decide) (by omega), hdigits, List.cons_append]

theorem exists_toDigits_eq_cons (n : Nat) :
    ∃ c cs, Nat.toDigits 10 n = c :: cs ∧ c.isDigit = true := by
  rcases List.exists_cons_of_ne_nil (Nat.toDigits_ne_nil (n := n) (b := 10)) with ⟨c, cs, hdigits⟩
  refine ⟨c, cs, hdigits, isDigit_of_mem_toDigits (n := n) c ?_⟩
  rw [hdigits]
  exact List.mem_cons_self

end Decimal

namespace Toml

open Decimal

/-! ## Numbers -/

section Numbers

variable {digits rest : List Char} {n : Nat}

theorem ne_of_isDigit {c d : Char} (hc : c.isDigit = true) (hd : d.isDigit = false) : c ≠ d := by
  rintro rfl
  rw [hc] at hd
  contradiction

theorem cons_ne_cons_of_isDigit {c d : Char} (hc : c.isDigit = true) (hd : d.isDigit = false)
    (cs ds : List Char) : c :: cs ≠ d :: ds :=
  fun heq => ne_of_isDigit hc hd (List.cons.inj heq).1

theorem moreDigits_append (hdigits : ∀ c ∈ digits, c.isDigit = true) :
    moreDigits 10 (digits ++ '\n' :: rest) = some (digits, '\n' :: rest) := by
  induction digits with
  | nil => rfl
  | cons c cs ih =>
      rcases List.forall_mem_cons.1 hdigits with ⟨hc, hcs⟩
      rw [List.cons_append, moreDigits.eq_3 _ _ _ (fun _ _ heq _ => ne_of_isDigit hc rfl heq),
        if_pos (isDigitOf_of_isDigit hc), ih hcs]
      rfl

theorem wholePart_toDigits (n : Nat) (rest : List Char) :
    wholePart (Nat.toDigits 10 n ++ '\n' :: rest) = some (Nat.toDigits 10 n, '\n' :: rest) := by
  rcases Nat.eq_zero_or_pos n with rfl | hpos
  · rfl
  · have hall := isDigit_of_mem_toDigits (n := n)
    rcases toDigits_eq_cons hpos with ⟨c, cs, hdigits, hne⟩
    rw [hdigits] at hall ⊢
    rcases List.forall_mem_cons.1 hall with ⟨hc, hcs⟩
    rw [List.cons_append, wholePart.eq_2 _ (fun _ heq => hne (List.cons.inj heq).1), digitRun,
      if_pos (isDigitOf_of_isDigit hc), moreDigits_append hcs]
    rfl

/-- Neither a fraction nor an exponent follows at the end of a line. -/
theorem decimal_toDigits (hfits : (n : Int) < wordBound) (rest : List Char) :
    decimal false (Nat.toDigits 10 n ++ '\n' :: rest) = some (.integer n, '\n' :: rest) := by
  have hinteger : integerOf false 10 (Nat.toDigits 10 n) = some (n : Int) := by
    have hnonneg : -wordBound ≤ (n : Int) :=
      Int.le_trans (by decide) (Int.natCast_nonneg n)
    simp only [integerOf, digitsValue_toDigits, inWord, Bool.false_eq_true, if_false,
      if_pos (And.intro hnonneg hfits)]
  have hdecimal : decimalOf false (Nat.toDigits 10 n) none none = some (.integer n) := by
    rw [decimalOf, hinteger, Option.map_some]
  simp only [decimal, Option.bind_eq_bind, Option.bind_eq_some_iff]
  exact ⟨_, wholePart_toDigits n rest, (none, '\n' :: rest), rfl, (none, '\n' :: rest), rfl,
    .integer n, hdecimal, rfl⟩

theorem sign_of_isDigit {c : Char} (hdigit : c.isDigit = true) (cs : List Char) :
    sign (c :: cs) = (false, c :: cs) := by
  unfold sign
  split
  · next heq => exact absurd heq (cons_ne_cons_of_isDigit hdigit rfl _ _)
  · next heq => exact absurd heq (cons_ne_cons_of_isDigit hdigit rfl _ _)
  · rfl

/-- Digits without a leading zero have no prefix of another base. -/
theorem number_toDigits (hfits : (n : Int) < wordBound) (rest : List Char) :
    number (Nat.toDigits 10 n ++ '\n' :: rest) = some (.integer n, '\n' :: rest) := by
  rw [← decimal_toDigits hfits]
  rcases Nat.eq_zero_or_pos n with rfl | hpos
  · rfl
  · have hall := isDigit_of_mem_toDigits (n := n)
    rcases toDigits_eq_cons hpos with ⟨c, cs, hdigits, hne⟩
    rw [hdigits] at hall ⊢
    have hc := hall c List.mem_cons_self
    rw [List.cons_append, number.eq_2 _ (fun _ _ heq => hne (List.cons.inj heq).1),
      sign_of_isDigit hc]
    split
    · next heq => exact absurd (Prod.mk.inj heq).2 (cons_ne_cons_of_isDigit hc rfl _ _)
    · next heq => exact absurd (Prod.mk.inj heq).2 (cons_ne_cons_of_isDigit hc rfl _ _)
    · next heq =>
        rcases Prod.mk.inj heq with ⟨rfl, rfl⟩
        rfl

/-! A line of digits alone is no date and no time, for want of the mark after the first number. -/

theorem expect_append (hdigits : ∀ c ∈ digits, c.isDigit = true) {mark : Char}
    (hmark : mark.isDigit = false) (hbreak : mark ≠ '\n') :
    expect mark (digits ++ '\n' :: rest) = none := by
  cases digits with
  | nil => exact if_neg (Ne.symm hbreak)
  | cons c cs => exact if_neg (ne_of_isDigit (hdigits c List.mem_cons_self) hmark)

theorem rest_of_fixedNumber {count value : Nat} {more : List Char}
    (hdigits : ∀ c ∈ digits, c.isDigit = true)
    (hread : fixedNumber count (digits ++ '\n' :: rest) = some (value, more)) :
    ∃ left, more = left ++ '\n' :: rest ∧ ∀ c ∈ left, c.isDigit = true := by
  simp only [fixedNumber] at hread
  split at hread
  · next hfixed =>
      have hle : count ≤ digits.length := by
        by_contra hshort
        have hmem : '\n' ∈ (digits ++ '\n' :: rest).take count := by
          rw [List.take_append, List.mem_append]
          right
          cases hcount : count - digits.length with
          | zero => omega
          | succ k => exact List.mem_cons_self
        have := List.all_eq_true.1 hfixed.2 _ hmem
        contradiction
      refine ⟨digits.drop count, ?_, fun c hmem => hdigits c (List.mem_of_mem_drop hmem)⟩
      rw [← (Prod.mk.inj (Option.some.inj hread)).2, List.drop_append_of_le_length hle]
  · contradiction

theorem dateTime?_append (hdigits : ∀ c ∈ digits, c.isDigit = true) :
    dateTime? (digits ++ '\n' :: rest) = none := by
  have hdate : date? (digits ++ '\n' :: rest) = none := by
    apply Option.eq_none_iff_forall_ne_some.2
    intro after hread
    simp only [date?, Option.bind_eq_bind, Option.bind_eq_some_iff] at hread
    rcases hread with ⟨⟨year, more⟩, hyear, marked, hmark, -⟩
    rcases rest_of_fixedNumber hdigits hyear with ⟨left, rfl, hleft⟩
    rw [expect_append hleft rfl (by decide)] at hmark
    contradiction
  have htime : time? (digits ++ '\n' :: rest) = none := by
    apply Option.eq_none_iff_forall_ne_some.2
    intro after hread
    simp only [time?, twoDigits, Option.bind_eq_bind, Option.bind_eq_some_iff] at hread
    rcases hread with ⟨⟨hour, more⟩, ⟨⟨number, others⟩, hfixed, hbounds⟩, marked, hmark, -⟩
    rcases rest_of_fixedNumber hdigits hfixed with ⟨left, rfl, hleft⟩
    split at hbounds
    · rcases Prod.mk.inj (Option.some.inj hbounds) with ⟨-, rfl⟩
      rw [expect_append hleft rfl (by decide)] at hmark
      contradiction
    · contradiction
  simp only [dateTime?, hdate, htime]

/-- The digits of a number that fits a signed word are read as that number. -/
theorem value_toDigits (hfits : (n : Int) < wordBound) (depth : Nat) (rest : List Char) :
    value (depth + 1) (Nat.toDigits 10 n ++ '\n' :: rest) = some (.integer n, '\n' :: rest) := by
  have hdate : dateTime? (Nat.toDigits 10 n ++ '\n' :: rest) = none :=
    dateTime?_append isDigit_of_mem_toDigits
  have hnumber := number_toDigits hfits rest
  rcases exists_toDigits_eq_cons n with ⟨c, cs, hdigits, hc⟩
  rw [hdigits, List.cons_append] at hdate hnumber ⊢
  simp only [value]
  split
  · next heq => exact absurd heq (cons_ne_cons_of_isDigit hc rfl _ _)
  · next heq => exact absurd heq (cons_ne_cons_of_isDigit hc rfl _ _)
  · have hquote : ¬ (c = '"' ∨ c = '\'') :=
      not_or.2 ⟨ne_of_isDigit hc rfl, ne_of_isDigit hc rfl⟩
    have hletter : ¬ (c = 't' ∨ c = 'f') :=
      not_or.2 ⟨ne_of_isDigit hc rfl, ne_of_isDigit hc rfl⟩
    simp only [scalar, if_neg hquote, if_neg hletter, hdate, hnumber, Option.map_some, Number.item]

end Numbers

/-! ## Keys -/

section Keys

variable {key : String}

theorem ne_of_isKeyChar {c d : Char} (hc : isKeyChar c = true) (hd : isKeyChar d = false) :
    c ≠ d := by
  rintro rfl
  rw [hc] at hd
  contradiction

theorem IsBare.exists_cons (hkey : IsBare key) :
    ∃ c cs, key.toList = c :: cs ∧ isKeyChar c = true := by
  have hnonempty : key.toList ≠ [] := by
    simpa using hkey.1
  rcases List.exists_cons_of_ne_nil hnonempty with ⟨c, cs, hcs⟩
  refine ⟨c, cs, hcs, hkey.2 c ?_⟩
  rw [hcs]
  exact List.mem_cons_self

theorem IsBare.ne_cons (hkey : IsBare key) {d : Char} (hd : isKeyChar d = false)
    (more others : List Char) : key.toList ++ more ≠ d :: others := by
  rcases hkey.exists_cons with ⟨c, cs, hcs, hc⟩
  rw [hcs]
  intro heq
  exact absurd (List.cons.inj heq).1 (ne_of_isKeyChar hc hd)

theorem skipSpace_cons {c : Char} (hblank : c ≠ ' ') (htab : c ≠ '\t') (cs : List Char) :
    skipSpace (c :: cs) = c :: cs := by
  have hspace : ¬ isSpace c = true := by
    simp [isSpace, hblank, htab]
  rw [skipSpace, List.dropWhile_cons_of_neg hspace]

theorem skipSpace_append (hkey : IsBare key) (rest : List Char) :
    skipSpace (key.toList ++ rest) = key.toList ++ rest := by
  rcases hkey.exists_cons with ⟨c, cs, hcs, hc⟩
  rw [hcs, List.cons_append, skipSpace_cons (ne_of_isKeyChar hc rfl) (ne_of_isKeyChar hc rfl)]

theorem simpleKey_append (hkey : IsBare key) (rest : List Char) :
    simpleKey (key.toList ++ ' ' :: rest) = some (key, ' ' :: rest) := by
  have htake : (key.toList ++ ' ' :: rest).takeWhile isKeyChar = key.toList := by
    rw [List.takeWhile_append_of_pos hkey.2, List.takeWhile_cons_of_neg (by decide),
      List.append_nil]
  have hdrop : (key.toList ++ ' ' :: rest).dropWhile isKeyChar = ' ' :: rest := by
    rw [List.dropWhile_append_of_pos hkey.2, List.dropWhile_cons_of_neg (by decide)]
  have hnonempty : ¬ key.toList.isEmpty = true := by
    simpa using hkey.1
  rw [simpleKey.eq_3 _ (hkey.ne_cons rfl _) (hkey.ne_cons rfl _), htake, hdrop, if_neg hnonempty,
    String.ofList_toList]

/-- A bare key before an equals sign is a path without parents. -/
theorem path_append (hkey : IsBare key) (rest : List Char) :
    path (key.toList ++ ' ' :: '=' :: rest) = some (⟨[], key⟩, '=' :: rest) := by
  have hkeys : keysUpTo keyLimit (key.toList ++ ' ' :: '=' :: rest) =
      some ([key], '=' :: rest) := by
    rw [keyLimit, keysUpTo, skipSpace_append hkey, simpleKey_append hkey]
    rfl
  rw [path, hkeys]
  rfl

theorem endLine?_append (hkey : IsBare key) (rest : List Char) :
    endLine? (key.toList ++ rest) = none := by
  rw [endLine?, skipSpace_append hkey, skipComment.eq_2 _ (hkey.ne_cons rfl _)]
  split
  · next heq =>
      rcases hkey.exists_cons with ⟨c, cs, hcs, -⟩
      rw [hcs] at heq
      contradiction
  · exact newline?.eq_3 _ (fun _ => hkey.ne_cons rfl _ _) (fun _ => hkey.ne_cons rfl _ _)

end Keys

/-! ## Entries -/

namespace Entries

variable {entries : Entries} {key : String}

theorem find?_eq_none (hnew : key ∉ entries.map Prod.fst) : entries.find? key = none := by
  induction entries with
  | nil => rfl
  | cons entry entries ih =>
      rcases not_or.1 (mt List.mem_cons.2 hnew) with ⟨hne, hnew⟩
      rw [find?, if_neg (Ne.symm hne), ih hnew]

theorem put_eq_append (hnew : key ∉ entries.map Prod.fst) (item : Item) :
    put key item entries = entries ++ [(key, item)] := by
  induction entries with
  | nil => rfl
  | cons entry entries ih =>
      rcases not_or.1 (mt List.mem_cons.2 hnew) with ⟨hne, hnew⟩
      rw [put, if_neg (Ne.symm hne), ih hnew, List.cons_append]

end Entries

/-- A key that is new to the table at hand becomes its last one. -/
theorem Draft.assign_new {draft : Draft} {key : String}
    (hnew : key ∉ draft.current.map Prod.fst) (item : Item) :
    draft.assign ⟨[], key⟩ item =
      some { draft with current := draft.current ++ [(key, item)] } := by
  have hcurrent : draft.current.assign ⟨[], key⟩ item = some (draft.current ++ [(key, item)]) := by
    simp [Entries.assign, Entries.modifyAt, Entries.find?_eq_none hnew, Entries.put_eq_append hnew]
  rw [Draft.assign, hcurrent]
  rfl

/-! ## Lines -/

/-- The characters of a line that assigns a number to a key. -/
def numberLine (key : String) (n : Nat) : List Char :=
  key.toList ++ ' ' :: '=' :: ' ' :: (Nat.toDigits 10 n ++ ['\n'])

/-- A line that assigns a number to a bare key is read up to its end. -/
theorem line_numberLine {key : String} {n : Nat} (hkey : IsBare key) (hfits : (n : Int) < wordBound)
    (draft : Draft) (rest : List Char) :
    line draft (numberLine key n ++ rest) =
      (draft.assign ⟨[], key⟩ (.integer n)).map fun draft => (draft, rest) := by
  have hchars : numberLine key n ++ rest =
      key.toList ++ ' ' :: '=' :: ' ' :: (Nat.toDigits 10 n ++ '\n' :: rest) := by
    simp [numberLine]
  have hskip : skipSpace (' ' :: (Nat.toDigits 10 n ++ '\n' :: rest)) =
      Nat.toDigits 10 n ++ '\n' :: rest := by
    rcases exists_toDigits_eq_cons n with ⟨c, cs, hdigits, hc⟩
    rw [hdigits, List.cons_append]
    exact skipSpace_cons (ne_of_isDigit hc rfl) (ne_of_isDigit hc rfl) _
  rw [hchars, line, skipSpace_append hkey]
  split
  · next heq => exact absurd heq (hkey.ne_cons rfl _ _)
  · next heq => exact absurd heq (hkey.ne_cons rfl _ _)
  · simp only [endLine?_append hkey, assignmentLine, path_append hkey, Option.bind_eq_bind,
      Option.bind_some, expect, if_true]
    rw [hskip, depthLimit, value_toDigits hfits]
    have hend : endLine? ('\n' :: rest) = some rest := rfl
    simp only [Option.bind_some, hend]
    cases draft.assign ⟨[], key⟩ (.integer n) with
    | none => rfl
    | some draft => rfl

/-! ## Documents -/

/-- The characters of lines that assign numbers. -/
def numberLines (assignments : List Assignment) : List Char :=
  assignments.flatMap fun assignment => numberLine assignment.key assignment.value

variable {assignments : List Assignment}

theorem Assignment.toList_line (assignment : Assignment) :
    assignment.line.toList = numberLine assignment.key assignment.value := by
  simp [line, numberLine]

theorem toList_documentOf (assignments : List Assignment) :
    (documentOf assignments).toList = numberLines assignments := by
  simp [documentOf, numberLines, String.toList_join, List.flatMap_map, Assignment.toList_line]

theorem linesUpTo_of_line {limit : Nat} {draft after : Draft} {cs rest : List Char} (hne : cs ≠ [])
    (hline : line draft cs = some (after, rest)) :
    linesUpTo (limit + 1) draft cs = linesUpTo limit after rest := by
  rcases List.exists_cons_of_ne_nil hne with ⟨c, cs, rfl⟩
  rw [linesUpTo, hline]
  rfl

theorem linesUpTo_numberLines (hkeys : ∀ assignment ∈ assignments, IsBare assignment.key)
    (hfits : ∀ assignment ∈ assignments, (assignment.value : Int) < wordBound) {limit : Nat}
    (hlimit : assignments.length ≤ limit) (draft : Draft)
    (hnodup : (draft.current.map Prod.fst ++ assignments.map Assignment.key).Nodup) :
    linesUpTo limit draft (numberLines assignments) =
      some { draft with current := draft.current ++ assignments.map Assignment.entry } := by
  induction assignments generalizing limit draft with
  | nil => simp [numberLines, linesUpTo]
  | cons assignment assignments ih =>
      rcases List.forall_mem_cons.1 hkeys with ⟨hkey, hkeys⟩
      rcases List.forall_mem_cons.1 hfits with ⟨hfit, hfits⟩
      rcases limit with _ | limit
      · simp at hlimit
      · have hnew : assignment.key ∉ draft.current.map Prod.fst := by
          intro hmem
          exact (List.nodup_append.1 hnodup).2.2 _ hmem _ List.mem_cons_self rfl
        have hline := line_numberLine hkey hfit draft (numberLines assignments)
        rw [Draft.assign_new hnew, Option.map_some] at hline
        have hne : numberLine assignment.key assignment.value ++ numberLines assignments ≠ [] := by
          simp [numberLine]
        rw [numberLines, List.flatMap_cons, ← numberLines, linesUpTo_of_line hne hline,
          ih hkeys hfits (Nat.le_of_succ_le_succ hlimit) _]
        · simp [Assignment.entry]
        · simpa using hnodup

theorem skipByteOrderMark_numberLines (hkeys : ∀ assignment ∈ assignments, IsBare assignment.key) :
    skipByteOrderMark (numberLines assignments) = numberLines assignments := by
  cases assignments with
  | nil => rfl
  | cons assignment assignments =>
      have hkey := hkeys assignment List.mem_cons_self
      apply skipByteOrderMark.eq_2
      intro rest heq
      apply hkey.ne_cons (d := '\ufeff') rfl
      rw [numberLines, List.flatMap_cons, numberLine, List.append_assoc] at heq
      exact heq

theorem length_le_length_numberLines (assignments : List Assignment) :
    assignments.length ≤ (numberLines assignments).length := by
  induction assignments with
  | nil => exact Nat.zero_le _
  | cons assignment assignments ih =>
      simp only [numberLines, numberLine, List.flatMap_cons, List.length_append,
        List.length_cons] at ih ⊢
      omega

/-- A document of lines that assign numbers to different bare keys is read as its entries. -/
theorem parse_documentOf (hkeys : ∀ assignment ∈ assignments, IsBare assignment.key)
    (hfits : ∀ assignment ∈ assignments, (assignment.value : Int) < wordBound)
    (hnodup : (assignments.map Assignment.key).Nodup) :
    parse (documentOf assignments) = some (assignments.map Assignment.entry) := by
  have hlines := linesUpTo_numberLines hkeys hfits (length_le_length_numberLines assignments)
    .empty (by simpa [Draft.empty] using hnodup)
  rw [parse, toList_documentOf, skipByteOrderMark_numberLines hkeys]
  simp only [hlines, Option.bind_eq_bind, Option.bind_some]
  rfl

theorem Library.faithful_standard : standard.Faithful where
  write assignment _ hvalue := if_pos hvalue
  refuse assignment hvalue := if_neg (Nat.not_le.2 hvalue)
  read assignments hkeys hvalues hnodup := by
    refine ⟨assignments, List.Perm.refl _, parse_documentOf hkeys ?_ hnodup⟩
    intro assignment hmem
    have hvalue := hvalues assignment hmem
    simp only [numberLimit, wordBound] at hvalue ⊢
    omega

end Toml

end SlotPool
