import JobShell.Job.Spec
import Mathlib.Algebra.Group.Nat.Defs

/-!
# How job specifications are written

A specification is a numeral, with or without a mark before it, whose value fits a process id. What
decides is the value and not the length, as zeros may stand before it. The printed form of a
specification is what was read less those zeros, and it reads back as the same specification.
-/

namespace JobShell

/-! ### Numerals -/

/-- The digits are a numeral: there are some, and they are among the ten. -/
structure IsNumeral (digits : List Char) : Prop where
  ne_nil : digits ≠ []
  between : ∀ c ∈ digits, '0' ≤ c ∧ c ≤ '9'

namespace Numeral

/-- The value of a numeral: each digit counts by its place. -/
def value : List Char → Nat
  | [] => 0
  | c :: digits => (c.toNat - '0'.toNat) * 10 ^ digits.length + value digits

/-- The numeral less its superfluous zeros, those before a further digit. -/
def trim : List Char → List Char
  | '0' :: c :: digits => trim (c :: digits)
  | digits => digits

variable {c : Char} {digits : List Char}

/-- Only zeros are taken away, and none is left that a digit follows. -/
theorem exists_trim (digits : List Char) :
    ∃ n, digits = List.replicate n '0' ++ trim digits ∧
      ∀ c rest, trim digits ≠ '0' :: c :: rest := by
  fun_induction trim digits with
  | case1 c digits ih =>
    obtain ⟨n, heq, hleft⟩ := ih
    exact ⟨n + 1, congrArg ('0' :: ·) heq, hleft⟩
  | case2 digits hnot => exact ⟨0, rfl, fun c rest heq ↦ hnot c rest heq⟩

theorem value_trim (digits : List Char) : value (trim digits) = value digits := by
  fun_induction trim digits with
  | case1 c digits ih => simp [ih, value]
  | case2 digits hnot => rfl

theorem isNumeral_trim (h : IsNumeral digits) : IsNumeral (trim digits) := by
  fun_induction trim digits with
  | case1 c digits ih =>
    exact ih ⟨List.cons_ne_nil _ _, fun d hd ↦ h.between d (List.mem_cons_of_mem _ hd)⟩
  | case2 digits hnot => exact h

end Numeral

namespace JobSpec

open Numeral

variable {c : Char} {digits : List Char} {n : Nat} {s : String} {spec : JobSpec}

/-! ### Reading -/

/-- The fold that reads digits adds their value to what was read before. -/
theorem foldl_eq_value (digits : List Char) (n : Nat) :
    digits.foldl (fun n c ↦ 10 * n + digitValue c) n = n * 10 ^ digits.length + value digits := by
  induction digits generalizing n with
  | nil => simp [value]
  | cons c digits ih =>
    rw [List.foldl_cons, ih, value, List.length_cons, Nat.pow_succ', ← Nat.mul_assoc,
      Nat.mul_comm n 10, Nat.add_mul, Nat.add_assoc]
    rfl

theorem decimal_eq_value (digits : List Char) : decimal digits = value digits := by
  rw [decimal, foldl_eq_value, Nat.zero_mul, Nat.zero_add]

theorem number?_eq_some_iff_value :
    number? digits = some n ↔ IsNumeral digits ∧ value digits ≤ 2147483647 ∧ n = value digits := by
  have hdigit : ∀ c : Char, c.isDigit = true ↔ '0' ≤ c ∧ c ≤ '9' := fun _ ↦ Char.isDigit_iff_toNat
  rw [number?_eq_some_iff, decimal_eq_value]
  constructor
  · rintro ⟨hne, hdigits, hle, rfl⟩
    exact ⟨⟨hne, fun c hc ↦ (hdigit c).1 (hdigits c hc)⟩, hle, rfl⟩
  · rintro ⟨h, hle, rfl⟩
    exact ⟨h.ne_nil, fun c hc ↦ (hdigit c).2 (h.between c hc), hle, rfl⟩

/-- The text is a written form of the specification: a numeral whose value fits a process id, after
one mark if a job id is meant. -/
inductive IsWrittenAs : JobSpec → String → Prop
  | job {digits : List Char} (h : IsNumeral digits) (hle : value digits ≤ 2147483647) :
    IsWrittenAs (.job (value digits)) (String.ofList ('%' :: digits))
  | process {digits : List Char} (h : IsNumeral digits) (hle : value digits ≤ 2147483647) :
    IsWrittenAs (.process (value digits)) (String.ofList digits)

/-- Before a text is read as a numeral, one mark is taken off it. -/
theorem parse?_ofList (cs : List Char) : parse? (String.ofList cs) =
    if cs.head? = some '%' then (number? cs.tail).map .job
    else (number? cs).map fun n : Nat ↦ .process (n : Pid) := by
  unfold parse?
  rw [String.toList_ofList]
  split
  · rfl
  · next hnone =>
    rw [if_neg fun hhead ↦ ?_]
    · cases number? cs <;> rfl
    · obtain ⟨rest, rfl⟩ := List.head?_eq_some_iff.1 hhead
      exact hnone rest rfl

theorem head?_ne_of_isNumeral (h : IsNumeral digits) : digits.head? ≠ some '%' := fun hhead ↦
  absurd (h.between '%' (List.mem_of_mem_head? hhead)) (by decide)

/-- **Reading is exact.** What can be read as a specification is a written form of it, and each
written form of a specification is read as that specification. -/
theorem parse?_eq_some_iff : parse? s = some spec ↔ spec.IsWrittenAs s := by
  constructor
  · intro h
    obtain ⟨cs, rfl⟩ : ∃ cs, s = String.ofList cs := ⟨s.toList, String.ofList_toList.symm⟩
    rw [parse?_ofList] at h
    split at h
    · next hhead =>
      obtain ⟨digits, rfl⟩ := List.head?_eq_some_iff.1 hhead
      obtain ⟨n, hn, rfl⟩ := Option.map_eq_some_iff.1 h
      obtain ⟨hnumeral, hle, rfl⟩ := number?_eq_some_iff_value.1 hn
      exact .job hnumeral hle
    · obtain ⟨n, hn, rfl⟩ := Option.map_eq_some_iff.1 h
      obtain ⟨hnumeral, hle, rfl⟩ := number?_eq_some_iff_value.1 hn
      exact .process hnumeral hle
  · rintro (⟨h, hle⟩ | ⟨h, hle⟩)
    · rw [parse?_ofList, List.head?_cons, if_pos rfl, List.tail_cons,
        number?_eq_some_iff_value.2 ⟨h, hle, rfl⟩]
      rfl
    · rw [parse?_ofList, if_neg (head?_ne_of_isNumeral h),
        number?_eq_some_iff_value.2 ⟨h, hle, rfl⟩]
      rfl

example : parse? "000000000002147483647" = some (.process 2147483647) ∧
    parse? "2147483648" = none ∧ parse? "%%1" = none ∧ parse? "+1" = none := by decide +kernel

/-! ### Printing -/

theorem digitValue_lt (h : '0' ≤ c ∧ c ≤ '9') : digitValue c < 10 := by
  have hhigh : c.toNat ≤ 57 := h.2
  show c.toNat - 48 < 10
  omega

/-- Zero is the only digit of no value. -/
theorem digitValue_pos (h : '0' ≤ c ∧ c ≤ '9') (hne : c ≠ '0') : 0 < digitValue c := by
  have hlow : 48 ≤ c.toNat := h.1
  have hne' : c.toNat ≠ 48 := fun heq ↦ hne (Char.toNat_inj.1 heq)
  show 0 < c.toNat - 48
  omega

/-- A digit is printed as it is read. -/
theorem toDigits_digitValue (h : '0' ≤ c ∧ c ≤ '9') : Nat.toDigits 10 (digitValue c) = [c] := by
  have hread : Nat.digitChar (digitValue c) = c := by
    have hlow : 48 ≤ c.toNat := h.1
    refine Char.toNat_inj.1 ?_
    rw [Nat.toNat_digitChar_of_lt_ten (digitValue_lt h)]
    show 48 + (c.toNat - 48) = c.toNat
    omega
  rw [Nat.toDigits_of_lt_base (digitValue_lt h), hread]

/-- After a number that is not zero, the digits that are read next are printed as they were. -/
theorem toDigits_foldl (h : ∀ c ∈ digits, '0' ≤ c ∧ c ≤ '9') (hn : 0 < n) :
    Nat.toDigits 10 (digits.foldl (fun n c ↦ 10 * n + digitValue c) n) =
      Nat.toDigits 10 n ++ digits := by
  induction digits generalizing n with
  | nil => rw [List.foldl_nil, List.append_nil]
  | cons c digits ih =>
    obtain ⟨hc, hdigits⟩ := List.forall_mem_cons.1 h
    have hpushed : Nat.toDigits 10 (10 * n + digitValue c) = Nat.toDigits 10 n ++ [c] := by
      rw [← Nat.toDigits_append_toDigits (by decide) hn (digitValue_lt hc), toDigits_digitValue hc]
    rw [List.foldl_cons, ih hdigits (by omega), hpushed, List.append_assoc]
    rfl

/-- The value of a numeral is printed as the numeral less its superfluous zeros. -/
theorem toDigits_value (h : IsNumeral digits) : Nat.toDigits 10 (value digits) = trim digits := by
  fun_induction trim digits with
  | case1 c digits ih =>
    rw [← ih ⟨List.cons_ne_nil _ _, fun d hd ↦ h.between d (List.mem_cons_of_mem _ hd)⟩]
    simp [value]
  | case2 digits hnot =>
    obtain ⟨c, rest, rfl⟩ := List.exists_cons_of_ne_nil h.ne_nil
    obtain ⟨hc, hrest⟩ := List.forall_mem_cons.1 h.between
    have hfirst : decimal (c :: rest) =
        rest.foldl (fun n c ↦ 10 * n + digitValue c) (digitValue c) := by
      rw [decimal, List.foldl_cons, Nat.mul_zero, Nat.zero_add]
    rw [← decimal_eq_value, hfirst]
    cases rest with
    | nil => exact toDigits_digitValue hc
    | cons d rest =>
      -- A zero with a digit after it would have been taken away.
      have hpos : 0 < digitValue c := digitValue_pos hc fun hzero ↦ hnot d rest (by rw [hzero])
      rw [toDigits_foldl hrest hpos, toDigits_digitValue hc]
      rfl

/-- The text less the superfluous zeros of its numeral. -/
def plain (s : String) : String :=
  match s.toList with
  | '%' :: digits => String.ofList ('%' :: trim digits)
  | digits => String.ofList (trim digits)

theorem text_job (n : Nat) : (job n).text = String.ofList ('%' :: Nat.toDigits 10 n) := by
  have htext : (job n).text = "%" ++ n.repr := rfl
  rw [htext, Nat.repr_eq_ofList_toDigits]
  exact String.toList_inj.1 (by simp)

theorem text_process (n : Nat) : (process n).text = String.ofList (Nat.toDigits 10 n) := by
  have htext : (process n).text = n.repr := rfl
  rw [htext, Nat.repr_eq_ofList_toDigits]

theorem plain_mark (digits : List Char) :
    plain (String.ofList ('%' :: digits)) = String.ofList ('%' :: trim digits) := by
  unfold plain
  rw [String.toList_ofList]
  rfl

theorem plain_of_isNumeral (h : IsNumeral digits) :
    plain (String.ofList digits) = String.ofList (trim digits) := by
  unfold plain
  rw [String.toList_ofList]
  split
  · exact absurd rfl (head?_ne_of_isNumeral h)
  · rfl

/-- **A specification is printed as it was written, less superfluous zeros.** -/
theorem text_of_isWrittenAs (h : spec.IsWrittenAs s) : spec.text = plain s := by
  cases h with
  | job h hle => rw [text_job, toDigits_value h, plain_mark]
  | process h hle => rw [text_process, toDigits_value h, plain_of_isNumeral h]

/-- From `s` to `t` zeros at the front of the numeral were left out, and so that a digit is left and
no zero that another digit follows. A mark before the numeral stays. -/
def IsTrimmedTo (s t : String) : Prop :=
  ∃ mark n digits, s = String.ofList (mark ++ (List.replicate n '0' ++ digits)) ∧
    t = String.ofList (mark ++ digits) ∧ (mark = [] ∨ mark = ['%']) ∧ IsNumeral digits ∧
      ∀ c rest, digits ≠ '0' :: c :: rest

theorem isTrimmedTo_trim (h : IsNumeral digits) {mark : List Char}
    (hmark : mark = [] ∨ mark = ['%']) :
    IsTrimmedTo (String.ofList (mark ++ digits)) (String.ofList (mark ++ trim digits)) := by
  obtain ⟨n, hzeros, hleft⟩ := exists_trim digits
  exact ⟨mark, n, trim digits, by rw [← hzeros], rfl, hmark, isNumeral_trim h, hleft⟩

/-- The superfluous zeros are all that is left out. -/
theorem isTrimmedTo_plain (h : spec.IsWrittenAs s) : IsTrimmedTo s (plain s) := by
  cases h with
  | job h hle =>
    rw [plain_mark]
    exact isTrimmedTo_trim h (Or.inr rfl)
  | process h hle =>
    rw [plain_of_isNumeral h]
    exact isTrimmedTo_trim h (Or.inl rfl)

/-- To leave superfluous zeros out changes nothing about what is written. -/
theorem isWrittenAs_plain (h : spec.IsWrittenAs s) : spec.IsWrittenAs (plain s) := by
  cases h with
  | job h hle =>
    rw [plain_mark]
    rw [← value_trim] at hle ⊢
    exact .job (isNumeral_trim h) hle
  | process h hle =>
    rw [plain_of_isNumeral h]
    rw [← value_trim] at hle ⊢
    exact .process (isNumeral_trim h) hle

/-- **Specifications as text.** A text is read as a specification exactly if it is a numeral whose
value fits a process id, after at most one mark, and the mark alone decides between a job id and a
process id. What was read is printed as it was written less superfluous zeros, and that reads back
as the same specification. -/
theorem specs_read_and_printed_exactly (s : String) :
    (∀ spec, parse? s = some spec ↔ spec.IsWrittenAs s) ∧
      ∀ spec, parse? s = some spec → parse? spec.text = some spec ∧ spec.text = plain s ∧
        IsTrimmedTo s spec.text := by
  refine ⟨fun spec ↦ parse?_eq_some_iff, fun spec hread ↦ ?_⟩
  have hwritten := parse?_eq_some_iff.1 hread
  have htext := text_of_isWrittenAs hwritten
  refine ⟨?_, htext, ?_⟩
  · rw [htext]
    exact parse?_eq_some_iff.2 (isWrittenAs_plain hwritten)
  · rw [htext]
    exact isTrimmedTo_plain hwritten

/-- A job id with zeros before it. -/
theorem read_and_printed_with_zeros : parse? "%0070" = some (.job 70) ∧
    parse? (job 70).text = some (.job 70) ∧ (job 70).text = plain "%0070" ∧
    plain "%0070" = "%70" ∧ IsTrimmedTo "%0070" (job 70).text := by
  have hread : parse? "%0070" = some (.job 70) := by decide +kernel
  obtain ⟨-, hprinted⟩ := specs_read_and_printed_exactly "%0070"
  obtain ⟨hagain, htext, htrimmed⟩ := hprinted _ hread
  exact ⟨hread, hagain, htext, by decide +kernel, htrimmed⟩

end JobSpec

end JobShell
