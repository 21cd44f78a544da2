import Lunar.Library.Text
import Lunar.Library.Word
import Mathlib.Data.Finset.Sort
import Mathlib.Data.List.TakeWhile

namespace Lunar

open Word64

-- What isspace() accepts: blanks, and the characters from \t to \r.
def isSpace (c : Char) : Bool := c.toNat = 32 ∨ 9 ≤ c.toNat ∧ c.toNat ≤ 13

-- Whether there is a minus sign, and what comes behind the sign.
def takeSign : List Char → Bool × List Char
  | '-' :: rest => (true, rest)
  | '+' :: rest => (false, rest)
  | text => (false, text)

-- std::stoul. It throws, which is `none`, if there are no digits or the number does not
-- fit, and does not look at what comes behind the digits.
def stoul (text : List Char) : Option Nat :=
  let (negative, text) := takeSign (text.dropWhile isSpace)
  let ds := text.takeWhile Char.isDigit
  if ds = [] then none
  else
    let n := Nat.ofDigitChars 10 ds 0
    if n ≥ 2 ^ 64 then none else some (if negative then sub 0 n else n)

inductive ParsedCpulist where
  -- the loop over a range has not come to its end
  | running
  | nullopt
  | cpus (ids : List Nat)
deriving DecidableEq, Repr

-- The loop over a range. `fuel` limits its turns, as it does not end for every hi.
def pushRange : Nat → Nat → Nat → List Nat → ParsedCpulist
  | 0, _, _, _ => .running
  | fuel + 1, c, hi, cpus =>
      if c ≤ hi then pushRange fuel (wrap (c + 1)) hi (cpus ++ [c % 2 ^ 32]) else .cpus cpus

def parseToken (fuel : Nat) (tok : List Char) (cpus : List Nat) : ParsedCpulist :=
  if tok = [] then .cpus cpus
  else
    match Text.cut '-' tok with
    | none =>
        match stoul tok with
        | none => .nullopt
        | some cpu => .cpus (cpus ++ [cpu % 2 ^ 32])
    | some (front, back) =>
        match stoul front, stoul back with
        | some lo, some hi => if hi < lo then .nullopt else pushRange fuel lo hi cpus
        | _, _ => .nullopt

def parseTokens (fuel : Nat) : List (List Char) → List Nat → ParsedCpulist
  | [], cpus => .cpus cpus
  | tok :: rest, cpus =>
      match parseToken fuel tok cpus with
      | .cpus cpus => parseTokens fuel rest cpus
      | other => other

def parseCpulist (fuel : Nat) (list : List Char) : ParsedCpulist :=
  parseTokens fuel (Text.tokens ',' list) []

-- The format of the kernel. A range is its first and its last id.

def cpuRange (range : Nat × Nat) : List Nat := List.range' range.1 (range.2 + 1 - range.1)

def printRange (range : Nat × Nat) : List Char :=
  if range.1 = range.2 then Text.digits range.1
  else Text.digits range.1 ++ '-' :: Text.digits range.2

def printCpulist (ranges : List (Nat × Nat)) : List Char :=
  List.intercalate [','] (ranges.map printRange)

-- The ranges a list of ids is printed as.
def runs : List Nat → List (Nat × Nat)
  | [] => []
  | cpu :: rest =>
      match runs rest with
      | [] => [(cpu, cpu)]
      | (lo, hi) :: more => if cpu + 1 = lo then (cpu, hi) :: more else (cpu, cpu) :: (lo, hi) :: more

theorem ne_of_isDigit {c sep : Char} (hc : c.isDigit) (hsep : sep.isDigit = false) : c ≠ sep := by
  rintro rfl
  rw [hsep] at hc
  cases hc

theorem notMem_digits {sep : Char} (hsep : sep.isDigit = false) (n : Nat) : sep ∉ Text.digits n :=
  fun hm => ne_of_isDigit (Text.isDigit_of_mem_digits hm) hsep rfl

theorem isSpace_of_isDigit {c : Char} (hc : c.isDigit) : isSpace c = false := by
  have hrange : 48 ≤ c.toNat ∧ c.toNat ≤ 57 := Char.isDigit_iff_toNat.mp hc
  simp only [isSpace, decide_eq_false_iff_not]
  omega

theorem takeSign_of_isDigit {c : Char} (hc : c.isDigit) (rest : List Char) :
    takeSign (c :: rest) = (false, c :: rest) := by
  unfold takeSign
  split
  · rename_i h
    exact absurd (List.cons.inj h).1 (ne_of_isDigit hc (by decide))
  · rename_i h
    exact absurd (List.cons.inj h).1 (ne_of_isDigit hc (by decide))
  · rfl

-- stoul reads a number that is only digits as it is.
theorem stoul_of_digits {text : List Char} (hne : text ≠ []) (hall : ∀ c ∈ text, c.isDigit)
    (hlt : Nat.ofDigitChars 10 text 0 < 2 ^ 64) : stoul text = some (Nat.ofDigitChars 10 text 0) := by
  have htake : text.takeWhile Char.isDigit = text := List.takeWhile_eq_self_iff.mpr hall
  have hsign : takeSign (text.dropWhile isSpace) = (false, text) := by
    obtain ⟨c, rest, rfl⟩ := List.exists_cons_of_ne_nil hne
    have hc : c.isDigit := hall c List.mem_cons_self
    rw [List.dropWhile_cons_of_neg (by simp [isSpace_of_isDigit hc])]
    exact takeSign_of_isDigit hc rest
  unfold stoul
  rw [hsign]
  dsimp only
  rw [htake, if_neg hne, if_neg (by omega)]
  rfl

theorem stoul_digits {n : Nat} (hn : n < 2 ^ 64) : stoul (Text.digits n) = some n := by
  have hall : ∀ c ∈ Text.digits n, c.isDigit := fun c hc => Text.isDigit_of_mem_digits hc
  have hvalue := Text.ofDigitChars_digits n
  rw [stoul_of_digits (Text.digits_ne_nil n) hall (by omega), hvalue]

theorem pushRange_eq {fuel lo hi : Nat} (hlo : lo ≤ hi + 1) (hhi : hi < 2 ^ 32)
    (hfuel : hi + 1 - lo < fuel) (cpus : List Nat) :
    pushRange fuel lo hi cpus = .cpus (cpus ++ List.range' lo (hi + 1 - lo)) := by
  induction fuel generalizing lo cpus with
  | zero => omega
  | succ fuel ih =>
      unfold pushRange
      by_cases hle : lo ≤ hi
      · have hnext : wrap (lo + 1) = lo + 1 := wrap_eq (by omega)
        have hcount : hi + 1 - lo = (hi + 1 - (lo + 1)) + 1 := by omega
        rw [if_pos hle, hnext, Nat.mod_eq_of_lt (show lo < 2 ^ 32 by omega),
          ih (by omega) (by omega), hcount, List.range'_succ, List.append_assoc]
        rfl
      · rw [if_neg hle, show hi + 1 - lo = 0 by omega]
        simp

theorem printRange_ne_nil (range : Nat × Nat) : printRange range ≠ [] := by
  unfold printRange
  split_ifs
  · exact Text.digits_ne_nil _
  · simp

theorem comma_notMem_printRange (range : Nat × Nat) : ',' ∉ printRange range := by
  have hdigits := notMem_digits (show (',').isDigit = false by decide)
  unfold printRange
  split_ifs
  · exact hdigits _
  · simp [hdigits]

theorem parseToken_printRange {fuel : Nat} {range : Nat × Nat} (hle : range.1 ≤ range.2)
    (hlt : range.2 < 2 ^ 32) (hfuel : 2 ^ 32 < fuel) (cpus : List Nat) :
    parseToken fuel (printRange range) cpus = .cpus (cpus ++ cpuRange range) := by
  have hdash := notMem_digits (show ('-').isDigit = false by decide) range.1
  unfold parseToken
  rw [if_neg (printRange_ne_nil range)]
  unfold printRange cpuRange
  by_cases hone : range.1 = range.2
  · rw [if_pos hone, Text.cut_eq_none hdash]
    dsimp only
    rw [stoul_digits (by omega)]
    dsimp only
    rw [Nat.mod_eq_of_lt (by omega), ← hone, show range.1 + 1 - range.1 = 1 by omega]
    rfl
  · rw [if_neg hone, Text.cut_append hdash]
    dsimp only
    rw [stoul_digits (by omega), stoul_digits (by omega)]
    dsimp only
    rw [if_neg (by omega), pushRange_eq (by omega) hlt (by omega)]

theorem parseTokens_printRange {fuel : Nat} (hfuel : 2 ^ 32 < fuel) {ranges : List (Nat × Nat)}
    (h : ∀ range ∈ ranges, range.1 ≤ range.2 ∧ range.2 < 2 ^ 32) (cpus : List Nat) :
    parseTokens fuel (ranges.map printRange) cpus = .cpus (cpus ++ ranges.flatMap cpuRange) := by
  induction ranges generalizing cpus with
  | nil => simp [parseTokens]
  | cons range rest ih =>
      obtain ⟨hle, hlt⟩ := h range List.mem_cons_self
      have ih := ih (fun r hr => h r (List.mem_cons_of_mem range hr)) (cpus ++ cpuRange range)
      rw [List.map_cons, parseTokens, parseToken_printRange hle hlt hfuel]
      dsimp only
      rw [ih, List.flatMap_cons, List.append_assoc]

theorem parseCpulist_printCpulist {fuel : Nat} (hfuel : 2 ^ 32 < fuel) {ranges : List (Nat × Nat)}
    (h : ∀ range ∈ ranges, range.1 ≤ range.2 ∧ range.2 < 2 ^ 32) :
    parseCpulist fuel (printCpulist ranges) = .cpus (ranges.flatMap cpuRange) := by
  have htokens : Text.tokens ',' (printCpulist ranges) = ranges.map printRange := by
    refine Text.tokens_intercalate fun piece hpiece => ?_
    obtain ⟨range, -, rfl⟩ := List.mem_map.mp hpiece
    exact ⟨comma_notMem_printRange range, printRange_ne_nil range⟩
  rw [parseCpulist, htokens, parseTokens_printRange hfuel h]
  rfl

-- The ranges of a list hold its ids in their order.
theorem runs_spec (cpus : List Nat) :
    (∀ range ∈ runs cpus, range.1 ≤ range.2 ∧ range.1 ∈ cpus ∧ range.2 ∈ cpus) ∧
      (runs cpus).flatMap cpuRange = cpus := by
  induction cpus with
  | nil => simp [runs]
  | cons cpu rest ih =>
      obtain ⟨hbounds, hflat⟩ := ih
      have hold (range) (hr : range ∈ runs rest) :
          range.1 ≤ range.2 ∧ range.1 ∈ cpu :: rest ∧ range.2 ∈ cpu :: rest := by
        obtain ⟨hle, hlo, hhi⟩ := hbounds range hr
        exact ⟨hle, List.mem_cons_of_mem cpu hlo, List.mem_cons_of_mem cpu hhi⟩
      have hone : cpuRange (cpu, cpu) = [cpu] := by
        simp [cpuRange, show cpu + 1 - cpu = 1 by omega]
      cases hruns : runs rest with
      | nil =>
          rw [hruns] at hflat
          obtain rfl : [] = rest := hflat
          simp [runs, hone]
      | cons first more =>
          obtain ⟨lo, hi⟩ := first
          rw [hruns] at hold hflat
          obtain ⟨hle, -, hhi⟩ := hold (lo, hi) List.mem_cons_self
          have hmore (range) (hr : range ∈ more) := hold range (List.mem_cons_of_mem _ hr)
          simp only [runs, hruns]
          split_ifs with hnext
          · have hextend : cpuRange (cpu, hi) = cpu :: cpuRange (lo, hi) := by
              simp only [cpuRange] at hle ⊢
              rw [show hi + 1 - cpu = (hi + 1 - lo) + 1 by omega, List.range'_succ, hnext]
            constructor
            · intro range hr
              rcases List.mem_cons.mp hr with rfl | hr
              · exact ⟨by simp only at hle ⊢; omega, List.mem_cons_self, hhi⟩
              · exact hmore range hr
            · rw [List.flatMap_cons, hextend, List.cons_append, ← List.flatMap_cons, hflat]
          · constructor
            · intro range hr
              rcases List.mem_cons.mp hr with rfl | hr
              · exact ⟨Nat.le_refl cpu, List.mem_cons_self, List.mem_cons_self⟩
              · exact hold range hr
            · rw [List.flatMap_cons, hflat, hone]
              rfl

-- A list of ranges in the format of the kernel is read as the ids of the ranges, in their
-- order, and the list of a set as the set.
theorem cpulist_round_trip {fuel : Nat} (hfuel : 2 ^ 32 < fuel) :
    (∀ ranges : List (Nat × Nat), (∀ range ∈ ranges, range.1 ≤ range.2 ∧ range.2 < 2 ^ 32) →
      parseCpulist fuel (printCpulist ranges) = .cpus (ranges.flatMap cpuRange)) ∧
    ∀ cpus : Finset Nat, (∀ cpu ∈ cpus, cpu < 2 ^ 32) →
      parseCpulist fuel (printCpulist (runs (cpus.sort (· ≤ ·)))) = .cpus (cpus.sort (· ≤ ·)) := by
  refine ⟨fun ranges h => parseCpulist_printCpulist hfuel h, fun cpus hcpus => ?_⟩
  obtain ⟨hbounds, hflat⟩ := runs_spec (cpus.sort (· ≤ ·))
  rw [parseCpulist_printCpulist hfuel, hflat]
  intro range hr
  obtain ⟨hle, -, hhi⟩ := hbounds range hr
  exact ⟨hle, hcpus _ (Finset.mem_sort _ |>.mp hhi)⟩

theorem cpulist_round_trip_ranges :
    printCpulist [(0, 3), (8, 8), (10, 11)] = "0-3,8,10-11".toList ∧
      parseCpulist (2 ^ 32 + 1) "0-3,8,10-11".toList = .cpus [0, 1, 2, 3, 8, 10, 11] := by
  have hprint : printCpulist [(0, 3), (8, 8), (10, 11)] = "0-3,8,10-11".toList := by decide +kernel
  have h := (cpulist_round_trip (show 2 ^ 32 < 2 ^ 32 + 1 by decide)).1 [(0, 3), (8, 8), (10, 11)]
    (by decide)
  rw [hprint] at h
  exact ⟨hprint, h⟩

end Lunar
