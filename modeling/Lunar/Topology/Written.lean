import Lunar.Topology.Cpulist

namespace Lunar

open Word64

-- What a cpulist says, with nothing read into it: decimal numbers and ranges of them.

def writtenNumber (text : List Char) : Option Nat :=
  let n := Nat.ofDigitChars 10 text 0
  if text ≠ [] ∧ text.all Char.isDigit ∧ n < 2 ^ 32 then some n else none

def writtenToken (tok : List Char) : Option (List Nat) :=
  match Text.cut '-' tok with
  | none => (writtenNumber tok).map ([·])
  | some (front, back) =>
      match writtenNumber front, writtenNumber back with
      | some lo, some hi => if lo ≤ hi then some (cpuRange (lo, hi)) else none
      | _, _ => none

def writtenTokens : List (List Char) → Option (List Nat)
  | [] => some []
  | tok :: rest =>
      if tok = [] then writtenTokens rest
      else
        match writtenToken tok, writtenTokens rest with
        | some ids, some more => some (ids ++ more)
        | _, _ => none

-- parse_cpulist comes to an end, with the ids as they are written, or with nothing if
-- something else is written.
def ReadAsWritten (list : List Char) : Prop :=
  ∃ enough, ∀ fuel, enough ≤ fuel → parseCpulist fuel list =
    match writtenTokens (Text.tokens ',' list) with
    | some ids => .cpus ids
    | none => .nullopt

-- A token that stoul finds no number in, or a range that goes down.
def Rejected (tok : List Char) : Prop :=
  match Text.cut '-' tok with
  | none => tok ≠ [] ∧ stoul tok = none
  | some (front, back) =>
      match stoul front, stoul back with
      | some lo, some hi => hi < lo
      | _, _ => True

-- A range up to the largest word there is.
def Endless (tok : List Char) : Prop :=
  match Text.cut '-' tok with
  | none => False
  | some (front, back) => stoul front ≠ none ∧ stoul back = some (2 ^ 64 - 1)

section Tokens

theorem stoul_lt {text : List Char} {n : Nat} (h : stoul text = some n) : n < 2 ^ 64 := by
  unfold stoul at h
  dsimp only at h
  split_ifs at h with hnone hfits hsign
  · cases h
    exact Nat.mod_lt _ (by decide)
  · cases h
    omega

theorem writtenNumber_eq_some {text : List Char} {n : Nat} (h : writtenNumber text = some n) :
    stoul text = some n ∧ n < 2 ^ 32 ∧ text ≠ [] := by
  unfold writtenNumber at h
  dsimp only at h
  split_ifs at h with hdigits
  obtain ⟨hne, hall, hlt⟩ := hdigits
  cases h
  exact ⟨stoul_of_digits hne (List.all_eq_true.mp hall) (by omega), hlt, hne⟩

end Tokens

section Range

variable {hi : Nat}

-- Below the largest word the loop over a range ends, whatever is left of its ids.
theorem pushRange_ends {fuel c : Nat} (hhi : hi + 1 < 2 ^ 64) (hc : c ≤ hi + 1) (hfuel : hi + 1 - c < fuel)
    (cpus : List Nat) : ∃ ids, pushRange fuel c hi cpus = .cpus ids := by
  induction fuel generalizing c cpus with
  | zero => omega
  | succ fuel ih =>
      unfold pushRange
      split_ifs with hle
      · rw [wrap_eq (by omega)]
        exact ih (by omega) (by omega) _
      · exact ⟨cpus, rfl⟩

theorem pushRange_endless (fuel : Nat) {c : Nat} (hc : c < 2 ^ 64) (cpus : List Nat) :
    pushRange fuel c (2 ^ 64 - 1) cpus = .running := by
  induction fuel generalizing c cpus with
  | zero => rfl
  | succ fuel ih =>
      unfold pushRange
      rw [if_pos (by omega)]
      exact ih (Nat.mod_lt _ (by decide)) _

end Range

section Token

variable {fuel : Nat} {tok : List Char}

theorem ne_nil_of_cut {parts : List Char × List Char} (h : Text.cut '-' tok = some parts) : tok ≠ [] := by
  rintro rfl
  cases h

-- What becomes of a token: it is read as written, it is rejected, it never ends, or it is
-- read as something else.

theorem parseToken_written (hfuel : 2 ^ 32 < fuel) {ids : List Nat} (h : writtenToken tok = some ids)
    (cpus : List Nat) : parseToken fuel tok cpus = .cpus (cpus ++ ids) := by
  unfold writtenToken at h
  unfold parseToken
  cases hcut : Text.cut '-' tok with
  | none =>
      rw [hcut] at h
      obtain ⟨n, hn, rfl⟩ := Option.map_eq_some_iff.mp h
      obtain ⟨hstoul, hlt, hne⟩ := writtenNumber_eq_some hn
      rw [if_neg hne]
      dsimp only
      rw [hstoul]
      dsimp only
      rw [Nat.mod_eq_of_lt hlt]
  | some parts =>
      obtain ⟨front, back⟩ := parts
      rw [hcut] at h
      dsimp only at h
      split at h
      · rename_i lo hi hlo hhi
        split_ifs at h with hle
        cases h
        obtain ⟨hfront, -, -⟩ := writtenNumber_eq_some hlo
        obtain ⟨hback, hlt, -⟩ := writtenNumber_eq_some hhi
        rw [if_neg (ne_nil_of_cut hcut)]
        dsimp only
        rw [hfront, hback]
        dsimp only
        rw [if_neg (by omega), pushRange_eq (by omega) hlt (by omega)]
        rfl
      · cases h

theorem parseToken_rejected (h : Rejected tok) (fuel : Nat) (cpus : List Nat) :
    parseToken fuel tok cpus = .nullopt := by
  unfold Rejected at h
  unfold parseToken
  cases hcut : Text.cut '-' tok with
  | none =>
      rw [hcut] at h
      obtain ⟨hne, hstoul⟩ := h
      rw [if_neg hne]
      dsimp only
      rw [hstoul]
  | some parts =>
      obtain ⟨front, back⟩ := parts
      rw [hcut] at h
      rw [if_neg (ne_nil_of_cut hcut)]
      dsimp only at h ⊢
      cases hlo : stoul front with
      | none => rfl
      | some lo =>
          cases hhi : stoul back with
          | none => rfl
          | some hi =>
              rw [hlo, hhi] at h
              dsimp only at h ⊢
              rw [if_pos h]

theorem parseToken_endless (h : Endless tok) (fuel : Nat) (cpus : List Nat) :
    parseToken fuel tok cpus = .running := by
  unfold Endless at h
  unfold parseToken
  cases hcut : Text.cut '-' tok with
  | none =>
      rw [hcut] at h
      cases h
  | some parts =>
      obtain ⟨front, back⟩ := parts
      rw [hcut] at h
      obtain ⟨hfront, hback⟩ := h
      obtain ⟨lo, hlo⟩ := Option.ne_none_iff_exists'.mp hfront
      have hlt := stoul_lt hlo
      rw [if_neg (ne_nil_of_cut hcut)]
      dsimp only
      rw [hlo, hback]
      dsimp only
      rw [if_neg (by omega)]
      exact pushRange_endless fuel hlt cpus

theorem parseToken_ends (hfuel : 2 ^ 64 < fuel) (hrejected : ¬ Rejected tok) (hendless : ¬ Endless tok)
    (cpus : List Nat) : ∃ ids, parseToken fuel tok cpus = .cpus ids := by
  unfold Rejected at hrejected
  unfold Endless at hendless
  unfold parseToken
  split_ifs with hempty
  · exact ⟨cpus, rfl⟩
  cases hcut : Text.cut '-' tok with
  | none =>
      rw [hcut] at hrejected
      obtain ⟨n, hn⟩ := Option.ne_none_iff_exists'.mp fun hnone => hrejected ⟨hempty, hnone⟩
      dsimp only
      rw [hn]
      exact ⟨_, rfl⟩
  | some parts =>
      obtain ⟨front, back⟩ := parts
      rw [hcut] at hrejected hendless
      dsimp only at hrejected hendless ⊢
      cases hlo : stoul front with
      | none => simp [hlo] at hrejected
      | some lo =>
          cases hhi : stoul back with
          | none => simp [hlo, hhi] at hrejected
          | some hi =>
              rw [hlo, hhi] at hrejected hendless
              have hlt := stoul_lt hhi
              have hmost : hi ≠ 2 ^ 64 - 1 := by
                rintro rfl
                exact hendless ⟨by simp, rfl⟩
              dsimp only at hrejected ⊢
              rw [if_neg hrejected]
              exact pushRange_ends (by omega) (by omega) (by omega) cpus

theorem writtenToken_of_rejected (h : Rejected tok) : writtenToken tok = none := by
  cases hwritten : writtenToken tok with
  | none => rfl
  | some ids =>
      have heq := (parseToken_rejected h (2 ^ 32 + 1) []).symm.trans
        (parseToken_written (by decide) hwritten [])
      cases heq

theorem ne_nil_of_rejected (h : Rejected tok) : tok ≠ [] := by
  rintro rfl
  exact h.1 rfl

end Token

section List

variable {fuel : Nat} {toks : List (List Char)}

theorem writtenTokens_isSome_iff :
    (writtenTokens toks).isSome ↔ ∀ tok ∈ toks, tok ≠ [] → (writtenToken tok).isSome := by
  induction toks with
  | nil => simp [writtenTokens]
  | cons tok rest ih =>
      rw [List.forall_mem_cons, ← ih, writtenTokens]
      by_cases hempty : tok = []
      · simp [hempty]
      · rw [if_neg hempty]
        cases writtenToken tok with
        | none => simp [hempty]
        | some ids =>
            cases writtenTokens rest with
            | none => simp
            | some more => simp

theorem parseTokens_written (hfuel : 2 ^ 32 < fuel) {ids : List Nat} (h : writtenTokens toks = some ids)
    (cpus : List Nat) : parseTokens fuel toks cpus = .cpus (cpus ++ ids) := by
  induction toks generalizing ids cpus with
  | nil =>
      cases h
      simp [parseTokens]
  | cons tok rest ih =>
      unfold writtenTokens at h
      unfold parseTokens
      split_ifs at h with hempty
      · rw [hempty]
        exact ih h cpus
      · split at h
        · rename_i first more hfirst hmore
          cases h
          rw [parseToken_written hfuel hfirst]
          dsimp only
          rw [ih hmore, List.append_assoc]
        · cases h

-- The first token that is rejected or never ends decides.
theorem parseTokens_eq_nullopt_iff (hfuel : 2 ^ 64 < fuel) (cpus : List Nat) :
    parseTokens fuel toks cpus = .nullopt ↔
      ∃ before tok after, toks = before ++ tok :: after ∧ Rejected tok ∧ ∀ t ∈ before, ¬ Endless t := by
  induction toks generalizing cpus with
  | nil => simp [parseTokens]
  | cons tok rest ih =>
      unfold parseTokens
      by_cases hrejected : Rejected tok
      · rw [parseToken_rejected hrejected]
        exact ⟨fun _ => ⟨[], tok, rest, rfl, hrejected, by simp⟩, fun _ => rfl⟩
      by_cases hendless : Endless tok
      · rw [parseToken_endless hendless]
        refine ⟨fun h => absurd h (by simp), ?_⟩
        rintro ⟨before, tok', after, htoks, hrejected', hbefore⟩
        cases before with
        | nil =>
            cases htoks
            exact absurd hrejected' hrejected
        | cons first before =>
            cases htoks
            exact absurd hendless (hbefore _ List.mem_cons_self)
      · obtain ⟨ids, hids⟩ := parseToken_ends hfuel hrejected hendless cpus
        rw [hids]
        dsimp only
        rw [ih]
        constructor
        · rintro ⟨before, tok', after, rfl, hrejected', hbefore⟩
          exact ⟨tok :: before, tok', after, rfl, hrejected',
            List.forall_mem_cons.mpr ⟨hendless, hbefore⟩⟩
        · rintro ⟨before, tok', after, htoks, hrejected', hbefore⟩
          cases before with
          | nil =>
              cases htoks
              exact absurd hrejected' hrejected
          | cons first before =>
              cases htoks
              exact ⟨before, tok', after, rfl, hrejected', (List.forall_mem_cons.mp hbefore).2⟩

end List

-- A cpulist is read as it is written, or refused, unless something else is written in it and
-- no token is refused before one that never ends.
theorem read_as_written_iff (list : List Char) : ReadAsWritten list ↔
    (∀ tok ∈ Text.tokens ',' list, tok ≠ [] → (writtenToken tok).isSome) ∨
    ∃ before tok after, Text.tokens ',' list = before ++ tok :: after ∧ Rejected tok ∧
      ∀ t ∈ before, ¬ Endless t := by
  rw [← writtenTokens_isSome_iff]
  constructor
  · rintro ⟨enough, h⟩
    have hread := h (enough + (2 ^ 64 + 1)) (Nat.le_add_right ..)
    cases hwritten : writtenTokens (Text.tokens ',' list) with
    | some ids => exact Or.inl rfl
    | none =>
        rw [hwritten] at hread
        exact Or.inr ((parseTokens_eq_nullopt_iff (by omega) []).mp hread)
  · rintro (h | h)
    · obtain ⟨ids, hids⟩ := Option.isSome_iff_exists.mp h
      refine ⟨2 ^ 32 + 1, fun fuel hfuel => ?_⟩
      rw [hids]
      exact parseTokens_written (by omega) hids []
    · have hnone : writtenTokens (Text.tokens ',' list) = none := by
        obtain ⟨before, tok, after, htokens, hrejected, -⟩ := h
        rw [← Option.not_isSome_iff_eq_none, writtenTokens_isSome_iff, htokens]
        intro hall
        have hsome := hall tok (by simp) (ne_nil_of_rejected hrejected)
        simp [writtenToken_of_rejected hrejected] at hsome
      refine ⟨2 ^ 64 + 1, fun fuel hfuel => ?_⟩
      rw [hnone]
      exact (parseTokens_eq_nullopt_iff (by omega) []).mpr h

-- A number of 33 bits is read as 0, what comes behind the digits is left out, and the loop up
-- to the largest word wraps around.
theorem read_not_as_written :
    ¬ReadAsWritten "4294967296".toList ∧
    (∀ fuel, parseCpulist fuel "4294967296".toList = .cpus [0]) ∧
    (∀ fuel, parseCpulist fuel "3abc".toList = .cpus [3]) ∧
    ∀ fuel, parseCpulist fuel "0-18446744073709551615".toList = .running := by
  have hwrapped (fuel : Nat) : parseCpulist fuel "4294967296".toList = .cpus [0] := by
    rfl
  refine ⟨?_, hwrapped, fun fuel => rfl, fun fuel => ?_⟩
  · rintro ⟨enough, h⟩
    have hnone : writtenTokens (Text.tokens ',' "4294967296".toList) = none := by decide +kernel
    have hread := h enough (Nat.le_refl _)
    rw [hwrapped, hnone] at hread
    cases hread
  · have htokens : Text.tokens ',' "0-18446744073709551615".toList =
      ["0-18446744073709551615".toList] := by decide
    have hcut : Text.cut '-' "0-18446744073709551615".toList =
      some ("0".toList, "18446744073709551615".toList) := by decide
    have hendless : Endless "0-18446744073709551615".toList := by
      unfold Endless
      rw [hcut]
      exact ⟨by decide +kernel, by decide +kernel⟩
    rw [parseCpulist, htokens, parseTokens, parseToken_endless hendless]

end Lunar
