import Mathlib.Data.List.Basic
import Mathlib.Data.Int.Notation

-- Decimal numbers and separators in texts, which are lists of characters here.

namespace Text

-- A text in front of the first separator is found again.
theorem append_cons_inj {l l' r r' : List Char} {sep : Char} (hl : sep ∉ l) (hl' : sep ∉ l')
    (h : l ++ sep :: r = l' ++ sep :: r') : l = l' ∧ r = r' := by
  induction l generalizing l' with
  | nil =>
      cases l' with
      | nil => simpa using h
      | cons c rest =>
          simp only [List.nil_append, List.cons_append, List.cons.injEq] at h
          exact absurd (h.1 ▸ List.mem_cons_self) hl'
  | cons c rest ih =>
      cases l' with
      | nil =>
          simp only [List.nil_append, List.cons_append, List.cons.injEq] at h
          exact absurd (h.1 ▸ List.mem_cons_self) hl
      | cons c' rest' =>
          simp only [List.cons_append, List.cons.injEq] at h
          obtain ⟨hrest, hr⟩ := ih (fun hm => hl (List.mem_cons_of_mem c hm))
            (fun hm => hl' (List.mem_cons_of_mem c' hm)) h.2
          exact ⟨by rw [h.1, hrest], hr⟩

-- The pieces of a text between the separators. Like the lines of a file, the last one
-- may end without a separator, and is not there at all if it is empty.
def tokens (sep : Char) : List Char → List (List Char)
  | [] => []
  | c :: rest =>
      if c = sep then [] :: tokens sep rest
      else
        match tokens sep rest with
        | [] => [[c]]
        | token :: more => (c :: token) :: more

theorem tokens_cons_of_ne {sep c : Char} (hc : c ≠ sep) {rest token : List Char}
    {more : List (List Char)} (h : tokens sep rest = token :: more) :
    tokens sep (c :: rest) = (c :: token) :: more := by
  simp [tokens, hc, h]

theorem tokens_append {sep : Char} {l : List Char} (hl : sep ∉ l) (r : List Char) :
    tokens sep (l ++ sep :: r) = l :: tokens sep r := by
  induction l with
  | nil => simp [tokens]
  | cons c rest ih =>
      have hc : c ≠ sep := fun he => hl (he ▸ List.mem_cons_self)
      exact tokens_cons_of_ne hc (ih fun hm => hl (List.mem_cons_of_mem c hm))

theorem tokens_single {sep : Char} {l : List Char} (hl : sep ∉ l) (hne : l ≠ []) :
    tokens sep l = [l] := by
  induction l with
  | nil => exact absurd rfl hne
  | cons c rest ih =>
      have hc : c ≠ sep := fun he => hl (he ▸ List.mem_cons_self)
      cases rest with
      | nil => simp [tokens, hc]
      | cons c' rest' =>
          exact tokens_cons_of_ne hc (ih (fun hm => hl (List.mem_cons_of_mem c hm)) (by simp))

-- Pieces that are not empty, with a separator between each two.
theorem tokens_intercalate {sep : Char} {pieces : List (List Char)}
    (h : ∀ piece ∈ pieces, sep ∉ piece ∧ piece ≠ []) :
    tokens sep (List.intercalate [sep] pieces) = pieces := by
  induction pieces with
  | nil => rfl
  | cons piece rest ih =>
      obtain ⟨hsep, hne⟩ := h piece List.mem_cons_self
      have ih := ih fun other hm => h other (List.mem_cons_of_mem piece hm)
      cases rest with
      | nil => simpa using tokens_single hsep hne
      | cons next more =>
          rw [List.intercalate_cons_cons, List.append_assoc]
          exact (tokens_append hsep _).trans (congrArg (piece :: ·) ih)

theorem mem_intercalate {sep c : Char} {pieces : List (List Char)}
    (h : c ∈ List.intercalate [sep] pieces) : c = sep ∨ ∃ piece ∈ pieces, c ∈ piece := by
  induction pieces with
  | nil => simp [List.intercalate] at h
  | cons piece rest ih =>
      cases rest with
      | nil => exact Or.inr ⟨piece, List.mem_cons_self, by simpa using h⟩
      | cons next more =>
          rw [List.intercalate_cons_cons, List.append_assoc] at h
          rcases List.mem_append.mp h with h | h
          · exact Or.inr ⟨piece, List.mem_cons_self, h⟩
          rcases List.mem_cons.mp h with h | h
          · exact Or.inl h
          · refine (ih h).imp_right ?_
            rintro ⟨other, hother, hc⟩
            exact ⟨other, List.mem_cons_of_mem piece hother, hc⟩

-- The parts before and behind the first separator, if there is one.
def cut (sep : Char) : List Char → Option (List Char × List Char)
  | [] => none
  | c :: rest =>
      if c = sep then some ([], rest)
      else (cut sep rest).map fun parts => (c :: parts.1, parts.2)

theorem cut_append {sep : Char} {l : List Char} (hl : sep ∉ l) (r : List Char) :
    cut sep (l ++ sep :: r) = some (l, r) := by
  induction l with
  | nil => simp [cut]
  | cons c rest ih =>
      have hc : c ≠ sep := fun he => hl (he ▸ List.mem_cons_self)
      simp [cut, hc, ih fun hm => hl (List.mem_cons_of_mem c hm)]

theorem cut_eq_none {sep : Char} {l : List Char} (hl : sep ∉ l) : cut sep l = none := by
  induction l with
  | nil => rfl
  | cons c rest ih =>
      have hc : c ≠ sep := fun he => hl (he ▸ List.mem_cons_self)
      simp [cut, hc, ih fun hm => hl (List.mem_cons_of_mem c hm)]

def digits (n : Nat) : List Char := Nat.toDigits 10 n

theorem isDigit_of_mem_digits {n : Nat} {c : Char} (h : c ∈ digits n) : c.isDigit :=
  Nat.isDigit_of_mem_toDigits (by decide) (by decide) h

theorem digits_ne_nil (n : Nat) : digits n ≠ [] := Nat.toDigits_ne_nil

theorem ofDigitChars_digits (n : Nat) : Nat.ofDigitChars 10 (digits n) 0 = n :=
  Nat.ofDigitChars_toDigits (by decide) (by decide)

theorem digits_inj {a b : Nat} (h : digits a = digits b) : a = b := by
  rw [← ofDigitChars_digits a, h, ofDigitChars_digits b]

theorem toList_toString (i : Int) :
    (toString i).toList = if 0 ≤ i then digits i.toNat else '-' :: digits (-i).toNat := by
  change i.repr.toList = _
  rw [Int.repr_eq_if]
  split_ifs
  · exact Nat.toList_repr
  · simp [digits]

theorem mem_toString {i : Int} {c : Char} (h : c ∈ (toString i).toList) : c.isDigit ∨ c = '-' := by
  rw [toList_toString] at h
  split_ifs at h
  · exact Or.inl (isDigit_of_mem_digits h)
  · rcases List.mem_cons.mp h with rfl | h
    · exact Or.inr rfl
    · exact Or.inl (isDigit_of_mem_digits h)

theorem colon_notMem_toString (i : Int) : ':' ∉ (toString i).toList := by
  intro h
  rcases mem_toString h with h | h
  all_goals exact absurd h (by decide)

theorem toString_inj {i j : Int} (h : (toString i).toList = (toString j).toList) : i = j := by
  have hdash (n : Nat) : '-' ∉ digits n := fun hm => absurd (isDigit_of_mem_digits hm) (by decide)
  rw [toList_toString, toList_toString] at h
  split_ifs at h with hi hj hj
  · have := digits_inj h
    omega
  · exact absurd (h ▸ List.mem_cons_self) (hdash _)
  · exact absurd (h ▸ List.mem_cons_self) (hdash _)
  · have := digits_inj (List.cons.inj h).2
    omega

end Text
