import Takeit.Logic.Digits
import Takeit.Movies.TopViewController

/-!
# Sorting by score (`TopViewController.swift`)

`sorthigh` and `sortlow` compare the scores as texts. `sortsByScore_iff` says of
which lists of numerals that is the order of the numbers.
-/

namespace Takeit

open Takeit.Logic

/-! ## Numerals -/

/-- The characters before the decimal point. -/
def intDigits (s : String) : List Char := s.toList.takeWhile (· ≠ '.')

/-- The decimal point and what follows it. -/
def pointed (s : String) : List Char := s.toList.dropWhile (· ≠ '.')

/-- The characters after the decimal point. -/
def fracDigits (s : String) : List Char := (pointed s).tail

/-- Digits, optionally a point and further digits, no superfluous leading
zeros. -/
structure Numeral (s : String) : Prop where
  int_ne_nil : intDigits s ≠ []
  int_digits : ∀ c ∈ intDigits s, c.isDigit = true
  no_leading_zero : (intDigits s).head? = some '0' → (intDigits s).length = 1
  frac_ne_nil : pointed s ≠ [] → fracDigits s ≠ []
  frac_digits : ∀ c ∈ fracDigits s, c.isDigit = true

instance (s : String) : Decidable (Numeral s) :=
  decidable_of_iff
    (intDigits s ≠ [] ∧ (intDigits s).all Char.isDigit = true ∧
      ((intDigits s).head? = some '0' → (intDigits s).length = 1) ∧
      (pointed s ≠ [] → fracDigits s ≠ []) ∧ (fracDigits s).all Char.isDigit = true)
    ⟨fun ⟨hne, hint, hzero, hpoint, hfrac⟩ =>
        ⟨hne, List.all_eq_true.mp hint, hzero, hpoint, List.all_eq_true.mp hfrac⟩,
      fun h => ⟨h.int_ne_nil, List.all_eq_true.mpr h.int_digits, h.no_leading_zero, h.frac_ne_nil,
        List.all_eq_true.mpr h.frac_digits⟩⟩

/-- The number a numeral writes. -/
def score (s : String) : ℚ := digitsValue (intDigits s) + fraction (fracDigits s)

theorem toList_eq_intDigits_append (s : String) : s.toList = intDigits s ++ pointed s :=
  List.takeWhile_append_dropWhile.symm

theorem pointed_eq (s : String) : pointed s = [] ∨ pointed s = '.' :: fracDigits s := by
  cases hpointed : pointed s with
  | nil => exact .inl rfl
  | cons c rest =>
      have hcons : s.toList.dropWhile (· ≠ '.') = c :: rest := hpointed
      have hhead := List.head_dropWhile_not (· ≠ '.') (hcons ▸ List.cons_ne_nil c rest)
      simp only [hcons, List.head_cons, decide_eq_false_iff_not, not_not] at hhead
      have hc : c = '.' := hhead
      exact .inr (by simp [fracDigits, hpointed, hc])

namespace Numeral

variable {s t : String}

/-- The leading digits decide where there are more of them. -/
theorem score_lt_of_length_lt (hs : Numeral s) (ht : Numeral t)
    (hlen : (intDigits s).length < (intDigits t).length) : score s < score t := by
  have hsmall : digitsValue (intDigits s) < 10 ^ (intDigits s).length :=
    digitsValue_lt hs.int_digits
  have hlarge : 10 ^ (intDigits s).length ≤ digitsValue (intDigits t) := by
    cases hdigits : intDigits t with
    | nil => exact absurd hdigits ht.int_ne_nil
    | cons c cs =>
        have hc : c.isDigit = true := ht.int_digits c (hdigits ▸ List.mem_cons_self)
        rw [hdigits, List.length_cons] at hlen
        have hzero : c ≠ '0' := by
          rintro rfl
          have hone := ht.no_leading_zero (by rw [hdigits]; rfl)
          have hpos := List.length_pos_iff.mpr hs.int_ne_nil
          rw [hdigits, List.length_cons] at hone
          omega
        calc 10 ^ (intDigits s).length ≤ 10 ^ cs.length :=
              Nat.pow_le_pow_right (by decide) (by omega)
          _ ≤ digitsValue (c :: cs) := le_digitsValue_cons hc hzero
  have hint : (digitsValue (intDigits s) : ℚ) + 1 ≤ digitsValue (intDigits t) := by
    exact_mod_cast hsmall.trans_le hlarge
  have hone := fraction_lt_one hs.frac_digits
  have hzero := fraction_nonneg (fracDigits t)
  unfold score
  linarith

/-- Behind equal digits the texts compare as the fractions. -/
theorem fraction_le (hs : Numeral s) (ht : Numeral t) (hlt : pointed s < pointed t) :
    fraction (fracDigits s) ≤ fraction (fracDigits t) := by
  rcases pointed_eq s with hnone | hsome
  · rw [fracDigits, hnone, List.tail_nil, fraction_nil]
    exact fraction_nonneg _
  · rcases pointed_eq t with hnone' | hsome'
    · rw [hnone'] at hlt
      exact absurd hlt (List.not_lt_nil _)
    · rw [hsome, hsome', List.cons_lt_cons_iff] at hlt
      rcases hlt with hlt | ⟨-, hlt⟩
      · exact absurd hlt (lt_irrefl _)
      · exact fraction_le_of_lt hs.frac_digits ht.frac_digits hlt

theorem score_le_of_length_eq (hs : Numeral s) (ht : Numeral t)
    (hlen : (intDigits s).length = (intDigits t).length) (hlt : s.toList < t.toList) :
    score s ≤ score t := by
  rw [toList_eq_intDigits_append s, toList_eq_intDigits_append t, append_lt_append_iff hlen] at hlt
  unfold score
  rcases hlt with hlt | ⟨heq, hlt⟩
  · have hint : (digitsValue (intDigits s) : ℚ) + 1 ≤ digitsValue (intDigits t) := by
      exact_mod_cast (lt_iff_digitsValue_lt hlen hs.int_digits ht.int_digits).mp hlt
    have hone := fraction_lt_one hs.frac_digits
    have hzero := fraction_nonneg (fracDigits t)
    linarith
  · have hfrac := fraction_le hs ht hlt
    rw [heq]
    linarith

/-- A digit is not before the point. -/
theorem not_digit_cons_lt_pointed {c : Char} {cs : List Char} (hc : c.isDigit = true) :
    ¬ c :: cs < pointed s := by
  intro hlt
  rcases pointed_eq s with hnone | hsome
  · rw [hnone] at hlt
    exact List.not_lt_nil _ hlt
  · rw [hsome, List.cons_lt_cons_iff] at hlt
    have hbounds := isDigit_iff.mp hc
    have hpoint : '.'.toNat = 46 := rfl
    rcases hlt with hlt | ⟨rfl, -⟩
    · have hnat : c.toNat < '.'.toNat := hlt
      omega
    · omega

/-- A numeral with more digits before the point is the smaller text precisely if
its first ones write less. -/
theorem toList_lt_iff_of_length_lt (hs : Numeral s) (ht : Numeral t)
    (hlen : (intDigits s).length < (intDigits t).length) :
    t.toList < s.toList ↔
      digitsValue ((intDigits t).take (intDigits s).length) < digitsValue (intDigits s) := by
  have htake : ((intDigits t).take (intDigits s).length).length = (intDigits s).length :=
    List.length_take_of_le hlen.le
  have htext : t.toList = (intDigits t).take (intDigits s).length ++
      ((intDigits t).drop (intDigits s).length ++ pointed t) := by
    rw [← List.append_assoc, List.take_append_drop, ← toList_eq_intDigits_append]
  rw [toList_eq_intDigits_append s, htext, append_lt_append_iff htake,
    lt_iff_digitsValue_lt htake (fun c hc => ht.int_digits c (List.mem_of_mem_take hc))
      hs.int_digits]
  refine or_iff_left fun h => ?_
  cases hdrop : (intDigits t).drop (intDigits s).length with
  | nil => exact absurd (List.drop_eq_nil_iff.mp hdrop) (by omega)
  | cons c cs =>
      have hc : c.isDigit = true :=
        ht.int_digits c (List.mem_of_mem_drop (hdrop ▸ List.mem_cons_self))
      rw [hdrop] at h
      exact not_digit_cons_lt_pointed hc h.2

end Numeral

/-! ## The guard -/

/-- If one score has fewer digits before the point, the number they write is at
most the one that as many first digits of the other score write. -/
def LeadingDigitsLE (s t : String) : Prop :=
  (intDigits s).length < (intDigits t).length →
    digitsValue (intDigits s) ≤ digitsValue ((intDigits t).take (intDigits s).length)

instance : DecidableRel LeadingDigitsLE := fun _ _ => inferInstanceAs (Decidable (_ → _))

/-- Two numerals are in the right order precisely if their leading digits
are. -/
theorem Numeral.inOrder_iff {s t : String} (hs : Numeral s) (ht : Numeral t) :
    (t.toList < s.toList → score t ≤ score s) ↔ LeadingDigitsLE s t := by
  rcases lt_trichotomy (intDigits s).length (intDigits t).length with hlen | hlen | hlen
  · have hscore := hs.score_lt_of_length_lt ht hlen
    rw [hs.toList_lt_iff_of_length_lt ht hlen, LeadingDigitsLE]
    constructor
    · intro h _
      by_contra hlt
      exact absurd (h (Nat.lt_of_not_le hlt)) (not_le.mpr hscore)
    · intro h hlt
      exact absurd (h hlen) (Nat.not_le.mpr hlt)
  · refine iff_of_true (fun hlt => ht.score_le_of_length_eq hs hlen.symm hlt) ?_
    exact fun h => absurd h (by omega)
  · refine iff_of_true (fun _ => (ht.score_lt_of_length_lt hs hlen).le) ?_
    exact fun h => absurd h (by omega)

/-- No two scores have their leading digits in the wrong order. -/
def ScoreGuard (movies : List Movie) : Prop :=
  ∀ a ∈ movies, ∀ b ∈ movies, LeadingDigitsLE a.imdb b.imdb

instance (movies : List Movie) : Decidable (ScoreGuard movies) :=
  inferInstanceAs (Decidable (∀ a ∈ movies, ∀ b ∈ movies, LeadingDigitsLE a.imdb b.imdb))

theorem Numeral.lt_128 {s : String} (hs : Numeral s) : ∀ c ∈ s.toList, c.toNat < 128 := by
  have hdigit : ∀ c : Char, c.isDigit = true → c.toNat < 128 := fun c hc => by
    have hbounds := isDigit_iff.mp hc
    omega
  intro c hc
  rw [toList_eq_intDigits_append, List.mem_append] at hc
  rcases hc with hc | hc
  · exact hdigit c (hs.int_digits c hc)
  · rcases pointed_eq s with hnone | hsome
    · rw [hnone] at hc
      exact absurd hc List.not_mem_nil
    · rw [hsome] at hc
      rcases List.mem_cons.mp hc with rfl | hc
      · decide
      · exact hdigit c (hs.frac_digits c hc)

/-! ## The sorted list -/

/-- `sorthigh` and `sortlow` leave the movies sorted by the numbers. -/
structure SortsByScore (sw : SwiftString) (vc : TopVC) : Prop where
  perm_high : (vc.sorthigh sw).searchedMovie.Perm vc.searchedMovie
  high : (vc.sorthigh sw).searchedMovie.Pairwise fun a b => score b.imdb ≤ score a.imdb
  perm_low : (vc.sortlow sw).searchedMovie.Perm vc.searchedMovie
  low : (vc.sortlow sw).searchedMovie.Pairwise fun a b => score a.imdb ≤ score b.imdb

section Sorted

variable {sw : SwiftString} (hsw : sw.KeepsAscii) {movies : List Movie}
  (hnum : ∀ m ∈ movies, Numeral m.imdb)

include hsw hnum

/-- Movies whose scores are not told apart have the same score. -/
theorem score_eq_of_tie {a b : Movie} (ha : a ∈ movies) (hb : b ∈ movies)
    (hab : ¬ sw.Less a.imdb b.imdb) (hba : ¬ sw.Less b.imdb a.imdb) :
    score a.imdb = score b.imdb := by
  rw [hsw.less_iff (hnum a ha).lt_128 (hnum b hb).lt_128] at hab
  rw [hsw.less_iff (hnum b hb).lt_128 (hnum a ha).lt_128] at hba
  have heq : a.imdb.toList = b.imdb.toList := le_antisymm (not_lt.mp hba) (not_lt.mp hab)
  rw [String.toList_inj.mp heq]

theorem pairwise_high_iff :
    (sortedBy (Movie.Before sw .imdb .descending) movies).Pairwise
      (fun a b => score b.imdb ≤ score a.imdb) ↔ ScoreGuard movies := by
  simp only [← not_lt]
  rw [pairwise_sortedBy_iff_forall (Movie.strictWeak_before sw .imdb .descending)]
  · refine forall₂_congr fun a ha => forall₂_congr fun b hb => ?_
    rw [← (hnum a ha).inOrder_iff (hnum b hb), ← not_lt]
    exact imp_congr_left (hsw.less_iff (hnum b hb).lt_128 (hnum a ha).lt_128)
  · intro a ha b hb hab hba
    exact not_lt.mpr (score_eq_of_tie hsw hnum hb ha hab hba).le

theorem pairwise_low_iff :
    (sortedBy (Movie.Before sw .imdb .ascending) movies).Pairwise
      (fun a b => score a.imdb ≤ score b.imdb) ↔ ScoreGuard movies := by
  simp only [← not_lt]
  rw [pairwise_sortedBy_iff_forall (Movie.strictWeak_before sw .imdb .ascending)]
  · rw [ScoreGuard, forall₂_comm]
    refine forall₂_congr fun a ha => forall₂_congr fun b hb => ?_
    rw [← (hnum a ha).inOrder_iff (hnum b hb), ← not_lt]
    exact imp_congr_left (hsw.less_iff (hnum b hb).lt_128 (hnum a ha).lt_128)
  · intro a ha b hb hab hba
    exact not_lt.mpr (score_eq_of_tie hsw hnum ha hb hab hba).le

end Sorted

/-- A list of numerals is sorted by the numbers precisely if its leading digits
are nowhere in the wrong order. -/
theorem sortsByScore_iff {sw : SwiftString} (hsw : sw.KeepsAscii) (vc : TopVC)
    (hnum : ∀ m ∈ vc.searchedMovie, Numeral m.imdb) :
    SortsByScore sw vc ↔ ScoreGuard vc.searchedMovie := by
  constructor
  · intro h
    exact (pairwise_high_iff hsw hnum).mp h.high
  · intro hguard
    exact {
      perm_high := perm_sortedBy _ _
      high := (pairwise_high_iff hsw hnum).mpr hguard
      perm_low := perm_sortedBy _ _
      low := (pairwise_low_iff hsw hnum).mpr hguard }

/-- Movies with these scores, as they were loaded. -/
def scoredMovies (scores : List String) : TopVC :=
  { searchedMovie := scores.map fun imdb => { imdb := imdb }, moviesAwaited := false }

theorem sortsByScore_oneDigit : SortsByScore .ascii (scoredMovies ["8.25", "7.5", "9"]) :=
  (sortsByScore_iff SwiftString.keepsAscii_ascii _ (by decide +kernel)).mpr (by decide +kernel)

/-- A ten ends below a nine and a half. -/
theorem sortsByScore_ten :
    (∀ m ∈ (scoredMovies ["10.0", "9.5"]).searchedMovie, Numeral m.imdb) ∧
    ((scoredMovies ["10.0", "9.5"]).sorthigh .ascii).searchedMovie.map Movie.imdb =
      ["9.5", "10.0"] ∧
    score "9.5" < score "10.0" ∧ ¬ SortsByScore .ascii (scoredMovies ["10.0", "9.5"]) := by
  have hsorted : ((scoredMovies ["10.0", "9.5"]).sorthigh .ascii).searchedMovie =
      [{ imdb := "9.5" }, { imdb := "10.0" }] := by decide +kernel
  have hscore : score "9.5" < score "10.0" := by decide +kernel
  refine ⟨by decide +kernel, by rw [hsorted]; rfl, hscore, fun h => ?_⟩
  have hhigh := h.high
  rw [hsorted] at hhigh
  exact absurd (List.rel_of_pairwise_cons hhigh List.mem_cons_self) (not_le.mpr hscore)

end Takeit
