import Mathlib.Data.List.Infix
import Mathlib.Logic.Relation

/-!
# Regular expressions with lookahead

A pattern is matched between two places of a text; a place is given by what is
left of the text there. `Matches` says what a pattern can match, `ends` computes
the places at which its matches end, and `mem_ends_iff` connects the two.

Nothing here mentions a particular pattern or alphabet.
-/

namespace Takeit.Logic

/-- Patterns: nothing, the start of the text, one character of a class, one
pattern after another, any number of repetitions, and lookahead. -/
inductive Regex (α : Type*)
  | empty
  | start
  | chars (p : α → Bool)
  | seq (r s : Regex α)
  | many (r : Regex α)
  | lookahead (r : Regex α)

namespace Regex

variable {α : Type*}

instance : Append (Regex α) := ⟨seq⟩

/-- `r{n,}`. -/
def atLeast (r : Regex α) : Nat → Regex α
  | 0 => many r
  | n + 1 => r ++ atLeast r n

/-! ## What a pattern matches -/

/-- In `text`, the pattern matches what lies between the place where `xs` is
left and the one where `ys` is left. -/
def Matches (text : List α) : Regex α → List α → List α → Prop
  | empty, xs, ys => ys = xs
  | start, xs, ys => xs = text ∧ ys = xs
  | chars p, xs, ys => ∃ c, p c = true ∧ xs = c :: ys
  | seq r s, xs, zs => ∃ ys, Matches text r xs ys ∧ Matches text s ys zs
  | many r, xs, ys => Relation.ReflTransGen (Matches text r) xs ys
  | lookahead r, xs, ys => ys = xs ∧ ∃ zs, Matches text r xs zs

variable {text xs ys zs : List α} {r s : Regex α} {p : α → Bool}

theorem matches_start : Matches text start xs ys ↔ xs = text ∧ ys = xs := Iff.rfl

theorem matches_append :
    Matches text (r ++ s) xs zs ↔ ∃ ys, Matches text r xs ys ∧ Matches text s ys zs := Iff.rfl

theorem matches_chars : Matches text (chars p) xs ys ↔ ∃ c, p c = true ∧ xs = c :: ys := Iff.rfl

theorem matches_lookahead :
    Matches text (lookahead r) xs ys ↔ ys = xs ∧ ∃ zs, Matches text r xs zs := Iff.rfl

/-- A match moves on through the text. -/
theorem Matches.suffix : ∀ {r : Regex α} {xs ys : List α}, Matches text r xs ys → ys <:+ xs := by
  intro r
  induction r with
  | empty =>
      rintro xs ys rfl
      exact List.suffix_refl _
  | start =>
      rintro xs ys ⟨-, rfl⟩
      exact List.suffix_refl _
  | chars p =>
      rintro xs ys ⟨c, -, rfl⟩
      exact List.suffix_cons c ys
  | seq r s ihr ihs =>
      rintro xs zs ⟨ys, hr, hs⟩
      exact (ihs hs).trans (ihr hr)
  | many r ih =>
      intro xs ys h
      induction h with
      | refl => exact List.suffix_refl _
      | tail _ hlast hbefore => exact (ih hlast).trans hbefore
  | lookahead r _ =>
      rintro xs ys ⟨rfl, -⟩
      exact List.suffix_refl _

/-- Characters of a class, any number of them. -/
theorem matches_many_chars :
    Matches text (many (chars p)) xs ys ↔ ∃ ws, xs = ws ++ ys ∧ ∀ c ∈ ws, p c = true := by
  constructor
  · intro h
    induction h using Relation.ReflTransGen.head_induction_on with
    | refl => exact ⟨[], rfl, fun c hc => absurd hc List.not_mem_nil⟩
    | head hfirst _ ih =>
        obtain ⟨c, hc, rfl⟩ := hfirst
        obtain ⟨ws, rfl, hws⟩ := ih
        exact ⟨c :: ws, rfl, List.forall_mem_cons.mpr ⟨hc, hws⟩⟩
  · rintro ⟨ws, rfl, hws⟩
    induction ws with
    | nil => exact Relation.ReflTransGen.refl
    | cons c ws ih =>
        obtain ⟨hc, hws⟩ := List.forall_mem_cons.mp hws
        exact Relation.ReflTransGen.head ⟨c, hc, rfl⟩ (ih hws)

/-- The same, at least `n` of them. -/
theorem matches_atLeast_chars : ∀ {n : Nat} {xs : List α},
    Matches text (atLeast (chars p) n) xs ys ↔
      ∃ ws, xs = ws ++ ys ∧ n ≤ ws.length ∧ ∀ c ∈ ws, p c = true := by
  intro n
  induction n with
  | zero =>
      intro xs
      rw [atLeast, matches_many_chars]
      simp only [Nat.zero_le, true_and]
  | succ n ih =>
      intro xs
      rw [atLeast, matches_append]
      constructor
      · rintro ⟨ys', ⟨c, hc, rfl⟩, hrest⟩
        obtain ⟨ws, rfl, hlen, hws⟩ := ih.mp hrest
        exact ⟨c :: ws, rfl, Nat.succ_le_succ hlen, List.forall_mem_cons.mpr ⟨hc, hws⟩⟩
      · rintro ⟨ws, rfl, hlen, hws⟩
        cases ws with
        | nil => exact absurd hlen (by simp)
        | cons c ws =>
            obtain ⟨hc, hws⟩ := List.forall_mem_cons.mp hws
            exact ⟨ws ++ ys, ⟨c, hc, rfl⟩, ih.mpr ⟨ws, rfl, Nat.le_of_succ_le_succ hlen, hws⟩⟩

/-- A character of the class `p` ahead, after characters of the class `q`. -/
theorem matches_ahead {q : α → Bool} :
    Matches text (lookahead (many (chars q) ++ chars p)) xs ys ↔
      ys = xs ∧ ∃ ws c rest, xs = ws ++ c :: rest ∧ (∀ d ∈ ws, q d = true) ∧ p c = true := by
  rw [matches_lookahead]
  refine and_congr_right fun _ => ?_
  constructor
  · rintro ⟨rest, ys', hbefore, c, hc, rfl⟩
    obtain ⟨ws, rfl, hws⟩ := matches_many_chars.mp hbefore
    exact ⟨ws, c, rest, rfl, hws, hc⟩
  · rintro ⟨ws, c, rest, rfl, hws, hc⟩
    exact ⟨rest, c :: rest, matches_many_chars.mpr ⟨ws, rfl, hws⟩, c, hc, rfl⟩

/-! ## Matching -/

/-- The places reached by at most `n` steps that move on. -/
def reach (step : List α → List (List α)) : Nat → List α → List (List α)
  | 0, xs => [xs]
  | n + 1, xs => xs :: ((step xs).filter fun ys => ys.length < xs.length).flatMap (reach step n)

variable [DecidableEq α]

/-- Where the matches of the pattern from `xs` on end. -/
def ends (text : List α) : Regex α → List α → List (List α)
  | empty, xs => [xs]
  | start, xs => if xs = text then [xs] else []
  | chars _, [] => []
  | chars p, c :: xs => if p c then [xs] else []
  | seq r s, xs => (ends text r xs).flatMap (ends text s)
  | many r, xs => reach (ends text r) xs.length xs
  | lookahead r, xs => if ends text r xs = [] then [] else [xs]

/-- The pattern matches the whole text. -/
def fullMatch (r : Regex α) (text : List α) : Bool := (r.ends text text).contains []

omit [DecidableEq α] in
/-- As many steps as there are characters left reach everything: a step that
does not move on leads nowhere new. -/
theorem mem_reach_iff {step : List α → List (List α)} {R : List α → List α → Prop}
    (hstep : ∀ xs ys, ys ∈ step xs ↔ R xs ys) (hsuffix : ∀ xs ys, R xs ys → ys <:+ xs) :
    ∀ {n : Nat} {xs : List α}, xs.length ≤ n →
      (ys ∈ reach step n xs ↔ Relation.ReflTransGen R xs ys) := by
  intro n xs hn
  constructor
  · clear hn
    induction n generalizing xs with
    | zero =>
        intro h
        rw [reach, List.mem_singleton] at h
        exact h ▸ Relation.ReflTransGen.refl
    | succ n ih =>
        intro h
        rw [reach, List.mem_cons, List.mem_flatMap] at h
        rcases h with rfl | ⟨zs, hzs, h⟩
        · exact Relation.ReflTransGen.refl
        · exact Relation.ReflTransGen.head ((hstep _ _).mp (List.mem_filter.mp hzs).1) (ih h)
  · intro h
    induction h using Relation.ReflTransGen.head_induction_on generalizing n with
    | refl => cases n <;> exact List.mem_cons_self
    | @head xs zs hfirst _ ih =>
        have hzs := hsuffix _ _ hfirst
        by_cases hlt : zs.length < xs.length
        · obtain ⟨n, rfl⟩ := Nat.exists_eq_add_of_lt (Nat.lt_of_lt_of_le hlt hn)
          rw [reach, List.mem_cons, List.mem_flatMap]
          refine .inr ⟨zs, List.mem_filter.mpr ⟨(hstep _ _).mpr hfirst, by simpa using hlt⟩, ?_⟩
          exact ih (by omega)
        · obtain rfl := hzs.eq_of_length (Nat.le_antisymm hzs.length_le (Nat.not_lt.mp hlt))
          exact ih hn

theorem mem_ends_iff : ∀ {r : Regex α} {xs ys : List α},
    ys ∈ r.ends text xs ↔ Matches text r xs ys := by
  intro r
  induction r with
  | empty => intro xs ys; exact List.mem_singleton
  | start =>
      intro xs ys
      rw [ends, matches_start]
      split
      · rename_i hstart
        simp [hstart]
      · rename_i hlater
        simp [hlater]
  | chars p =>
      intro xs ys
      rw [matches_chars]
      cases xs with
      | nil => simp [ends]
      | cons c xs =>
          rw [ends]
          split
          · rename_i hc
            rw [List.mem_singleton]
            constructor
            · rintro rfl
              exact ⟨c, hc, rfl⟩
            · rintro ⟨d, -, heq⟩
              exact (List.cons.inj heq).2.symm
          · rename_i hc
            refine iff_of_false List.not_mem_nil ?_
            rintro ⟨d, hd, heq⟩
            exact hc ((List.cons.inj heq).1 ▸ hd)
  | seq r s ihr ihs =>
      intro xs zs
      simp only [ends, List.mem_flatMap, ihr, ihs]
      rfl
  | many r ih =>
      intro xs ys
      exact mem_reach_iff (fun _ _ => ih) (fun _ _ => Matches.suffix) (Nat.le_refl _)
  | lookahead r ih =>
      intro xs ys
      rw [matches_lookahead, ends]
      simp only [← ih]
      split
      · rename_i hnone
        simp [hnone]
      · rename_i hsome
        simp [List.exists_mem_of_ne_nil _ hsome]

theorem fullMatch_iff : r.fullMatch text = true ↔ Matches text r text [] := by
  rw [fullMatch, List.contains_iff_mem, mem_ends_iff]

end Regex

end Takeit.Logic
