import Mathlib.Data.List.DropRight
import Takeit.Foundation
import Takeit.Logic.Regex
import Takeit.UIKit

/-!
# The checks of a sign-up (`SignUpViewController.swift`)

`isPasswordValid` tests a password by a regular expression that asks for a small
letter and a symbol; the message shown for a password that fails asks for a
digit, a letter and a symbol. `acceptsAnnounced_iff` says of which passwords the
test and the message nevertheless agree.
-/

namespace Takeit

open Takeit.Logic

/-! ## The pattern -/

/-- `[$@$#!%*?&]`. -/
def isSymbol (c : Char) : Bool := "$@$#!%*?&".toList.contains c

/-- `[A-Za-z\d$@$#!%*?&]`. -/
def isPasswordChar (c : Char) : Bool := c.isUpper || c.isLower || c.isDigit || isSymbol c

/-- What `.` does not match. -/
def lineTerminators : List Char :=
  ['\n', '\x0b', '\x0c', '\r', '\u0085', '\u2028', '\u2029']

/-- `.`. -/
def isAnyChar (c : Char) : Bool := !lineTerminators.contains c

/-- `^(?=.*[a-z])(?=.*[$@$#!%*?&])[A-Za-z\d$@$#!%*?&]{8,}`. -/
def passwordTest : Regex Char :=
  .start ++ .lookahead (.many (.chars isAnyChar) ++ .chars Char.isLower) ++
    .lookahead (.many (.chars isAnyChar) ++ .chars isSymbol) ++ .atLeast (.chars isPasswordChar) 8

/-- `isPasswordValid(_:)`; `MATCHES` is for the whole string. -/
def isPasswordValid (password : String) : Bool := passwordTest.fullMatch password.toList

theorem isAnyChar_of_isPasswordChar {c : Char} (h : isPasswordChar c = true) :
    isAnyChar c = true := by
  have hnone : lineTerminators.all (fun c => isPasswordChar c = false) = true := by decide
  by_cases hmem : c ∈ lineTerminators
  · have hfalse := of_decide_eq_true (List.all_eq_true.mp hnone c hmem)
    rw [hfalse] at h
    exact absurd h (by decide)
  · simpa [isAnyChar] using hmem

/-- A character ahead, in a text of password characters. -/
theorem exists_ahead_iff {p : Char → Bool} {cs : List Char}
    (hcs : ∀ c ∈ cs, isPasswordChar c = true) :
    (∃ ws c rest, cs = ws ++ c :: rest ∧ (∀ d ∈ ws, isAnyChar d = true) ∧ p c = true) ↔
      ∃ c ∈ cs, p c = true := by
  constructor
  · rintro ⟨ws, c, rest, rfl, -, hc⟩
    exact ⟨c, List.mem_append_right _ List.mem_cons_self, hc⟩
  · rintro ⟨c, hmem, hc⟩
    obtain ⟨ws, rest, rfl⟩ := List.append_of_mem hmem
    refine ⟨ws, c, rest, rfl, fun d hd => ?_, hc⟩
    exact isAnyChar_of_isPasswordChar (hcs d (List.mem_append_left _ hd))

/-- The passwords the test accepts. -/
theorem isPasswordValid_iff {p : String} :
    isPasswordValid p = true ↔
      8 ≤ p.toList.length ∧ (∀ c ∈ p.toList, isPasswordChar c = true) ∧
        (∃ c ∈ p.toList, c.isLower = true) ∧ ∃ c ∈ p.toList, isSymbol c = true := by
  simp only [isPasswordValid, Regex.fullMatch_iff, passwordTest, Regex.matches_append,
    Regex.matches_start, Regex.matches_ahead, Regex.matches_atLeast_chars, true_and]
  constructor
  · rintro ⟨_, ⟨_, ⟨_, rfl, rfl, hlower⟩, rfl, hsymbol⟩, ws, hws, hlen, hall⟩
    obtain rfl : p.toList = ws := by simpa using hws
    exact ⟨hlen, hall, (exists_ahead_iff hall).mp hlower, (exists_ahead_iff hall).mp hsymbol⟩
  · rintro ⟨hlen, hall, hlower, hsymbol⟩
    refine ⟨_, ⟨_, ⟨_, rfl, rfl, ?_⟩, rfl, ?_⟩, p.toList, by simp, hlen, hall⟩
    · exact (exists_ahead_iff hall).mpr hlower
    · exact (exists_ahead_iff hall).mpr hsymbol

/-! ## What is announced -/

/-- 密碼至少八個字元，並且包含數字、英文及符號. -/
structure Announced (p : String) : Prop where
  length : 8 ≤ p.toList.length
  chars : ∀ c ∈ p.toList, isPasswordChar c = true
  digit : ∃ c ∈ p.toList, c.isDigit = true
  letter : ∃ c ∈ p.toList, c.isAlpha = true
  symbol : ∃ c ∈ p.toList, isSymbol c = true

/-- Of a long enough password of the right characters with a symbol: if it has a
small letter it has a digit, and if it has a capital letter and a digit it has
a small letter. -/
def PasswordGuard (p : String) : Prop :=
  8 ≤ p.toList.length → (∀ c ∈ p.toList, isPasswordChar c = true) →
    (∃ c ∈ p.toList, isSymbol c = true) →
    ((∃ c ∈ p.toList, c.isLower = true) → ∃ c ∈ p.toList, c.isDigit = true) ∧
    ((∃ c ∈ p.toList, c.isUpper = true) → (∃ c ∈ p.toList, c.isDigit = true) →
      ∃ c ∈ p.toList, c.isLower = true)

/-- A letter is a small or a capital one. -/
theorem exists_isAlpha_iff {cs : List Char} :
    (∃ c ∈ cs, c.isAlpha = true) ↔
      (∃ c ∈ cs, c.isUpper = true) ∨ ∃ c ∈ cs, c.isLower = true := by
  have hletter : ∀ c : Char, c.isAlpha = (c.isUpper || c.isLower) := fun _ => rfl
  simp only [hletter, Bool.or_eq_true, and_or_left, exists_or]

/-- The test accepts what is announced of the passwords that meet the guard. -/
theorem PasswordGuard.accepts {p : String} (hguard : PasswordGuard p) :
    isPasswordValid p = true ↔ Announced p := by
  rw [isPasswordValid_iff]
  constructor
  · rintro ⟨hlen, hall, hlower, hsymbol⟩
    have hdigit := (hguard hlen hall hsymbol).1 hlower
    exact ⟨hlen, hall, hdigit, exists_isAlpha_iff.mpr (.inr hlower), hsymbol⟩
  · rintro ⟨hlen, hall, hdigit, hletter, hsymbol⟩
    refine ⟨hlen, hall, ?_, hsymbol⟩
    rcases exists_isAlpha_iff.mp hletter with hupper | hlower
    · exact (hguard hlen hall hsymbol).2 hupper hdigit
    · exact hlower

/-- And of no other. -/
theorem acceptsAnnounced_iff (p : String) :
    (isPasswordValid p = true ↔ Announced p) ↔ PasswordGuard p := by
  refine ⟨fun hagree hlen hall hsymbol => ?_, PasswordGuard.accepts⟩
  rw [isPasswordValid_iff] at hagree
  refine ⟨fun hlower => ?_, fun hupper hdigit => ?_⟩
  · exact (hagree.mp ⟨hlen, hall, hlower, hsymbol⟩).digit
  · have hletter := exists_isAlpha_iff.mpr (.inl hupper)
    exact (hagree.mpr ⟨hlen, hall, hdigit, hletter, hsymbol⟩).2.2.1

/-- A password without a digit passes; one without a small letter fails. -/
theorem acceptsAnnounced_classes :
    isPasswordValid "takeitup!" = true ∧ ¬ Announced "takeitup!" ∧
    isPasswordValid "TAKEIT21!" = false ∧ Announced "TAKEIT21!" := by
  refine ⟨by decide +kernel, fun h => ?_, by decide +kernel, ?_⟩
  · have hdigit : "takeitup!".toList.any Char.isDigit = true := List.any_eq_true.mpr h.digit
    exact absurd hdigit (by decide +kernel)
  · exact {
      length := by decide +kernel
      chars := List.all_eq_true.mp (by decide +kernel)
      digit := List.any_eq_true.mp (by decide +kernel)
      letter := List.any_eq_true.mp (by decide +kernel)
      symbol := List.any_eq_true.mp (by decide +kernel) }

/-! ## The form -/

/-- The fields of the sign-up page. -/
structure SignUpFields where
  email : String
  password : String
  confirmPassword : String
  userUploadImage : Option Picture

/-- `trimmingCharacters(in: .whitespacesAndNewlines)`, the set being
`isSpace`. -/
def trimmed (isSpace : Char → Bool) (s : String) : String :=
  String.ofList ((s.toList.dropWhile isSpace).rdropWhile isSpace)

/-- `validateFields()`, the error being the message of the alert. -/
def validateFields (sw : SwiftString) (isSpace : Char → Bool) (f : SignUpFields) :
    Except String Unit :=
  let cleanedPassword := trimmed isSpace f.password
  if trimmed isSpace f.email = "" ∨ cleanedPassword = "" ∨
      trimmed isSpace f.confirmPassword = "" then
    .error "請填寫所有欄位"
  else if sw.nfc cleanedPassword ≠ sw.nfc (trimmed isSpace f.confirmPassword) then
    .error "兩個欄位密碼不相同"
  else if isPasswordValid cleanedPassword = false then
    .error "密碼至少八個字元，並且包含數字、英文及符號"
  else if f.userUploadImage = some (.named "persona") then
    .error "請上傳一張照片"
  else .ok ()

/-- Of a form that is filled in, its passwords the same, the alert on the
password is shown precisely if the password is not as announced, provided it
meets the guard. -/
theorem validateFields_password_iff {sw : SwiftString} {isSpace : Char → Bool} {f : SignUpFields}
    (hguard : PasswordGuard (trimmed isSpace f.password)) :
    validateFields sw isSpace f = .error "密碼至少八個字元，並且包含數字、英文及符號" ↔
      (trimmed isSpace f.email ≠ "" ∧ trimmed isSpace f.password ≠ "" ∧
        trimmed isSpace f.confirmPassword ≠ "") ∧
      sw.nfc (trimmed isSpace f.password) = sw.nfc (trimmed isSpace f.confirmPassword) ∧
      ¬ Announced (trimmed isSpace f.password) := by
  rw [← hguard.accepts, Bool.not_eq_true]
  unfold validateFields
  simp only
  split
  · rename_i hblank
    refine iff_of_false (by decide) ?_
    rintro ⟨⟨hemail, hpassword, hconfirm⟩, -⟩
    rcases hblank with h | h | h
    · exact hemail h
    · exact hpassword h
    · exact hconfirm h
  · rename_i hfilled
    simp only [not_or] at hfilled
    split
    · rename_i hdiffer
      exact iff_of_false (by decide) fun h => hdiffer h.2.1
    · rename_i hsame
      split
      · rename_i hinvalid
        exact iff_of_true rfl ⟨hfilled, not_not.mp hsame, hinvalid⟩
      · rename_i hvalid
        refine iff_of_false ?_ fun h => hvalid h.2.2
        split <;> decide

end Takeit
