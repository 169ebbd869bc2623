import Takeit.Login.Session

/-!
# The login flags

Each way to sign in raises its flag and leaves the other two, and the log-out of
the member page lowers all three before it signs out. `flagsDescribe_iff_guard`
says in which runs the flags nevertheless tell who is signed in, and how.
-/

namespace Takeit

open Takeit.Logic

/-- A flag is raised precisely if it is that of the method of the session. -/
def FlagsDescribe (session : Option Session) (defaults : UserDefaults) : Prop :=
  ∀ m : LoginMethod, defaults.string m.key = some "1" ↔ session.map Session.method = some m

/-- How the current user has signed in. -/
def LoginState.method (st : LoginState) : Option LoginMethod := st.session.map Session.method

/-- A user signs in by the method of the session before, or after nobody; by
that method itself, where the flag is not written; and signing out fails only
if nobody is signed in. -/
def LoginState.FlagGuard (st : LoginState) : LoginAction → Prop
  | .logIn (some _) => st.method = none ∨ st.method = some .email
  | .googleLogIn (some user) => (st.method = none ∧ user.photo ≠ none) ∨ st.method = some .google
  | .facebookLogIn (some _) => st.method = none ∨ st.method = some .facebook
  | .signUp userPhotoData (some _) =>
      (st.method = none ∧ userPhotoData = true) ∨ st.method = some .email
  | .signInAnswered _ true => st.method = some .email
  | .memberLogOut true => st.method = none
  | _ => True

instance (st : LoginState) : ∀ a, Decidable (st.FlagGuard a)
  | .logIn (some _) | .googleLogIn (some _) | .facebookLogIn (some _) | .signUp _ (some _) =>
      inferInstanceAs (Decidable (_ ∨ _))
  | .signInAnswered _ true | .memberLogOut true => inferInstanceAs (Decidable (_ = _))
  | .logIn none | .googleLogIn none | .facebookLogIn none | .signUp _ none
  | .signInAnswered _ false | .putDataAnswered _ _ | .downloadURLAnswered _ _ | .memberDidLoad
  | .memberLogOut false | .editLogOut | .relaunch => inferInstanceAs (Decidable True)

theorem LoginMethod.key_ne_photo (m : LoginMethod) : m.key ≠ "user_photo" := by
  cases m <;> decide

variable {isPhotoOf : String → String → Bool} {st t : LoginState} {a : LoginAction}
  {session : Option Session} {defaults : UserDefaults}

/-- Signing in by `m`, its flag written. -/
theorem flagsDescribe_raised {m : LoginMethod} {s : Session} (hs : s.method = m)
    (hflags : FlagsDescribe st.session st.defaults)
    (hraised : ∀ m', defaults.string m'.key = if m' = m then some "1" else st.string m'.key) :
    FlagsDescribe (some s) defaults ↔ st.method = none ∨ st.method = some m := by
  constructor
  · intro hafter
    cases hbefore : st.method with
    | none => exact .inl rfl
    | some m' =>
        -- the flag of the session before is still raised
        have hflag := (hflags m').mpr hbefore
        have hstill : defaults.string m'.key = some "1" := by
          rw [hraised]
          split
          · rfl
          · exact hflag
        have hsame := (hafter m').mp hstill
        rw [Option.map_some, hs] at hsame
        exact .inr hsame.symm
  · intro hbefore m'
    rw [hraised, Option.map_some, hs, Option.some.injEq]
    by_cases hm : m' = m
    · simp [hm]
    · rw [if_neg hm]
      refine iff_of_false (fun hflag => ?_) (Ne.symm hm)
      have hmethod : st.method = some m' := (hflags m').mp hflag
      rcases hbefore with hnone | hsome
      · exact absurd (hnone.symm.trans hmethod) (by simp)
      · exact hm (Option.some.inj (hmethod.symm.trans hsome))

/-- Signing in by `m`, no flag written. -/
theorem flagsDescribe_kept {m : LoginMethod} {s : Session} (hs : s.method = m)
    (hflags : FlagsDescribe st.session st.defaults) :
    FlagsDescribe (some s) st.defaults ↔ st.method = some m := by
  constructor
  · intro hafter
    have hflag := (hafter m).mpr (by rw [Option.map_some, hs])
    exact (hflags m).mp hflag
  · intro hmethod m'
    rw [hflags m', Option.map_some, hs]
    exact Eq.congr_left hmethod

/-- All flags lowered. -/
theorem flagsDescribe_lowered (hlowered : ∀ m : LoginMethod, defaults.string m.key = some "0") :
    FlagsDescribe session defaults ↔ session = none := by
  constructor
  · intro hafter
    cases hsession : session with
    | none => rfl
    | some s =>
        have hflag := (hafter s.method).mpr (by rw [hsession]; rfl)
        rw [hlowered] at hflag
        exact absurd hflag (by decide)
  · rintro rfl m
    rw [hlowered]
    exact iff_of_false (by decide) (by simp)

theorem LoginAction.flagGuard_of_keeps (h : a.keeps = true) : st.FlagGuard a := by
  unfold LoginAction.keeps at h
  split at h <;> trivial

/-- A step keeps the flags right precisely if its guard holds. -/
theorem LoginEffect.flagsDescribe_iff (h : LoginEffect isPhotoOf st a session defaults)
    (hflags : FlagsDescribe st.session st.defaults) :
    FlagsDescribe session defaults ↔ st.FlagGuard a := by
  cases h with
  | kept hkeeps => exact iff_of_true hflags (LoginAction.flagGuard_of_keeps hkeeps)
  | emailIn =>
      refine flagsDescribe_raised rfl hflags fun m' => ?_
      cases m' <;> simp [LoginMethod.key, LoginState.string]
  | googleIn hphoto =>
      refine (flagsDescribe_raised (m := .google) rfl hflags fun m' => ?_).trans ?_
      · cases m' <;> simp [LoginMethod.key, LoginState.string]
      · simp [LoginState.FlagGuard, hphoto]
  | googleTrapped hphoto =>
      refine (flagsDescribe_kept rfl hflags).trans ?_
      simp [LoginState.FlagGuard, hphoto]
  | facebookIn _ =>
      refine flagsDescribe_raised rfl hflags fun m' => ?_
      cases m' <;> simp [LoginMethod.key, LoginState.string]
  | facebookNoPhoto _ =>
      refine flagsDescribe_raised rfl hflags fun m' => ?_
      cases m' <;> simp [LoginMethod.key, LoginState.string]
  | signedUp =>
      refine (flagsDescribe_raised (m := .email) rfl hflags fun m' => ?_).trans ?_
      · cases m' <;> simp [LoginMethod.key, LoginState.string]
      · simp [LoginState.FlagGuard]
  | signUpTrapped =>
      refine (flagsDescribe_kept rfl hflags).trans ?_
      simp [LoginState.FlagGuard]
  | signedInAgain _ => exact flagsDescribe_kept rfl hflags
  | photoFound _ _ =>
      refine iff_of_true (fun m => ?_) trivial
      rw [UserDefaults.string_set_ne _ _ m.key_ne_photo]
      exact hflags m
  | @loggedOut throws =>
      refine (flagsDescribe_lowered fun m => ?_).trans ?_
      · cases m <;> simp [LoginMethod.key]
      · cases throws <;> simp [LoginState.FlagGuard, LoginState.method]

/-- Throughout a run the flags describe the session precisely if every step of
it meets its guard. -/
theorem flagsDescribe_iff_guard {es : List (Edge LoginState LoginAction)}
    (h : (loginApp isPhotoOf).Run es st) :
    Lts.Throughout (fun st => FlagsDescribe st.session st.defaults) es st ↔
      ∀ e ∈ es, e.pre.FlagGuard e.act :=
  h.always_iff (J := fun st => FlagsDescribe st.session st.defaults)
    (by rintro _ rfl m; simp [LoginState.install, UserDefaults.string])
    (fun _ _ _ hflags hst => ((loginEffect_of_step hst).flagsDescribe_iff hflags).mpr)
    (fun _ hflags => hflags)
    (fun _ _ _ hflags hst => ((loginEffect_of_step hst).flagsDescribe_iff hflags).mp)

/-- What the storage and the providers say of two users. -/
def photoOfTwo (url uid : String) : Bool :=
  (url, uid) ∈ [("https://photos/one", "uid-1"), ("https://photos/two=s400-c", "uid-2")]

/-- The second of them, as Google knows them. -/
def googleTwo : GoogleUser := ⟨"uid-2", some "https://photos/two=s96-c"⟩

/-- Two accounts, the first signed out on the member page. -/
def memberBetween : List LoginAction :=
  [.logIn (some "uid-1"), .memberDidLoad, .memberLogOut false, .googleLogIn (some googleTwo),
    .relaunch]

theorem flagsDescribe_memberBetween : ∃ st,
    (loginApp photoOfTwo).Run (loginTrace photoOfTwo memberBetween) st ∧
    Lts.Throughout (fun st => FlagsDescribe st.session st.defaults)
      (loginTrace photoOfTwo memberBetween) st := by
  obtain ⟨st, hrun, -⟩ := exists_loginTrace photoOfTwo memberBetween (P := fun _ => True)
    (by decide +kernel)
  exact ⟨st, hrun, (flagsDescribe_iff_guard hrun).mpr (by decide +kernel)⟩

/-- The same with the log-out of the edit page. -/
def editBetween : List LoginAction :=
  [.logIn (some "uid-1"), .editLogOut, .googleLogIn (some googleTwo)]

/-- The first login's flag is still raised in the second one's session. -/
theorem flagsDescribe_editBetween : ∃ st,
    (loginApp photoOfTwo).Run (loginTrace photoOfTwo editBetween) st ∧
    st.session = some ⟨"uid-2", .google⟩ ∧ st.string "user_email_login" = some "1" ∧
    st.string "user_google_login" = some "1" ∧ ¬ FlagsDescribe st.session st.defaults := by
  obtain ⟨st, hrun, hsession, hemail, hgoogle⟩ := exists_loginTrace photoOfTwo editBetween
    (P := fun st => st.session = some ⟨"uid-2", .google⟩ ∧
      st.string "user_email_login" = some "1" ∧ st.string "user_google_login" = some "1")
    (by decide +kernel)
  refine ⟨st, hrun, hsession, hemail, hgoogle, fun hflags => ?_⟩
  have hmethod := (hflags .email).mp hemail
  rw [hsession] at hmethod
  exact absurd hmethod (by decide)

end Takeit
