import Takeit.Login.Flags

/-!
# The stored identity

Two of the ways to sign in store the uid, the other two a photo; neither pair
stores both, and the photo of the first pair comes from callbacks that ask for
whom they were started, not who is signed in by then. `ownIdentity_iff_guard`
says in which runs what is stored is nevertheless the current user's.
-/

namespace Takeit

open Takeit.Logic

/-- What is stored as the uid is the current user's, and so is the photo, if one
is stored. -/
structure OwnIdentity (isPhotoOf : String → String → Bool) (session : Option Session)
    (defaults : UserDefaults) : Prop where
  uid : ∀ s ∈ session, defaults.string "user_uid_key" = some s.uid
  photo : ∀ s ∈ session, ∀ url ∈ defaults.string "user_photo", isPhotoOf url s.uid = true

variable (isPhotoOf : String → String → Bool)

/-- A photo that is stored already is this user's. -/
def LoginState.HasPhotoOf (st : LoginState) (uid : String) : Prop :=
  ∀ url ∈ st.string "user_photo", isPhotoOf url uid = true

/-- A user signs in by a provider; `photo` is what the login stores. The uid,
which it does not store, is right already, and so is the photo or the one there
is. -/
def LoginState.ProviderGuard (st : LoginState) (uid : String) (photo : Option String) : Prop :=
  st.string "user_uid_key" = some uid ∧
    match photo with
    | none => st.HasPhotoOf isPhotoOf uid
    | some url => isPhotoOf url uid = true

/-- A user signs in for whom what the login does not write is right already, with
a photo of theirs if it writes one; and a URL of a photo is found while nobody is
signed in, or somebody whose photo it is. -/
def LoginState.IdentityGuard (st : LoginState) : LoginAction → Prop
  | .logIn (some uid) => st.HasPhotoOf isPhotoOf uid
  | .googleLogIn (some user) => st.ProviderGuard isPhotoOf user.uid user.photo
  | .facebookLogIn (some user) => st.ProviderGuard isPhotoOf user.uid user.photo
  | .signUp userPhotoData (some uid) =>
      (userPhotoData = true ∨ st.string "user_uid_key" = some uid) ∧ st.HasPhotoOf isPhotoOf uid
  | .signInAnswered k true => ∀ uid ∈ st.signIns[k]?, st.ProviderGuard isPhotoOf uid none
  | .downloadURLAnswered _ (some url) => ∀ s ∈ st.session, isPhotoOf url s.uid = true
  | _ => True

instance (st : LoginState) (uid : String) : Decidable (st.HasPhotoOf isPhotoOf uid) :=
  inferInstanceAs (Decidable (∀ url ∈ st.string "user_photo", isPhotoOf url uid = true))

instance (st : LoginState) (uid : String) : ∀ photo, Decidable (st.ProviderGuard isPhotoOf uid photo)
  | none => inferInstanceAs (Decidable (_ ∧ st.HasPhotoOf isPhotoOf uid))
  | some url => inferInstanceAs (Decidable (_ ∧ isPhotoOf url uid = true))

instance (st : LoginState) : ∀ a, Decidable (st.IdentityGuard isPhotoOf a)
  | .logIn (some uid) => inferInstanceAs (Decidable (st.HasPhotoOf isPhotoOf uid))
  | .googleLogIn (some user) =>
      inferInstanceAs (Decidable (st.ProviderGuard isPhotoOf user.uid user.photo))
  | .facebookLogIn (some user) =>
      inferInstanceAs (Decidable (st.ProviderGuard isPhotoOf user.uid user.photo))
  | .signUp _ (some uid) => inferInstanceAs (Decidable (_ ∧ st.HasPhotoOf isPhotoOf uid))
  | .signInAnswered k true =>
      inferInstanceAs (Decidable (∀ uid ∈ st.signIns[k]?, st.ProviderGuard isPhotoOf uid none))
  | .downloadURLAnswered _ (some url) =>
      inferInstanceAs (Decidable (∀ s ∈ st.session, isPhotoOf url s.uid = true))
  | .logIn none | .googleLogIn none | .facebookLogIn none | .signUp _ none
  | .signInAnswered _ false | .putDataAnswered _ _ | .downloadURLAnswered _ none
  | .memberDidLoad | .memberLogOut _ | .editLogOut | .relaunch => inferInstanceAs (Decidable True)

variable {isPhotoOf} {st t : LoginState} {a : LoginAction} {session : Option Session}
  {defaults : UserDefaults}

/-- Of one user the property is about this user's uid and photo. -/
theorem ownIdentity_some {s : Session} : OwnIdentity isPhotoOf (some s) defaults ↔
    defaults.string "user_uid_key" = some s.uid ∧
      ∀ url ∈ defaults.string "user_photo", isPhotoOf url s.uid = true := by
  constructor
  · intro h
    exact ⟨h.uid s rfl, h.photo s rfl⟩
  · rintro ⟨huid, hphoto⟩
    refine ⟨?_, ?_⟩
    · rintro _ ⟨⟩
      exact huid
    · rintro _ ⟨⟩
      exact hphoto

theorem LoginAction.identityGuard_of_keeps (h : a.keeps = true) :
    st.IdentityGuard isPhotoOf a := by
  unfold LoginAction.keeps at h
  split at h <;> trivial

/-- A step keeps the stored identity right precisely if its guard holds. -/
theorem LoginEffect.ownIdentity_iff (h : LoginEffect isPhotoOf st a session defaults)
    (hown : OwnIdentity isPhotoOf st.session st.defaults) :
    OwnIdentity isPhotoOf session defaults ↔ st.IdentityGuard isPhotoOf a := by
  cases h with
  | kept hkeeps => exact iff_of_true hown (LoginAction.identityGuard_of_keeps hkeeps)
  | emailIn =>
      rw [ownIdentity_some]
      simp [LoginState.IdentityGuard, LoginState.HasPhotoOf, LoginState.string]
  | googleIn hphoto =>
      rw [ownIdentity_some]
      simp [LoginState.IdentityGuard, LoginState.ProviderGuard, LoginState.string, hphoto]
  | googleTrapped hphoto =>
      rw [ownIdentity_some]
      simp only [LoginState.IdentityGuard, hphoto]
      exact Iff.rfl
  | facebookIn hphoto =>
      rw [ownIdentity_some]
      simp [LoginState.IdentityGuard, LoginState.ProviderGuard, LoginState.string, hphoto]
  | facebookNoPhoto hphoto =>
      rw [ownIdentity_some]
      simp [LoginState.IdentityGuard, LoginState.ProviderGuard, LoginState.HasPhotoOf,
        LoginState.string, hphoto]
  | signedUp =>
      rw [ownIdentity_some]
      simp [LoginState.IdentityGuard, LoginState.HasPhotoOf, LoginState.string]
  | signUpTrapped =>
      rw [ownIdentity_some]
      simp [LoginState.IdentityGuard, LoginState.HasPhotoOf, LoginState.string]
  | signedInAgain hk =>
      rw [ownIdentity_some]
      simp [LoginState.IdentityGuard, LoginState.ProviderGuard, LoginState.HasPhotoOf,
        LoginState.string, hk]
  | photoFound _ _ =>
      constructor
      · intro hafter s hs
        exact hafter.photo s hs _ (by simp)
      · intro hguard
        refine ⟨fun s hs => ?_, fun s hs url hurl => ?_⟩
        · simpa using hown.uid s hs
        · obtain rfl := by simpa using hurl
          exact hguard s hs
  | @loggedOut throws =>
      refine iff_of_true ⟨fun s hs => ?_, fun s hs url hurl => ?_⟩ (by cases throws <;> trivial)
      · cases throws with
        | false => exact absurd hs (by simp)
        | true => simpa using hown.uid s hs
      · -- the photo has been removed before `signOut` could throw
        exact absurd hurl (by simp)

/-- Throughout a run what is stored is the current user's precisely if every step
of it meets its guard. -/
theorem ownIdentity_iff_guard {es : List (Edge LoginState LoginAction)}
    (h : (loginApp isPhotoOf).Run es st) :
    Lts.Throughout (fun st => OwnIdentity isPhotoOf st.session st.defaults) es st ↔
      ∀ e ∈ es, e.pre.IdentityGuard isPhotoOf e.act :=
  h.always_iff (J := fun st => OwnIdentity isPhotoOf st.session st.defaults)
    (by rintro _ rfl; exact ⟨nofun, nofun⟩)
    (fun _ _ _ hown hst => ((loginEffect_of_step hst).ownIdentity_iff hown).mpr)
    (fun _ hown => hown)
    (fun _ _ _ hown hst => ((loginEffect_of_step hst).ownIdentity_iff hown).mp)

/-- One user signs up, and the photo's URL is found before they sign out; then
another one signs in. -/
def photoInTime : List LoginAction :=
  [.signUp true (some "uid-1"), .signInAnswered 0 true, .putDataAnswered 0 true,
    .downloadURLAnswered 0 (some "https://photos/one"), .memberLogOut false,
    .logIn (some "uid-2"), .memberDidLoad,
    .downloadURLAnswered 0 (some "https://photos/two=s400-c")]

theorem ownIdentity_photoInTime : ∃ st,
    (loginApp photoOfTwo).Run (loginTrace photoOfTwo photoInTime) st ∧
    st.string "user_photo" = some "https://photos/two=s400-c" ∧
    Lts.Throughout (fun st => OwnIdentity photoOfTwo st.session st.defaults)
      (loginTrace photoOfTwo photoInTime) st := by
  obtain ⟨st, hrun, hphoto⟩ := exists_loginTrace photoOfTwo photoInTime
    (P := fun st => st.string "user_photo" = some "https://photos/two=s400-c") (by decide +kernel)
  exact ⟨st, hrun, hphoto, (ownIdentity_iff_guard hrun).mpr (by decide +kernel)⟩

/-- The URL is found after the other user has signed in. -/
def photoLate : List LoginAction :=
  [.signUp true (some "uid-1"), .putDataAnswered 0 true, .memberLogOut false,
    .logIn (some "uid-2"), .downloadURLAnswered 0 (some "https://photos/one")]

/-- A user signs in by Google after another one by e-mail. -/
def googleAfterEmail : List LoginAction :=
  [.logIn (some "uid-1"), .memberLogOut false, .googleLogIn (some googleTwo)]

/-- The first run ends with the photo of another user, the second with the uid of
another. -/
theorem ownIdentity_another :
    (∃ st, (loginApp photoOfTwo).Run (loginTrace photoOfTwo photoLate) st ∧
      st.session = some ⟨"uid-2", .email⟩ ∧
      st.string "user_photo" = some "https://photos/one" ∧
      ¬ OwnIdentity photoOfTwo st.session st.defaults) ∧
    ∃ st, (loginApp photoOfTwo).Run (loginTrace photoOfTwo googleAfterEmail) st ∧
      st.session = some ⟨"uid-2", .google⟩ ∧ st.string "user_uid_key" = some "uid-1" ∧
      ¬ OwnIdentity photoOfTwo st.session st.defaults := by
  constructor
  · obtain ⟨st, hrun, hsession, hphoto⟩ := exists_loginTrace photoOfTwo photoLate
      (P := fun st => st.session = some ⟨"uid-2", .email⟩ ∧
        st.string "user_photo" = some "https://photos/one") (by decide +kernel)
    refine ⟨st, hrun, hsession, hphoto, fun hown => ?_⟩
    exact absurd (hown.photo _ hsession _ hphoto) (by decide)
  · obtain ⟨st, hrun, hsession, huid⟩ := exists_loginTrace photoOfTwo googleAfterEmail
      (P := fun st => st.session = some ⟨"uid-2", .google⟩ ∧
        st.string "user_uid_key" = some "uid-1") (by decide +kernel)
    refine ⟨st, hrun, hsession, huid, fun hown => ?_⟩
    exact absurd (huid.symm.trans (hown.uid _ hsession)) (by decide)

end Takeit
