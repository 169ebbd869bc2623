import Takeit.Login.Flags

/-!
# The way to the member page

`HomeViewController.checkStatus(_:)` goes by the flags, and the page behind it by
what the logins store beside them. `memberOpens_iff_guard` says in which runs the
page can be opened whenever the flags lead to it.
-/

namespace Takeit

open Takeit.Logic

/-- Where `HomeViewController` goes. -/
inductive HomeSegue
  | member
  | needToLogIn
deriving DecidableEq, Repr

/-- `HomeViewController.checkStatus(_:)`. -/
def LoginState.checkStatus (st : LoginState) : HomeSegue :=
  if st.string "user_google_login" = some "1" ∨ st.string "user_facebook_login" = some "1" ∨
      st.string "user_email_login" = some "1" then .member
  else .needToLogIn

/-- The handler has not trapped. -/
def Ending.Returns : Ending → Prop
  | .returned _ => True
  | .trapped _ => False

instance : ∀ e : Ending, Decidable e.Returns
  | .returned _ => inferInstanceAs (Decidable True)
  | .trapped _ => inferInstanceAs (Decidable False)

/-- If the home page leads to the member page, that page comes up. -/
def LoginState.MemberOpens (st : LoginState) : Prop :=
  st.checkStatus = .member → st.memberDidLoad.Returns

instance (st : LoginState) : Decidable st.MemberOpens := inferInstanceAs (Decidable (_ → _))

/-- A photo is stored. -/
def PhotoStored (defaults : UserDefaults) : Prop :=
  ∃ photo ∈ defaults "user_photo", ∃ url, photo = .string url

instance (defaults : UserDefaults) : Decidable (PhotoStored defaults) :=
  match h : defaults "user_photo" with
  | some (.string url) => isTrue ⟨.string url, h, url, rfl⟩
  | some (.int n) => isFalse fun ⟨_, hphoto, _, heq⟩ => by simp [h, heq] at hphoto
  | none => isFalse fun ⟨_, hphoto, _⟩ => by simp [h] at hphoto

/-- Facebook signs in a user without a photo only while there is one already. -/
def LoginState.MemberGuard (st : LoginState) : LoginAction → Prop
  | .facebookLogIn (some user) => user.photo = none → PhotoStored st.defaults
  | _ => True

instance (st : LoginState) : ∀ a, Decidable (st.MemberGuard a)
  | .facebookLogIn (some user) =>
      inferInstanceAs (Decidable (user.photo = none → PhotoStored st.defaults))
  | .facebookLogIn none | .logIn _ | .googleLogIn _ | .signUp _ _ | .signInAnswered _ _
  | .putDataAnswered _ _ | .downloadURLAnswered _ _ | .memberDidLoad | .memberLogOut _
  | .editLogOut | .relaunch => inferInstanceAs (Decidable True)

/-- What goes with a raised flag: a photo with those of the providers, and a uid
with the one of the e-mail logins. -/
structure FlagsBacked (defaults : UserDefaults) : Prop where
  google : defaults.string "user_google_login" = some "1" → PhotoStored defaults
  facebook : defaults.string "user_facebook_login" = some "1" → PhotoStored defaults
  email : defaults.string "user_email_login" = some "1" →
    defaults.string "user_uid_key" ≠ none

variable {isPhotoOf : String → String → Bool} {st t : LoginState} {a : LoginAction}
  {session : Option Session} {defaults : UserDefaults}

theorem returns_memberDidLoad_iff : st.memberDidLoad.Returns ↔
    if st.string "user_google_login" = some "1" ∨ st.string "user_facebook_login" = some "1" then
      PhotoStored st.defaults
    else st.string "user_uid_key" ≠ none := by
  unfold LoginState.memberDidLoad
  split
  · split
    · rename_i url hphoto
      exact iff_of_true trivial ⟨.string url, hphoto, url, rfl⟩
    · rename_i hother
      refine iff_of_false id fun hstored => ?_
      obtain ⟨_, hphoto, url, rfl⟩ := hstored
      exact hother url hphoto
  · split
    · rename_i hnone
      exact iff_of_false id fun hsome => hsome hnone
    · rename_i uid huid
      exact iff_of_true trivial (by simp [huid])

/-- The page comes up if its flag is backed. -/
theorem FlagsBacked.memberOpens (h : FlagsBacked st.defaults) : st.MemberOpens := by
  intro hstatus
  rw [returns_memberDidLoad_iff]
  split
  · rename_i hflag
    rcases hflag with hgoogle | hfacebook
    · exact h.google hgoogle
    · exact h.facebook hfacebook
  · rename_i hflag
    refine h.email ?_
    by_contra hemail
    have hnone : st.checkStatus = .needToLogIn := by
      unfold LoginState.checkStatus
      rw [if_neg]
      tauto
    rw [hnone] at hstatus
    exact absurd hstatus (by decide)

/-! ## One step -/

theorem photoStored_set {url : String} : PhotoStored (defaults.set "user_photo" (.string url)) :=
  ⟨.string url, by simp [UserDefaults.set], url, rfl⟩

theorem photoStored_set_ne {key : String} {v : DefaultsValue} (h : key ≠ "user_photo") :
    PhotoStored (defaults.set key v) ↔ PhotoStored defaults := by
  unfold PhotoStored
  rw [UserDefaults.set, Function.update_of_ne h.symm]

/-- A step keeps the flags backed if its guard holds. -/
theorem LoginEffect.flagsBacked (h : LoginEffect isPhotoOf st a session defaults)
    (hflags : FlagsBacked st.defaults) (hguard : st.MemberGuard a) : FlagsBacked defaults := by
  cases h with
  | kept _ => exact hflags
  | emailIn => exact {
      google := by
        simpa [photoStored_set_ne] using hflags.google
      facebook := by
        simpa [photoStored_set_ne] using hflags.facebook
      email := by simp }
  | googleIn _ => exact {
      google := fun _ => photoStored_set
      facebook := fun _ => photoStored_set
      email := by simpa using hflags.email }
  | googleTrapped _ => exact hflags
  | facebookIn _ => exact {
      google := fun _ => photoStored_set
      facebook := fun _ => photoStored_set
      email := by simpa using hflags.email }
  | facebookNoPhoto hnone =>
      -- the flag is raised, and the photo is the one there was
      have hstored := hguard hnone
      exact {
        google := fun _ => (photoStored_set_ne (by decide)).mpr hstored
        facebook := fun _ => (photoStored_set_ne (by decide)).mpr hstored
        email := by simpa using hflags.email }
  | signedUp => exact {
      google := by
        simpa [photoStored_set_ne] using hflags.google
      facebook := by
        simpa [photoStored_set_ne] using hflags.facebook
      email := by simp }
  | signUpTrapped => exact hflags
  | signedInAgain _ => exact hflags
  | photoFound _ _ => exact {
      google := fun _ => photoStored_set
      facebook := fun _ => photoStored_set
      email := by simpa using hflags.email }
  | loggedOut => exact {
      google := by simp
      facebook := by simp
      email := by simp }

/-- Without it the page does not come up. -/
theorem LoginEffect.memberGuard (h : LoginEffect isPhotoOf st a t.session t.defaults)
    (hopens : t.MemberOpens) : st.MemberGuard a := by
  generalize hsession : t.session = session at h
  generalize hdefaults : t.defaults = defaults at h
  cases h with
  | @facebookNoPhoto user _ =>
      intro hnone
      have hflag : t.string "user_facebook_login" = some "1" := by
        rw [LoginState.string, hdefaults, UserDefaults.string_set_self]
      have hstatus : t.checkStatus = .member := by
        rw [LoginState.checkStatus, if_pos (.inr (.inl hflag))]
      have hreturns := returns_memberDidLoad_iff.mp (hopens hstatus)
      rw [if_pos (.inr hflag), hdefaults, photoStored_set_ne (by decide)] at hreturns
      exact hreturns
  | @facebookIn user photo hphoto => exact fun hnone => absurd (hphoto.symm.trans hnone) (by simp)
  | kept hkeeps =>
      unfold LoginAction.keeps at hkeeps
      split at hkeeps <;> trivial
  | _ => trivial

/-- Throughout a run the member page comes up whenever the home page leads to it,
precisely if Facebook signs in no user without a photo while none is stored. -/
theorem memberOpens_iff_guard {es : List (Edge LoginState LoginAction)}
    (h : (loginApp isPhotoOf).Run es st) :
    Lts.Throughout LoginState.MemberOpens es st ↔ ∀ e ∈ es, e.pre.MemberGuard e.act :=
  h.always_iff (J := fun st => FlagsBacked st.defaults)
    (by
      intro st hst
      obtain rfl : st = LoginState.install := hst
      exact ⟨nofun, nofun, nofun⟩)
    (fun _ _ _ hflags hst => (loginEffect_of_step hst).flagsBacked hflags)
    (fun _ hflags => hflags.memberOpens)
    (fun _ _ _ _ hst => (loginEffect_of_step hst).memberGuard)

/-- Somebody Facebook has no photo of. -/
def facebookThree : FacebookUser := ⟨"uid-3", [⟨some "Three", none⟩], some "token"⟩

/-- They sign in after Google has stored a photo. -/
def photoBefore : List LoginAction :=
  [.googleLogIn (some googleTwo), .editLogOut, .facebookLogIn (some facebookThree), .memberDidLoad]

theorem memberOpens_photoBefore : ∃ st,
    (loginApp photoOfTwo).Run (loginTrace photoOfTwo photoBefore) st ∧
    Lts.Throughout LoginState.MemberOpens (loginTrace photoOfTwo photoBefore) st := by
  obtain ⟨st, hrun, -⟩ := exists_loginTrace photoOfTwo photoBefore (P := fun _ => True)
    (by decide +kernel)
  exact ⟨st, hrun, (memberOpens_iff_guard hrun).mpr (by decide +kernel)⟩

end Takeit
