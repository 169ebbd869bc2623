import Takeit.Foundation
import Takeit.Logic.Lts

/-!
# Signing in and out

`LogInViewController.swift`, `SignUpViewController.swift` and the two log-out
buttons, in `MemberViewController.swift` and `EditViewController.swift`, over
what they share: the user defaults and the session Firebase keeps. A successful
`signIn` or `createUser` makes that user the current one when it calls back, and
a failing call changes nothing. User defaults and session survive a relaunch,
and so a trap; what is on its way does not.

A user's photo is at URLs the storage and the two providers hand out;
`isPhotoOf url uid` says that a URL is that of a user's photo.
-/

namespace Takeit

open Takeit.Logic

/-- The ways to sign in. -/
inductive LoginMethod
  | email
  | google
  | facebook
deriving DecidableEq, Repr

/-- The flag of a method in the user defaults. -/
def LoginMethod.key : LoginMethod → String
  | .email => "user_email_login"
  | .google => "user_google_login"
  | .facebook => "user_facebook_login"

/-- `Auth.auth().currentUser`, and how they signed in. -/
structure Session where
  uid : String
  method : LoginMethod
deriving DecidableEq, Repr

/-- A user Google signs in. -/
structure GoogleUser where
  uid : String
  photoURL : Option String
deriving DecidableEq, Repr

/-- What Firebase has from a provider of a user. -/
structure UserInfo where
  displayName : Option String
  photoURL : Option String
deriving DecidableEq, Repr

/-- A user Facebook signs in, with `AccessToken.current`. -/
structure FacebookUser where
  uid : String
  providerData : List UserInfo
  token : Option String
deriving DecidableEq, Repr

/-- The user defaults, the session, and by uid what has not called back: the
`signIn` at the end of `signUp`, the uploads of photos, and the calls of
`downloadURL`. -/
structure LoginState where
  defaults : UserDefaults := fun _ => none
  session : Option Session := none
  signIns : List String := []
  uploads : List String := []
  downloadURLs : List String := []

/-- How a handler ends: by returning, or by a trap. -/
inductive Ending
  | returned (st : LoginState)
  | trapped (st : LoginState)

namespace LoginState

/-- A fresh install. -/
def install : LoginState := {}

/-- `UserDefaults.standard.string(forKey:)`. -/
def string (st : LoginState) (key : String) : Option String := st.defaults.string key

/-- `UserDefaults.standard.set(value, forKey: key)` of a string. -/
def set (st : LoginState) (key value : String) : LoginState :=
  { st with defaults := st.defaults.set key (.string value) }

/-- `UserDefaults.standard.removeObject(forKey:)`. -/
def removeObject (st : LoginState) (key : String) : LoginState :=
  { st with defaults := st.defaults.removeObject key }

/-- Firebase has signed a user in. -/
def signedIn (st : LoginState) (uid : String) (method : LoginMethod) : LoginState :=
  { st with session := some ⟨uid, method⟩ }

/-- The app is started again. -/
def relaunch (st : LoginState) : LoginState :=
  { st with signIns := [], uploads := [], downloadURLs := [] }

/-! ## The handlers -/

/-- The completion handler in `logIn(_:)`; `result` is the user, if signed in. -/
def logIn (st : LoginState) : Option String → Ending
  | none => .returned st
  | some uid =>
      let st := st.signedIn uid .email
      .returned ((st.set "user_uid_key" uid).set "user_email_login" "1")

/-- The text `sign(_:didSignInFor:withError:)` makes of a photo's URL. -/
def googlePhoto (photoUrl1 : String) : Option String :=
  (substringTo photoUrl1.toList (photoUrl1.length - 4)).map fun photoUrl2 =>
    String.ofList photoUrl2 ++ "400-c"

/-- The completion handler in `sign(_:didSignInFor:withError:)`. -/
def googleLogIn (st : LoginState) : Option GoogleUser → Ending
  | none => .returned st
  | some user =>
      let st := st.signedIn user.uid .google
      -- `currentUser!.photoURL!`
      match user.photoURL.bind googlePhoto with
      | none => .trapped st
      | some photoUrl3 =>
          .returned ((st.set "user_google_login" "1").set "user_photo" photoUrl3)

/-- The text `facebookLogIn(_:)` makes of a photo's URL; `none` is a trap at one
of the forced values. -/
def facebookPhoto (userInfo : UserInfo) (token : Option String) : Option String := do
  let _ ← userInfo.displayName
  let photoURL ← userInfo.photoURL
  let tokenString ← token
  some (photoURL ++ "?height=400&access_token=" ++ tokenString)

/-- The completion handler in `facebookLogIn(_:)`. -/
def facebookLogIn (st : LoginState) : Option FacebookUser → Ending
  | none => .returned st
  | some user =>
      let st := (st.signedIn user.uid .facebook).set "user_facebook_login" "1"
      match user.providerData with
      | [] => .returned st
      | userInfo :: _ =>
          match facebookPhoto userInfo user.token with
          | none => .trapped st
          | some photoUrl => .returned (st.set "user_photo" photoUrl)

/-- The completion handler of `createUser` in `signUp(_:)`; `userPhotoData` says
whether the chosen image has JPEG data. -/
def signUp (st : LoginState) (userPhotoData : Bool) : Option String → Ending
  | none => .returned st
  | some uid =>
      let st := st.signedIn uid .email
      -- `userPhotoData!`
      if userPhotoData then
        let st := { st with uploads := st.uploads ++ [uid], signIns := st.signIns ++ [uid] }
        .returned ((st.set "user_email_login" "1").set "user_uid_key" uid)
      else .trapped st

/-- The `k`-th `signIn` of `signUp` is answered; it has no completion handler. -/
def signInAnswered (st : LoginState) (k : Nat) (success : Bool) : LoginState :=
  match st.signIns[k]? with
  | none => st
  | some uid =>
      let st := { st with signIns := st.signIns.eraseIdx k }
      if success then st.signedIn uid .email else st

/-- The completion handler of the `k`-th `putData`. -/
def putDataAnswered (st : LoginState) (k : Nat) (success : Bool) : LoginState :=
  match st.uploads[k]? with
  | none => st
  | some uid =>
      let st := { st with uploads := st.uploads.eraseIdx k }
      if success then { st with downloadURLs := st.downloadURLs ++ [uid] } else st

/-- The completion handler of the `k`-th `downloadURL`, of `signUp` or of
`MemberViewController`. -/
def downloadURLAnswered (st : LoginState) (k : Nat) (url : Option String) : LoginState :=
  let st := { st with downloadURLs := st.downloadURLs.eraseIdx k }
  match url with
  | none => st
  | some photoUrl => st.set "user_photo" photoUrl

/-- `MemberViewController.viewDidLoad()`. -/
def memberDidLoad (st : LoginState) : Ending :=
  if st.string "user_google_login" = some "1" ∨ st.string "user_facebook_login" = some "1" then
    -- `object(forKey: "user_photo") as! String`
    match st.defaults "user_photo" with
    | some (.string _) => .returned st
    | _ => .trapped st
  else
    -- `string(forKey: "user_uid_key")!`
    match st.string "user_uid_key" with
    | none => .trapped st
    | some userUID => .returned { st with downloadURLs := st.downloadURLs ++ [userUID] }

/-- `MemberViewController.logOut(_:)`. -/
def memberLogOut (st : LoginState) (throws : Bool) : LoginState :=
  let st := ((st.set "user_email_login" "0").set "user_google_login" "0").set
    "user_facebook_login" "0"
  let st := st.removeObject "user_photo"
  if throws then st else { st with session := none }

/-- `EditViewController.logOut(_:)`, which only shows another page. -/
def editLogOut (st : LoginState) : LoginState := st

end LoginState

/-- What is left when a handler has ended. -/
def Ending.state : Ending → LoginState
  | .returned st => st
  | .trapped st => st.relaunch

/-! ## The app as a transition system -/

/-- What can happen. -/
inductive LoginAction
  | logIn (result : Option String)
  | googleLogIn (result : Option GoogleUser)
  | facebookLogIn (result : Option FacebookUser)
  | signUp (userPhotoData : Bool) (result : Option String)
  | signInAnswered (k : Nat) (success : Bool)
  | putDataAnswered (k : Nat) (success : Bool)
  | downloadURLAnswered (k : Nat) (url : Option String)
  | memberDidLoad
  | memberLogOut (throws : Bool)
  | editLogOut
  | relaunch

namespace LoginState

/-- What calls back: something on its way, and a `downloadURL` with a URL of the
photo it was asked for. -/
def permits (isPhotoOf : String → String → Bool) (st : LoginState) : LoginAction → Bool
  | .signInAnswered k _ => k < st.signIns.length
  | .putDataAnswered k _ => k < st.uploads.length
  | .downloadURLAnswered k url =>
      match st.downloadURLs[k]? with
      | none => false
      | some uid => url.all (isPhotoOf · uid)
  | _ => true

/-- The state after the handler. -/
def exec (st : LoginState) : LoginAction → LoginState
  | .logIn result => (st.logIn result).state
  | .googleLogIn result => (st.googleLogIn result).state
  | .facebookLogIn result => (st.facebookLogIn result).state
  | .signUp userPhotoData result => (st.signUp userPhotoData result).state
  | .signInAnswered k success => st.signInAnswered k success
  | .putDataAnswered k success => st.putDataAnswered k success
  | .downloadURLAnswered k url => st.downloadURLAnswered k url
  | .memberDidLoad => st.memberDidLoad.state
  | .memberLogOut throws => st.memberLogOut throws
  | .editLogOut => st.editLogOut
  | .relaunch => st.relaunch

def next (isPhotoOf : String → String → Bool) (st : LoginState) (a : LoginAction) :
    Option LoginState :=
  if st.permits isPhotoOf a then some (st.exec a) else none

end LoginState

/-- The app, from a fresh install on. -/
def loginApp (isPhotoOf : String → String → Bool) : Lts LoginState LoginAction :=
  .ofNext (· = LoginState.install) (LoginState.next isPhotoOf)

/-- The steps the listed actions take from there. -/
abbrev loginTrace (isPhotoOf : String → String → Bool) (as : List LoginAction) :
    List (Edge LoginState LoginAction) :=
  Lts.trace (LoginState.next isPhotoOf) LoginState.install as

/-- Listed actions that are possible make a run. -/
theorem exists_loginTrace (isPhotoOf : String → String → Bool) (as : List LoginAction)
    {P : LoginState → Prop}
    (h : ∃ t ∈ Lts.runList (LoginState.next isPhotoOf) LoginState.install as, P t) :
    ∃ st, (loginApp isPhotoOf).Run (loginTrace isPhotoOf as) st ∧ P st :=
  Lts.exists_run_trace rfl h

/-! ## The outcomes of a step -/

open LoginState

/-- The photo that is stored when Google has signed the user in. -/
def GoogleUser.photo (user : GoogleUser) : Option String := user.photoURL.bind googlePhoto

/-- The photo that is stored when Facebook has signed the user in. -/
def FacebookUser.photo (user : FacebookUser) : Option String :=
  user.providerData.head?.bind (facebookPhoto · user.token)

/-- The actions that leave session and user defaults alone. -/
def LoginAction.keeps : LoginAction → Bool
  | .logIn none | .googleLogIn none | .facebookLogIn none | .signUp _ none => true
  | .signInAnswered _ false | .putDataAnswered _ _ | .downloadURLAnswered _ none => true
  | .memberDidLoad | .editLogOut | .relaunch => true
  | _ => false

/-- What a step can do to the session and the user defaults. -/
inductive LoginEffect (isPhotoOf : String → String → Bool) (st : LoginState) :
    LoginAction → Option Session → UserDefaults → Prop
  | kept {a} : a.keeps = true → LoginEffect isPhotoOf st a st.session st.defaults
  | emailIn {uid} : LoginEffect isPhotoOf st (.logIn (some uid)) (some ⟨uid, .email⟩)
      ((st.defaults.set "user_uid_key" (.string uid)).set "user_email_login" (.string "1"))
  | googleIn {user photo} : user.photo = some photo →
      LoginEffect isPhotoOf st (.googleLogIn (some user)) (some ⟨user.uid, .google⟩)
        ((st.defaults.set "user_google_login" (.string "1")).set "user_photo" (.string photo))
  | googleTrapped {user} : user.photo = none →
      LoginEffect isPhotoOf st (.googleLogIn (some user)) (some ⟨user.uid, .google⟩) st.defaults
  | facebookIn {user photo} : user.photo = some photo →
      LoginEffect isPhotoOf st (.facebookLogIn (some user)) (some ⟨user.uid, .facebook⟩)
        ((st.defaults.set "user_facebook_login" (.string "1")).set "user_photo" (.string photo))
  | facebookNoPhoto {user} : user.photo = none →
      LoginEffect isPhotoOf st (.facebookLogIn (some user)) (some ⟨user.uid, .facebook⟩)
        (st.defaults.set "user_facebook_login" (.string "1"))
  | signedUp {uid} : LoginEffect isPhotoOf st (.signUp true (some uid)) (some ⟨uid, .email⟩)
      ((st.defaults.set "user_email_login" (.string "1")).set "user_uid_key" (.string uid))
  | signUpTrapped {uid} :
      LoginEffect isPhotoOf st (.signUp false (some uid)) (some ⟨uid, .email⟩) st.defaults
  | signedInAgain {k uid} : st.signIns[k]? = some uid →
      LoginEffect isPhotoOf st (.signInAnswered k true) (some ⟨uid, .email⟩) st.defaults
  | photoFound {k uid url} : st.downloadURLs[k]? = some uid → isPhotoOf url uid = true →
      LoginEffect isPhotoOf st (.downloadURLAnswered k (some url)) st.session
        (st.defaults.set "user_photo" (.string url))
  | loggedOut {throws : Bool} : LoginEffect isPhotoOf st (.memberLogOut throws)
      (if throws then st.session else none)
      ((((st.defaults.set "user_email_login" (.string "0")).set "user_google_login"
        (.string "0")).set "user_facebook_login" (.string "0")).removeObject "user_photo")

variable {isPhotoOf : String → String → Bool} {st t : LoginState} {a : LoginAction}

theorem loginEffect_googleLogIn (user : GoogleUser) :
    LoginEffect isPhotoOf st (.googleLogIn (some user)) (st.googleLogIn (some user)).state.session
      (st.googleLogIn (some user)).state.defaults := by
  cases hphoto : user.photoURL.bind googlePhoto with
  | none =>
      simp only [googleLogIn, hphoto]
      exact .googleTrapped hphoto
  | some photo =>
      simp only [googleLogIn, hphoto]
      exact .googleIn hphoto

theorem loginEffect_facebookLogIn (user : FacebookUser) :
    LoginEffect isPhotoOf st (.facebookLogIn (some user))
      (st.facebookLogIn (some user)).state.session
      (st.facebookLogIn (some user)).state.defaults := by
  cases hdata : user.providerData with
  | nil =>
      simp only [facebookLogIn, hdata]
      exact .facebookNoPhoto (by simp [FacebookUser.photo, hdata])
  | cons userInfo rest =>
      cases hphoto : facebookPhoto userInfo user.token with
      | none =>
          simp only [facebookLogIn, hdata, hphoto]
          exact .facebookNoPhoto (by simp [FacebookUser.photo, hdata, hphoto])
      | some photo =>
          simp only [facebookLogIn, hdata, hphoto]
          exact .facebookIn (by simp [FacebookUser.photo, hdata, hphoto])

theorem session_memberDidLoad : st.memberDidLoad.state.session = st.session := by
  unfold memberDidLoad
  split <;> split <;> rfl

theorem defaults_memberDidLoad : st.memberDidLoad.state.defaults = st.defaults := by
  unfold memberDidLoad
  split <;> split <;> rfl

/-- A step does to session and user defaults one of the things listed. -/
theorem loginEffect_of_step (h : (loginApp isPhotoOf).step st a t) :
    LoginEffect isPhotoOf st a t.session t.defaults := by
  obtain ⟨hperm, hexec⟩ := Option.ite_none_right_eq_some.mp h
  obtain rfl := Option.some.inj hexec
  cases a with
  | logIn result =>
      cases result with
      | none => exact .kept rfl
      | some uid => exact .emailIn
  | googleLogIn result =>
      cases result with
      | none => exact .kept rfl
      | some user => exact loginEffect_googleLogIn user
  | facebookLogIn result =>
      cases result with
      | none => exact .kept rfl
      | some user => exact loginEffect_facebookLogIn user
  | signUp userPhotoData result =>
      cases result with
      | none => exact .kept rfl
      | some uid =>
          cases userPhotoData with
          | false => exact .signUpTrapped
          | true => exact .signedUp
  | signInAnswered k success =>
      have hk : k < st.signIns.length := by simpa [permits] using hperm
      simp only [exec, signInAnswered, List.getElem?_eq_getElem hk]
      cases success with
      | false => exact .kept rfl
      | true => exact .signedInAgain (List.getElem?_eq_getElem hk)
  | putDataAnswered k success =>
      have hk : k < st.uploads.length := by simpa [permits] using hperm
      simp only [exec, putDataAnswered, List.getElem?_eq_getElem hk]
      cases success <;> exact .kept rfl
  | downloadURLAnswered k url =>
      simp only [permits] at hperm
      split at hperm
      · exact absurd hperm (by simp)
      · rename_i uid hk
        cases url with
        | none => exact .kept rfl
        | some url => exact .photoFound hk (by simpa using hperm)
  | memberDidLoad =>
      simp only [exec, session_memberDidLoad, defaults_memberDidLoad]
      exact .kept rfl
  | memberLogOut throws =>
      cases throws with
      | false => exact .loggedOut
      | true => exact .loggedOut
  | editLogOut => exact .kept rfl
  | relaunch => exact .kept rfl

end Takeit
